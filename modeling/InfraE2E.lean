import InfraE2E.Text
import InfraE2E.Regex
import InfraE2E.Compose.Daemon
import InfraE2E.Compose.Ports
import InfraE2E.Compose.Container
import InfraE2E.Compose.Network
import InfraE2E.Compose.Setup
import InfraE2E.Compose.Publish
import InfraE2E.Kind.Port
import InfraE2E.Kind.Wait
import InfraE2E.Kind.Forward
import InfraE2E.Kind.Barrier
import InfraE2E.Kind.Setup
import InfraE2E.Kind.ConcurrentlyWait
import InfraE2E.Kind.Exposed
import InfraE2E.EnvKeys
import InfraE2E.Compose.Probe
