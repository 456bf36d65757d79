import InfraE2E.Compose.Ports
import InfraE2E.Compose.Container
import InfraE2E.Compose.Network

/-!
# The compose setup

`ComposeSetup` brings a compose stack up and waits for its declared ports.
It discovers the default network and its gateway, reads the declared ports
(`bindWaitPort`), runs `compose up`, and then, for every service with
`ports`, finds its container, publishes `<service>_host`, and for every
declared port probes the listed binding from outside (a TCP dial, repeated
until accepted) and from inside (a shell probe, repeated until it exits 0)
before publishing `<service>_<port>`.  Last it hands over to the steps
runner.

Two things are not what the setup contract describes: the errors of network
discovery are dropped, so `compose up` runs and `<service>_host` is published
even when no gateway was found; and a declared port that the container does
not list is skipped without an error.
-/

namespace InfraE2E.Compose

open Text Setup

/-- `%04x`. -/
def hex04 (n : Nat) : String :=
  let digits := Nat.toDigits 16 n
  ⟨List.replicate (4 - digits.length) '0' ++ digits⟩

def buildInternalCheckCommand (internalPort : Nat) : String :=
  "true && (\n\t\t\t\t\tcat /proc/net/tcp* | awk \x27\x7bprint $2\x7d\x27 | grep -i :" ++
    hex04 internalPort ++ " ||\n\t\t\t\t\tnc -vz -w 1 localhost " ++ toString internalPort ++
    " ||\n\t\t\t\t\t/bin/sh -c \x27</dev/tcp/localhost/" ++ toString internalPort ++
    "\x27\n\t\t\t\t)\n\t\t\t\t"

/-- The external check: dial until a connection is accepted, sleeping two
seconds after each refusal.  `outcomes` are the answers to successive dials. -/
def dialUntilConnected (address : String) : List Bool → Setup Unit
  | [] => retrying
  | connected :: outcomes => do
      emit (.dial address connected)
      if connected then return () else dialUntilConnected address outcomes

/-- The internal check: exec the probe until it exits 0.  Exit code 126 means
`/bin/sh` cannot run, and an exec error ends the wait too. -/
def execUntilReady (containerId command : String) : List (Except String Int) → Setup Unit
  | [] => retrying
  | outcome :: outcomes => do
      emit (.exec containerId command)
      match outcome with
      | .error message => fail ("host port waiting failed: " ++ message)
      | .ok exitCode =>
          if exitCode = 0 then return ()
          else if exitCode = 126 then fail "/bin/sh command not executable"
          else execUntilReady containerId command outcomes

/-- `fmt.Sprintf("%s_host", service)`. -/
def hostKey (service : String) : String := service ++ "_host"

/-- `fmt.Sprintf("%s_%d", service, port)`. -/
def portKey (service : String) (port : Nat) : String := service ++ "_" ++ toString port

def exportComposeEnv (key value service : String) : Setup Unit :=
  if setenvValid key value then emit (.setenv key value)
  else fail ("could not set env for " ++ service ++ ", setenv: invalid argument")

/-- One pass of the loop over `portList`: the listed entry of `expectPort` is
dialled, probed from inside and published as `<service>_<port>`; when the
container lists no such entry nothing happens. -/
def waitPort (docker : Docker) (ip service : String) (container : Container)
    (expectPort : Int) : Setup Unit :=
  match listedPort container expectPort with
  | none => return ()
  | some containerPort => do
      let address := joinHostPort ip (toString containerPort.publicPort)
      dialUntilConnected address (docker.dial address)
      let command := buildInternalCheckCommand containerPort.privatePort
      execUntilReady container.id command (docker.exec container.id command)
      exportComposeEnv (portKey service containerPort.privatePort)
        (toString containerPort.publicPort) service

def waitPorts (docker : Docker) (ip service : String) (container : Container) :
    List Int → Setup Unit
  | [] => return ()
  | expectPort :: portList => do
      waitPort docker ip service container expectPort
      waitPorts docker ip service container portList

/-- The loop over `serviceWithPorts`. -/
def exportServices (docker : Docker) (identifier ip : String) :
    List (String × List Int) → Setup Unit
  | [] => return ()
  | (service, portList) :: rest => do
      let container ← lift (findContainer docker (identifier ++ "_" ++ getInstanceName service))
      if portList.isEmpty then
        exportServices docker identifier ip rest
      else do
        exportComposeEnv (hostKey service) ip service
        waitPorts docker ip service container portList
        exportServices docker identifier ip rest

/-- What `ComposeSetup` reads of `e2e.yaml` and of the compose file; the
identifier is `GetIdentity()`. -/
structure ComposeConfig where
  file : String
  services : List ComposeService
  identifier : String
  deriving DecidableEq, Repr

/-- `ComposeSetup`; `runStepsAndWait` is the outcome of the steps runner. -/
def composeSetup (docker : Docker) (runStepsAndWait : Except String Unit)
    (config : ComposeConfig) : Setup Unit :=
  if config.file = "" then
    fail "no compose config file was provided"
  else do
    lift docker.newClient
    let _network ← ignoringError (getDefaultNetwork docker) ""
    let ip ← ignoringError (getGatewayIP docker) ""
    let serviceWithPorts ←
      lift ((bindWaitPort config.services).mapError ("bind wait ports error: " ++ ·))
    emit .composeUp
    lift docker.composeUp
    exportServices docker config.identifier ip serviceWithPorts
    emit .runSteps
    lift runStepsAndWait

/-- The gateway address `ComposeSetup` works with when it starts from `world`:
what `getGatewayIP` returns after network discovery, `""` when it fails. -/
def gatewayAddress (docker : Docker) (world : World) : String :=
  match (ignoringError (getGatewayIP docker) ""
      (ignoringError (getDefaultNetwork docker) "" world).1).2 with
  | some (.ok ip) => ip
  | _ => ""

/-- Network discovery returns, with `gatewayAddress` as the address. -/
theorem discovery_ok (docker : Docker) (world : World) :
    ∃ discovered network located,
      ignoringError (getDefaultNetwork docker) "" world = (discovered, some (.ok network)) ∧
      ignoringError (getGatewayIP docker) "" discovered =
        (located, some (.ok (gatewayAddress docker world))) := by
  obtain ⟨discovered, network, discoveredRan⟩ :=
    ignoringError_ok (getDefaultNetwork_returns docker) "" world
  obtain ⟨located, ip, locatedRan⟩ := ignoringError_ok (getGatewayIP_returns docker) "" discovered
  exact ⟨discovered, network, located, discoveredRan, by simp [gatewayAddress, discoveredRan, locatedRan]⟩

/-! ## What the loops log

Apart from the variables they set, the probes and the loops only log dials
and execs.  Each lemma takes the effects a caller admits (`allowed`, which
admits everything but variables) and the variables it admits, and says the
loop logs nothing else. -/

section Logged

variable {allowed : Effect → Prop}

theorem dialUntilConnected_appendsOnly (others : ∀ effect, NoSetenv effect → allowed effect)
    (address : String) (outcomes : List Bool) :
    AppendsOnly allowed (dialUntilConnected address outcomes) := by
  induction outcomes with
  | nil => exact AppendsOnly.retrying
  | cons connected outcomes induction =>
      refine AppendsOnly.bind (AppendsOnly.emit (others _ fun _ _ => nofun)) fun _ => ?_
      split
      · exact AppendsOnly.pure _
      · exact induction

theorem execUntilReady_appendsOnly (others : ∀ effect, NoSetenv effect → allowed effect)
    (containerId command : String) (outcomes : List (Except String Int)) :
    AppendsOnly allowed (execUntilReady containerId command outcomes) := by
  induction outcomes with
  | nil => exact AppendsOnly.retrying
  | cons outcome outcomes induction =>
      refine AppendsOnly.bind (AppendsOnly.emit (others _ fun _ _ => nofun)) fun _ => ?_
      rcases outcome with message | exitCode
      · exact AppendsOnly.fail _
      · dsimp only
        split
        · exact AppendsOnly.pure _
        · split
          · exact AppendsOnly.fail _
          · exact induction

theorem exportComposeEnv_appendsOnly {key value : String} (sets : allowed (.setenv key value))
    (service : String) : AppendsOnly allowed (exportComposeEnv key value service) := by
  unfold exportComposeEnv
  split
  · exact AppendsOnly.emit sets
  · exact AppendsOnly.fail _

/-- One port: the variable of the listed entry, if any. -/
theorem waitPort_appendsOnly (others : ∀ effect, NoSetenv effect → allowed effect)
    {docker : Docker} {ip service : String} {container : Container} {expectPort : Int}
    (sets : ∀ entry, listedPort container expectPort = some entry →
      allowed (.setenv (portKey service entry.privatePort) (toString entry.publicPort))) :
    AppendsOnly allowed (waitPort docker ip service container expectPort) := by
  unfold waitPort
  split
  · exact AppendsOnly.pure _
  · rename_i entry listed
    exact AppendsOnly.bind (dialUntilConnected_appendsOnly others _ _) fun _ =>
      AppendsOnly.bind (execUntilReady_appendsOnly others _ _ _) fun _ =>
        exportComposeEnv_appendsOnly (sets entry listed) _

theorem waitPorts_appendsOnly (others : ∀ effect, NoSetenv effect → allowed effect)
    {docker : Docker} {ip service : String} {container : Container} {portList : List Int}
    (sets : ∀ expectPort ∈ portList, ∀ entry, listedPort container expectPort = some entry →
      allowed (.setenv (portKey service entry.privatePort) (toString entry.publicPort))) :
    AppendsOnly allowed (waitPorts docker ip service container portList) := by
  induction portList with
  | nil => exact AppendsOnly.pure _
  | cons expectPort portList induction =>
      exact AppendsOnly.bind (waitPort_appendsOnly others (sets expectPort (.head _))) fun _ =>
        induction fun port later => sets port (.tail _ later)

/-- The loop over the services: `<service>_host` with `ip`, and the variables
of the ports listed by the container found for the service. -/
theorem exportServices_appendsOnly (others : ∀ effect, NoSetenv effect → allowed effect)
    {docker : Docker} {identifier ip : String} {serviceWithPorts : List (String × List Int)}
    (sets : ∀ service portList, (service, portList) ∈ serviceWithPorts →
      allowed (.setenv (hostKey service) ip) ∧
      ∀ container, findContainer docker (identifier ++ "_" ++ getInstanceName service) = .ok container →
        ∀ expectPort ∈ portList, ∀ entry, listedPort container expectPort = some entry →
          allowed (.setenv (portKey service entry.privatePort) (toString entry.publicPort))) :
    AppendsOnly allowed (exportServices docker identifier ip serviceWithPorts) := by
  induction serviceWithPorts with
  | nil => exact AppendsOnly.pure _
  | cons head rest induction =>
      obtain ⟨service, portList⟩ := head
      have later := induction fun service portList member => sets service portList (.tail _ member)
      obtain ⟨host, ports⟩ := sets service portList (.head _)
      unfold exportServices
      refine AppendsOnly.lift_bind fun container found => ?_
      split
      · exact later
      · exact AppendsOnly.bind (exportComposeEnv_appendsOnly host _) fun _ =>
          AppendsOnly.bind (waitPorts_appendsOnly others (ports container found)) fun _ => later

end Logged

theorem waitPorts_appends (docker : Docker) (ip service : String) (container : Container)
    (portList : List Int) : Appends (waitPorts docker ip service container portList) :=
  waitPorts_appendsOnly (fun _ _ => trivial) fun _ _ _ _ => trivial

theorem exportServices_appends (docker : Docker) (identifier ip : String)
    (serviceWithPorts : List (String × List Int)) :
    Appends (exportServices docker identifier ip serviceWithPorts) :=
  exportServices_appendsOnly (fun _ _ => trivial)
    fun _ _ _ => ⟨trivial, fun _ _ _ _ _ _ => trivial⟩

/-! ## Network discovery does not guard the stack -/

/-- Whatever the daemon answers to network discovery, `compose up` runs once
the configuration names a file, the client is built and the declared ports
are read. -/
theorem composeSetup_runs_compose_up {docker : Docker} {runStepsAndWait : Except String Unit}
    {config : ComposeConfig} {serviceWithPorts : List (String × List Int)} (world : World)
    (fileGiven : config.file ≠ "") (client : docker.newClient = .ok ())
    (bound : bindWaitPort config.services = .ok serviceWithPorts) :
    Effect.composeUp ∈ (composeSetup docker runStepsAndWait config world).1.log := by
  obtain ⟨discovered, _, network⟩ :=
    ignoringError_ok (getDefaultNetwork_returns docker) "" world
  obtain ⟨located, ip, gateway⟩ :=
    ignoringError_ok (getGatewayIP_returns docker) "" discovered
  have rest : Appends (do
      lift docker.composeUp
      exportServices docker config.identifier ip serviceWithPorts
      emit .runSteps
      lift runStepsAndWait) :=
    Appends.bind (Appends.lift _) fun _ => Appends.bind (exportServices_appends _ _ _ _)
      fun _ => Appends.bind (Appends.emit _) fun _ => Appends.lift _
  simp only [composeSetup, fileGiven, if_false, client, bound, Except.mapError]
  rw [bind_of_ok (lift_apply _ _), bind_of_ok network, bind_of_ok gateway,
    bind_of_ok (lift_apply _ _), bind_of_ok (emit_apply _ _)]
  exact rest.mem_log (by simp)

/-- The daemon is down: listing networks fails. -/
def unreachableDaemon : Docker :=
  { Docker.quiet with
    networkListError := some "Cannot connect to the Docker daemon"
    containers := [⟨"c1", "e2e_es_1", [⟨9200, 32001, "tcp"⟩]⟩] }

/-- Service `es` declares container port 9200. -/
def esConfig : ComposeConfig := ⟨"docker-compose.yml", [⟨"es", some [.string "9200"]⟩], "e2e"⟩

theorem composeSetup_runs_compose_up_unreachable :
    esConfig.file ≠ "" ∧ unreachableDaemon.newClient = .ok () ∧
      bindWaitPort esConfig.services = .ok [("es", [9200])] ∧
      Effect.composeUp ∈ (composeSetup unreachableDaemon (.ok ()) esConfig ⟨[], []⟩).1.log :=
  ⟨by decide, rfl, rfl, composeSetup_runs_compose_up ⟨[], []⟩ (by decide) rfl
    (show bindWaitPort esConfig.services = .ok [("es", [9200])] from rfl)⟩

/-! ## Unlisted ports are skipped -/

theorem waitPort_of_unlisted {docker : Docker} {ip service : String} {container : Container}
    {expectPort : Int} (unlisted : listedPort container expectPort = none) :
    waitPort docker ip service container expectPort = pure () := by
  simp [waitPort, unlisted]

/-- A declared port that the container does not list adds nothing to the run:
no dial, no probe, no variable, and no error. -/
theorem waitPorts_skips_unlisted {docker : Docker} {ip service : String}
    {container : Container} {expectPort : Int} (portList : List Int)
    (unlisted : listedPort container expectPort = none) :
    waitPorts docker ip service container (expectPort :: portList) =
      waitPorts docker ip service container portList := by
  simp only [waitPorts, waitPort_of_unlisted unlisted]
  rfl

/-- `es` runs with host networking, so its container lists no port. -/
def hostNetworkDaemon : Docker :=
  { Docker.quiet with containers := [⟨"c1", "e2e_es_1", []⟩] }

theorem composeSetup_skips_unlisted_port :
    getExpectPort (.string "9200") = .ok 9200 ∧
      (composeSetup hostNetworkDaemon (.ok ()) esConfig ⟨[⟨"bridge", ["172.17.0.1"]⟩], []⟩).2 =
        some (.ok ()) ∧
      (composeSetup hostNetworkDaemon (.ok ()) esConfig ⟨[⟨"bridge", ["172.17.0.1"]⟩], []⟩).1.log =
        [.composeUp, .setenv "es_host" "172.17.0.1", .runSteps] :=
  ⟨rfl, rfl, by decide⟩

end InfraE2E.Compose
