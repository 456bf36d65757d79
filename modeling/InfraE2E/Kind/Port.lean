import InfraE2E.Text

/-!
# Port tokens of a port-forward

`exposePerKindService` opens one tunnel for a resource and a comma-separated
list of port tokens.  `buildKindPort` turns each token (`R` or `L:R`, with `R`
a number or a port name) into the port the tunnel is opened with: for a
Service it resolves `R` through the Service to a container port and rewrites
the token to `L:<port>`; for any other object it resolves a named `R` on the
pod but keeps the token as it was given.  `portforward.New` then parses the
tokens, and refuses one whose remote part is not a decimal port.  Once the
tunnel is ready, `<resource>_host` and `<resource>_<R>` are published.

The pod and Service lookups are those of kubectl's `util` package.  Port
numbers of Kubernetes objects are non-negative; the API server admits
`1..65535`.
-/

namespace InfraE2E.Kind

open Text

/-- A container port of a pod (`ContainerPort`). -/
structure ContainerPortSpec where
  name : String
  containerPort : Nat
  deriving DecidableEq, Repr

/-- A pod, with the ports of its containers one container after another. -/
structure Pod where
  name : String
  ports : List ContainerPortSpec
  deriving DecidableEq, Repr

inductive IntOrString where
  | int (value : Nat)
  | string (value : String)
  deriving DecidableEq, Repr

/-- A port of a Service (`ServicePort`). -/
structure ServicePortSpec where
  name : String
  port : Nat
  targetPort : IntOrString
  deriving DecidableEq, Repr

structure Service where
  name : String
  clusterIPNone : Bool
  ports : List ServicePortSpec
  deriving DecidableEq, Repr

/-- The object a port-forward is asked for, as `buildKindPort` tells it
apart: a Service, or anything else. -/
inductive Target where
  | service (service : Service)
  | other
  deriving DecidableEq, Repr

/-- `kindPort`. -/
structure KindPort where
  inputPort : String
  realPort : Int
  waitExpose : String
  deriving DecidableEq, Repr

def lookupContainerPortNumberByName (pod : Pod) (name : String) : Except String Int :=
  match pod.ports.find? (·.name == name) with
  | some spec => .ok spec.containerPort
  | none => .error ("Pod \x27" ++ pod.name ++ "\x27 does not have a named port \x27" ++ name ++ "\x27")

def lookupServicePortNumberByName (service : Service) (name : String) : Except String Int :=
  match service.ports.find? (·.name == name) with
  | some spec => .ok spec.port
  | none =>
      .error ("Service \x27" ++ service.name ++ "\x27 does not have a named port \x27" ++ name ++ "\x27")

/-- The container port behind a service port: the port itself for a headless
Service, the numeric target port (the port itself when it is left out), or
the pod's container port of that name. -/
def lookupContainerPortNumberByServicePort (service : Service) (pod : Pod) (port : Int) :
    Except String Int :=
  match service.ports.find? (fun spec => (spec.port : Int) = port) with
  | none => .error ("Service " ++ service.name ++ " does not have a service port " ++ toString port)
  | some spec =>
      if service.clusterIPNone then .ok port
      else match spec.targetPort with
        | .int 0 => .ok spec.port
        | .int target => .ok target
        | .string name => lookupContainerPortNumberByName pod name

def buildKindPort (port : String) (target : Target) (pod : Pod) : Except String KindPort :=
  let needExpose := if contains port ':' then port else ":" ++ port
  let remotePort := if contains port ':' then (split port ':').getD 1 "" else port
  match target with
  | .other => do
      let remotePortInt ← match atoi remotePort with
        | .ok number => pure number
        | .error _ => lookupContainerPortNumberByName pod remotePort
      return ⟨remotePort, remotePortInt, needExpose⟩
  | .service service => do
      let portnum ← match parseInt remotePort 32 with
        | .ok number => pure number
        | .error _ => lookupServicePortNumberByName service remotePort
      let realPort ← lookupContainerPortNumberByServicePort service pod portnum
      let localPort := if contains port ':' then (split port ':').getD 0 "" else ""
      let needExpose :=
        if toString realPort ≠ remotePort then localPort ++ ":" ++ toString realPort else needExpose
      return ⟨remotePort, realPort, needExpose⟩

/-- The tunnel asked for `kp.waitExpose` forwards from `localPort` to the
container port `kp.realPort`: the token reads `localPort:remote` with
`remote` a decimal numeral of `realPort`. -/
def ForwardsTo (localPort : String) (kp : KindPort) : Prop :=
  ∃ remote, kp.waitExpose = localPort ++ ":" ++ remote ∧
    (parseDecimal remote).map Int.ofNat = some kp.realPort

/-- A port as the forwarder reports it from `GetPorts`. -/
structure ForwardedPort where
  localPort : Nat
  remotePort : Nat
  deriving DecidableEq, Repr

/-- One port of `parsePorts` in client-go's `portforward`: `R` or `L:R`, an
empty `L` read as 0, both parts decimal 16-bit numbers and `R` not 0. -/
def parsePort (portString : String) : Except String ForwardedPort := do
  let (localString, remoteString) ← match split portString ':' with
    | [port] => pure (port, port)
    | [localString, remoteString] =>
        pure (if localString = "" then "0" else localString, remoteString)
    | _ => .error ("invalid port format \x27" ++ portString ++ "\x27")
  let localPort ← (parseUint localString 16).mapError fun err =>
    "error parsing local port \x27" ++ localString ++ "\x27: " ++ err.message
  let remotePort ← (parseUint remoteString 16).mapError fun err =>
    "error parsing remote port \x27" ++ remoteString ++ "\x27: " ++ err.message
  if remotePort = 0 then .error "remote port must be > 0" else pure ⟨localPort, remotePort⟩

/-- `portforward.New` on `localhost`: the ports of the forwarder, or its
refusal. -/
def portforwardNew (ports : List String) : Except String (List ForwardedPort) :=
  if ports = [] then .error "You must specify at least 1 port" else ports.mapM parsePort

/-- The resource name as it appears in the published variable names. -/
def sanitizeResourceName (resource : String) : String :=
  replaceAll (replaceAll resource '/' '_') '-' '_'

/-- `fmt.Sprintf("%s_host", resourceName)`. -/
def hostKey (resource : String) : String :=
  sanitizeResourceName resource ++ "_host"

/-- `fmt.Sprintf("%s_%s", resourceName, kp.inputPort)`. -/
def portKey (resource inputPort : String) : String :=
  sanitizeResourceName resource ++ "_" ++ inputPort

def exportKindEnv (key value res : String) : Except String (String × String) :=
  if setenvValid key value then .ok (key, value)
  else .error ("could not set env for " ++ res ++ ", setenv: invalid argument")

/-- What the ready branch of `exposePerKindService` publishes, in order:
`<resource>_host`, then for every forwarded port every converted port with
that remote port. -/
def forwardedPortEnv (resource : String) (exportedPorts : List ForwardedPort)
    (convertedPorts : List KindPort) : List (String × String) :=
  (hostKey resource, "localhost") :: exportedPorts.flatMap fun forwarded =>
    (convertedPorts.filter fun kp => (forwarded.remotePort : Int) = kp.realPort).map fun kp =>
      (portKey resource kp.inputPort, toString forwarded.localPort)

/-- `exportKindEnv` over those publications: the variables set, or the first
refusal. -/
def publishForwardedPorts (resource : String) (exportedPorts : List ForwardedPort)
    (convertedPorts : List KindPort) : Except String (List (String × String)) :=
  (forwardedPortEnv resource exportedPorts convertedPorts).mapM fun (key, value) =>
    exportKindEnv key value resource

/-! ## Reading a token -/

section Token

variable {token localPort remotePort : String}

/-- A token `R` or `L:R`, with neither part holding a colon. -/
def TokenShape (token localPort remotePort : String) : Prop :=
  ((token = remotePort ∧ localPort = "") ∨ token = localPort ++ ":" ++ remotePort) ∧
    ':' ∉ localPort.data ∧ ':' ∉ remotePort.data

private theorem colon_of_shape (shape : TokenShape token localPort remotePort) :
    contains token ':' = true ↔ token = localPort ++ ":" ++ remotePort := by
  obtain ⟨(⟨rfl, rfl⟩ | rfl), -, noColon⟩ := shape
  · constructor
    · intro found
      exact absurd (contains_iff.mp found) noColon
    · intro same
      have lengths := congrArg (fun s => s.data.length) same
      simp at lengths
  · simp [contains_iff]

theorem remotePort_of_shape (shape : TokenShape token localPort remotePort) :
    (if contains token ':' then (split token ':').getD 1 "" else token) = remotePort := by
  by_cases colon : contains token ':'
  · rw [if_pos colon, (colon_of_shape shape).mp colon, split_append shape.2.1,
      split_of_not_mem shape.2.2]
    rfl
  · obtain ⟨(⟨rfl, -⟩ | rfl), -⟩ := shape
    · simp [colon]
    · simp [contains_iff] at colon

theorem localPort_of_shape (shape : TokenShape token localPort remotePort) :
    (if contains token ':' then (split token ':').getD 0 "" else "") = localPort := by
  by_cases colon : contains token ':'
  · rw [if_pos colon, (colon_of_shape shape).mp colon, split_append shape.2.1]
    rfl
  · obtain ⟨(⟨-, rfl⟩ | rfl), -⟩ := shape
    · simp [colon]
    · simp [contains_iff] at colon

theorem needExpose_of_shape (shape : TokenShape token localPort remotePort) :
    (if contains token ':' then token else ":" ++ token) = localPort ++ ":" ++ remotePort := by
  by_cases colon : contains token ':'
  · rw [if_pos colon, (colon_of_shape shape).mp colon]
  · obtain ⟨(⟨rfl, rfl⟩ | rfl), -⟩ := shape
    · simp [colon]
    · simp [contains_iff] at colon

end Token

/-! ## Resolved ports are port numbers -/

theorem lookupContainerPortNumberByName_ok {pod : Pod} {name : String} {port : Int}
    (found : lookupContainerPortNumberByName pod name = .ok port) : ∃ number : Nat, port = number := by
  unfold lookupContainerPortNumberByName at found
  split at found
  · cases found
    exact ⟨_, rfl⟩
  · cases found

theorem lookupContainerPortNumberByServicePort_ok {service : Service} {pod : Pod} {port : Int}
    {resolved : Int} (found : lookupContainerPortNumberByServicePort service pod port = .ok resolved) :
    ∃ number : Nat, resolved = number := by
  unfold lookupContainerPortNumberByServicePort at found
  split at found
  · cases found
  · rename_i spec located
    have declared : (spec.port : Int) = port := by simpa using List.find?_some located
    split at found
    · cases found
      exact ⟨_, declared.symm⟩
    · split at found
      · cases found
        exact ⟨_, rfl⟩
      · cases found
        exact ⟨_, rfl⟩
      · exact lookupContainerPortNumberByName_ok found

/-! ## What the tunnel is opened with -/

/-- The last step through a Service: the container port behind `portnum`,
with the token rewritten to forward the local part to it. -/
private theorem resolved_iff {service : Service} {pod : Pod} {portnum : Int}
    {localPort remotePort : String} {kp : KindPort} :
    (do
        let realPort ← lookupContainerPortNumberByServicePort service pod portnum
        return ⟨remotePort, realPort,
          if toString realPort ≠ remotePort then localPort ++ ":" ++ toString realPort
          else localPort ++ ":" ++ remotePort⟩ : Except String KindPort) = .ok kp ↔
      ∃ realPort, lookupContainerPortNumberByServicePort service pod portnum = .ok realPort ∧
        kp = ⟨remotePort, realPort, localPort ++ ":" ++ toString realPort⟩ := by
  cases lookupContainerPortNumberByServicePort service pod portnum with
  | error message => simp [bind, Except.bind]
  | ok realPort =>
      simp only [bind, Except.bind, pure, Except.pure, Except.ok.injEq, exists_eq_left']
      by_cases printed : toString realPort = remotePort <;> simp [printed, eq_comm]

/-- The input port of a converted token, which names its variable, is the
token's remote part. -/
theorem buildKindPort_inputPort {token localPort remotePort : String} {target : Target} {pod : Pod}
    {kp : KindPort} (shape : TokenShape token localPort remotePort)
    (built : buildKindPort token target pod = .ok kp) : kp.inputPort = remotePort := by
  cases target <;> simp only [buildKindPort, remotePort_of_shape shape, localPort_of_shape shape,
    needExpose_of_shape shape] at built <;> split at built <;>
    obtain ⟨_, -, built⟩ := except_bind_eq_ok.mp built
  case other.h_1 | other.h_2 => cases built; rfl
  all_goals obtain ⟨_, -, rfl⟩ := resolved_iff.mp built; rfl

/-- Through a Service, the remote part of a token names a service port, by
number or else by name.  `buildKindPort` succeeds exactly when that port
resolves to a container port, and then keeps the remote part as the input
port, takes the container port as the real port, and asks the tunnel for
`<local part>:<container port>`. -/
theorem buildKindPort_service_forwards {token localPort remotePort : String} {service : Service}
    {pod : Pod} {kp : KindPort} (shape : TokenShape token localPort remotePort) :
    buildKindPort token (.service service) pod = .ok kp ↔
      ∃ portnum, (parseInt remotePort 32 = .ok portnum ∨
          (∃ error, parseInt remotePort 32 = .error error) ∧
            lookupServicePortNumberByName service remotePort = .ok portnum) ∧
        ∃ realPort, lookupContainerPortNumberByServicePort service pod portnum = .ok realPort ∧
          kp = ⟨remotePort, realPort, localPort ++ ":" ++ toString realPort⟩ := by
  simp only [buildKindPort, remotePort_of_shape shape, localPort_of_shape shape,
    needExpose_of_shape shape]
  cases parsed : parseInt remotePort 32 with
  | ok number =>
      simp only [bind, Except.bind, reduceCtorEq, false_and, exists_false, or_false,
        Except.ok.injEq, exists_eq_left']
      exact resolved_iff
  | error error =>
      simp only [reduceCtorEq, false_or, exists_const, true_and]
      cases lookupServicePortNumberByName service remotePort with
      | error message => simp [bind, Except.bind]
      | ok portnum =>
          simp only [bind, Except.bind, Except.ok.injEq, Except.error.injEq, exists_eq', true_and,
            exists_eq_left']
          exact resolved_iff

/-- A Service `web` whose port `http` (80) targets container port 8080. -/
def webService : Service := ⟨"web", false, [⟨"http", 80, .int 8080⟩]⟩

theorem buildKindPort_service_forwards_http :
    TokenShape "30080:http" "30080" "http" ∧
      buildKindPort "30080:http" (.service webService) ⟨"web-0", []⟩ =
        .ok ⟨"http", 8080, "30080:8080"⟩ ∧
      ∃ portnum, (parseInt "http" 32 = .ok portnum ∨
          (∃ error, parseInt "http" 32 = .error error) ∧
            lookupServicePortNumberByName webService "http" = .ok portnum) ∧
        ∃ realPort, lookupContainerPortNumberByServicePort webService ⟨"web-0", []⟩ portnum =
            .ok realPort ∧
          (⟨"http", 8080, "30080:8080"⟩ : KindPort) =
            ⟨"http", realPort, "30080" ++ ":" ++ toString realPort⟩ :=
  have shape : TokenShape "30080:http" "30080" "http" := ⟨.inr (by decide), by decide, by decide⟩
  have built : buildKindPort "30080:http" (.service webService) ⟨"web-0", []⟩ =
      .ok ⟨"http", 8080, "30080:8080"⟩ := rfl
  ⟨shape, built, (buildKindPort_service_forwards shape).mp built⟩

/-- For any other object a numeral token forwards to that number. -/
theorem buildKindPort_other_numeral_forwards {token localPort : String} {number : Nat}
    {pod : Pod} {kp : KindPort} (shape : TokenShape token localPort (toString number))
    (fits : number < 2 ^ 63) (built : buildKindPort token .other pod = .ok kp) :
    ForwardsTo localPort kp := by
  simp only [buildKindPort, remotePort_of_shape shape, needExpose_of_shape shape,
    atoi_toString fits] at built
  cases built
  exact ⟨toString number, rfl, by simp [parseDecimal_toString]⟩

/-- For any other object a port name is looked up on the pod but kept in the
token, so the tunnel is asked for `:<name>`, which no decimal reading gives. -/
theorem buildKindPort_other_keeps_name {name : String} {pod : Pod} {number : Nat}
    (notNumeral : ∃ c ∈ name.data, c.isDigit = false ∧ c ≠ '-' ∧ c ≠ '+')
    (noColon : ':' ∉ name.data)
    (declared : lookupContainerPortNumberByName pod name = .ok number) :
    buildKindPort name .other pod = .ok ⟨name, number, ":" ++ name⟩ ∧ parseDecimal name = none := by
  have shape : TokenShape name "" name := ⟨.inl ⟨rfl, rfl⟩, by simp, noColon⟩
  refine ⟨?_, parseDecimal_eq_none (notNumeral.imp fun _ found => ⟨found.1, found.2.1⟩)⟩
  simp only [buildKindPort, remotePort_of_shape shape, needExpose_of_shape shape, atoi,
    parseIntAs_error notNumeral, declared]
  rfl

/-- A pod whose container names port 8080 `http`. -/
def webPod : Pod := ⟨"web-0", [⟨"http", 8080⟩]⟩

theorem buildKindPort_other_keeps_name_http :
    (∃ c ∈ "http".data, c.isDigit = false ∧ c ≠ '-' ∧ c ≠ '+') ∧ ':' ∉ "http".data ∧
      lookupContainerPortNumberByName webPod "http" = .ok (8080 : Nat) ∧
      (buildKindPort "http" .other webPod = .ok ⟨"http", (8080 : Nat), ":" ++ "http"⟩ ∧
        parseDecimal "http" = none) :=
  ⟨⟨'h', by decide, by decide, by decide, by decide⟩, by decide, rfl,
    buildKindPort_other_keeps_name ⟨'h', by decide, by decide, by decide, by decide⟩
      (by decide) rfl⟩

end InfraE2E.Kind
