import InfraE2E.Compose.Daemon

/-!
# Declared ports and their published host ports

`bindWaitPort` reads the `ports` list of every compose service and keeps, for
each entry, the container port to wait for (`getExpectPort`).  Once the stack
is up, `ComposeSetup` takes the host port of that container port from the
container listing (`listedPort`), while `MappedPort` reads it from the
inspected port map.

`getExpectPort` reads the second `:`-separated field of a string entry.  That
is the container port of `host:container`, but the host port of the
three-field form `ip:host:container`.
-/

namespace InfraE2E.Compose

open Text

/-- An entry of a service's `ports` list as the YAML decoder hands it over;
`other` is any other value, with the text `%v` prints for it. -/
inductive PortConfig where
  | int (value : Int)
  | string (value : String)
  | other (shown : String)
  deriving DecidableEq, Repr

/-- A service of the compose file: its name and its `ports` field. -/
structure ComposeService where
  name : String
  ports : Option (List PortConfig)
  deriving DecidableEq, Repr

def getExpectPort : PortConfig → Except String Int
  | .int conf => .ok conf
  | .string conf =>
      let portInfo := split conf ':'
      if portInfo.length > 1 then (atoi (portInfo.getD 1 "")).mapError NumError.message
      else (atoi (portInfo.getD 0 "")).mapError NumError.message
  | .other shown => .error ("unknown port information: " ++ shown)

/-- The inner loop of `bindWaitPort`: one expected port per entry, stopping
at the first entry `getExpectPort` rejects. -/
def expectPorts : List PortConfig → Except String (List Int)
  | [] => .ok []
  | port :: rest => do
      let exportPort ← getExpectPort port
      let others ← expectPorts rest
      return exportPort :: others

/-- `bindWaitPort`: every service with a `ports` field, in the order the
compose map is walked, with the `expectPort` of each of its
`hostPortCachedStrategy` values.  The strategies' `HostPortStrategy` and its
startup timeout are never read by the setup code. -/
def bindWaitPort : List ComposeService → Except String (List (String × List Int))
  | [] => .ok []
  | service :: rest =>
      match service.ports with
      | none => bindWaitPort rest
      | some portList => do
          let expected ← expectPorts portList
          let others ← bindWaitPort rest
          return (service.name, expected) :: others

/-- The entry of the container listing that `ComposeSetup` dials and
publishes for `expectPort`: the first whose `PrivatePort` equals it.  Its
`Type` is not looked at. -/
def listedPort (container : Container) (expectPort : Int) : Option PortEntry :=
  container.ports.find? fun entry => (entry.privatePort : Int) = expectPort

/-- `nat.NewPort(proto, port)`.  Docker reports a host port as a decimal,
which `NewPort` prints back unchanged; port ranges are not modelled. -/
def newPort (proto port : String) : NatPort := ⟨port, proto⟩

/-- The loop of `MappedPort` over the inspected port map. -/
def findMappedPort (ports : PortMap) (port : NatPort) : Except String NatPort :=
  match ports.entries.find? fun (key, bindings) =>
      key.port = port.port && (port.proto = "" || key.proto = port.proto) && !bindings.isEmpty with
  | some (key, binding :: _) => .ok (newPort key.proto binding.hostPort)
  | _ => .error "port not found"

/-- `MappedPort`: the host port of `port` and the container's network mode;
a host-network container answers with `port` itself. -/
def mappedPort (docker : Docker) (container : Container) (port : NatPort) :
    Except String (NatPort × String) := do
  let inspect ← docker.inspect container.id
  if inspect.networkMode = "host" then return (port, inspect.networkMode)
  let ports ← (docker.inspect container.id).map ContainerJSON.ports
  let mapped ← findMappedPort ports port
  return (mapped, inspect.networkMode)

/-- `hostPort` is a `HostPort` bound to `privatePort/proto` in the port map. -/
def BoundTo (ports : PortMap) (privatePort : Nat) (proto : String) (hostPort : Nat) : Prop :=
  ∃ bindings, (⟨toString privatePort, proto⟩, bindings) ∈ ports.entries ∧
    ∃ binding ∈ bindings, binding.hostPort = toString hostPort

/-- The listing and the inspected map describe the same bindings. -/
def SameBindings (container : Container) (ports : PortMap) : Prop :=
  ∀ privatePort publicPort type,
    ⟨privatePort, publicPort, type⟩ ∈ container.ports ↔ BoundTo ports privatePort type publicPort

/-! ## Extracting the container port -/

private theorem colon_not_mem_toString (n : Nat) : ':' ∉ (toString n).data :=
  not_mem_toString (by decide)

private theorem split_colon {first rest : String} (absent : ':' ∉ first.data) :
    split (first ++ ":" ++ rest) ':' = first :: split rest ':' :=
  split_append absent

theorem getExpectPort_numeral {port : Nat} (fits : port < 2 ^ 63) :
    getExpectPort (.string (toString port)) = .ok port := by
  simp [getExpectPort, split_of_not_mem (colon_not_mem_toString port), atoi_toString fits]
  rfl

theorem getExpectPort_host_container {host : String} (containerPort : Nat)
    (noColon : ':' ∉ host.data) (fits : containerPort < 2 ^ 63) :
    getExpectPort (.string (host ++ ":" ++ toString containerPort)) = .ok containerPort := by
  simp [getExpectPort, split_colon noColon, split_of_not_mem (colon_not_mem_toString _),
    atoi_toString fits]
  rfl

/-- On `ip:host:container` the second field is the host port, and that is
what `getExpectPort` returns. -/
theorem getExpectPort_reads_host_port {ip : String} (hostPort containerPort : Nat)
    (noColon : ':' ∉ ip.data) (fits : hostPort < 2 ^ 63) :
    getExpectPort (.string (ip ++ ":" ++ toString hostPort ++ ":" ++ toString containerPort)) =
      .ok hostPort := by
  have fields : split (ip ++ ":" ++ toString hostPort ++ ":" ++ toString containerPort) ':' =
      [ip, toString hostPort, toString containerPort] := by
    have regroup : ip ++ ":" ++ toString hostPort ++ ":" ++ toString containerPort =
        ip ++ ":" ++ (toString hostPort ++ ":" ++ toString containerPort) := by
      simp only [String.append_assoc]
    rw [regroup, split_colon noColon, split_colon (colon_not_mem_toString _),
      split_of_not_mem (colon_not_mem_toString _)]
  simp [getExpectPort, fields, atoi_toString fits]
  rfl

theorem getExpectPort_reads_host_port_of_loopback :
    ':' ∉ "127.0.0.1".data ∧ 8080 < 2 ^ 63 ∧
      getExpectPort (.string ("127.0.0.1" ++ ":" ++ toString 8080 ++ ":" ++ toString 80)) =
        .ok 8080 :=
  ⟨by decide, by decide, getExpectPort_reads_host_port 8080 80 (by decide) (by decide)⟩

theorem expectPorts_eq_ok_iff {portList : List PortConfig} {expected : List Int} :
    expectPorts portList = .ok expected ↔
      List.Forall₂ (fun port expectPort => getExpectPort port = .ok expectPort) portList expected := by
  induction portList generalizing expected with
  | nil => cases expected <;> simp [expectPorts]
  | cons port rest induction =>
      cases first : getExpectPort port <;> cases others : expectPorts rest <;>
        cases expected <;>
          simp_all [expectPorts, bind, Except.bind, pure, Except.pure]

/-- Every service that declares `ports` is recorded with the expected port of
each of its entries. -/
theorem bindWaitPort_records {services : List ComposeService}
    {serviceWithPorts : List (String × List Int)}
    (bound : bindWaitPort services = .ok serviceWithPorts) {service : ComposeService}
    (member : service ∈ services) {portList : List PortConfig}
    (declared : service.ports = some portList) :
    ∃ expected, (service.name, expected) ∈ serviceWithPorts ∧
      List.Forall₂ (fun port expectPort => getExpectPort port = .ok expectPort)
        portList expected := by
  induction services generalizing serviceWithPorts with
  | nil => cases member
  | cons head rest induction =>
      simp only [bindWaitPort] at bound
      split at bound
      · rename_i noPorts
        rcases List.mem_cons.mp member with rfl | later
        · simp_all
        · exact induction bound later
      · rename_i headPorts headDeclared
        obtain ⟨expectedHead, headExpected, built⟩ := except_bind_eq_ok.mp bound
        obtain ⟨others, othersBound, returned⟩ := except_bind_eq_ok.mp built
        cases returned
        rcases List.mem_cons.mp member with rfl | later
        · obtain rfl : headPorts = portList := Option.some.inj (headDeclared.symm.trans declared)
          exact ⟨_, List.mem_cons_self _ _, expectPorts_eq_ok_iff.mp headExpected⟩
        · obtain ⟨expected, recorded, each⟩ := induction othersBound later
          exact ⟨expected, List.mem_cons_of_mem _ recorded, each⟩

/-- A bound port with a non-empty binding list is the one the loop of
`MappedPort` returns, whatever the map's iteration order. -/
private theorem findMappedPort_of_mem {ports : PortMap} {key : NatPort}
    {first : PortBinding} {rest : List PortBinding}
    (member : (key, first :: rest) ∈ ports.entries) (proto : key.proto ≠ "") :
    findMappedPort ports key = .ok (newPort key.proto first.hostPort) := by
  obtain ⟨⟨found, foundBindings⟩, found_eq⟩ :
      ∃ entry, ports.entries.find? (fun (k, bindings) => k.port = key.port &&
        (key.proto = "" || k.proto = key.proto) && !bindings.isEmpty) = some entry := by
    refine Option.ne_none_iff_exists'.mp fun none => ?_
    exact List.find?_eq_none.mp none _ member (by simp [proto])
  have matched := List.find?_some found_eq
  simp only [Bool.and_eq_true, decide_eq_true_eq, Bool.or_eq_true, proto, false_or,
    Bool.not_eq_true', List.isEmpty_eq_false] at matched
  have sameKey : found = key := by
    cases found
    cases key
    simp_all
  subst sameKey
  have sameBindings : (found, foundBindings) = (found, first :: rest) :=
    List.inj_on_of_nodup_map ports.keysNodup (List.mem_of_find?_eq_some found_eq) member rfl
  simp only [Prod.mk.injEq, true_and] at sameBindings
  simp [findMappedPort, found_eq, sameBindings]

/-- When the listing entry that `ComposeSetup` uses for `port` is a tcp entry,
its host port is bound to `port/tcp`; and `MappedPort` returns that same host
port whenever every host port bound to `port/tcp` is that one. -/
theorem listedPort_bound_and_mapped {docker : Docker} {container : Container}
    {inspect : ContainerJSON} {port : Nat} {entry : PortEntry}
    (inspected : docker.inspect container.id = .ok inspect)
    (same : SameBindings container inspect.ports)
    (listed : listedPort container port = some entry) (tcp : entry.type = "tcp") :
    BoundTo inspect.ports port "tcp" entry.publicPort ∧
      (inspect.networkMode ≠ "host" →
        (∀ bindings, (⟨toString port, "tcp"⟩, bindings) ∈ inspect.ports.entries →
          ∀ binding ∈ bindings, binding.hostPort = toString entry.publicPort) →
        mappedPort docker container ⟨toString port, "tcp"⟩ =
          .ok (⟨toString entry.publicPort, "tcp"⟩, inspect.networkMode)) := by
  have privatePort : entry.privatePort = port :=
    Int.ofNat_inj.mp (by simpa using List.find?_some listed)
  have entryListed : (⟨port, entry.publicPort, "tcp"⟩ : PortEntry) ∈ container.ports := by
    rw [← privatePort, ← tcp]
    exact List.mem_of_find?_eq_some listed
  have bound := (same _ _ _).mp entryListed
  refine ⟨bound, fun notHost onlyOne => ?_⟩
  obtain ⟨bindings, member, binding, bindingMember, _⟩ := bound
  cases bindings with
  | nil => cases bindingMember
  | cons first rest =>
      have firstPort := onlyOne _ member first (List.mem_cons_self _ _)
      have found := findMappedPort_of_mem member (by simp)
      simp [mappedPort, inspected, notHost, found, firstPort, newPort, bind, Except.bind,
        pure, Except.pure, Except.map]

private theorem boundTo_single {key : NatPort} {bindings : List PortBinding}
    {keysNodup : ([(key, bindings)].map Prod.fst).Nodup} {privatePort hostPort : Nat}
    {proto : String} :
    BoundTo ⟨[(key, bindings)], keysNodup⟩ privatePort proto hostPort ↔
      ⟨toString privatePort, proto⟩ = key ∧
        ∃ binding ∈ bindings, binding.hostPort = toString hostPort := by
  constructor
  · rintro ⟨_, member, found⟩
    obtain ⟨sameKey, rfl⟩ := Prod.mk.inj (List.mem_singleton.mp member)
    exact ⟨sameKey, found⟩
  · rintro ⟨sameKey, found⟩
    exact ⟨bindings, by simp [sameKey], found⟩

/-- Container port 9200 of `es` published on host port 32001 over tcp. -/
def esListing : Container := ⟨"es", "e2e_es_1", [⟨9200, 32001, "tcp"⟩]⟩

def esBindings : PortMap where
  entries := [(⟨toString 9200, "tcp"⟩, [⟨"0.0.0.0", toString 32001⟩])]
  keysNodup := by decide

theorem sameBindings_es : SameBindings esListing esBindings := by
  intro privatePort publicPort type
  simp only [esListing, esBindings, boundTo_single]
  simp [eq_comm]
  tauto

def esInspect : ContainerJSON := ⟨"bridge", esBindings⟩

def esDocker : Docker := { Docker.quiet with inspect := fun _ => .ok esInspect }

theorem listedPort_bound_and_mapped_es :
    esDocker.inspect esListing.id = .ok esInspect ∧ SameBindings esListing esInspect.ports ∧
      listedPort esListing 9200 = some ⟨9200, 32001, "tcp"⟩ ∧
      (⟨9200, 32001, "tcp"⟩ : PortEntry).type = "tcp" ∧
      (BoundTo esInspect.ports 9200 "tcp" 32001 ∧
        (esInspect.networkMode ≠ "host" →
          (∀ bindings, (⟨toString 9200, "tcp"⟩, bindings) ∈ esInspect.ports.entries →
            ∀ binding ∈ bindings, binding.hostPort = toString 32001) →
          mappedPort esDocker esListing ⟨toString 9200, "tcp"⟩ =
            .ok (⟨toString 32001, "tcp"⟩, esInspect.networkMode))) :=
  ⟨rfl, sameBindings_es, rfl, rfl,
    listedPort_bound_and_mapped (show esDocker.inspect esListing.id = .ok esInspect from rfl)
      sameBindings_es (show listedPort esListing 9200 = some ⟨9200, 32001, "tcp"⟩ from rfl) rfl⟩

/-- Container port 9200 published twice; the listing names 32003 first while
the map holds 32001 first. -/
def esTwiceListing : Container := ⟨"es", "e2e_es_1", [⟨9200, 32003, "tcp"⟩, ⟨9200, 32001, "tcp"⟩]⟩

def esTwiceBindings : PortMap where
  entries := [(⟨toString 9200, "tcp"⟩, [⟨"0.0.0.0", toString 32001⟩, ⟨"0.0.0.0", toString 32003⟩])]
  keysNodup := by decide

theorem listedPort_ne_mappedPort :
    SameBindings esTwiceListing esTwiceBindings ∧
      listedPort esTwiceListing 9200 = some ⟨9200, 32003, "tcp"⟩ ∧
      mappedPort { Docker.quiet with inspect := fun _ => .ok ⟨"bridge", esTwiceBindings⟩ }
          esTwiceListing ⟨toString 9200, "tcp"⟩ =
        .ok (⟨toString 32001, "tcp"⟩, "bridge") := by
  refine ⟨fun privatePort publicPort type => ?_, rfl, rfl⟩
  simp only [esTwiceListing, esTwiceBindings, boundTo_single]
  simp [eq_comm]
  tauto

end InfraE2E.Compose
