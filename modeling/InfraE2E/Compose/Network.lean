import InfraE2E.Compose.Daemon

/-!
# Network discovery

`getDefaultNetwork` picks the network `bridge` when the daemon lists it, and
otherwise the testcontainers reaper network, which it creates when it is
missing.  `getGatewayIP` runs that discovery again, inspects the chosen
network and returns the first non-empty gateway of its IPAM configuration.

Both return the zero value `""` beside every error.  `getGatewayIP` drops
the error of its own discovery, and inspecting the empty name then fails.
-/

namespace InfraE2E.Compose

open Setup

/-- `testcontainers.ReaperDefault`. -/
def reaperDefault : String := "reaper_default"

/-- `cli.NetworkList`. -/
def networkList (docker : Docker) : Setup (List NetworkResource) := fun world =>
  (world, some (match docker.networkListError with
    | some message => .error message
    | none => .ok world.networks))

/-- `cli.NetworkCreate`: the daemon adds the network with the gateways it
allocates. -/
def networkCreate (docker : Docker) (name : String) : Setup Unit := fun world =>
  match docker.networkCreateError with
  | some message => (world, some (.error message))
  | none =>
      ({ networks := world.networks ++ [⟨name, docker.createdGateways⟩]
         log := world.log ++ [.networkCreate name] }, some (.ok ()))

def getDefaultNetwork (docker : Docker) : Setup String := do
  let networkResources ← networkList docker
  if networkResources.any (·.name == "bridge") then
    return "bridge"
  else if networkResources.any (·.name == reaperDefault) then
    return reaperDefault
  else do
    networkCreate docker reaperDefault
    return reaperDefault

/-- `GetNetwork`: `NetworkInspect` by name.  The client refuses the empty name
before it asks the daemon. -/
def getNetwork (docker : Docker) (name : String) : Setup NetworkResource := fun world =>
  (world, some <|
    if name = "" then .error ("Error: No such network: " ++ name)
    else match docker.networkInspectError with
      | some message => .error message
      | none =>
          match world.networks.find? (·.name == name) with
          | some network => .ok network
          | none => .error ("Error: No such network: " ++ name))

/-- The first non-empty gateway, or `""`. -/
def firstGateway (gateways : List String) : String :=
  (gateways.find? (· != "")).getD ""

def getGatewayIP (docker : Docker) : Setup String := do
  let network ← ignoringError (getDefaultNetwork docker) ""
  let nw ← getNetwork docker network
  let ip := firstGateway nw.gateways
  if ip = "" then fail "Failed to get gateway IP from network settings" else return ip

theorem networkList_returns (docker : Docker) : Returns (networkList docker) :=
  fun _ => ⟨_, _, rfl⟩

theorem networkCreate_returns (docker : Docker) (name : String) :
    Returns (networkCreate docker name) := by
  intro world
  unfold networkCreate
  split <;> exact ⟨_, _, rfl⟩

/-- Network discovery never keeps the setup waiting. -/
theorem getDefaultNetwork_returns (docker : Docker) : Returns (getDefaultNetwork docker) := by
  refine Returns.bind (networkList_returns docker) fun networks => ?_
  split
  · exact Returns.pure _
  · split
    · exact Returns.pure _
    · exact Returns.bind (networkCreate_returns docker reaperDefault) fun _ => Returns.pure _

theorem getNetwork_returns (docker : Docker) (name : String) :
    Returns (getNetwork docker name) :=
  fun _ => ⟨_, _, rfl⟩

theorem getGatewayIP_returns (docker : Docker) : Returns (getGatewayIP docker) := by
  intro world
  obtain ⟨after, network, chosen⟩ := ignoringError_ok (getDefaultNetwork_returns docker) "" world
  unfold getGatewayIP
  rw [bind_of_ok chosen]
  refine Returns.bind (getNetwork_returns docker network) (fun nw => ?_) after
  dsimp only
  split
  · exact Returns.fail _
  · exact Returns.pure _

section Logged

variable {allowed : Effect → Prop}

/-- Network discovery logs at most the creation of the reaper network. -/
theorem getDefaultNetwork_appendsOnly (others : ∀ effect, NoSetenv effect → allowed effect)
    (docker : Docker) :
    AppendsOnly allowed (getDefaultNetwork docker) := by
  have created : AppendsOnly allowed (networkCreate docker reaperDefault) := by
    intro world
    unfold networkCreate
    split
    · exact ⟨[], by simp, nofun⟩
    · exact ⟨_, rfl, by simpa using others (.networkCreate reaperDefault) fun _ _ => nofun⟩
  refine AppendsOnly.bind (fun world => ⟨[], by simp [networkList], nofun⟩) fun networks => ?_
  split
  · exact AppendsOnly.pure _
  · split
    · exact AppendsOnly.pure _
    · exact AppendsOnly.bind created fun _ => AppendsOnly.pure _

theorem getGatewayIP_appendsOnly (others : ∀ effect, NoSetenv effect → allowed effect)
    (docker : Docker) : AppendsOnly allowed (getGatewayIP docker) := by
  refine AppendsOnly.bind ((getDefaultNetwork_appendsOnly others docker).ignoringError "")
    fun network => AppendsOnly.bind (fun world => ⟨[], by simp [getNetwork], nofun⟩) fun nw => ?_
  dsimp only
  split
  · exact AppendsOnly.fail _
  · exact AppendsOnly.pure _

end Logged

private theorem getNetwork_ok {docker : Docker} {name : String} {world after : World}
    {network : NetworkResource} (found : getNetwork docker name world = (after, some (.ok network))) :
    after = world ∧ network ∈ world.networks := by
  simp only [getNetwork, Prod.mk.injEq] at found
  obtain ⟨rfl, found⟩ := found
  refine ⟨rfl, ?_⟩
  split at found
  · cases found
  · split at found
    · cases found
    · split at found
      · rename_i located
        cases found
        exact List.mem_of_find?_eq_some located
      · cases found

private theorem firstGateway_mem {gateways : List String} (nonempty : firstGateway gateways ≠ "") :
    firstGateway gateways ∈ gateways := by
  unfold firstGateway at nonempty ⊢
  cases found : gateways.find? (· != "") with
  | none => simp [found] at nonempty
  | some gateway => simpa [found] using List.mem_of_find?_eq_some found

/-- What `getGatewayIP` returns is a non-empty gateway of a network that the
daemon knows. -/
theorem getGatewayIP_ok {docker : Docker} {world after : World} {ip : String}
    (found : getGatewayIP docker world = (after, some (.ok ip))) :
    ip ≠ "" ∧ ∃ network ∈ after.networks, ip ∈ network.gateways := by
  obtain ⟨middle, name, -, inspected⟩ := bind_eq_ok found
  obtain ⟨middle', nw, located, checked⟩ := bind_eq_ok inspected
  obtain ⟨rfl, member⟩ := getNetwork_ok located
  by_cases empty : firstGateway nw.gateways = ""
  · simp [empty] at checked
  · simp only [empty, if_false, pure_apply, Prod.mk.injEq, Option.some.injEq,
      Except.ok.injEq] at checked
    obtain ⟨rfl, rfl⟩ := checked
    exact ⟨empty, nw, member, firstGateway_mem empty⟩

end InfraE2E.Compose
