import InfraE2E.EnvKeys

/-!
# Ports are published after their probes

`waitPort` publishes `<service>_<port>` only after the external check has
connected to `<gateway>:<public port>` and, after that, the internal probe of
the port has exited 0 in the container.  Over every run of `ComposeSetup`,
whatever the daemon answers, in what it appends to the log: every
`<service>_<port>` variable follows a dial of `<gateway>:<value>` that
connected and, between that dial and the variable, a probe of `<port>`; and
every `<service>_host` variable holds that same gateway address.

So a test that reads `<service>_host` and `<service>_<port>` gets an address
that has accepted a connection, and whose port a process in the container
listens on.

Conversely, when the daemon's answers let every check pass (every dial
eventually connects, every probe exits 0 before it exits 126 or the exec
fails, and `os.Setenv` accepts every variable), the loop over the services
returns without an error.  A loop that returns without an error, and so every
`ComposeSetup` that does, has set the variables of every service with ports
and of every declared port its container lists; `ComposeSetup` does so after
`compose up` and before it runs the steps.
-/

namespace InfraE2E.Compose

open Text Setup

/-- In `log`, every `<service>_host` variable is set to `ip`, and every
`<service>_<port>` variable is set after a dial of `ip:<value>` that
connected and, after that dial, a probe of `port` in a container. -/
def ProbedFirst (ip : String) (log : List Effect) : Prop :=
  ∀ front key value back, log = front ++ .setenv key value :: back →
    (∀ service, key = hostKey service → value = ip) ∧
    ∀ service port, key = portKey service port →
      ∃ before containerId between,
        front = before ++ .dial (joinHostPort ip value) true :: between ∧
        Effect.exec containerId (buildInternalCheckCommand port) ∈ between

theorem hostKey_ne_portKey (service service' : String) (port : Nat) :
    hostKey service ≠ portKey service' port := by
  rw [InfraE2E.compose_hostKey_eq_join, portKey, ne_eq,
    InfraE2E.underscoreJoin_inj underscore_not_mem_host (underscore_not_mem_toString port)]
  rintro ⟨-, same⟩
  exact not_mem_toString (show 'h'.isDigit = false from rfl)
    (show 'h' ∈ (toString port).data from same ▸ by decide)

section Log

variable {ip : String} {log log' : List Effect}

theorem probedFirst_of_noSetenv (quiet : ∀ effect ∈ log, NoSetenv effect) : ProbedFirst ip log :=
  fun front key value _ split =>
    absurd rfl (quiet _ (split ▸ List.mem_append_right front (List.mem_cons_self _ _)) key value)

/-- Probes before a variable stay before it when more is logged around them. -/
theorem ProbedFirst.append (first : ProbedFirst ip log) (second : ProbedFirst ip log') :
    ProbedFirst ip (log ++ log') := by
  intro front key value back split
  rcases List.append_eq_append_iff.mp split with ⟨middle, rfl, later⟩ | ⟨middle, earlier, rest⟩
  · obtain ⟨host, port⟩ := second middle key value back later
    refine ⟨host, fun service p named => ?_⟩
    obtain ⟨before, containerId, between, rfl, probed⟩ := port service p named
    exact ⟨log ++ before, containerId, between, by simp, probed⟩
  · cases middle with
    | nil =>
        simp only [List.append_nil, List.nil_append] at earlier rest
        subst earlier
        exact (second [] key value back (by simp [← rest])).imp id fun port service p named => by
          obtain ⟨before, containerId, between, split', probed⟩ := port service p named
          exact absurd split' (by simp)
    | cons effect middle =>
        obtain ⟨rfl, rfl⟩ := List.cons.inj rest
        exact first front key value middle earlier

theorem portKey_inj {service service' : String} {port port' : Nat}
    (same : portKey service port = portKey service' port') : service = service' ∧ port = port' := by
  obtain ⟨rfl, printed⟩ := (InfraE2E.underscoreJoin_inj (underscore_not_mem_toString port)
    (underscore_not_mem_toString port')).mp same
  exact ⟨rfl, toString_injective printed⟩

/-- After a log that sets no variable, a variable can only be the last effect. -/
theorem split_of_quiet {effect : Effect} {front back : List Effect} {key value : String}
    (quiet : ∀ effect ∈ log, NoSetenv effect)
    (split : log ++ [effect] = front ++ .setenv key value :: back) :
    front = log ∧ effect = .setenv key value := by
  rcases List.append_eq_append_iff.mp split with ⟨middle, rfl, last⟩ | ⟨middle, rfl, last⟩
  · cases middle with
    | nil =>
        simp only [List.append_nil, List.nil_append, List.cons.injEq] at last ⊢
        exact ⟨trivial, last.1⟩
    | cons _ _ => simp at last
  · cases middle with
    | nil =>
        simp only [List.append_nil, List.nil_append, List.cons.injEq] at last ⊢
        exact ⟨trivial, last.1.symm⟩
    | cons first middle =>
        obtain ⟨rfl, -⟩ := List.cons.inj last
        exact absurd rfl (quiet _ (by simp) key value)

/-- `<service>_host` set to the gateway address. -/
theorem probedFirst_host (service : String) : ProbedFirst ip [.setenv (hostKey service) ip] := by
  intro front key value back split
  obtain ⟨rfl, same⟩ := split_of_quiet (show ∀ effect ∈ ([] : List Effect), NoSetenv effect from nofun)
    split
  obtain ⟨rfl, rfl⟩ := Effect.setenv.inj same
  exact ⟨fun _ _ => rfl, fun _ _ named => absurd named (hostKey_ne_portKey _ _ _)⟩

/-- `<service>_<port>` set to the public port after a connected dial of the
gateway at that port and, after it, probes of the port. -/
theorem probedFirst_port {before between : List Effect} {containerId service : String}
    {port publicPort : Nat} (quiet : ∀ effect ∈ before, NoSetenv effect)
    (probes : ∀ effect ∈ between, effect = .exec containerId (buildInternalCheckCommand port))
    (probed : between ≠ []) :
    ProbedFirst ip (before ++ .dial (joinHostPort ip (toString publicPort)) true :: between ++
      [.setenv (portKey service port) (toString publicPort)]) := by
  intro front key value back split
  have quiet' : ∀ effect ∈ before ++ .dial (joinHostPort ip (toString publicPort)) true :: between,
      NoSetenv effect := by
    intro effect member
    rcases List.mem_append.mp member with early | late
    · exact quiet effect early
    · rcases List.mem_cons.mp late with rfl | probe
      · exact fun _ _ => nofun
      · exact probes effect probe ▸ fun _ _ => nofun
  obtain ⟨rfl, same⟩ := split_of_quiet quiet' split
  obtain ⟨rfl, rfl⟩ := Effect.setenv.inj same
  refine ⟨fun _ named => absurd named.symm (hostKey_ne_portKey _ _ _), fun _ _ named => ?_⟩
  obtain ⟨-, rfl⟩ := portKey_inj named
  obtain ⟨first, rest, rfl⟩ := List.exists_cons_of_ne_nil probed
  exact ⟨before, containerId, first :: rest, rfl,
    probes first (List.mem_cons_self _ _) ▸ List.mem_cons_self _ _⟩

end Log

/-! ## The checks of one port -/

/-- The external check logs only dials of `address`; when it returns, the last
dial connected. -/
theorem dialUntilConnected_log (address : String) (outcomes : List Bool) (world : World) :
    ∃ dials, (dialUntilConnected address outcomes world).1.log = world.log ++ dials ∧
      (∀ effect ∈ dials, NoSetenv effect) ∧
      ∀ result, (dialUntilConnected address outcomes world).2 = some result →
        ∃ before, dials = before ++ [.dial address true] := by
  induction outcomes generalizing world with
  | nil => exact ⟨[], by simp [dialUntilConnected], nofun, by simp [dialUntilConnected]⟩
  | cons connected outcomes induction =>
      simp only [dialUntilConnected]
      rw [bind_of_ok (emit_apply _ _)]
      cases connected with
      | true => exact ⟨[.dial address true], rfl, by simp [NoSetenv], fun _ _ => ⟨[], rfl⟩⟩
      | false =>
          obtain ⟨dials, grown, quiet, last⟩ :=
            induction { world with log := world.log ++ [.dial address false] }
          refine ⟨.dial address false :: dials, by simpa using grown, ?_, fun result returned => ?_⟩
          · exact List.forall_mem_cons.mpr ⟨fun _ _ => nofun, quiet⟩
          · obtain ⟨before, rfl⟩ := last result returned
            exact ⟨.dial address false :: before, rfl⟩

/-- The internal check logs only execs of `command` in `containerId`; when it
returns without an error, it has logged at least one. -/
theorem execUntilReady_log (containerId command : String) (outcomes : List (Except String Int))
    (world : World) :
    ∃ execs, (execUntilReady containerId command outcomes world).1.log = world.log ++ execs ∧
      (∀ effect ∈ execs, effect = .exec containerId command) ∧
      ((execUntilReady containerId command outcomes world).2 = some (.ok ()) → execs ≠ []) := by
  induction outcomes generalizing world with
  | nil => exact ⟨[], by simp [execUntilReady], nofun, by simp [execUntilReady]⟩
  | cons outcome outcomes induction =>
      simp only [execUntilReady]
      rw [bind_of_ok (emit_apply _ _)]
      have once : ∀ effect ∈ [Effect.exec containerId command], effect = .exec containerId command :=
        by simp
      rcases outcome with message | exitCode
      · exact ⟨_, rfl, once, fun _ => List.cons_ne_nil _ _⟩
      · dsimp only
        split
        · exact ⟨_, rfl, once, fun _ => List.cons_ne_nil _ _⟩
        split
        · exact ⟨_, rfl, once, fun _ => List.cons_ne_nil _ _⟩
        obtain ⟨execs, grown, probes, -⟩ :=
          induction { world with log := world.log ++ [.exec containerId command] }
        exact ⟨.exec containerId command :: execs, by simpa using grown,
          List.forall_mem_cons.mpr ⟨rfl, probes⟩, fun _ => List.cons_ne_nil _ _⟩

/-! ## Every run -/

/-- The call appends to the log, and in what it appends every variable
follows its probes. -/
def ProbesFirst {α : Type} (ip : String) (call : Setup α) : Prop :=
  ∀ world, ∃ more, (call world).1.log = world.log ++ more ∧ ProbedFirst ip more

section Calls

variable {α β : Type} {ip : String}

theorem ProbesFirst.of_quiet {call : Setup α} (quiet : AppendsOnly NoSetenv call) :
    ProbesFirst ip call :=
  fun world => (quiet world).imp fun _ ⟨grown, quiet⟩ => ⟨grown, probedFirst_of_noSetenv quiet⟩

theorem ProbesFirst.bind {call : Setup α} {next : α → Setup β} (first : ProbesFirst ip call)
    (rest : ∀ value, ProbesFirst ip (next value)) : ProbesFirst ip (call >>= next) := by
  intro world
  obtain ⟨more, grown, probed⟩ := first world
  rw [bind_apply]
  match ran : call world with
  | (after, some (.ok value)) =>
      obtain ⟨later, grownAgain, probedAgain⟩ := rest value after
      rw [ran] at grown
      exact ⟨more ++ later, by simp only [grownAgain, show after.log = _ from grown,
        List.append_assoc], probed.append probedAgain⟩
  | (after, some (.error _)) => exact ⟨more, by simpa [ran] using grown, probed⟩
  | (after, none) => exact ⟨more, by simpa [ran] using grown, probed⟩

theorem ProbesFirst.lift_bind {result : Except String α} {next : α → Setup β}
    (rest : ∀ value, result = .ok value → ProbesFirst ip (next value)) :
    ProbesFirst ip (Setup.lift result >>= next) := by
  intro world
  cases result with
  | error message =>
      exact ⟨[], by simp [bind_of_error (lift_apply (.error message) world)],
        probedFirst_of_noSetenv nofun⟩
  | ok value => simpa [bind_of_ok (lift_apply (.ok value) world)] using rest value rfl world

end Calls

/-- One declared port: the variable of its listed entry, after its checks. -/
theorem waitPort_probesFirst (docker : Docker) (ip service : String) (container : Container)
    (expectPort : Int) : ProbesFirst ip (waitPort docker ip service container expectPort) := by
  unfold waitPort
  split
  · exact ProbesFirst.of_quiet (AppendsOnly.pure _)
  rename_i entry _
  intro world
  obtain ⟨dials, dialed, quietDials, connected⟩ := dialUntilConnected_log
    (joinHostPort ip (toString entry.publicPort))
    (docker.dial (joinHostPort ip (toString entry.publicPort))) world
  dsimp only
  rw [bind_apply]
  match ran : dialUntilConnected (joinHostPort ip (toString entry.publicPort))
      (docker.dial (joinHostPort ip (toString entry.publicPort))) world with
  | (after, some (.error _)) =>
      exact ⟨dials, by simpa [ran] using dialed, probedFirst_of_noSetenv quietDials⟩
  | (after, none) => exact ⟨dials, by simpa [ran] using dialed, probedFirst_of_noSetenv quietDials⟩
  | (after, some (.ok ())) =>
      rw [ran] at dialed connected
      obtain ⟨before, rfl⟩ := connected _ rfl
      simp only at dialed
      obtain ⟨execs, execd, probes, probed⟩ := execUntilReady_log container.id
        (buildInternalCheckCommand entry.privatePort)
        (docker.exec container.id (buildInternalCheckCommand entry.privatePort)) after
      have quiet : ∀ effect ∈ before ++ [.dial (joinHostPort ip (toString entry.publicPort)) true] ++
          execs, NoSetenv effect := fun effect member =>
        (List.mem_append.mp member).elim (quietDials effect)
          fun probe => probes effect probe ▸ fun _ _ => nofun
      dsimp only
      rw [bind_apply]
      match ran' : execUntilReady container.id (buildInternalCheckCommand entry.privatePort)
          (docker.exec container.id (buildInternalCheckCommand entry.privatePort)) after with
      | (final, some (.error _)) =>
          exact ⟨_, by simpa [ran', dialed] using execd, probedFirst_of_noSetenv quiet⟩
      | (final, none) => exact ⟨_, by simpa [ran', dialed] using execd, probedFirst_of_noSetenv quiet⟩
      | (final, some (.ok ())) =>
          rw [ran'] at execd probed
          simp only at execd
          dsimp only
          unfold exportComposeEnv
          split
          · refine ⟨before ++ .dial (joinHostPort ip (toString entry.publicPort)) true :: execs ++
              [.setenv (portKey service entry.privatePort) (toString entry.publicPort)],
              by simp [execd, dialed], probedFirst_port (fun effect member =>
                quietDials effect (List.mem_append_left _ member)) probes (probed rfl)⟩
          · exact ⟨_, by simpa [dialed] using execd, probedFirst_of_noSetenv quiet⟩

theorem waitPorts_probesFirst (docker : Docker) (ip service : String) (container : Container) :
    ∀ portList, ProbesFirst ip (waitPorts docker ip service container portList)
  | [] => ProbesFirst.of_quiet (AppendsOnly.pure _)
  | expectPort :: portList => (waitPort_probesFirst docker ip service container expectPort).bind
      fun _ => waitPorts_probesFirst docker ip service container portList

theorem exportComposeEnv_host_probesFirst (ip service : String) :
    ProbesFirst ip (exportComposeEnv (hostKey service) ip service) := by
  unfold exportComposeEnv
  split
  · exact fun world => ⟨_, rfl, probedFirst_host service⟩
  · exact ProbesFirst.of_quiet (AppendsOnly.fail _)

theorem exportServices_probesFirst (docker : Docker) (identifier ip : String) :
    ∀ serviceWithPorts, ProbesFirst ip (exportServices docker identifier ip serviceWithPorts)
  | [] => ProbesFirst.of_quiet (AppendsOnly.pure _)
  | (service, portList) :: rest => by
      unfold exportServices
      refine ProbesFirst.lift_bind fun container _ => ?_
      split
      · exact exportServices_probesFirst docker identifier ip rest
      · exact (exportComposeEnv_host_probesFirst ip service).bind fun _ =>
          (waitPorts_probesFirst docker ip service container portList).bind fun _ =>
            exportServices_probesFirst docker identifier ip rest

/-- Whatever the daemon answers, in what `ComposeSetup` appends to the log,
every `<service>_<port>` variable follows a dial of `<gateway>:<value>` that
connected and, after that dial, a probe of `<port>` in a container; and
`<gateway>` is the value of every `<service>_host` it sets, with `<gateway>`
the address `getGatewayIP` returned (`""` when it failed). -/
theorem composeSetup_probes_before_publishing (docker : Docker)
    (runStepsAndWait : Except String Unit) (config : ComposeConfig) (world : World) :
    ∃ more, (composeSetup docker runStepsAndWait config world).1.log = world.log ++ more ∧
      ProbedFirst (gatewayAddress docker world) more := by
  unfold composeSetup
  split
  · exact ⟨[], by simp, probedFirst_of_noSetenv nofun⟩
  cases client : docker.newClient with
  | error message =>
      exact ⟨[], by simp [bind_apply], probedFirst_of_noSetenv nofun⟩
  | ok u =>
      obtain ⟨discovered, network, located, discoveredRan, locatedRan⟩ := discovery_ok docker world
      generalize gatewayAddress docker world = ip at locatedRan ⊢
      obtain ⟨found, foundGrown, foundQuiet⟩ :=
        (getDefaultNetwork_appendsOnly (fun _ quiet => quiet) docker).ignoringError "" world
      obtain ⟨gateway, gatewayGrown, gatewayQuiet⟩ :=
        (getGatewayIP_appendsOnly (fun _ quiet => quiet) docker).ignoringError "" discovered
      rw [discoveredRan] at foundGrown
      rw [locatedRan] at gatewayGrown
      simp only at foundGrown gatewayGrown
      have rest : ProbesFirst ip (do
          let serviceWithPorts ←
            lift ((bindWaitPort config.services).mapError ("bind wait ports error: " ++ ·))
          emit .composeUp
          lift docker.composeUp
          exportServices docker config.identifier ip serviceWithPorts
          emit .runSteps
          lift runStepsAndWait) :=
        ProbesFirst.lift_bind fun serviceWithPorts _ =>
          (ProbesFirst.of_quiet (AppendsOnly.emit (show NoSetenv .composeUp from fun _ _ => nofun))).bind
            fun _ => (ProbesFirst.of_quiet (AppendsOnly.lift _)).bind fun _ =>
              (exportServices_probesFirst docker config.identifier ip serviceWithPorts).bind fun _ =>
                (ProbesFirst.of_quiet
                  (AppendsOnly.emit (show NoSetenv .runSteps from fun _ _ => nofun))).bind fun _ =>
                  ProbesFirst.of_quiet (AppendsOnly.lift _)
      rw [bind_of_ok (lift_apply _ _), bind_of_ok discoveredRan, bind_of_ok locatedRan]
      obtain ⟨more, grown, probed⟩ := rest located
      exact ⟨found ++ gateway ++ more, by simp [grown, gatewayGrown, foundGrown],
        ((probedFirst_of_noSetenv foundQuiet).append (probedFirst_of_noSetenv gatewayQuiet)).append
          probed⟩

/-! ## When the checks pass -/

/-- Answers of the internal probe that comes up: exit codes other than 0 and
126, then 0. -/
def ProbeComesUp (outcomes : List (Except String Int)) : Prop :=
  ∃ front back, outcomes = front ++ .ok 0 :: back ∧
    ∀ outcome ∈ front, ∃ exitCode, outcome = .ok exitCode ∧ exitCode ≠ 0 ∧ exitCode ≠ 126

theorem dialUntilConnected_ok {address : String} {outcomes : List Bool}
    (connects : true ∈ outcomes) (world : World) :
    ∃ after, dialUntilConnected address outcomes world = (after, some (.ok ())) := by
  induction outcomes generalizing world with
  | nil => cases connects
  | cons connected outcomes induction =>
      simp only [dialUntilConnected]
      rw [bind_of_ok (emit_apply _ _)]
      cases connected with
      | true => exact ⟨_, rfl⟩
      | false => exact induction (by simpa using connects) _

theorem execUntilReady_ok {containerId command : String} {outcomes : List (Except String Int)}
    (comesUp : ProbeComesUp outcomes) (world : World) :
    ∃ after, execUntilReady containerId command outcomes world = (after, some (.ok ())) := by
  obtain ⟨front, back, rfl, failing⟩ := comesUp
  induction front generalizing world with
  | nil =>
      exact ⟨{ world with log := world.log ++ [.exec containerId command] },
        by simp [execUntilReady, bind_of_ok (emit_apply _ _)]⟩
  | cons outcome front induction =>
      obtain ⟨exitCode, rfl, notZero, notShell⟩ := failing outcome (List.mem_cons_self _ _)
      simp only [List.cons_append, execUntilReady]
      rw [bind_of_ok (emit_apply _ _)]
      simpa [notZero, notShell] using
        induction _ fun outcome later => failing outcome (List.mem_cons_of_mem _ later)

/-- Every check of a declared port of `container` that the container lists
passes, and its variable is one `os.Setenv` accepts. -/
def PortsComeUp (docker : Docker) (ip service : String) (container : Container)
    (portList : List Int) : Prop :=
  ∀ expectPort ∈ portList, ∀ entry, listedPort container expectPort = some entry →
    true ∈ docker.dial (joinHostPort ip (toString entry.publicPort)) ∧
    ProbeComesUp (docker.exec container.id (buildInternalCheckCommand entry.privatePort)) ∧
    setenvValid (portKey service entry.privatePort) (toString entry.publicPort) = true

/-- The variables of the listed entries of `portList`. -/
def ListedSet (service : String) (container : Container) (portList : List Int)
    (log : List Effect) : Prop :=
  ∀ expectPort ∈ portList, ∀ entry, listedPort container expectPort = some entry →
    Effect.setenv (portKey service entry.privatePort) (toString entry.publicPort) ∈ log

/-- For every service of `serviceWithPorts` its container is found and every
check of its listed declared ports passes; a service with ports has a host
variable `os.Setenv` accepts. -/
def ServicesComeUp (docker : Docker) (identifier ip : String)
    (serviceWithPorts : List (String × List Int)) : Prop :=
  ∀ service portList, (service, portList) ∈ serviceWithPorts →
    ∃ container, findContainer docker (identifier ++ "_" ++ getInstanceName service) = .ok container ∧
      (portList ≠ [] → setenvValid (hostKey service) ip = true) ∧
      PortsComeUp docker ip service container portList

section ComesUp

variable {docker : Docker} {ip service : String} {container : Container}

theorem waitPort_ok {expectPort : Int} (comesUp : PortsComeUp docker ip service container [expectPort])
    (world : World) :
    ∃ after, waitPort docker ip service container expectPort world = (after, some (.ok ())) := by
  unfold waitPort
  cases listed : listedPort container expectPort with
  | none => exact ⟨world, rfl⟩
  | some entry =>
      obtain ⟨connects, probeUp, valid⟩ := comesUp expectPort (List.mem_singleton_self _) entry listed
      obtain ⟨dialed, dialOk⟩ := dialUntilConnected_ok connects world
      obtain ⟨probed, probeOk⟩ := execUntilReady_ok probeUp dialed
      dsimp only
      rw [bind_of_ok dialOk, bind_of_ok probeOk]
      simp [exportComposeEnv, valid]

theorem waitPorts_ok {portList : List Int} (comesUp : PortsComeUp docker ip service container portList)
    (world : World) :
    ∃ after, waitPorts docker ip service container portList world = (after, some (.ok ())) := by
  induction portList generalizing world with
  | nil => exact ⟨world, rfl⟩
  | cons expectPort portList induction =>
      obtain ⟨first, firstOk⟩ := waitPort_ok (fun port member =>
        comesUp port (List.mem_cons.mpr (.inl (List.mem_singleton.mp member)))) world
      simp only [waitPorts]
      rw [bind_of_ok firstOk]
      exact induction (fun port member => comesUp port (List.mem_cons_of_mem _ member)) first

theorem exportServices_ok {identifier : String} {serviceWithPorts : List (String × List Int)}
    (comesUp : ServicesComeUp docker identifier ip serviceWithPorts) (world : World) :
    ∃ after, exportServices docker identifier ip serviceWithPorts world = (after, some (.ok ())) := by
  induction serviceWithPorts generalizing world with
  | nil => exact ⟨world, rfl⟩
  | cons head rest induction =>
      obtain ⟨service, portList⟩ := head
      obtain ⟨container, found, hostValid, portsUp⟩ := comesUp service portList (.head _)
      have restUp : ServicesComeUp docker identifier ip rest :=
        fun service portList member => comesUp service portList (.tail _ member)
      simp only [exportServices, found]
      rw [bind_of_ok (lift_apply _ _)]
      by_cases empty : portList = []
      · simpa [empty] using induction restUp world
      · obtain ⟨ported, portsOk⟩ := waitPorts_ok portsUp
          { world with log := world.log ++ [.setenv (hostKey service) ip] }
        simpa [exportComposeEnv, hostValid empty, empty, bind_of_ok (emit_apply _ _),
          bind_of_ok portsOk] using
          induction restUp ported

end ComesUp

/-! ## What a run without an error has done -/

section Succeeds

variable {docker : Docker} {ip service : String} {container : Container}

theorem Setup.Appends.mem_of_ran {α : Type} {call : Setup α} {world after : World}
    {result : Option (Except String α)} (grows : Appends call) (ran : call world = (after, result))
    {effect : Effect} (logged : effect ∈ world.log) : effect ∈ after.log := by
  simpa [ran] using grows.mem_log logged

theorem ListedSet.of_ran {α : Type} {portList : List Int} {call : Setup α} {world after : World}
    {result : Option (Except String α)} (set : ListedSet service container portList world.log)
    (grows : Appends call) (ran : call world = (after, result)) :
    ListedSet service container portList after.log :=
  fun expectPort member entry listed => grows.mem_of_ran ran (set expectPort member entry listed)

theorem exportComposeEnv_sets {key value : String} {world after : World}
    (ran : exportComposeEnv key value service world = (after, some (.ok ()))) :
    Effect.setenv key value ∈ after.log := by
  unfold exportComposeEnv at ran
  split at ran
  · cases ran
    exact List.mem_append_right _ (List.mem_singleton_self _)
  · simp at ran

theorem waitPort_sets {expectPort : Int} {world after : World}
    (ran : waitPort docker ip service container expectPort world = (after, some (.ok ()))) :
    ListedSet service container [expectPort] after.log := by
  intro port member entry listed
  obtain rfl := List.mem_singleton.mp member
  simp only [waitPort, listed] at ran
  obtain ⟨dialed, _, -, probing⟩ := bind_eq_ok ran
  obtain ⟨probed, _, -, exported⟩ := bind_eq_ok probing
  exact exportComposeEnv_sets exported

theorem waitPorts_sets {portList : List Int} {world after : World}
    (ran : waitPorts docker ip service container portList world = (after, some (.ok ()))) :
    ListedSet service container portList after.log := by
  induction portList generalizing world with
  | nil => exact nofun
  | cons expectPort portList induction =>
      obtain ⟨first, _, firstOk, restOk⟩ := bind_eq_ok ran
      have kept := (waitPort_sets firstOk).of_ran
        (waitPorts_appends docker ip service container portList) restOk
      intro port member
      rcases List.mem_cons.mp member with rfl | later
      · exact kept port (List.mem_singleton_self _)
      · exact induction restOk port later

/-- A loop over the services that returns without an error has found every
service's container and set the host variable of every service with ports and
the variable of every declared port its container lists. -/
theorem exportServices_sets {identifier : String} {serviceWithPorts : List (String × List Int)}
    {world after : World}
    (ran : exportServices docker identifier ip serviceWithPorts world = (after, some (.ok ()))) :
    ∀ service portList, (service, portList) ∈ serviceWithPorts → ∃ container,
      findContainer docker (identifier ++ "_" ++ getInstanceName service) = .ok container ∧
      (portList ≠ [] → Effect.setenv (hostKey service) ip ∈ after.log) ∧
      ListedSet service container portList after.log := by
  induction serviceWithPorts generalizing world with
  | nil => exact nofun
  | cons head rest induction =>
      obtain ⟨service, portList⟩ := head
      simp only [exportServices] at ran
      obtain ⟨looked, container, foundRan, looped⟩ := bind_eq_ok ran
      obtain ⟨rfl, found⟩ : looked = world ∧
          findContainer docker (identifier ++ "_" ++ getInstanceName service) = .ok container := by
        simpa [eq_comm] using foundRan
      -- the variables of this service, and the run over the rest that follows
      obtain ⟨middle, restOk, hostSet, portsSet⟩ : ∃ middle,
          exportServices docker identifier ip rest middle = (after, some (.ok ())) ∧
          (portList ≠ [] → Effect.setenv (hostKey service) ip ∈ after.log) ∧
          ListedSet service container portList after.log := by
        split at looped
        · obtain rfl := List.isEmpty_iff.mp ‹_›
          exact ⟨_, looped, (absurd rfl ·), nofun⟩
        · obtain ⟨hosted, _, hostOk, porting⟩ := bind_eq_ok looped
          obtain ⟨ported, _, portsOk, restOk⟩ := bind_eq_ok porting
          have grows := exportServices_appends docker identifier ip rest
          exact ⟨ported, restOk, fun _ => grows.mem_of_ran restOk
            ((waitPorts_appends docker ip service container portList).mem_of_ran portsOk
              (exportComposeEnv_sets hostOk)), (waitPorts_sets portsOk).of_ran grows restOk⟩
      intro service' portList' member
      rcases List.mem_cons.mp member with same | later
      · obtain ⟨rfl, rfl⟩ := Prod.mk.inj same
        exact ⟨container, found, hostSet, portsSet⟩
      · exact induction restOk service' portList' later

end Succeeds

/-- When every check passes, the loop over the services returns without an
error, having set the host variable of every service with ports and the
variable of every declared port its container lists. -/
theorem exportServices_publishes_all {docker : Docker} {identifier ip : String}
    {serviceWithPorts : List (String × List Int)}
    (comesUp : ServicesComeUp docker identifier ip serviceWithPorts) (world : World) :
    ∃ after, exportServices docker identifier ip serviceWithPorts world = (after, some (.ok ())) ∧
      ∀ service portList, (service, portList) ∈ serviceWithPorts → ∀ container,
        findContainer docker (identifier ++ "_" ++ getInstanceName service) = .ok container →
        (portList ≠ [] → Effect.setenv (hostKey service) ip ∈ after.log) ∧
        ListedSet service container portList after.log := by
  obtain ⟨after, ran⟩ := exportServices_ok comesUp world
  refine ⟨after, ran, fun service portList member container found => ?_⟩
  obtain ⟨found', foundOk, hostSet, portsSet⟩ := exportServices_sets ran service portList member
  obtain rfl : found' = container := Except.ok.inj (foundOk.symm.trans found)
  exact ⟨hostSet, portsSet⟩

/-- `es` is up, listing port 9200 on host port 32001, and every check passes
at once. -/
def esDaemon : Docker :=
  { Docker.quiet with containers := [⟨"c1", "e2e_es_1", [⟨9200, 32001, "tcp"⟩]⟩] }

theorem exportServices_publishes_all_es :
    ServicesComeUp esDaemon "e2e" "172.17.0.1" [("es", [9200])] ∧
      ∃ after, exportServices esDaemon "e2e" "172.17.0.1" [("es", [9200])] ⟨[], []⟩ =
          (after, some (.ok ())) ∧
        ∀ service portList, (service, portList) ∈ [("es", [(9200 : Int)])] → ∀ container,
          findContainer esDaemon ("e2e" ++ "_" ++ getInstanceName service) = .ok container →
          (portList ≠ [] → Effect.setenv (hostKey service) "172.17.0.1" ∈ after.log) ∧
          ListedSet service container portList after.log :=
  have comesUp : ServicesComeUp esDaemon "e2e" "172.17.0.1" [("es", [9200])] := by
    intro service portList member
    obtain ⟨rfl, rfl⟩ := Prod.mk.inj (List.mem_singleton.mp member)
    refine ⟨⟨"c1", "e2e_es_1", [⟨9200, 32001, "tcp"⟩]⟩, rfl, fun _ => by decide, ?_⟩
    intro expectPort member entry listed
    obtain rfl := List.mem_singleton.mp member
    obtain rfl : (⟨9200, 32001, "tcp"⟩ : PortEntry) = entry := Option.some.inj listed
    exact ⟨by decide, ⟨[], [], rfl, nofun⟩, by decide⟩
  ⟨comesUp, exportServices_publishes_all comesUp ⟨[], []⟩⟩

/-- When `ComposeSetup` returns without an error, running the steps is the
last thing it did, and before that it brought the stack up, found the
container of every service with declared ports, and set the host variable of
every service with ports and the variable of every declared port its
container lists. -/
theorem composeSetup_publishes_before_steps {docker : Docker} {runStepsAndWait : Except String Unit}
    {config : ComposeConfig} {world : World}
    (succeeded : (composeSetup docker runStepsAndWait config world).2 = some (.ok ())) :
    ∃ ip serviceWithPorts before, bindWaitPort config.services = .ok serviceWithPorts ∧
      (composeSetup docker runStepsAndWait config world).1.log = before ++ [.runSteps] ∧
      Effect.composeUp ∈ before ∧
      ∀ service portList, (service, portList) ∈ serviceWithPorts → ∃ container,
        findContainer docker (config.identifier ++ "_" ++ getInstanceName service) = .ok container ∧
        (portList ≠ [] → Effect.setenv (hostKey service) ip ∈ before) ∧
        ListedSet service container portList before := by
  obtain ⟨final, ran⟩ : ∃ final, composeSetup docker runStepsAndWait config world =
      (final, some (.ok ())) := ⟨_, Prod.ext rfl succeeded⟩
  rw [ran]
  unfold composeSetup at ran
  split at ran
  · simp at ran
  obtain ⟨client, _, -, discovering⟩ := bind_eq_ok ran
  obtain ⟨discovered, _, -, locating⟩ := bind_eq_ok discovering
  obtain ⟨located, ip, -, binding⟩ := bind_eq_ok locating
  obtain ⟨bound, serviceWithPorts, boundRan, upping⟩ := bind_eq_ok binding
  obtain ⟨upped, _, uppedRan, composing⟩ := bind_eq_ok upping
  obtain ⟨composed, _, composedRan, looping⟩ := bind_eq_ok composing
  obtain ⟨looped, _, loopOk, stepping⟩ := bind_eq_ok looping
  obtain ⟨stepped, _, steppedRan, finished⟩ := bind_eq_ok stepping
  simp only [lift_apply, emit_apply, Prod.mk.injEq, Option.some.injEq] at *
  obtain ⟨rfl, read⟩ := boundRan
  obtain ⟨rfl, -⟩ := uppedRan
  obtain ⟨rfl, -⟩ := composedRan
  obtain ⟨rfl, -⟩ := steppedRan
  obtain ⟨rfl, -⟩ := finished
  refine ⟨ip, serviceWithPorts, looped.log, ?_, rfl,
    (exportServices_appends _ _ _ _).mem_of_ran loopOk (List.mem_append_right _ (List.mem_singleton_self _)),
    exportServices_sets loopOk⟩
  cases readPorts : bindWaitPort config.services <;> simp [readPorts, Except.mapError] at read ⊢
  exact read

theorem composeSetup_publishes_before_steps_es :
    (composeSetup esDaemon (.ok ()) esConfig ⟨[⟨"bridge", ["172.17.0.1"]⟩], []⟩).2 = some (.ok ()) ∧
      ∃ ip serviceWithPorts before, bindWaitPort esConfig.services = .ok serviceWithPorts ∧
        (composeSetup esDaemon (.ok ()) esConfig ⟨[⟨"bridge", ["172.17.0.1"]⟩], []⟩).1.log =
          before ++ [.runSteps] ∧
        Effect.composeUp ∈ before ∧
        ∀ service portList, (service, portList) ∈ serviceWithPorts → ∃ container,
          findContainer esDaemon (esConfig.identifier ++ "_" ++ getInstanceName service) =
            .ok container ∧
          (portList ≠ [] → Effect.setenv (hostKey service) ip ∈ before) ∧
          ListedSet service container portList before :=
  ⟨rfl, composeSetup_publishes_before_steps rfl⟩

end InfraE2E.Compose
