import InfraE2E.Kind.Barrier

/-!
# What a bound context has published

`exposePerKindService` sets the variables of a request only in its ready
branch, and `exposeKindService` binds `portForwardContext` only after its loop
has gone through every request.  So in every interleaving, once the context
is bound, every request was resolved and seen ready, and the variables set
are each request's, in request order; and whenever every request resolves and
publishes, some interleaving binds the context with exactly those.

`publishKindService` is all or nothing: the variables a ready branch sets
before a refused `os.Setenv` are not recorded.  On a bound context no setenv
was refused, so the statement is exact there.
-/

namespace InfraE2E.Kind

/-- The variables the ready branch of `exposePerKindService` sets for `e`,
or `none` when it returns an error before or in that branch. -/
def requestEnv (e : Exposure) : Option (List (String × String)) :=
  match prepareKindService e with
  | .ok (convertedPorts, forwarder) => (publishKindService e convertedPorts forwarder).toOption
  | .error _ => none

/-- The variables set by an exposure loop that resolved and published every
request of `exports`: each request's, in request order. -/
def exposedEnv (exports : List Exposure) : Option (List (String × String)) :=
  exports.foldlM (fun env e => (env ++ ·) <$> requestEnv e) []

section Env

variable {e : Exposure} {convertedPorts : List KindPort} {forwarder : List ForwardedPort}
  {published : List (String × String)}

theorem requestEnv_of_published (prepared : prepareKindService e = .ok (convertedPorts, forwarder))
    (publishes : publishKindService e convertedPorts forwarder = .ok published) :
    requestEnv e = some published := by
  simp [requestEnv, prepared, publishes, Except.toOption]

theorem exposes_of_requestEnv (found : requestEnv e = some published) : Exposes e := by
  unfold requestEnv at found
  split at found
  · rename_i convertedPorts forwarder prepared
    cases publishes : publishKindService e convertedPorts forwarder <;>
      simp only [publishes, Except.toOption, reduceCtorEq, Option.some.injEq] at found
    exact ⟨convertedPorts, forwarder, published, prepared, found ▸ publishes⟩
  · cases found

theorem exposedEnv_concat (exports : List Exposure) (e : Exposure) :
    exposedEnv (exports ++ [e]) = (exposedEnv exports).bind fun env => (env ++ ·) <$> requestEnv e := by
  simp only [exposedEnv, List.foldlM_append, List.foldlM_cons, List.foldlM_nil]
  cases exposedEnv exports <;> simp

/-- A loop that published every request saw each of them resolve and publish. -/
theorem exposes_of_exposedEnv {exports : List Exposure} {env : List (String × String)}
    (all : exposedEnv exports = some env) : ∀ e ∈ exports, Exposes e := by
  unfold exposedEnv at all
  generalize ([] : List (String × String)) = before at all
  induction exports generalizing before with
  | nil => nofun
  | cons e rest induction =>
      simp only [List.foldlM_cons, Option.bind_eq_bind, Option.bind_eq_some] at all
      obtain ⟨after, published, rest_published⟩ := all
      obtain ⟨own, found, -⟩ := Option.map_eq_some'.mp published
      exact List.forall_mem_cons.mpr ⟨exposes_of_requestEnv found, induction after rest_published⟩

end Env

/-! ## The variables of every reachable state -/

/-- What `env` holds: once the context is bound, the variables of every
request; in the loop at request `index`, those of the requests before it;
at the `select` of request `index`, also that the worker forwards the ports
the request resolved to. -/
def EnvOk (exports : List Exposure) (s : ForwardState) : Prop :=
  (s.bound = true → exposedEnv exports = some s.env) ∧
    match s.main with
    | .exposing index => exposedEnv (exports.take index) = some s.env
    | .awaiting index convertedPorts forwarder =>
        exposedEnv (exports.take index) = some s.env ∧
          ∃ e, exports[index]? = some e ∧ prepareKindService e = .ok (convertedPorts, forwarder)
    | _ => True

section Step

variable {exports : List Exposure} {s s' : ForwardState}

theorem initial_envOk : EnvOk exports initial :=
  ⟨nofun, rfl⟩

/-- The loop's steps leave the context unbound, or bind it past the last
request. -/
theorem expose_envOk (inv : Invariant exports s) (ok : EnvOk exports s)
    (stepped : mainStep exports s .expose = some s') : EnvOk exports s' := by
  have phase := inv.phase
  simp only [mainStep] at stepped
  split at stepped <;> try contradiction
  rename_i index main
  simp only [EnvOk, main] at ok
  simp only [PhaseOk, main] at phase
  split at stepped
  · rename_i past
    cases stepped
    rw [List.take_of_length_le (List.getElem?_eq_none_iff.mp past)] at ok
    exact ⟨fun _ => ok.2, trivial⟩
  · rename_i e found
    split at stepped <;> cases stepped
    · exact ⟨by simp [phase.2], trivial⟩
    · exact ⟨by simp [phase.2], ok.2, e, found, ‹_›⟩

theorem selectReady_envOk (inv : Invariant exports s) (ok : EnvOk exports s)
    (stepped : mainStep exports s .selectReady = some s') : EnvOk exports s' := by
  have phase := inv.phase
  simp only [mainStep] at stepped
  split at stepped <;> try contradiction
  rename_i index convertedPorts forwarder main
  simp only [EnvOk, main] at ok
  simp only [PhaseOk, main] at phase
  obtain ⟨-, before, e, found, prepared⟩ := ok
  split at stepped <;> try contradiction
  rename_i e' w found' _
  obtain rfl : e = e' := Option.some.inj (found.symm.trans found')
  split at stepped <;> try contradiction
  split at stepped <;> cases stepped
  · exact ⟨by simp [phase.2], trivial⟩
  · rename_i published publishes
    refine ⟨by simp [phase.2], ?_⟩
    show exposedEnv (exports.take (index + 1)) = some (s.env ++ published)
    rw [List.take_succ, found, Option.toList_some, exposedEnv_concat, before,
      requestEnv_of_published prepared publishes]
    rfl

/-- Past the loop, the main goroutine keeps `env` and the context. -/
theorem settled_envOk {action : MainAction} (ok : EnvOk exports s)
    (settled : action ≠ .expose ∧ action ≠ .selectReady)
    (stepped : mainStep exports s action = some s') : EnvOk exports s' := by
  obtain ⟨bound, -⟩ := ok
  cases action <;> simp only [ne_eq, not_true_eq_false, false_and, and_false] at settled <;>
    simp only [mainStep] at stepped <;> split at stepped <;> (try contradiction) <;>
    (try split at stepped) <;> (try contradiction) <;> cases stepped <;>
    exact ⟨bound, by split <;> simp_all⟩

theorem step_envOk {action : Action} (inv : Invariant exports s) (ok : EnvOk exports s)
    (stepped : step exports s action = some s') : EnvOk exports s' := by
  cases action with
  | worker index action =>
      obtain ⟨-, -, -, -, -, -, rfl⟩ := step_worker_eq stepped
      exact ok
  | main action =>
      by_cases expose : action = .expose
      · exact expose_envOk inv ok (expose ▸ stepped)
      by_cases selectReady : action = .selectReady
      · exact selectReady_envOk inv ok (selectReady ▸ stepped)
      exact settled_envOk ok ⟨expose, selectReady⟩ stepped

theorem Steps.envOk {t : ForwardState} (run : Steps exports s t) (inv : Invariant exports s)
    (ok : EnvOk exports s) : EnvOk exports t := by
  induction run with
  | refl => exact ok
  | tail _ run stepped induction => exact step_envOk (run.invariant inv) induction stepped

theorem reachable_envOk (reachable : Reachable exports s) : EnvOk exports s :=
  reachable.envOk initial_invariant initial_envOk

end Step

/-- In every interleaving, a bound context has started one worker per
request, each seen ready, and has set exactly the variables of every request,
each resolved and published, in request order; and when every request
resolves and publishes, some interleaving binds the context with them. -/
theorem exposeKindService_binds_iff {exports : List Exposure} :
    (∀ s, Reachable exports s → s.bound = true →
      s.workers.length = exports.length ∧ (∀ w ∈ s.workers, w.readyClosed = true) ∧
        exposedEnv exports = some s.env) ∧
    ∀ env, (∃ s, Reachable exports s ∧ s.bound = true ∧ s.env = env) ↔
      exposedEnv exports = some env := by
  refine ⟨fun s reachable bound => ⟨spawned_of_bound reachable bound,
    readyClosed_of_bound reachable bound, (reachable_envOk reachable).1 bound⟩, fun env => ⟨?_, ?_⟩⟩
  · rintro ⟨s, reachable, bound, rfl⟩
    exact (reachable_envOk reachable).1 bound
  · intro all
    obtain ⟨env', looped⟩ := reachable_exposingState exports.length le_rfl
      fun _ e found _ => exposes_of_exposedEnv all e (List.getElem?_mem found)
    have bind : step exports (exposingState exports.length env') (.main .expose) =
        some { exposingState exports.length env' with main := .exposed, bound := true } := by
      simp [step, mainStep, exposingState]
    have reached := looped.tail _ bind
    obtain rfl : env' = env := Option.some.inj (((reachable_envOk reached).1 rfl).symm.trans all)
    exact ⟨_, reached, rfl, rfl⟩

/-! ## Workers and the teardown -/

section Teardown

variable {exports : List Exposure} {s t : ForwardState}

/-- A worker's step changes its own entry to what `workerStep` made of it. -/
theorem worker_after_step {index : Nat} {w : Worker} {action : WorkerAction}
    (found : s.workers[index]? = some w) (stepped : step exports s (.worker index action) = some t) :
    ∃ w' stop acks, workerStep exports.length s.stop s.acks w action = some (w', stop, acks) ∧
      t.workers[index]? = some w' ∧ t.main = s.main ∧ t.bound = s.bound := by
  obtain ⟨current, w', stop, acks, current_found, moved, rfl⟩ := step_worker_eq stepped
  obtain rfl : current = w := Option.some.inj (current_found.symm.trans found)
  exact ⟨w', stop, acks, moved, List.getElem?_set_self (List.getElem?_eq_some_iff.mp found).1,
    rfl, rfl⟩

/-- A worker whose forwarder failed reports the error by its own step. -/
theorem reporting_reports {index : Nat} {w : Worker} {error : String}
    (reachable : Reachable exports s) (found : s.workers[index]? = some w)
    (reporting : w.phase = .reporting error) :
    ∃ t w', step exports s (.worker index .reportError) = some t ∧
      t.workers[index]? = some w' ∧ w'.phase = .acking := by
  obtain ⟨t, stepped⟩ :=
    Option.isSome_iff_exists.mp (reportError_never_blocks reachable found reporting)
  obtain ⟨w', _, _, moved, current, -⟩ := worker_after_step found stepped
  obtain rfl : w' = { w with phase := .acking, forwardError := some error } := by
    simp only [workerStep, reporting] at moved
    split at moved <;> simp_all
  exact ⟨t, _, stepped, current, rfl⟩

/-- A worker that has sent its error, if any, acks by its own step. -/
theorem acking_finishes {index : Nat} {w : Worker} (reachable : Reachable exports s)
    (found : s.workers[index]? = some w) (acking : w.phase = .acking) :
    ∃ t, step exports s (.worker index .sendAck) = some t ∧
      t.workers[index]? = some { w with phase := .finished } ∧ t.main = s.main ∧
      t.bound = s.bound := by
  obtain ⟨t, stepped⟩ := Option.isSome_iff_exists.mp (sendAck_never_blocks reachable found acking)
  obtain ⟨w', _, _, moved, current, same⟩ := worker_after_step found stepped
  obtain rfl : w' = { w with phase := .finished } := by
    simp only [workerStep, acking] at moved
    split at moved <;> simp_all
  exact ⟨t, stepped, current, same⟩

/-- Once its `ForwardPorts` has returned, a worker goroutine finishes by its
own steps, whatever the other goroutines do: its `forwardErrorChannel` is
empty when it reports and `resourceFinishedChannel` has room when it acks. -/
theorem worker_finishes {index : Nat} {w : Worker} (reachable : Reachable exports s)
    (found : s.workers[index]? = some w) (returned : w.phase.hasReturned = true) :
    ∃ actions t w', actions ⊆ [.worker index .reportError, .worker index .sendAck] ∧
      run exports s actions = some t ∧ t.workers[index]? = some w' ∧ w'.phase = .finished := by
  rcases phase : w.phase with _ | _ | error | _ | _ <;>
    simp [phase, WorkerPhase.hasReturned] at returned
  · obtain ⟨reported, w', stepped, current, acking⟩ := reporting_reports reachable found phase
    obtain ⟨t, acked, current', -⟩ := acking_finishes (reachable.tail _ stepped) current acking
    exact ⟨_, t, _, List.Subset.refl _, by simp [run_cons, stepped, acked, run_nil], current', rfl⟩
  · obtain ⟨t, acked, current, -⟩ := acking_finishes reachable found phase
    exact ⟨[.worker index .sendAck], t, _, by simp, by simp [run_cons, acked, run_nil], current,
      rfl⟩
  · exact ⟨[], s, w, by simp, run_nil, found, phase⟩

/-- The forwarder of `pod/web-0` has failed before it was ready. -/
def webFailing : ForwardState :=
  ⟨.awaiting 0 [⟨"8080", 8080, ":8080"⟩] [⟨0, 8080⟩], [⟨.reporting "connection refused", false, none⟩],
    0, 0, false, false, []⟩

theorem worker_finishes_webFailing :
    Reachable [webExposure] webFailing ∧
      webFailing.workers[0]? = some ⟨.reporting "connection refused", false, none⟩ ∧
      (WorkerPhase.reporting "connection refused").hasReturned = true ∧
      ∃ actions t w', actions ⊆ [.worker 0 .reportError, .worker 0 .sendAck] ∧
        run [webExposure] webFailing actions = some t ∧ t.workers[0]? = some w' ∧
        w'.phase = .finished :=
  have reachable : Reachable [webExposure] webFailing := Steps.of_run
    (show run [webExposure] initial [.main .expose, .worker 0 (.fail "connection refused")] =
      some webFailing from rfl)
  ⟨reachable, rfl, rfl, worker_finishes reachable rfl rfl⟩

/-- No step unbinds the context. -/
theorem step_bound {action : Action} (stepped : step exports s action = some t)
    (bound : s.bound = true) : t.bound = true := by
  cases action with
  | worker index action =>
      obtain ⟨-, -, -, -, -, -, rfl⟩ := step_worker_eq stepped
      exact bound
  | main action =>
      cases action <;> simp only [step, mainStep] at stepped <;> repeat' split at stepped
      all_goals first | contradiction | (cases stepped; first | exact bound | rfl)

theorem Steps.bound (continued : Steps exports s t) (bound : s.bound = true) : t.bound = true := by
  induction continued with
  | refl => exact bound
  | tail _ _ stepped induction => exact step_bound stepped induction

/-- Past the loop, `KindCleanNotify` sends its stop value. -/
theorem reaches_draining (reachable : Reachable exports s)
    (settled : s.main = .exposed ∨ s.main = .stopping) (bound : s.bound = true) :
    ∃ t, Steps exports s t ∧ t.main = .draining 0 := by
  have balance := (reachable_invariant reachable).stops_balance
  have noStop : s.stop = 0 := by
    rcases settled with main | main <;> simp only [ForwardState.stopsSent, main] at balance <;> omega
  have sendStop : ∀ {u : ForwardState}, u.main = .stopping → u.stop = 0 →
      step exports u (.main .sendStop) = some { u with main := .draining 0, stop := 1 } :=
    fun main noStop => by simp [step, mainStep, main, noStop]
  rcases settled with main | main
  · have notify : step exports s (.main .cleanNotify) = some { s with main := .stopping } := by
      simp [step, mainStep, main, bound]
    exact ⟨_, .tail _ (.tail _ (.refl s) notify) (sendStop rfl noStop), rfl⟩
  · exact ⟨_, .tail _ (.refl s) (sendStop main noStop), rfl⟩

/-- Once every worker has acked, `KindCleanNotify` receives the acks left
and returns. -/
theorem drain_returns : ∀ (left : Nat) {s : ForwardState} {received : Nat},
    Reachable exports s → s.bound = true → s.main = .draining received →
      exports.length = received + left → (∀ w ∈ s.workers, w.phase = .finished) →
      ∃ t, Steps exports s t ∧ t.main = .cleaned
  | 0, s, received, _, _, draining, count, _ =>
      ⟨{ s with main := .cleaned },
        .tail (.main .finishClean) (.refl s) (by simp [step, mainStep, draining, count]), rfl⟩
  | left + 1, s, received, reachable, bound, draining, count, finished => by
      have inv := reachable_invariant reachable
      have balance := inv.acks_balance
      rw [List.countP_eq_length.mpr fun w member => by
        simp [finished w member, WorkerPhase.hasAcked], inv.spawned_of_bound bound] at balance
      simp only [ForwardState.received, draining] at balance
      have receive : step exports s (.main .receiveAck) =
          some { s with main := .draining (received + 1), acks := s.acks - 1 } := by
        simp only [step, mainStep, draining]
        rw [if_pos (by omega)]
      obtain ⟨t, rest, cleaned⟩ :=
        drain_returns left (reachable.tail _ receive) bound rfl (by omega) finished
      exact ⟨t, (Steps.tail _ (.refl s) receive).trans rest, cleaned⟩

/-- With at most one request, the one stop value frees the only forwarder,
and its worker acks. -/
theorem single_worker_finishes (single : exports.length ≤ 1) (reachable : Reachable exports s)
    (bound : s.bound = true) {received : Nat} (draining : s.main = .draining received) :
    ∃ t, Steps exports s t ∧ t.main = .draining received ∧ ∀ w ∈ t.workers, w.phase = .finished := by
  have inv := reachable_invariant reachable
  have spawned := inv.spawned_of_bound bound
  have onlyWorker : ∀ {u : ForwardState} {w : Worker}, Reachable exports u → u.bound = true →
      u.workers[0]? = some w → u.workers = [w] := fun {u w} reachable bound found => by
    have length := (reachable_invariant reachable).spawned_of_bound bound
    rcases workers : u.workers with _ | ⟨w', _ | ⟨_, _⟩⟩ <;> simp_all
    omega
  match workers : s.workers with
  | [] => exact ⟨s, .refl s, draining, by simp [workers]⟩
  | _ :: _ :: _ => simp [workers] at spawned; omega
  | [w] =>
      have found : s.workers[0]? = some w := by simp [workers]
      have ok := inv.workers_ok w (by simp [workers])
      have ready := readyClosed_of_bound reachable bound w (by simp [workers])
      have finishes : ∀ {u : ForwardState} {v : Worker}, Steps exports s u → u.main = s.main →
          u.bound = true → u.workers[0]? = some v → v.phase = .acking →
          ∃ t, Steps exports s t ∧ t.main = .draining received ∧
            ∀ w ∈ t.workers, w.phase = .finished := fun steps main bound' found' acking => by
        obtain ⟨t, acked, current, main', bound''⟩ :=
          acking_finishes (reachable.trans steps) found' acking
        refine ⟨t, .tail _ steps acked, main'.trans (main.trans draining), ?_⟩
        rw [onlyWorker ((reachable.trans steps).tail _ acked) (bound''.trans bound') current]
        simp
      rcases ok.listened ready with forwarding | acking | finished
      · have stop : s.stop = 1 := by
          simpa [ForwardState.stopsSent, draining, workers, Worker.stopped, ready, forwarding,
            WorkerPhase.hasReturned] using inv.stops_balance
        have take : step exports s (.worker 0 .receiveStop) =
            some { s with workers := [{ w with phase := .acking }], stop := 0 } := by
          simp [step, workers, workerStep, forwarding, stop]
        exact finishes (.tail _ (.refl s) take) rfl bound rfl rfl
      · exact finishes (.refl s) rfl bound found acking
      · exact ⟨s, .refl s, draining, by simp [workers, finished]⟩

/-- With at most one request, a teardown that has sent its stop value can
always return. -/
theorem draining_returns (single : exports.length ≤ 1) (reachable : Reachable exports s)
    (bound : s.bound = true) {received : Nat} (draining : s.main = .draining received) :
    ∃ t, Steps exports s t ∧ t.main = .cleaned := by
  obtain ⟨u, finishing, draining', finished⟩ :=
    single_worker_finishes single reachable bound draining
  have within := (reachable_invariant (reachable.trans finishing)).phase
  simp only [PhaseOk, draining'] at within
  obtain ⟨t, rest, cleaned⟩ := drain_returns (exports.length - received)
    (reachable.trans finishing) (finishing.bound bound) draining' (by omega) finished
  exact ⟨t, finishing.trans rest, cleaned⟩

/-- The teardown of a bound context can return exactly when at most one
resource was exposed: then some run drains the one forwarder, and with two
or more no run does. -/
theorem cleanNotify_returns_iff (reachable : Reachable exports s) (bound : s.bound = true) :
    (∃ t, Steps exports s t ∧ t.main = .cleaned) ↔ exports.length ≤ 1 := by
  constructor
  · rintro ⟨t, steps, cleaned⟩
    by_contra several
    exact cleanNotify_never_returns (by omega) (reachable.trans steps) (steps.bound bound) cleaned
  · intro single
    have notify : s.main = .exposed ∨ s.main = .stopping →
        ∃ t, Steps exports s t ∧ t.main = .cleaned := fun settled => by
      obtain ⟨u, steps, draining⟩ := reaches_draining reachable settled bound
      obtain ⟨t, rest, cleaned⟩ :=
        draining_returns single (reachable.trans steps) (steps.bound bound) draining
      exact ⟨t, steps.trans rest, cleaned⟩
    have phase := (reachable_invariant reachable).phase
    rcases main : s.main with index | ⟨index, convertedPorts, forwarder⟩ | error | _ | _ | received | _ <;>
      simp [PhaseOk, main, bound] at phase
    · exact notify (.inl main)
    · exact notify (.inr main)
    · exact draining_returns single reachable bound main
    · exact ⟨s, .refl s, main⟩

/-- `KindShouldWaitSignal`: a context is bound, for at least one resource. -/
def kindShouldWaitSignal (exports : List Exposure) (s : ForwardState) : Bool :=
  s.bound && 0 < exports.length

/-- The caller is told to wait for a signal exactly while a bound context has
forwarders. -/
theorem kindShouldWaitSignal_iff (reachable : Reachable exports s) :
    kindShouldWaitSignal exports s = true ↔ s.bound = true ∧ s.workers ≠ [] := by
  simp only [kindShouldWaitSignal, Bool.and_eq_true, decide_eq_true_eq, ne_eq,
    ← List.length_eq_zero]
  constructor
  · rintro ⟨bound, some⟩
    exact ⟨bound, by rw [spawned_of_bound reachable bound]; omega⟩
  · rintro ⟨bound, some⟩
    exact ⟨bound, by rw [← spawned_of_bound reachable bound]; omega⟩

/-- `pod/web-0` exposed, its context bound. -/
def webExposed : ForwardState :=
  ⟨.exposed, [upWorker], 0, 0, true, false,
    [("pod_web_0_host", "localhost"), ("pod_web_0_8080", "30001")]⟩

theorem cleanNotify_returns_iff_web :
    Reachable [webExposure] webExposed ∧ webExposed.bound = true ∧
      ((∃ t, Steps [webExposure] webExposed t ∧ t.main = .cleaned) ↔ [webExposure].length ≤ 1) :=
  have reachable : Reachable [webExposure] webExposed := Steps.of_run
    (show run [webExposure] initial [.main .expose, .worker 0 .ready, .main .selectReady,
      .main .expose] = some webExposed from rfl)
  ⟨reachable, rfl, cleanNotify_returns_iff reachable rfl⟩

end Teardown

end InfraE2E.Kind
