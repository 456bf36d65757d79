import InfraE2E.Kind.Forward

/-!
# What the teardown drains

The invariant of `InfraE2E.Kind.Forward` makes the barrier sound when the
context is bound: `KindCleanNotify` returns only after every worker has
acked.  This module builds the runs that show where the barrier falls short.

* One value on `stopChannel` wakes one forwarder.  With two or more exposed
  resources, `KindCleanNotify` receives the ack of the worker it woke and then
  waits for good: the other forwarders wait on the empty `stopChannel`.
* When a request fails, `exposeKindService` calls `cancelFunc`, which no
  forwarder listens to, and returns before binding the context.  The teardown
  then finds no context, and the tunnels already up stay up.
-/

namespace InfraE2E.Kind

variable {exports : List Exposure} {s t u : ForwardState}

theorem Steps.trans (first : Steps exports s t) (second : Steps exports t u) :
    Steps exports s u := by
  induction second with
  | refl => exact first
  | tail action _ stepped induction => exact .tail action induction stepped

theorem Steps.of_run {actions : List Action} :
    ∀ {s t : ForwardState}, run exports s actions = some t → Steps exports s t := by
  induction actions with
  | nil =>
      intro s t ran
      cases ran
      exact .refl s
  | cons action rest induction =>
      intro s t ran
      obtain ⟨middle, stepped, ran⟩ := Option.bind_eq_some.mp (run_cons ▸ ran)
      exact (Steps.tail action (.refl s) stepped).trans (induction ran)

/-! ## Exposing request after request -/

/-- The worker of a request whose tunnels are up. -/
def upWorker : Worker := ⟨.forwarding, true, none⟩

/-- The loop at request `index`, every earlier request exposed. -/
def exposingState (index : Nat) (env : List (String × String)) : ForwardState :=
  ⟨.exposing index, List.replicate index upWorker, 0, 0, false, false, env⟩

private theorem getElem?_replicate_concat {α : Type} (index : Nat) (w v : α) :
    (List.replicate index w ++ [v])[index]? = some v := by
  simp [List.getElem?_append_right]

private theorem set_replicate_concat {α : Type} (index : Nat) (w v u : α) :
    (List.replicate index w ++ [v]).set index u = List.replicate index w ++ [u] := by
  simp [List.set_append_right]

/-- `exposePerKindService` can succeed on the request: its ports resolve and,
once the forwarder is ready, the variables are set. -/
def Exposes (e : Exposure) : Prop :=
  ∃ convertedPorts forwarder published, prepareKindService e = .ok (convertedPorts, forwarder) ∧
    publishKindService e convertedPorts forwarder = .ok published

theorem exposingState_round {index : Nat} {env : List (String × String)} {e : Exposure}
    {convertedPorts : List KindPort} {forwarder : List ForwardedPort}
    {published : List (String × String)} (found : exports[index]? = some e)
    (prepared : prepareKindService e = .ok (convertedPorts, forwarder))
    (publishes : publishKindService e convertedPorts forwarder = .ok published) :
    run exports (exposingState index env) [.main .expose, .worker index .ready, .main .selectReady] =
      some (exposingState (index + 1) (env ++ published)) := by
  simp only [run_cons, run_nil, exposingState, step, mainStep, workerStep, found, prepared,
    publishes, getElem?_replicate_concat, set_replicate_concat, Option.some_bind,
    Option.bind_eq_bind, Option.pure_def, upWorker, ↓reduceIte, List.replicate_succ']

/-- The loop reaches request `index` with every earlier tunnel up, whenever
every earlier request can be exposed. -/
theorem reachable_exposingState :
    ∀ index ≤ exports.length, (∀ j e, exports[j]? = some e → j < index → Exposes e) →
      ∃ env, Reachable exports (exposingState index env)
  | 0, _, _ => ⟨[], .refl _⟩
  | index + 1, within, earlier => by
      obtain ⟨env, reachable⟩ := reachable_exposingState index (by omega)
        fun j e found below => earlier j e found (by omega)
      obtain ⟨e, found⟩ : ∃ e, exports[index]? = some e :=
        ⟨_, List.getElem?_eq_getElem (by omega)⟩
      obtain ⟨convertedPorts, forwarder, published, prepared, publishes⟩ :=
        earlier index e found (Nat.lt_succ_self index)
      exact ⟨env ++ published,
        reachable.trans (Steps.of_run (exposingState_round found prepared publishes))⟩

/-! ## A single stop value does not drain several workers -/

/-- `KindCleanNotify` waits on an empty `resourceFinishedChannel` while every
worker that has not acked waits on an empty `stopChannel`. -/
def CleanupBlocked (exports : List Exposure) (s : ForwardState) : Prop :=
  (∃ received, s.main = .draining received ∧ received < exports.length) ∧ s.acks = 0 ∧
    s.stop = 0 ∧ ∀ w ∈ s.workers, w.phase.hasAcked = false → w.phase = .forwarding

/-- A blocked cleanup is a deadlock: no goroutine can move. -/
theorem cleanupBlocked_stuck (blocked : CleanupBlocked exports s) (action : Action) :
    step exports s action = none := by
  obtain ⟨⟨received, main, below⟩, noAcks, noStop, waiting⟩ := blocked
  cases action with
  | main action => cases action <;> simp [step, mainStep, main, below, noAcks]
  | worker index action =>
      cases found : s.workers[index]? with
      | none => simp [step, found]
      | some w =>
          have parked : w.phase = .finished ∨ (w.phase = .forwarding ∧ s.stop = 0) := by
            cases acked : w.phase.hasAcked
            · exact .inr ⟨waiting w (List.getElem?_mem found) acked, noStop⟩
            · exact .inl (by cases phase : w.phase <;> simp_all [WorkerPhase.hasAcked])
          simp [step, found, workerStep_blocked parked]

theorem blocked_run {n : Nat} {env : List (String × String)} (count : exports.length = n + 2) :
    run exports (exposingState (n + 2) env) [.main .expose, .main .cleanNotify, .main .sendStop,
      .worker 0 .receiveStop, .worker 0 .sendAck, .main .receiveAck] =
      some ⟨.draining 1, ⟨.finished, true, none⟩ :: List.replicate (n + 1) upWorker, 0, 0, true,
        false, env⟩ := by
  have past : exports[n + 2]? = none := List.getElem?_eq_none_iff.mpr count.le
  simp only [run_cons, run_nil, exposingState, step, mainStep, workerStep, past, count,
    upWorker, List.replicate_succ, List.getElem?_cons_zero, List.set_cons_zero, Option.some_bind,
    Option.bind_eq_bind, Option.pure_def, ↓reduceIte, Nat.zero_lt_succ, Nat.one_lt_succ_succ,
    and_self]

/-- With two or more resources exposed, the teardown deadlocks in some
interleaving, and in none does it return: the one stop value is taken by one
forwarder. -/
theorem cleanNotify_deadlocks (several : 2 ≤ exports.length) (exposing : ∀ e ∈ exports, Exposes e) :
    (∃ s, Reachable exports s ∧ CleanupBlocked exports s ∧ ∀ action, step exports s action = none) ∧
      ∀ s, Reachable exports s → s.bound = true → s.main ≠ .cleaned := by
  refine ⟨?_, fun s reachable bound => cleanNotify_never_returns several reachable bound⟩
  obtain ⟨n, count⟩ : ∃ n, exports.length = n + 2 := ⟨exports.length - 2, by omega⟩
  obtain ⟨env, exposed⟩ := reachable_exposingState (n + 2) count.ge
    fun j e found _ => exposing e (List.getElem?_mem found)
  have blocked : CleanupBlocked exports
      ⟨.draining 1, ⟨.finished, true, none⟩ :: List.replicate (n + 1) upWorker, 0, 0, true, false, env⟩ :=
    ⟨⟨1, rfl, by omega⟩, rfl, rfl, by simp [upWorker, WorkerPhase.hasAcked]⟩
  exact ⟨_, exposed.trans (Steps.of_run (blocked_run count)), blocked, cleanupBlocked_stuck blocked⟩

/-- `pod/web-0` exposed on port 8080; the system gives its listener port 30001. -/
def webExposure : Exposure :=
  ⟨⟨"pod/web-0", "8080"⟩, .ok .other, .ok webPod, fun _ => 30001, fun _ => by norm_num, ""⟩

theorem webExposure_exposes : Exposes webExposure :=
  ⟨_, _, _, rfl, rfl⟩

theorem cleanNotify_deadlocks_web :
    2 ≤ [webExposure, webExposure].length ∧ (∀ e ∈ [webExposure, webExposure], Exposes e) ∧
      (∃ s, Reachable [webExposure, webExposure] s ∧ CleanupBlocked [webExposure, webExposure] s ∧
        ∀ action, step [webExposure, webExposure] s action = none) ∧
      ∀ s, Reachable [webExposure, webExposure] s → s.bound = true → s.main ≠ .cleaned := by
  have exposing : ∀ e ∈ [webExposure, webExposure], Exposes e := by
    simp [webExposure_exposes]
  exact ⟨by decide, exposing, cleanNotify_deadlocks (by decide) exposing⟩

/-! ## A failed exposure leaves its tunnels up -/

/-- The ways `exposePerKindService` fails on a request: while resolving the
object, the pod or the ports, or in `portforward.New`; in the forwarder
before it is ready; in an export once it is ready. -/
inductive Fails (e : Exposure) : Prop
  | prepare {message : String} : prepareKindService e = .error message → Fails e
  | forward {convertedPorts : List KindPort} {forwarder : List ForwardedPort} :
      prepareKindService e = .ok (convertedPorts, forwarder) → Fails e
  | publish {convertedPorts : List KindPort} {forwarder : List ForwardedPort} {message : String} :
      prepareKindService e = .ok (convertedPorts, forwarder) →
        publishKindService e convertedPorts forwarder = .error message → Fails e

section Failure

variable {index : Nat} {env : List (String × String)} {e : Exposure}
  {convertedPorts : List KindPort} {forwarder : List ForwardedPort} {message : String}

theorem prepareFailed_run (found : exports[index]? = some e)
    (refused : prepareKindService e = .error message) :
    run exports (exposingState index env) [.main .expose, .main .cleanNotify] =
      some ⟨.cleaned, List.replicate index upWorker, 0, 0, false, true, env⟩ := by
  simp only [run_cons, run_nil, exposingState, step, mainStep, found, refused, Option.some_bind,
    Bool.false_eq_true, ↓reduceIte]

theorem forwardFailed_run (error : String) (found : exports[index]? = some e)
    (prepared : prepareKindService e = .ok (convertedPorts, forwarder)) :
    run exports (exposingState index env) [.main .expose, .worker index (.fail error),
      .worker index .reportError, .main .selectError, .main .cleanNotify] =
      some ⟨.cleaned, List.replicate index upWorker ++ [⟨.acking, false, none⟩], 0, 0, false, true,
        env⟩ := by
  simp only [run_cons, run_nil, exposingState, step, mainStep, workerStep, found, prepared,
    getElem?_replicate_concat, set_replicate_concat, Option.some_bind, Option.bind_eq_bind,
    Option.pure_def, Bool.false_eq_true, ↓reduceIte]

theorem publishFailed_run (found : exports[index]? = some e)
    (prepared : prepareKindService e = .ok (convertedPorts, forwarder))
    (refused : publishKindService e convertedPorts forwarder = .error message) :
    run exports (exposingState index env) [.main .expose, .worker index .ready, .main .selectReady,
      .main .cleanNotify] =
      some ⟨.cleaned, List.replicate (index + 1) upWorker, 0, 0, false, true, env⟩ := by
  simp only [run_cons, run_nil, exposingState, step, mainStep, workerStep, found, prepared,
    refused, getElem?_replicate_concat, set_replicate_concat, Option.some_bind,
    Option.bind_eq_bind, Option.pure_def, upWorker, Bool.false_eq_true, ↓reduceIte,
    List.replicate_succ']

end Failure

/-- After the teardown of an unbound context nothing sends on `stopChannel`:
every tunnel that is up stays up in every continuation. -/
theorem Steps.keeps_tunnels (continued : Steps exports s t) (cleaned : s.main = .cleaned)
    (unbound : s.bound = false) (noStop : s.stop = 0) :
    t.main = .cleaned ∧ t.bound = false ∧ t.stop = 0 ∧
      ∀ j : Nat, s.workers[j]? = some upWorker → t.workers[j]? = some upWorker := by
  induction continued with
  | refl => exact ⟨cleaned, unbound, noStop, fun _ up => up⟩
  | tail action _ stepped induction =>
      obtain ⟨main, bound, stop, up⟩ := induction
      cases action with
      | main action => cases action <;> simp [step, mainStep, main] at stepped
      | worker index action =>
          obtain ⟨w, w', stop', acks', found, moved, rfl⟩ := step_worker_eq stepped
          refine ⟨main, bound, Nat.le_zero.mp (stop ▸ workerStep_stop_le moved), fun j kept => ?_⟩
          have current := up j kept
          by_cases same : index = j
          · subst same
            obtain rfl : w = upWorker := Option.some.inj (found.symm.trans current)
            rw [workerStep_blocked (.inr ⟨rfl, stop⟩)] at moved
            cases moved
          · simpa [List.getElem?_set_ne same] using current

/-- When request `k` fails after every earlier one was exposed, some run ends
with `exposeKindService` returning the error and the teardown returning, with
no stop value sent and the workers of the earlier requests forwarding. -/
theorem failed_teardown {k : Nat} {e : Exposure} (failing : exports[k]? = some e)
    (earlier : ∀ j d, exports[j]? = some d → j < k → Exposes d) (fails : Fails e) :
    ∃ s, Reachable exports s ∧ s.main = .cleaned ∧ s.bound = false ∧ s.stop = 0 ∧
      s.cancelled = true ∧ ∀ j < k, s.workers[j]? = some upWorker := by
  obtain ⟨env, exposed⟩ :=
    reachable_exposingState k (List.getElem?_eq_some_iff.mp failing).1.le earlier
  obtain ⟨s, torn, cleaned, unbound, noStop, cancelled, up⟩ :
      ∃ s, Steps exports (exposingState k env) s ∧ s.main = .cleaned ∧ s.bound = false ∧
        s.stop = 0 ∧ s.cancelled = true ∧ ∀ j < k, s.workers[j]? = some upWorker := by
    cases fails with
    | prepare refused =>
        exact ⟨_, Steps.of_run (prepareFailed_run failing refused), rfl, rfl, rfl, rfl,
          fun j below => by simp [below]⟩
    | forward prepared =>
        exact ⟨_, Steps.of_run (forwardFailed_run "" failing prepared), rfl, rfl, rfl,
          rfl, fun j below => by simp [List.getElem?_append_left, below]⟩
    | publish prepared refused =>
        exact ⟨_, Steps.of_run (publishFailed_run failing prepared refused), rfl, rfl, rfl, rfl,
          fun j below => by simp [List.getElem?_replicate, below]; omega⟩
  exact ⟨s, exposed.trans torn, cleaned, unbound, noStop, cancelled, up⟩

/-- When request `k` fails after every earlier one was exposed, there is a run
in which `exposeKindService` returns the error, the teardown returns, and the
tunnels of the earlier requests stay up whatever happens next. -/
theorem failed_exposure_leaves_tunnels {k : Nat} {e : Exposure} (failing : exports[k]? = some e)
    (earlier : ∀ j d, exports[j]? = some d → j < k → Exposes d) (fails : Fails e) :
    ∃ s, Reachable exports s ∧ s.main = .cleaned ∧ s.bound = false ∧ s.cancelled = true ∧
      ∀ t, Steps exports s t → ∀ j < k, t.workers[j]? = some upWorker := by
  obtain ⟨s, reachable, cleaned, unbound, noStop, cancelled, up⟩ :=
    failed_teardown failing earlier fails
  exact ⟨s, reachable, cleaned, unbound, cancelled,
    fun t continued j below => (continued.keeps_tunnels cleaned unbound noStop).2.2.2 j (up j below)⟩

/-- `pod/api-0`, which the API server does not know. -/
def missingExposure : Exposure :=
  ⟨⟨"pod/api-0", "8080"⟩, .error "pods \"api-0\" not found", .error "pods \"api-0\" not found",
    fun _ => 30002, fun _ => by norm_num, ""⟩

theorem failed_exposure_leaves_tunnels_web :
    [webExposure, missingExposure][1]? = some missingExposure ∧
      (∀ j d, [webExposure, missingExposure][j]? = some d → j < 1 → Exposes d) ∧
      Fails missingExposure ∧
      ∃ s, Reachable [webExposure, missingExposure] s ∧ s.main = .cleaned ∧ s.bound = false ∧
        s.cancelled = true ∧
        ∀ t, Steps [webExposure, missingExposure] s t → ∀ j < 1, t.workers[j]? = some upWorker := by
  have earlier : ∀ j d, [webExposure, missingExposure][j]? = some d → j < 1 → Exposes d := by
    intro j d found below
    obtain rfl : j = 0 := by omega
    obtain rfl : webExposure = d := Option.some.inj found
    exact webExposure_exposes
  have fails : Fails missingExposure := .prepare rfl
  exact ⟨rfl, earlier, fails, failed_exposure_leaves_tunnels rfl earlier fails⟩

/-- While the context is bound, `resourceCount` is the number of workers
started; no ack and no error send blocks; and a teardown that returns on a
bound context has drained every worker.  But when a request fails after an
earlier one was exposed, the teardown finds no context and returns while the
earlier worker's `ForwardPorts` still runs. -/
theorem cleanNotify_returns_before_forwarder {k : Nat} {e : Exposure}
    (failing : exports[k]? = some e) (started : 0 < k)
    (earlier : ∀ j d, exports[j]? = some d → j < k → Exposes d) (fails : Fails e) :
    (∀ s, Reachable exports s → s.bound = true → s.workers.length = exports.length) ∧
    (∀ s index w, Reachable exports s → s.workers[index]? = some w → w.phase = .acking →
      (step exports s (.worker index .sendAck)).isSome) ∧
    (∀ s index w error, Reachable exports s → s.workers[index]? = some w →
      w.phase = .reporting error → (step exports s (.worker index .reportError)).isSome) ∧
    (∀ s, Reachable exports s → s.main = .cleaned → s.bound = true →
      ∀ w ∈ s.workers, w.phase.hasReturned = true) ∧
    ∃ s, Reachable exports s ∧ s.main = .cleaned ∧ ∃ w ∈ s.workers, w.phase.hasReturned = false := by
  obtain ⟨s, reachable, cleaned, -, -, -, up⟩ := failed_teardown failing earlier fails
  exact ⟨fun _ reachable bound => spawned_of_bound reachable bound,
    fun _ _ _ reachable found acking => sendAck_never_blocks reachable found acking,
    fun _ _ _ _ reachable found reporting => reportError_never_blocks reachable found reporting,
    fun _ reachable cleaned bound => drained_of_bound reachable cleaned bound,
    s, reachable, cleaned, upWorker, List.getElem?_mem (up 0 started), rfl⟩

theorem cleanNotify_returns_before_forwarder_web :
    [webExposure, missingExposure][1]? = some missingExposure ∧ 0 < 1 ∧
      (∀ j d, [webExposure, missingExposure][j]? = some d → j < 1 → Exposes d) ∧
      Fails missingExposure ∧
      (∀ s, Reachable [webExposure, missingExposure] s → s.bound = true →
        s.workers.length = [webExposure, missingExposure].length) ∧
      (∀ s index w, Reachable [webExposure, missingExposure] s → s.workers[index]? = some w →
        w.phase = .acking → (step [webExposure, missingExposure] s (.worker index .sendAck)).isSome) ∧
      (∀ s index w error, Reachable [webExposure, missingExposure] s → s.workers[index]? = some w →
        w.phase = .reporting error →
          (step [webExposure, missingExposure] s (.worker index .reportError)).isSome) ∧
      (∀ s, Reachable [webExposure, missingExposure] s → s.main = .cleaned → s.bound = true →
        ∀ w ∈ s.workers, w.phase.hasReturned = true) ∧
      ∃ s, Reachable [webExposure, missingExposure] s ∧ s.main = .cleaned ∧
        ∃ w ∈ s.workers, w.phase.hasReturned = false := by
  have earlier : ∀ j d, [webExposure, missingExposure][j]? = some d → j < 1 → Exposes d := by
    intro j d found below
    obtain rfl : j = 0 := by omega
    obtain rfl : webExposure = d := Option.some.inj found
    exact webExposure_exposes
  have fails : Fails missingExposure := .prepare rfl
  exact ⟨rfl, Nat.one_pos, earlier, fails,
    cleanNotify_returns_before_forwarder
      (show [webExposure, missingExposure][1]? = some missingExposure from rfl) Nat.one_pos earlier
      fails⟩

end InfraE2E.Kind
