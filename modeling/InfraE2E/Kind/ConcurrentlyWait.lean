import InfraE2E.Kind.Forward

/-!
# Waiting for the conditions concurrently

Each wait condition of a kind setup gets a goroutine running
`concurrentlyWait`: it calls `RunWait`, sends a failure, wrapped, to the wait
set's buffered error channel, and on the way out runs its deferred
`WaitGroup.Done()`.  The caller makes the channel and the wait group, starts
one goroutine per condition, blocks in `Wait` until the counter is zero, and
then reads what the channel holds.

The model interleaves the goroutines and the caller's `Wait` over the
channel's buffer and the counter; what `RunWait` answers for each condition is
data.  With a buffer of at least one slot per condition and a counter that
starts at the number of conditions, no send blocks, the counter is the number
of goroutines that have not run `Done` and never goes below zero, and once it
is zero the channel holds exactly the errors of the failed conditions: the
deferred `Done` runs after the send.
-/

namespace InfraE2E.Kind

/-- A wait condition as its goroutine sees it: what `%+v` prints for the wait
block, and what `RunWait` answers for it. -/
structure WaitCondition where
  printed : String
  runWait : Except String Unit
  deriving Repr

/-- `fmt.Errorf("wait strategy :%+v, err: %s", wait, err)`. -/
def waitStrategyError (printed err : String) : String :=
  "wait strategy :" ++ printed ++ ", err: " ++ err

/-- The error the goroutine of `condition` sends, when `RunWait` fails. -/
def WaitCondition.failure (condition : WaitCondition) : Option String :=
  match condition.runWait with
  | .ok () => none
  | .error err => some (waitStrategyError condition.printed err)

/-- Where a `concurrentlyWait` goroutine is: in `RunWait`, at
`waitSet.ErrChan <- err` with the wrapped error, returned with its deferred
`waitSet.WaitGroup.Done()` still to run, or exited. -/
inductive WaiterPhase where
  | running
  | sending (err : String)
  | returned
  | exited
  deriving DecidableEq, Repr

def WaiterPhase.hasReturned : WaiterPhase → Bool
  | .returned | .exited => true
  | .running | .sending _ => false

/-- A goroutine with the condition it waits for. -/
structure Waiter where
  condition : WaitCondition
  phase : WaiterPhase
  deriving Repr

/-- The error the goroutine has put in the channel, if any. -/
def Waiter.sent (w : Waiter) : Option String :=
  if w.phase.hasReturned then w.condition.failure else none

/-- The wait set shared by the goroutines and the caller: the goroutines, the
error channel's buffer, the wait group's counter (Go panics when `Done` takes
it below zero), and what the caller found in the channel once its `Wait`
returned. -/
structure WaitSet where
  waiters : List Waiter
  errChan : List String
  counter : Int
  observed : Option (List String)
  deriving Repr

/-- The caller's start: one goroutine per condition, an empty channel, and a
wait group counting the conditions. -/
def startWaiters (conditions : List WaitCondition) : WaitSet :=
  ⟨conditions.map (⟨·, .running⟩), [], conditions.length, none⟩

inductive WaiterAction where
  | runWait
  | send
  | done
  deriving DecidableEq, Repr

/-- A step of goroutine `index`, or the caller's `WaitGroup.Wait()` returning
and the caller reading the channel. -/
inductive WaitAction where
  | waiter (index : Nat) (action : WaiterAction)
  | wait
  deriving DecidableEq, Repr

/-- `concurrentlyWait`, one step at a time against a channel buffer of
`capacity` slots: the goroutine's next phase, the buffer, and what it takes
off the counter; `none` where it cannot move. -/
def concurrentlyWait (capacity : Nat) (errChan : List String) (w : Waiter) :
    WaiterAction → Option (WaiterPhase × List String × Int)
  | .runWait =>
      match w.phase, w.condition.runWait with
      | .running, .ok () => some (.returned, errChan, 0)
      | .running, .error err =>
          some (.sending (waitStrategyError w.condition.printed err), errChan, 0)
      | _, _ => none
  | .send =>
      match w.phase with
      | .sending err =>
          if errChan.length < capacity then some (.returned, errChan ++ [err], 0) else none
      | _ => none
  | .done =>
      match w.phase with
      | .returned => some (.exited, errChan, 1)
      | _ => none

def waitStep (capacity : Nat) (s : WaitSet) : WaitAction → Option WaitSet
  | .waiter index action =>
      match s.waiters[index]? with
      | none => none
      | some w =>
          match concurrentlyWait capacity s.errChan w action with
          | none => none
          | some (phase, errChan, taken) =>
              some { s with
                waiters := s.waiters.set index { w with phase := phase }
                errChan := errChan
                counter := s.counter - taken }
  | .wait =>
      if s.counter = 0 ∧ s.observed = none then some { s with observed := some s.errChan }
      else none

/-- One step of some goroutine or of the caller. -/
def WaitMoves (capacity : Nat) (s t : WaitSet) : Prop :=
  ∃ action, waitStep capacity s action = some t

/-- The states some interleaving reaches from the caller's start. -/
def WaitReachable (capacity : Nat) (conditions : List WaitCondition) (s : WaitSet) : Prop :=
  Relation.ReflTransGen (WaitMoves capacity) (startWaiters conditions) s

def waitRun (capacity : Nat) (s : WaitSet) (actions : List WaitAction) : Option WaitSet :=
  actions.foldlM (waitStep capacity) s

theorem waitMoves_of_run {capacity : Nat} :
    ∀ {s t : WaitSet} {actions : List WaitAction}, waitRun capacity s actions = some t →
      Relation.ReflTransGen (WaitMoves capacity) s t
  | _, _, [], ran => by
      cases ran
      exact .refl
  | s, t, action :: actions, ran => by
      simp only [waitRun, List.foldlM_cons, Option.bind_eq_bind, Option.bind_eq_some] at ran
      obtain ⟨middle, stepped, rest⟩ := ran
      exact .head ⟨action, stepped⟩ (waitMoves_of_run rest)

/-! ## Replacing one goroutine -/

section Replace

variable {α β : Type}

theorem map_set_of_eq (f : α → β) :
    ∀ {l : List α} {index : Nat} {old new : α}, l[index]? = some old → f new = f old →
      (l.set index new).map f = l.map f
  | _ :: _, 0, _, _, found, same => by
      simp only [List.getElem?_cons_zero, Option.some.injEq] at found
      simp [found, same]
  | _ :: l, index + 1, old, new, found, same => by
      simp [@map_set_of_eq f l index old new (by simpa using found) same]

theorem filterMap_set_of_eq (f : α → Option β) :
    ∀ {l : List α} {index : Nat} {old new : α}, l[index]? = some old → f new = f old →
      (l.set index new).filterMap f = l.filterMap f
  | _ :: _, 0, _, _, found, same => by
      simp only [List.getElem?_cons_zero, Option.some.injEq] at found
      simp only [List.set_cons_zero, List.filterMap_cons, same, found]
  | _ :: l, index + 1, old, new, found, same => by
      simp only [List.set_cons_succ, List.filterMap_cons,
        @filterMap_set_of_eq f l index old new (by simpa using found) same]

/-- Replacing an element that contributes nothing by one that contributes
`sent` adds `sent`, in some place. -/
theorem filterMap_set_perm (f : α → Option β) {sent : β} :
    ∀ {l : List α} {index : Nat} {old new : α}, l[index]? = some old → f old = none →
      f new = some sent → ((l.set index new).filterMap f).Perm (l.filterMap f ++ [sent])
  | _ :: _, 0, _, _, found, before, after => by
      simp only [List.getElem?_cons_zero, Option.some.injEq] at found
      subst found
      simp only [List.set_cons_zero, List.filterMap_cons, before, after]
      exact (List.perm_append_singleton _ _).symm
  | _ :: l, index + 1, old, new, found, before, after => by
      have rest := @filterMap_set_perm f sent l index old new (by simpa using found) before after
      simp only [List.set_cons_succ, List.filterMap_cons]
      split
      · exact rest
      · exact rest.cons _

theorem sum_map_set_add (f : α → Nat) :
    ∀ {l : List α} {index : Nat} {old new : α}, l[index]? = some old →
      ((l.set index new).map f).sum + f old = (l.map f).sum + f new
  | _ :: _, 0, _, _, found => by
      simp only [List.getElem?_cons_zero, Option.some.injEq] at found
      subst found
      simp only [List.set_cons_zero, List.map_cons, List.sum_cons]
      omega
  | _ :: l, index + 1, old, new, found => by
      have rest := @sum_map_set_add f l index old new (by simpa using found)
      simp only [List.set_cons_succ, List.map_cons, List.sum_cons]
      omega

end Replace

/-! ## What one step does -/

section Step

variable {capacity : Nat} {errChan errChan' : List String} {w : Waiter} {action : WaiterAction}
  {phase : WaiterPhase} {taken : Int}

/-- Everything a goroutine's step can do: finish `RunWait` well or with an
error, send its error into a buffer with room, or run its deferred `Done`. -/
theorem concurrentlyWait_cases
    (stepped : concurrentlyWait capacity errChan w action = some (phase, errChan', taken)) :
    (w.phase = .running ∧ w.condition.runWait = .ok () ∧ phase = .returned ∧
        errChan' = errChan ∧ taken = 0) ∨
      (∃ err, w.phase = .running ∧ w.condition.runWait = .error err ∧
        phase = .sending (waitStrategyError w.condition.printed err) ∧
        errChan' = errChan ∧ taken = 0) ∨
      (∃ err, w.phase = .sending err ∧ errChan.length < capacity ∧ phase = .returned ∧
        errChan' = errChan ++ [err] ∧ taken = 0) ∨
      (w.phase = .returned ∧ phase = .exited ∧ errChan' = errChan ∧ taken = 1) := by
  cases action with
  | runWait =>
      simp only [concurrentlyWait] at stepped
      split at stepped
      · rename_i running answered
        cases stepped
        exact .inl ⟨running, answered, rfl, rfl, rfl⟩
      · rename_i err running answered
        cases stepped
        exact .inr (.inl ⟨err, running, answered, rfl, rfl, rfl⟩)
      · contradiction
  | send =>
      simp only [concurrentlyWait] at stepped
      split at stepped
      · rename_i err sending
        split at stepped
        · cases stepped
          exact .inr (.inr (.inl ⟨err, sending, ‹_›, rfl, rfl, rfl⟩))
        · contradiction
      · contradiction
  | done =>
      simp only [concurrentlyWait] at stepped
      split at stepped
      · cases stepped
        exact .inr (.inr (.inr ⟨‹_›, rfl, rfl, rfl⟩))
      · contradiction

/-- Each step takes a goroutine closer to its `Done`. -/
def WaiterPhase.remaining : WaiterPhase → Nat
  | .running => 3
  | .sending _ => 2
  | .returned => 1
  | .exited => 0

theorem concurrentlyWait_remaining
    (stepped : concurrentlyWait capacity errChan w action = some (phase, errChan', taken)) :
    phase.remaining < w.phase.remaining := by
  rcases concurrentlyWait_cases stepped with ⟨running, -, rfl, -⟩ | ⟨-, running, -, rfl, -⟩ |
    ⟨err, sending, -, rfl, -⟩ | ⟨returned, rfl, -⟩ <;>
    simp [WaiterPhase.remaining, *]

/-- Only `Done` takes from the counter, once, as the goroutine exits. -/
theorem concurrentlyWait_taken
    (stepped : concurrentlyWait capacity errChan w action = some (phase, errChan', taken)) :
    w.phase ≠ .exited ∧ taken = if phase = .exited then 1 else 0 := by
  rcases concurrentlyWait_cases stepped with ⟨running, -, rfl, -, rfl⟩ |
    ⟨-, running, -, rfl, -, rfl⟩ |
    ⟨err, sending, -, rfl, -, rfl⟩ | ⟨returned, rfl, -, rfl⟩ <;>
    simp [*]

/-- A goroutine that starts sending sends its condition's error. -/
theorem concurrentlyWait_sending
    (stepped : concurrentlyWait capacity errChan w action = some (phase, errChan', taken))
    {err : String} (sending : phase = .sending err) : w.condition.failure = some err := by
  rcases concurrentlyWait_cases stepped with ⟨-, -, rfl, -⟩ | ⟨err', -, answered, rfl, -⟩ |
    ⟨err', -, -, rfl, -⟩ | ⟨-, rfl, -⟩ <;> cases sending
  simp [WaitCondition.failure, answered]

/-- What a step does to the error a goroutine has put in the channel: nothing,
or its send puts exactly that error in the channel. -/
theorem concurrentlyWait_sent
    (stepped : concurrentlyWait capacity errChan w action = some (phase, errChan', taken))
    (failed : ∀ err, w.phase = .sending err → w.condition.failure = some err) :
    ({ w with phase := phase }.sent = w.sent ∧ errChan' = errChan) ∨
      ∃ err, w.sent = none ∧ { w with phase := phase }.sent = some err ∧
        errChan' = errChan ++ [err] := by
  rcases concurrentlyWait_cases stepped with ⟨running, answered, rfl, rfl, -⟩ |
    ⟨err, running, -, rfl, rfl, -⟩ | ⟨err, sending, -, rfl, rfl, -⟩ |
    ⟨returned, rfl, rfl, -⟩
  · exact .inl ⟨by simp [Waiter.sent, running, WaiterPhase.hasReturned, WaitCondition.failure,
      answered], rfl⟩
  · exact .inl ⟨by simp [Waiter.sent, running, WaiterPhase.hasReturned], rfl⟩
  · exact .inr ⟨err, by simp [Waiter.sent, sending, WaiterPhase.hasReturned],
      by simp [Waiter.sent, WaiterPhase.hasReturned, failed err sending], rfl⟩
  · exact .inl ⟨by simp [Waiter.sent, returned, WaiterPhase.hasReturned], rfl⟩

variable {s t : WaitSet}

theorem waitStep_waiter_eq {index : Nat}
    (stepped : waitStep capacity s (.waiter index action) = some t) :
    ∃ w phase errChan taken, s.waiters[index]? = some w ∧
      concurrentlyWait capacity s.errChan w action = some (phase, errChan, taken) ∧
      t = { s with
        waiters := s.waiters.set index { w with phase := phase }
        errChan := errChan
        counter := s.counter - taken } := by
  simp only [waitStep] at stepped
  split at stepped
  · contradiction
  · rename_i w found
    split at stepped
    · contradiction
    · rename_i phase errChan taken moved
      cases stepped
      exact ⟨w, phase, errChan, taken, found, moved, rfl⟩

theorem waitStep_wait_eq (stepped : waitStep capacity s .wait = some t) :
    s.counter = 0 ∧ s.observed = none ∧ t = { s with observed := some s.errChan } := by
  simp only [waitStep] at stepped
  split at stepped
  · cases stepped
    exact ⟨‹_ ∧ _›.1, ‹_ ∧ _›.2, rfl⟩
  · contradiction

/-- A goroutine that has run `Done` takes no further step. -/
theorem waitStep_of_exited {index : Nat} (found : s.waiters[index]? = some w)
    (exited : w.phase = .exited) : waitStep capacity s (.waiter index action) = none := by
  cases action <;> simp [waitStep, found, concurrentlyWait, exited]

end Step

/-! ## The invariant of every reachable state -/

/-- What holds in every state of every interleaving: each goroutine keeps its
condition, one that is sending sends its condition's error, the channel holds
(in some order) the errors of the goroutines that have returned, the counter
is the number of goroutines that have not run `Done`, and the caller saw the
errors of the failed conditions. -/
structure WaitInvariant (conditions : List WaitCondition) (s : WaitSet) : Prop where
  conditions_kept : s.waiters.map (·.condition) = conditions
  sending_failure : ∀ w ∈ s.waiters, ∀ err, w.phase = .sending err →
    w.condition.failure = some err
  errChan_sent : s.errChan.Perm (s.waiters.filterMap Waiter.sent)
  counter_balance : s.counter + s.waiters.countP (·.phase = .exited) = conditions.length
  observed_failures : ∀ seen, s.observed = some seen →
    seen.Perm (conditions.filterMap WaitCondition.failure)

section Invariant

variable {conditions : List WaitCondition} {capacity : Nat} {s t : WaitSet}

theorem start_invariant (conditions : List WaitCondition) :
    WaitInvariant conditions (startWaiters conditions) where
  conditions_kept := by simp [startWaiters, Function.comp_def]
  sending_failure := by simp [startWaiters]
  errChan_sent := by simp [startWaiters, Waiter.sent, WaiterPhase.hasReturned]
  counter_balance := by simp [startWaiters]
  observed_failures := nofun

theorem WaitInvariant.length_eq (inv : WaitInvariant conditions s) :
    s.waiters.length = conditions.length := by
  rw [← inv.conditions_kept, List.length_map]

/-- The counter is zero exactly when every goroutine has run `Done`. -/
theorem WaitInvariant.counter_eq_zero_iff (inv : WaitInvariant conditions s) :
    s.counter = 0 ↔ ∀ w ∈ s.waiters, w.phase = .exited := by
  have balance := inv.counter_balance
  have length := inv.length_eq
  have atMost := s.waiters.countP_le_length (·.phase = .exited)
  have all := @List.countP_eq_length _ s.waiters (fun w : Waiter => decide (w.phase = .exited))
  simp only [decide_eq_true_eq] at all
  rw [← all]
  omega

/-- Once the counter is zero the channel holds the errors of the failed
conditions. -/
theorem WaitInvariant.errChan_of_zero (inv : WaitInvariant conditions s) (zero : s.counter = 0) :
    s.errChan.Perm (conditions.filterMap WaitCondition.failure) := by
  have exited := inv.counter_eq_zero_iff.mp zero
  have sentAll : s.waiters.filterMap Waiter.sent =
      s.waiters.filterMap (WaitCondition.failure ∘ Waiter.condition) :=
    List.filterMap_congr fun w member => by
      simp [Waiter.sent, exited w member, WaiterPhase.hasReturned]
  rw [← inv.conditions_kept, List.filterMap_map, ← sentAll]
  exact inv.errChan_sent

/-- A goroutine's step keeps the invariant. -/
theorem waiter_step_invariant {index : Nat} {action : WaiterAction}
    (inv : WaitInvariant conditions s)
    (stepped : waitStep capacity s (.waiter index action) = some t) :
    WaitInvariant conditions t := by
  obtain ⟨w, phase, errChan, taken, found, moved, rfl⟩ := waitStep_waiter_eq stepped
  have member := List.getElem?_mem found
  have exitedCount := @countP_set_add _ (fun v : Waiter => decide (v.phase = .exited)) _ _ _
    { w with phase := phase } found
  have balance := inv.counter_balance
  obtain ⟨live, counted⟩ := concurrentlyWait_taken moved
  refine ⟨(@map_set_of_eq _ _ (·.condition) _ _ _ { w with phase := phase } found rfl).trans
    inv.conditions_kept, ?_, ?_, ?_, inv.observed_failures⟩
  · intro v changed err sending
    rcases List.mem_or_eq_of_mem_set changed with changed | rfl
    · exact inv.sending_failure v changed err sending
    · exact concurrentlyWait_sending moved sending
  · rcases concurrentlyWait_sent moved (inv.sending_failure w member) with ⟨same, rfl⟩ |
      ⟨err, before, after, rfl⟩
    · exact filterMap_set_of_eq _ found same ▸ inv.errChan_sent
    · exact (inv.errChan_sent.append_right _).trans (filterMap_set_perm _ found before after).symm
  · simp only [live, decide_False] at exitedCount
    split at counted <;> simp_all

/-- The caller's `Wait` returns only at a zero counter, and then reads the
errors of the failed conditions. -/
theorem wait_step_invariant (inv : WaitInvariant conditions s)
    (stepped : waitStep capacity s .wait = some t) : WaitInvariant conditions t := by
  obtain ⟨zero, -, rfl⟩ := waitStep_wait_eq stepped
  exact { inv with
    observed_failures := fun _ seen => Option.some.inj seen ▸ inv.errChan_of_zero zero }

theorem waitStep_invariant {action : WaitAction} (inv : WaitInvariant conditions s)
    (stepped : waitStep capacity s action = some t) : WaitInvariant conditions t := by
  cases action with
  | waiter index action => exact waiter_step_invariant inv stepped
  | wait => exact wait_step_invariant inv stepped

theorem WaitInvariant.moves (inv : WaitInvariant conditions s)
    (moved : Relation.ReflTransGen (WaitMoves capacity) s t) : WaitInvariant conditions t := by
  induction moved with
  | refl => exact inv
  | tail _ step induction =>
      obtain ⟨action, stepped⟩ := step
      exact waitStep_invariant induction stepped

theorem WaitReachable.invariant (reachable : WaitReachable capacity conditions s) :
    WaitInvariant conditions s :=
  (start_invariant conditions).moves reachable

end Invariant

/-! ## No send blocks, and the wait group drains -/

/-- The steps each goroutine has left, at most. -/
def WaitSet.remaining (s : WaitSet) : Nat :=
  (s.waiters.map (·.phase.remaining)).sum

section Progress

variable {conditions : List WaitCondition} {capacity : Nat} {s t : WaitSet} {index : Nat}
  {w : Waiter}

theorem waiter_step_remaining {action : WaiterAction}
    (stepped : waitStep capacity s (.waiter index action) = some t) :
    t.remaining < s.remaining := by
  obtain ⟨w, phase, errChan, taken, found, moved, rfl⟩ := waitStep_waiter_eq stepped
  have replaced : ((s.waiters.set index { w with phase := phase }).map (·.phase.remaining)).sum +
      w.phase.remaining = (s.waiters.map (·.phase.remaining)).sum + phase.remaining :=
    sum_map_set_add _ found
  have closer := concurrentlyWait_remaining moved
  simp only [WaitSet.remaining]
  omega

theorem WaitInvariant.counter_nonneg (inv : WaitInvariant conditions s) : 0 ≤ s.counter := by
  have balance := inv.counter_balance
  have atMost := s.waiters.countP_le_length (·.phase = .exited)
  have length := inv.length_eq
  omega

/-- The buffer has room whenever a goroutine is at its send: at most the
goroutines that have returned have sent, and there is one buffer slot per
goroutine. -/
theorem WaitInvariant.room_of_sending (enough : conditions.length ≤ capacity)
    (inv : WaitInvariant conditions s) (found : s.waiters[index]? = some w) {err : String}
    (sending : w.phase = .sending err) : s.errChan.length < capacity := by
  have returnedBelow : s.waiters.countP (·.phase.hasReturned) < s.waiters.length :=
    lt_of_le_of_ne (List.countP_le_length _) fun all => by
      have returned := List.countP_eq_length.mp all w (List.getElem?_mem found)
      simp [sending, WaiterPhase.hasReturned] at returned
  calc s.errChan.length
      = s.waiters.countP fun v => v.sent.isSome := by
        rw [inv.errChan_sent.length_eq, List.length_filterMap_eq_countP]
    _ ≤ s.waiters.countP (·.phase.hasReturned) :=
        List.countP_mono_left fun v _ sent => by
          unfold Waiter.sent at sent
          split at sent <;> simp_all
    _ < conditions.length := inv.length_eq ▸ returnedBelow
    _ ≤ capacity := enough

/-- A goroutine that has not run `Done` can take a step. -/
theorem WaitInvariant.live_moves (enough : conditions.length ≤ capacity)
    (inv : WaitInvariant conditions s) (found : s.waiters[index]? = some w)
    (live : w.phase ≠ .exited) :
    ∃ action t, waitStep capacity s (.waiter index action) = some t := by
  cases phase : w.phase with
  | running =>
      cases answered : w.condition.runWait <;>
        exact ⟨.runWait, by simp [waitStep, found, concurrentlyWait, phase, answered]⟩
  | sending err =>
      exact ⟨.send, by
        simp [waitStep, found, concurrentlyWait, phase, inv.room_of_sending enough found phase]⟩
  | returned => exact ⟨.done, by simp [waitStep, found, concurrentlyWait, phase]⟩
  | exited => exact absurd phase live

/-- Every goroutine can still run to its `Done`: some continuation brings the
counter to zero. -/
theorem WaitInvariant.drains {s : WaitSet} (enough : conditions.length ≤ capacity)
    (inv : WaitInvariant conditions s) :
    ∃ t, Relation.ReflTransGen (WaitMoves capacity) s t ∧ t.counter = 0 := by
  by_cases exited : ∀ w ∈ s.waiters, w.phase = .exited
  · exact ⟨s, .refl, inv.counter_eq_zero_iff.mpr exited⟩
  · push_neg at exited
    obtain ⟨w, member, live⟩ := exited
    obtain ⟨index, found⟩ := List.getElem?_of_mem member
    obtain ⟨action, t, stepped⟩ := inv.live_moves enough found live
    obtain ⟨u, run, zero⟩ := (waitStep_invariant inv stepped).drains enough
    exact ⟨u, .head ⟨_, stepped⟩ run, zero⟩
termination_by s.remaining
decreasing_by exact waiter_step_remaining stepped

end Progress

theorem filterMap_failure_ne_nil_iff {conditions : List WaitCondition} :
    conditions.filterMap WaitCondition.failure ≠ [] ↔
      ∃ c ∈ conditions, ∃ err, c.runWait = .error err := by
  simp only [ne_eq, List.filterMap_eq_nil_iff, not_forall, exists_prop]
  refine exists_congr fun c => and_congr_right fun _ => ?_
  rcases c with ⟨printed, _ | _⟩ <;> simp [WaitCondition.failure]

/-- For any number of conditions and any answers of their `RunWait` calls,
with a buffer of at least one slot per condition and a wait group counting
the conditions, in every state of every interleaving: a goroutine at its send
can send; the counter is the number of goroutines that have not run `Done`,
never below zero, a goroutine that has run `Done` takes no further step, and
every goroutine can still run to its `Done`; and once the counter is zero the
channel holds exactly one error per failed condition, so it is non-empty
exactly when a condition failed. -/
theorem concurrentlyWait_collects_errors {conditions : List WaitCondition} {capacity : Nat}
    (enough : conditions.length ≤ capacity) {s : WaitSet}
    (reachable : WaitReachable capacity conditions s) :
    (∀ index w err, s.waiters[index]? = some w → w.phase = .sending err →
      ∃ t, waitStep capacity s (.waiter index .send) = some t) ∧
    (s.counter + s.waiters.countP (·.phase = .exited) = conditions.length ∧ 0 ≤ s.counter ∧
      (∀ index w action, s.waiters[index]? = some w → w.phase = .exited →
        waitStep capacity s (.waiter index action) = none) ∧
      ∃ t, Relation.ReflTransGen (WaitMoves capacity) s t ∧ t.counter = 0) ∧
    (s.counter = 0 → s.errChan.Perm (conditions.filterMap WaitCondition.failure) ∧
      (s.errChan ≠ [] ↔ ∃ c ∈ conditions, ∃ err, c.runWait = .error err)) := by
  have inv := reachable.invariant
  refine ⟨fun index w err found sending => ?_, ⟨inv.counter_balance, inv.counter_nonneg,
    fun _ _ _ found exited => waitStep_of_exited found exited, inv.drains enough⟩,
    fun zero => ⟨inv.errChan_of_zero zero, ?_⟩⟩
  · simp [waitStep, found, concurrentlyWait, sending, inv.room_of_sending enough found sending]
  · rw [← filterMap_failure_ne_nil_iff, ne_eq, ne_eq, ← List.length_eq_zero,
      ← List.length_eq_zero,
      (inv.errChan_of_zero zero).length_eq]

/-- Pods labelled `app=web` become ready; `deployment/api` does not become
available in time. -/
def webAndApi : List WaitCondition :=
  [⟨"&\x7bResource:pod LabelSelector:app=web For:condition=Ready\x7d", .ok ()⟩,
    ⟨"&\x7bResource:deployment/api LabelSelector: For:condition=Available\x7d",
      .error "timed out waiting for the condition on deployments/api"⟩]

/-- Both goroutines have run `Done`, `api`'s error in the channel, and the
caller has read it. -/
def webAndApiDrained : WaitSet :=
  ⟨webAndApi.map (⟨·, .exited⟩),
    [waitStrategyError "&\x7bResource:deployment/api LabelSelector: For:condition=Available\x7d"
      "timed out waiting for the condition on deployments/api"], 0,
    some [waitStrategyError
      "&\x7bResource:deployment/api LabelSelector: For:condition=Available\x7d"
      "timed out waiting for the condition on deployments/api"]⟩

theorem concurrentlyWait_collects_errors_webAndApi :
    webAndApi.length ≤ 2 ∧ WaitReachable 2 webAndApi webAndApiDrained ∧
      webAndApiDrained.counter = 0 ∧
      webAndApiDrained.errChan.Perm (webAndApi.filterMap WaitCondition.failure) := by
  have reachable : WaitReachable 2 webAndApi webAndApiDrained :=
    waitMoves_of_run (show waitRun 2 (startWaiters webAndApi) [.waiter 0 .runWait,
      .waiter 1 .runWait, .waiter 1 .send, .waiter 1 .done, .waiter 0 .done, .wait] =
        some webAndApiDrained from rfl)
  exact ⟨by decide, reachable, rfl,
    ((concurrentlyWait_collects_errors (by decide) reachable).2.2 rfl).1⟩

end InfraE2E.Kind
