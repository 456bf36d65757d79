import InfraE2E.Kind.Port

/-!
# Port-forward workers and the drain barrier

`exposeKindService` makes one `kindPortForwardContext` for all requests: a
`stopChannel` of capacity one shared by every forwarder, and a
`resourceFinishedChannel` of capacity `len(exports)`.  For each request
`exposePerKindService` resolves the ports, starts a worker goroutine running
`ForwardPorts`, and selects between the forwarder's ready channel and the
worker's `forwardErrorChannel`.  A worker's forwarder returns once it has
received a value from `stopChannel` (or failed before it was ready), the
worker then reports the error, if any, and acks on `resourceFinishedChannel`.
On the first error the loop calls `cancelFunc` and returns; only after the
whole loop does it publish the context in `portForwardContext`.
`KindCleanNotify` sends one value on `stopChannel` and receives
`resourceCount` acks.

The model is the main goroutine (the exposure loop, then the teardown) and
the workers as one state, with every channel as its buffer.  `step` runs one
goroutine's next channel operation or local step; any order of enabled steps
is a run.  Workers keep their tunnels up until they are stopped: the loss of
the connection to the pod is not modelled.

What `portforward.New` and `GetPorts` answer is computed from the tokens as
client-go computes it; a request brings only what the cluster answers (the
object and the pod), the ports the system gives listeners asked for port 0,
and the forwarder's standard error.
-/

namespace InfraE2E.Kind

open Text

/-- `config.KindExposePort`; its namespace only tells the API server where to
look the resource up. -/
structure KindExposePort where
  resource : String
  port : String
  deriving DecidableEq, Repr

/-- One exposure request with what the cluster and the system answer for it:
the object the resource names, the pod to forward to, the port the system
gives the listener of the `i`-th forwarded port when it asks for local port 0,
and what the forwarder writes to its standard error. -/
structure Exposure where
  request : KindExposePort
  object : Except String Target
  forwardablePod : Except String Pod
  ephemeralPort : Nat → Nat
  ephemeralPort_valid : ∀ i, 0 < ephemeralPort i ∧ ephemeralPort i < 2 ^ 16
  stderr : String

/-- `exposePerKindService` up to starting the worker: the converted ports and
the ports of the forwarder `portforward.New` makes from their tokens, or the
error it returns. -/
def prepareKindService (e : Exposure) : Except String (List KindPort × List ForwardedPort) := do
  let obj ← e.object
  let forwardablePod ← e.forwardablePod
  let convertedPorts ← (split e.request.port ',').mapM fun p => buildKindPort p obj forwardablePod
  let forwarder ← portforwardNew (convertedPorts.map (·.waitExpose))
  pure (convertedPorts, forwarder)

/-- `GetPorts` once `readyChannel` is closed: the forwarder's ports, where a
listener asked for local port 0 reports the port the system gave it. -/
def getPorts (e : Exposure) (forwarder : List ForwardedPort) : List ForwardedPort :=
  forwarder.mapIdx fun i port =>
    if port.localPort = 0 then { port with localPort := e.ephemeralPort i } else port

/-- The ready branch of `exposePerKindService`: the variables it sets, or the
error it returns. -/
def publishKindService (e : Exposure) (convertedPorts : List KindPort)
    (forwarder : List ForwardedPort) : Except String (List (String × String)) :=
  publishForwardedPorts e.request.resource (getPorts e forwarder) convertedPorts

/-- Where a worker's `ForwardPorts` is: dialling the pod and listening
(`starting`), tunnels up and waiting on `stopChannel` (`forwarding`),
returned an error it sends on its `forwardErrorChannel` (`reporting`),
returned and sending its ack (`acking`), or done. -/
inductive WorkerPhase where
  | starting
  | forwarding
  | reporting (error : String)
  | acking
  | finished
  deriving DecidableEq, Repr

/-- The worker has sent its ack. -/
def WorkerPhase.hasAcked : WorkerPhase → Bool
  | .finished => true
  | _ => false

/-- The worker's `ForwardPorts` has returned. -/
def WorkerPhase.hasReturned : WorkerPhase → Bool
  | .starting | .forwarding => false
  | _ => true

/-- A worker goroutine with its own channels: `readyChannel`, closed by the
forwarder once it listens, and `forwardErrorChannel` of capacity one. -/
structure Worker where
  phase : WorkerPhase
  readyClosed : Bool
  forwardError : Option String
  deriving DecidableEq, Repr

/-- Where the main goroutine is: in the loop at request `index`, or binding
the context past the last (`exposing`); at the `select` of request `index`,
whose worker runs `forwarder` (`awaiting`); returned from
`exposeKindService` with an error and no context bound (`exposeFailed`) or
without one (`exposed`); in `KindCleanNotify`, sending on `stopChannel`
(`stopping`), having received `received` acks (`draining`), or returned. -/
inductive MainPhase where
  | exposing (index : Nat)
  | awaiting (index : Nat) (convertedPorts : List KindPort) (forwarder : List ForwardedPort)
  | exposeFailed (error : String)
  | exposed
  | stopping
  | draining (received : Nat)
  | cleaned
  deriving DecidableEq, Repr

/-- The main goroutine, the workers in the order they were started (worker
`i` serves request `i`), the values buffered on `stopChannel` and on
`resourceFinishedChannel`, whether `portForwardContext` is the context of this
run (`bound`), whether `cancelFunc` has been called, and the variables set. -/
structure ForwardState where
  main : MainPhase
  workers : List Worker
  stop : Nat
  acks : Nat
  bound : Bool
  cancelled : Bool
  env : List (String × String)
  deriving DecidableEq, Repr

def initial : ForwardState := ⟨.exposing 0, [], 0, 0, false, false, []⟩

inductive MainAction where
  | expose
  | selectReady
  | selectError
  | cleanNotify
  | sendStop
  | receiveAck
  | finishClean
  deriving DecidableEq, Repr

inductive WorkerAction where
  | ready
  | fail (error : String)
  | reportError
  | receiveStop
  | sendAck
  deriving DecidableEq, Repr

inductive Action where
  | main (action : MainAction)
  | worker (index : Nat) (action : WorkerAction)
  deriving DecidableEq, Repr

/-- A worker's next step, given the values buffered on `stopChannel` and on
`resourceFinishedChannel` (of capacity `capacity`); `none` when it blocks. -/
def workerStep (capacity stop acks : Nat) (w : Worker) :
    WorkerAction → Option (Worker × Nat × Nat)
  | .ready => match w.phase with
      | .starting => some ({ w with phase := .forwarding, readyClosed := true }, stop, acks)
      | _ => none
  | .fail error => match w.phase with
      | .starting => some ({ w with phase := .reporting error }, stop, acks)
      | _ => none
  | .reportError => match w.phase, w.forwardError with
      | .reporting error, none => some ({ w with phase := .acking, forwardError := some error }, stop, acks)
      | _, _ => none
  | .receiveStop => match w.phase with
      | .forwarding => if 0 < stop then some ({ w with phase := .acking }, stop - 1, acks) else none
      | _ => none
  | .sendAck => match w.phase with
      | .acking => if acks < capacity then some ({ w with phase := .finished }, stop, acks + 1) else none
      | _ => none

/-- The main goroutine's next step; `none` when it blocks or has nothing left
to do. -/
def mainStep (exports : List Exposure) (s : ForwardState) : MainAction → Option ForwardState
  | .expose => match s.main with
      | .exposing index => match exports[index]? with
          | none => some { s with main := .exposed, bound := true }
          | some e => match prepareKindService e with
              | .error message => some { s with main := .exposeFailed message, cancelled := true }
              | .ok (convertedPorts, forwarder) =>
                  some { s with main := .awaiting index convertedPorts forwarder,
                                workers := s.workers ++ [⟨.starting, false, none⟩] }
      | _ => none
  | .selectReady => match s.main with
      | .awaiting index convertedPorts forwarder => match exports[index]?, s.workers[index]? with
          | some e, some w =>
              if w.readyClosed then
                match publishKindService e convertedPorts forwarder with
                | .error message => some { s with main := .exposeFailed message, cancelled := true }
                | .ok published => some { s with main := .exposing (index + 1), env := s.env ++ published }
              else none
          | _, _ => none
      | _ => none
  | .selectError => match s.main with
      | .awaiting index _ _ => match exports[index]?, s.workers[index]? with
          | some e, some ⟨phase, readyClosed, some error⟩ =>
              some { s with main := .exposeFailed ("create forward error, " ++ e.stderr ++ " : " ++ error),
                            workers := s.workers.set index ⟨phase, readyClosed, none⟩, cancelled := true }
          | _, _ => none
      | _ => none
  | .cleanNotify => match s.main with
      | .exposed | .exposeFailed _ => some { s with main := if s.bound then .stopping else .cleaned }
      | _ => none
  | .sendStop => match s.main with
      | .stopping => if s.stop < 1 then some { s with main := .draining 0, stop := s.stop + 1 } else none
      | _ => none
  | .receiveAck => match s.main with
      | .draining received =>
          if received < exports.length ∧ 0 < s.acks then
            some { s with main := .draining (received + 1), acks := s.acks - 1 }
          else none
      | _ => none
  | .finishClean => match s.main with
      | .draining received => if received < exports.length then none else some { s with main := .cleaned }
      | _ => none

def step (exports : List Exposure) (s : ForwardState) : Action → Option ForwardState
  | .main action => mainStep exports s action
  | .worker index action => do
      let w ← s.workers[index]?
      let (w', stop, acks) ← workerStep exports.length s.stop s.acks w action
      pure { s with workers := s.workers.set index w', stop := stop, acks := acks }

/-- The runs from `s`: any sequence of enabled steps. -/
inductive Steps (exports : List Exposure) : ForwardState → ForwardState → Prop
  | refl (s : ForwardState) : Steps exports s s
  | tail {s t u : ForwardState} (action : Action) :
      Steps exports s t → step exports t action = some u → Steps exports s u

def Reachable (exports : List Exposure) (s : ForwardState) : Prop :=
  Steps exports initial s

/-- Runs the actions one after another, as long as each is enabled. -/
def run (exports : List Exposure) (s : ForwardState) (actions : List Action) : Option ForwardState :=
  actions.foldlM (step exports) s

theorem run_nil {exports : List Exposure} {s : ForwardState} : run exports s [] = some s := rfl

theorem run_cons {exports : List Exposure} {s : ForwardState} {action : Action}
    {rest : List Action} :
    run exports s (action :: rest) = (step exports s action).bind (run exports · rest) := rfl

/-! ## One step -/

section Step

variable {exports : List Exposure} {s s' t : ForwardState}

theorem hasReturned_of_hasAcked {phase : WorkerPhase} (acked : phase.hasAcked = true) :
    phase.hasReturned = true := by
  cases phase <;> simp_all [WorkerPhase.hasAcked, WorkerPhase.hasReturned]

/-- The worker's forwarder listened and has since returned: it took a stop
value. -/
def Worker.stopped (w : Worker) : Bool :=
  w.readyClosed && w.phase.hasReturned

/-- What holds of each worker in every reachable state: the ready channel is
closed once the forwarder listens, a forwarder that listened never fails, and
only a worker that has reported its error can have one buffered. -/
structure Worker.Ok (w : Worker) : Prop where
  ready_of_forwarding : w.phase = .forwarding → w.readyClosed = true
  listened : w.readyClosed = true → w.phase = .forwarding ∨ w.phase = .acking ∨ w.phase = .finished
  clear : w.forwardError = none ∨ w.phase = .acking ∨ w.phase = .finished

section Worker

variable {capacity stop acks stop' acks' : Nat} {w w' : Worker} {action : WorkerAction}

/-- Everything a worker's step can do. -/
theorem workerStep_cases (stepped : workerStep capacity stop acks w action = some (w', stop', acks')) :
    (w.phase = .starting ∧ w' = { w with phase := .forwarding, readyClosed := true } ∧
      stop' = stop ∧ acks' = acks) ∨
    (∃ error, w.phase = .starting ∧ w' = { w with phase := .reporting error } ∧
      stop' = stop ∧ acks' = acks) ∨
    (∃ error, w.phase = .reporting error ∧ w.forwardError = none ∧
      w' = { w with phase := .acking, forwardError := some error } ∧ stop' = stop ∧ acks' = acks) ∨
    (w.phase = .forwarding ∧ 0 < stop ∧ w' = { w with phase := .acking } ∧
      stop' = stop - 1 ∧ acks' = acks) ∨
    (w.phase = .acking ∧ acks < capacity ∧ w' = { w with phase := .finished } ∧
      stop' = stop ∧ acks' = acks + 1) := by
  cases action <;> simp only [workerStep] at stepped <;> split at stepped <;>
    (try split at stepped) <;> (try contradiction) <;>
    simp only [Option.some.injEq, Prod.mk.injEq] at stepped <;>
    obtain ⟨rfl, rfl, rfl⟩ := stepped <;> simp_all

/-- A worker's step sends one ack exactly when it finishes. -/
theorem workerStep_acks (stepped : workerStep capacity stop acks w action = some (w', stop', acks')) :
    acks' + (if w.phase.hasAcked then 1 else 0) = acks + (if w'.phase.hasAcked then 1 else 0) := by
  rcases workerStep_cases stepped with ⟨phase, rfl, -, rfl⟩ | ⟨_, phase, rfl, -, rfl⟩ |
    ⟨_, phase, -, rfl, -, rfl⟩ | ⟨phase, -, rfl, -, rfl⟩ | ⟨phase, -, rfl, -, rfl⟩ <;>
    simp [phase, WorkerPhase.hasAcked]

theorem workerStep_ok (stepped : workerStep capacity stop acks w action = some (w', stop', acks'))
    (ok : w.Ok) : w'.Ok := by
  obtain ⟨forwarding, listened, clear⟩ := ok
  rcases workerStep_cases stepped with ⟨phase, rfl, -⟩ | ⟨_, phase, rfl, -⟩ |
    ⟨_, phase, -, rfl, -⟩ | ⟨phase, -, rfl, -⟩ | ⟨phase, -, rfl, -⟩ <;>
    constructor <;> simp_all

/-- A worker's step takes a stop value exactly when a forwarder that listened
returns. -/
theorem workerStep_stops (stepped : workerStep capacity stop acks w action = some (w', stop', acks'))
    (ok : w.Ok) :
    stop' + (if w'.stopped then 1 else 0) = stop + (if w.stopped then 1 else 0) := by
  obtain ⟨forwarding, listened, -⟩ := ok
  rcases workerStep_cases stepped with ⟨phase, rfl, rfl, -⟩ | ⟨_, phase, rfl, rfl, -⟩ |
    ⟨_, phase, -, rfl, rfl, -⟩ | ⟨phase, positive, rfl, rfl, -⟩ | ⟨phase, -, rfl, rfl, -⟩ <;>
    simp_all [Worker.stopped, WorkerPhase.hasReturned]
  omega

theorem workerStep_readyClosed (stepped : workerStep capacity stop acks w action = some (w', stop', acks'))
    (ready : w.readyClosed = true) : w'.readyClosed = true := by
  rcases workerStep_cases stepped with ⟨-, rfl, -⟩ | ⟨_, -, rfl, -⟩ | ⟨_, -, -, rfl, -⟩ |
    ⟨-, -, rfl, -⟩ | ⟨-, -, rfl, -⟩ <;> simp [ready]

theorem workerStep_stop_le (stepped : workerStep capacity stop acks w action = some (w', stop', acks')) :
    stop' ≤ stop := by
  rcases workerStep_cases stepped with ⟨-, -, rfl, -⟩ | ⟨_, -, -, rfl, -⟩ | ⟨_, -, -, -, rfl, -⟩ |
    ⟨-, -, -, rfl, -⟩ | ⟨-, -, -, rfl, -⟩ <;> omega

/-- A worker that has acked, or that forwards while `stopChannel` is empty,
cannot move. -/
theorem workerStep_blocked (waiting : w.phase = .finished ∨ (w.phase = .forwarding ∧ stop = 0)) :
    workerStep capacity stop acks w action = none := by
  cases action <;> rcases waiting with waiting | ⟨waiting, rfl⟩ <;> simp [workerStep, waiting]

end Worker

/-- A worker's action changes only its own entry and the two shared buffers. -/
theorem step_worker_eq {index : Nat} {action : WorkerAction}
    (stepped : step exports s (.worker index action) = some s') :
    ∃ w w' stop acks, s.workers[index]? = some w ∧
      workerStep exports.length s.stop s.acks w action = some (w', stop, acks) ∧
      s' = { s with workers := s.workers.set index w', stop := stop, acks := acks } := by
  simp only [step] at stepped
  cases found : s.workers[index]? with
  | none => simp [found] at stepped
  | some w =>
      cases moved : workerStep exports.length s.stop s.acks w action with
      | none => simp [found, moved] at stepped
      | some result =>
          simp only [found, moved, Option.bind_eq_bind, Option.some_bind, Option.pure_def,
            Option.some.injEq] at stepped
          exact ⟨w, result.1, result.2.1, result.2.2, rfl, moved, stepped.symm⟩

end Step

theorem countP_set_add {α : Type} (p : α → Bool) :
    ∀ {l : List α} {index : Nat} {old new : α}, l[index]? = some old →
      (l.set index new).countP p + (if p old then 1 else 0) =
        l.countP p + (if p new then 1 else 0)
  | _ :: _, 0, _, _, found => by
      simp only [List.getElem?_cons_zero, Option.some.injEq] at found
      subst found
      simp only [List.set_cons_zero, List.countP_cons]
      omega
  | _ :: l, index + 1, old, new, found => by
      have rest := @countP_set_add α p l index old new (by simpa using found)
      simp only [List.set_cons_succ, List.countP_cons]
      omega

/-! ## The drain-barrier invariant -/

/-- The acks `KindCleanNotify` has received, out of `count`. -/
def ForwardState.received (count : Nat) (s : ForwardState) : Nat :=
  match s.main with
  | .draining received => received
  | .cleaned => if s.bound then count else 0
  | _ => 0

/-- What the main goroutine's phase says about the workers it has started and
about the context. -/
def PhaseOk (count : Nat) (s : ForwardState) : Prop :=
  match s.main with
  | .exposing index => s.workers.length = index ∧ s.bound = false
  | .awaiting index _ _ => s.workers.length = index + 1 ∧ s.bound = false
  | .exposeFailed _ => s.bound = false
  | .exposed | .stopping => s.bound = true
  | .draining received => s.bound = true ∧ received ≤ count
  | .cleaned => True

/-- The stop values `KindCleanNotify` has sent. -/
def ForwardState.stopsSent (s : ForwardState) : Nat :=
  match s.main with
  | .draining _ => 1
  | .cleaned => if s.bound then 1 else 0
  | _ => 0

/-- How many requests, from the first, the main goroutine has seen ready,
out of `count`. -/
def ForwardState.readied (count : Nat) (s : ForwardState) : Nat :=
  match s.main with
  | .exposing index | .awaiting index _ _ => index
  | .exposeFailed _ => 0
  | .cleaned => if s.bound then count else 0
  | _ => count

/-- The invariant of every reachable state: at most one worker per request,
one per request once the context is bound; every ack sent by a finished
worker and either buffered or received; every stop value either buffered or
taken by a forwarder that listened; and the workers the main goroutine saw
ready are those of the first requests. -/
structure Invariant (exports : List Exposure) (s : ForwardState) : Prop where
  spawned_le : s.workers.length ≤ exports.length
  spawned_of_bound : s.bound = true → s.workers.length = exports.length
  acks_balance : s.acks + s.received exports.length = s.workers.countP (·.phase.hasAcked)
  stops_balance : s.stop + s.workers.countP (·.stopped) = s.stopsSent
  readied : ∀ j w, s.workers[j]? = some w → j < s.readied exports.length → w.readyClosed = true
  workers_ok : ∀ w ∈ s.workers, w.Ok
  phase : PhaseOk exports.length s

section Invariant

variable {exports : List Exposure} {s s' : ForwardState}

theorem initial_invariant : Invariant exports initial :=
  ⟨Nat.zero_le _, nofun, rfl, rfl, fun _ _ _ below => (Nat.not_lt_zero _ below).elim, nofun,
    ⟨rfl, rfl⟩⟩

theorem Invariant.readied_le (inv : Invariant exports s) {workers : List Worker}
    (same : workers = s.workers) (fewer : s'.readied exports.length ≤ s.readied exports.length) :
    ∀ j w, workers[j]? = some w → j < s'.readied exports.length → w.readyClosed = true :=
  fun j w found below => inv.readied j w (same ▸ found) (by omega)

theorem step_worker_invariant {index : Nat} {action : WorkerAction} (inv : Invariant exports s)
    (stepped : step exports s (.worker index action) = some s') : Invariant exports s' := by
  obtain ⟨w, w', stop, acks, found, moved, rfl⟩ := step_worker_eq stepped
  have ok := inv.workers_ok w (List.getElem?_mem found)
  have acked : (s.workers.set index w').countP (·.phase.hasAcked) +
      (if w.phase.hasAcked then 1 else 0) =
      s.workers.countP (·.phase.hasAcked) + (if w'.phase.hasAcked then 1 else 0) :=
    countP_set_add _ found
  have stopped : (s.workers.set index w').countP (·.stopped) + (if w.stopped then 1 else 0) =
      s.workers.countP (·.stopped) + (if w'.stopped then 1 else 0) :=
    countP_set_add _ found
  have sent := workerStep_acks moved
  have taken := workerStep_stops moved ok
  have acks_balance := inv.acks_balance
  have stops_balance := inv.stops_balance
  refine ⟨?_, ?_, ?_, ?_, ?_, ?_, ?_⟩
  · simpa using inv.spawned_le
  · simpa using inv.spawned_of_bound
  · simp only [ForwardState.received] at acks_balance ⊢
    omega
  · simp only [ForwardState.stopsSent] at stops_balance ⊢
    omega
  · intro j v current below
    by_cases same : index = j
    · subst same
      have : w' = v := by simpa [List.getElem?_set, (List.getElem?_eq_some_iff.mp found).1] using current
      exact this ▸ workerStep_readyClosed moved (inv.readied index w found below)
    · exact inv.readied j v (by simpa [List.getElem?_set_ne same] using current) below
  · intro v member
    rcases List.mem_or_eq_of_mem_set member with member | rfl
    · exact inv.workers_ok v member
    · exact workerStep_ok moved ok
  · simpa [PhaseOk] using inv.phase

/-- A step of the main goroutine that leaves the workers alone keeps the
invariant when it keeps the ack and stop counts, sees no request ready that
the old state did not, and its new phase is consistent. -/
private theorem invariant_of_main (inv : Invariant exports s) (workers : s'.workers = s.workers)
    (acks : s'.acks + s'.received exports.length = s.acks + s.received exports.length)
    (stops : s'.stop + s.stopsSent = s.stop + s'.stopsSent)
    (readied : ∀ j w, s'.workers[j]? = some w → j < s'.readied exports.length → w.readyClosed = true)
    (bound : s'.bound = true → s.workers.length = exports.length)
    (phase : PhaseOk exports.length s') : Invariant exports s' :=
  ⟨workers ▸ inv.spawned_le, fun bound' => workers ▸ bound bound',
    by rw [acks, inv.acks_balance, workers],
    by have := inv.stops_balance; rw [workers]; omega, readied, workers ▸ inv.workers_ok, phase⟩

theorem expose_invariant (inv : Invariant exports s)
    (stepped : mainStep exports s .expose = some s') : Invariant exports s' := by
  have phase := inv.phase
  simp only [mainStep] at stepped
  split at stepped <;> try contradiction
  rename_i index main
  simp only [PhaseOk, main] at phase
  split at stepped
  · rename_i past
    cases stepped
    have : exports.length ≤ index := List.getElem?_eq_none_iff.mp past
    exact invariant_of_main inv rfl (by simp [ForwardState.received, main])
      (by simp [ForwardState.stopsSent, main])
      (inv.readied_le rfl (by simp [ForwardState.readied, main, this]))
      (fun _ => by have := inv.spawned_le; omega) rfl
  · rename_i e found
    have below : index < exports.length := (List.getElem?_eq_some_iff.mp found).1
    split at stepped <;> cases stepped
    · exact invariant_of_main inv rfl (by simp [ForwardState.received, main])
        (by simp [ForwardState.stopsSent, main])
        (inv.readied_le rfl (by simp [ForwardState.readied, main])) (by simp [phase.2]) phase.2
    · refine ⟨by simp; omega, by simp [phase.2], ?_, ?_, ?_, ?_, by simp [PhaseOk, phase]⟩
      · simpa [ForwardState.received, main, WorkerPhase.hasAcked] using inv.acks_balance
      · simpa [ForwardState.stopsSent, main, Worker.stopped] using inv.stops_balance
      · intro j w current earlier
        simp only [ForwardState.readied] at earlier
        rw [List.getElem?_append_left (by omega)] at current
        exact inv.readied j w current (by simpa [ForwardState.readied, main] using earlier)
      · intro w member
        rcases List.mem_append.mp member with member | member
        · exact inv.workers_ok w member
        · simp only [List.mem_singleton] at member
          exact member ▸ ⟨nofun, nofun, .inl rfl⟩

theorem selectReady_invariant (inv : Invariant exports s)
    (stepped : mainStep exports s .selectReady = some s') : Invariant exports s' := by
  have phase := inv.phase
  simp only [mainStep] at stepped
  split at stepped <;> try contradiction
  rename_i index _ main
  simp only [PhaseOk, main] at phase
  split at stepped <;> try contradiction
  rename_i e w _ found
  split at stepped <;> try contradiction
  rename_i ready
  split at stepped <;> cases stepped
  · exact invariant_of_main inv rfl (by simp [ForwardState.received, main])
      (by simp [ForwardState.stopsSent, main])
      (inv.readied_le rfl (by simp [ForwardState.readied, main])) (by simp [phase.2]) phase.2
  · refine invariant_of_main inv rfl (by simp [ForwardState.received, main])
      (by simp [ForwardState.stopsSent, main]) ?_ (by simp [phase.2]) phase
    intro j v current below
    simp only [ForwardState.readied] at below
    rcases Nat.lt_succ_iff_lt_or_eq.mp below with earlier | rfl
    · exact inv.readied j v current (by simpa [ForwardState.readied, main] using earlier)
    · obtain rfl : w = v := Option.some.inj (found.symm.trans current)
      exact ready

theorem selectError_invariant (inv : Invariant exports s)
    (stepped : mainStep exports s .selectError = some s') : Invariant exports s' := by
  have phase := inv.phase
  simp only [mainStep] at stepped
  split at stepped <;> try contradiction
  rename_i index _ _ main
  simp only [PhaseOk, main] at phase
  split at stepped <;> try contradiction
  rename_i e workerPhase readyClosed error _ found
  cases stepped
  have acked : (s.workers.set index ⟨workerPhase, readyClosed, none⟩).countP (·.phase.hasAcked) +
      (if workerPhase.hasAcked then 1 else 0) =
      s.workers.countP (·.phase.hasAcked) + (if workerPhase.hasAcked then 1 else 0) :=
    countP_set_add _ found
  have stopped : (s.workers.set index ⟨workerPhase, readyClosed, none⟩).countP (·.stopped) +
      (if readyClosed && workerPhase.hasReturned then 1 else 0) =
      s.workers.countP (·.stopped) + (if readyClosed && workerPhase.hasReturned then 1 else 0) :=
    countP_set_add _ found
  have ok := inv.workers_ok _ (List.getElem?_mem found)
  refine ⟨by simpa using inv.spawned_le, by simp [phase.2], ?_, ?_,
    fun _ _ _ below => by simp [ForwardState.readied] at below, ?_, phase.2⟩
  · have balance := inv.acks_balance
    simp only [ForwardState.received, main] at balance ⊢
    omega
  · have balance := inv.stops_balance
    simp only [ForwardState.stopsSent, main] at balance ⊢
    omega
  · intro w member
    rcases List.mem_or_eq_of_mem_set member with member | rfl
    · exact inv.workers_ok w member
    · exact ⟨ok.ready_of_forwarding, ok.listened, .inl rfl⟩

theorem cleanNotify_invariant (inv : Invariant exports s)
    (stepped : mainStep exports s .cleanNotify = some s') : Invariant exports s' := by
  have phase := inv.phase
  simp only [mainStep] at stepped
  split at stepped <;> (try contradiction) <;> rename_i main <;> simp only [PhaseOk, main] at phase
  · cases stepped
    exact invariant_of_main inv rfl (by simp [ForwardState.received, main, phase])
      (by simp [ForwardState.stopsSent, main, phase])
      (inv.readied_le rfl (by simp [ForwardState.readied, main, phase]))
      (fun _ => inv.spawned_of_bound phase) (by simp [PhaseOk, phase])
  · cases stepped
    exact invariant_of_main inv rfl (by simp [ForwardState.received, main, phase])
      (by simp [ForwardState.stopsSent, main, phase])
      (inv.readied_le rfl (by simp [ForwardState.readied, main, phase])) (by simp [phase])
      (by simp [PhaseOk, phase])

/-- The steps of `KindCleanNotify` once it has found the context. -/
theorem drain_invariant {action : MainAction}
    (draining : action = .sendStop ∨ action = .receiveAck ∨ action = .finishClean)
    (inv : Invariant exports s) (stepped : mainStep exports s action = some s') :
    Invariant exports s' := by
  have phase := inv.phase
  rcases draining with rfl | rfl | rfl <;> simp only [mainStep] at stepped <;>
    split at stepped <;> (try contradiction) <;> rename_i main <;>
    simp only [PhaseOk, main] at phase <;> split at stepped <;> cases stepped
  · exact invariant_of_main inv rfl (by simp [ForwardState.received, main])
      (by simp [ForwardState.stopsSent, main])
      (inv.readied_le rfl (by simp [ForwardState.readied, main]))
      (fun _ => inv.spawned_of_bound phase) ⟨phase, Nat.zero_le _⟩
  · rename_i enabled
    exact invariant_of_main inv rfl (by simp [ForwardState.received, main]; omega)
      (by simp [ForwardState.stopsSent, main])
      (inv.readied_le rfl (by simp [ForwardState.readied, main]))
      (fun _ => inv.spawned_of_bound phase.1) ⟨phase.1, enabled.1⟩
  · exact invariant_of_main inv rfl (by simp [ForwardState.received, main, phase.1]; omega)
      (by simp [ForwardState.stopsSent, main, phase.1])
      (inv.readied_le rfl (by simp [ForwardState.readied, main, phase.1]))
      (fun _ => inv.spawned_of_bound phase.1) trivial

theorem mainStep_invariant {action : MainAction} (inv : Invariant exports s)
    (stepped : mainStep exports s action = some s') : Invariant exports s' := by
  cases action with
  | expose => exact expose_invariant inv stepped
  | selectReady => exact selectReady_invariant inv stepped
  | selectError => exact selectError_invariant inv stepped
  | cleanNotify => exact cleanNotify_invariant inv stepped
  | sendStop => exact drain_invariant (.inl rfl) inv stepped
  | receiveAck => exact drain_invariant (.inr (.inl rfl)) inv stepped
  | finishClean => exact drain_invariant (.inr (.inr rfl)) inv stepped

theorem step_invariant {action : Action} (inv : Invariant exports s)
    (stepped : step exports s action = some s') : Invariant exports s' := by
  cases action with
  | main action => exact mainStep_invariant inv stepped
  | worker index action => exact step_worker_invariant inv stepped

theorem Steps.invariant {t : ForwardState} (run : Steps exports s t) (inv : Invariant exports s) :
    Invariant exports t := by
  induction run with
  | refl => exact inv
  | tail _ _ stepped induction => exact step_invariant induction stepped

theorem reachable_invariant (reachable : Reachable exports s) : Invariant exports s :=
  reachable.invariant initial_invariant

/-- While the context is bound, `resourceCount` is the number of workers
started with its channels. -/
theorem spawned_of_bound (reachable : Reachable exports s) (bound : s.bound = true) :
    s.workers.length = exports.length :=
  (reachable_invariant reachable).spawned_of_bound bound

/-- A worker never blocks on its ack: `resourceFinishedChannel` has room for
one ack per request. -/
theorem sendAck_never_blocks {index : Nat} {w : Worker} (reachable : Reachable exports s)
    (found : s.workers[index]? = some w) (acking : w.phase = .acking) :
    (step exports s (.worker index .sendAck)).isSome := by
  have inv := reachable_invariant reachable
  have member := List.getElem?_mem found
  have unacked : s.workers.countP (·.phase.hasAcked) < s.workers.length :=
    lt_of_le_of_ne (List.countP_le_length _) fun all =>
      by simpa [acking, WorkerPhase.hasAcked] using List.countP_eq_length.mp all w member
  have room : s.acks < exports.length := by
    have := inv.acks_balance
    have := inv.spawned_le
    omega
  simp [step, found, workerStep, acking, room]

/-- A worker never blocks on reporting its error: its `forwardErrorChannel`
is empty. -/
theorem reportError_never_blocks {index : Nat} {w : Worker} {error : String}
    (reachable : Reachable exports s) (found : s.workers[index]? = some w)
    (reporting : w.phase = .reporting error) :
    (step exports s (.worker index .reportError)).isSome := by
  have empty : w.forwardError = none := by
    rcases ((reachable_invariant reachable).workers_ok w (List.getElem?_mem found)).clear with
      empty | acking | finished
    · exact empty
    · simp [reporting] at acking
    · simp [reporting] at finished
  simp [step, found, workerStep, reporting, empty]

/-- Once `KindCleanNotify` has returned on a bound context, every worker
has acked, so its `ForwardPorts` has returned. -/
theorem drained_of_bound (reachable : Reachable exports s) (cleaned : s.main = .cleaned)
    (bound : s.bound = true) : ∀ w ∈ s.workers, w.phase.hasReturned = true := by
  have inv := reachable_invariant reachable
  have balance := inv.acks_balance
  simp only [ForwardState.received, cleaned, bound, if_true] at balance
  have all : s.workers.countP (·.phase.hasAcked) = s.workers.length := by
    have := inv.spawned_of_bound bound
    have : s.workers.countP (·.phase.hasAcked) ≤ s.workers.length := List.countP_le_length _
    omega
  exact fun w member => hasReturned_of_hasAcked (List.countP_eq_length.mp all w member)

/-- `KindCleanNotify` sends one stop value, so at most one forwarder that
listened ever returns. -/
theorem stopped_le_one (reachable : Reachable exports s) : s.workers.countP (·.stopped) ≤ 1 := by
  have balance := (reachable_invariant reachable).stops_balance
  have : s.stopsSent ≤ 1 := by
    unfold ForwardState.stopsSent
    split <;> (try split) <;> omega
  omega

/-- Once the context is bound, every worker's forwarder has listened. -/
theorem readyClosed_of_bound (reachable : Reachable exports s) (bound : s.bound = true) :
    ∀ w ∈ s.workers, w.readyClosed = true := by
  have inv := reachable_invariant reachable
  have phase := inv.phase
  have all : s.readied exports.length = exports.length := by
    unfold PhaseOk at phase
    unfold ForwardState.readied
    split <;> simp_all
  intro w member
  obtain ⟨j, below, rfl⟩ := List.getElem_of_mem member
  exact inv.readied j _ (List.getElem?_eq_getElem below) (by have := inv.spawned_le; omega)

/-- With two or more requests exposed, the teardown of the bound context
never returns, in any interleaving: the one stop value frees one forwarder. -/
theorem cleanNotify_never_returns (several : 2 ≤ exports.length) (reachable : Reachable exports s)
    (bound : s.bound = true) : s.main ≠ .cleaned := by
  intro cleaned
  have balance := (reachable_invariant reachable).acks_balance
  simp only [ForwardState.received, cleaned, bound, if_true] at balance
  have acked_le : s.workers.countP (·.phase.hasAcked) ≤ s.workers.countP (·.stopped) :=
    List.countP_mono_left fun w member acked => by
      simp [Worker.stopped, readyClosed_of_bound reachable bound w member,
        hasReturned_of_hasAcked acked]
  have := stopped_le_one reachable
  omega

end Invariant

end InfraE2E.Kind
