import InfraE2E.Regex

/-!
# The Docker daemon as the compose setup sees it

`ComposeSetup` talks to the Docker daemon through its client: it lists and
creates networks, inspects one, brings the stack up, lists containers by name,
inspects them, dials their published ports and execs a probe inside them.  It
also sets process environment variables and hands over to the steps runner.

The daemon's answers are a record of data (`Docker`); the only daemon state
that the setup code changes is the list of networks, which `World` carries
together with the log of what the code has done.  A piece of setup code is a
`Setup` computation: it changes the world and either returns, fails with an
error text, or is still retrying when the daemon's scripted answers run out.
-/

namespace InfraE2E

namespace Compose

/-- An entry of `types.Container.Ports` in a container listing. -/
structure PortEntry where
  privatePort : Nat
  publicPort : Nat
  type : String
  deriving DecidableEq, Repr

/-- A container of a listing (`types.Container`): the fields the setup code reads. -/
structure Container where
  id : String
  name : String
  ports : List PortEntry
  deriving DecidableEq, Repr

/-- `nat.Port`, kept as its two halves `Port()` and `Proto()`. -/
structure NatPort where
  port : String
  proto : String
  deriving DecidableEq, Repr

/-- `nat.PortBinding`. -/
structure PortBinding where
  hostIP : String
  hostPort : String
  deriving DecidableEq, Repr

/-- `nat.PortMap`: a Go map, so no port appears twice; the list order is the
map's iteration order, which Go leaves unspecified. -/
structure PortMap where
  entries : List (NatPort × List PortBinding)
  keysNodup : (entries.map Prod.fst).Nodup

/-- What `ContainerInspect` reports that the setup code reads. -/
structure ContainerJSON where
  networkMode : String
  ports : PortMap

/-- A network of `NetworkList`/`NetworkInspect`: its name and the `Gateway`
of each `IPAM.Config` entry. -/
structure NetworkResource where
  name : String
  gateways : List String
  deriving DecidableEq, Repr

/-- The daemon's behaviour.  Repeated dials and execs get successive answers
from the scripts `dial` and `exec`. -/
structure Docker where
  newClient : Except String Unit
  networkListError : Option String
  networkCreateError : Option String
  networkInspectError : Option String
  createdGateways : List String
  composeUp : Except String Unit
  containers : List Container
  containerListError : Option String
  inspect : String → Except String ContainerJSON
  dial : String → List Bool
  exec : String → String → List (Except String Int)

/-- A daemon that answers every call at once and without error, with no
network, container or inspectable port: the base that concrete cases extend. -/
def Docker.quiet : Docker where
  newClient := .ok ()
  networkListError := none
  networkCreateError := none
  networkInspectError := none
  createdGateways := []
  composeUp := .ok ()
  containers := []
  containerListError := none
  inspect := fun _ => .error "no such container"
  dial := fun _ => [true]
  exec := fun _ _ => [.ok 0]

/-- What the setup code does that outlives it. -/
inductive Effect where
  | networkCreate (name : String)
  | composeUp
  | dial (address : String) (connected : Bool)
  | exec (container command : String)
  | setenv (key value : String)
  | runSteps
  deriving DecidableEq, Repr

/-- An effect that sets no variable. -/
def NoSetenv (effect : Effect) : Prop :=
  ∀ key value, effect ≠ .setenv key value

structure World where
  networks : List NetworkResource
  log : List Effect
  deriving DecidableEq, Repr

/-- A piece of setup code: the world afterwards, and its result unless it is
still retrying. -/
def Setup (α : Type) : Type := World → World × Option (Except String α)

namespace Setup

variable {α β : Type}

protected def pure (value : α) : Setup α := fun world => (world, some (.ok value))

protected def bind (call : Setup α) (next : α → Setup β) : Setup β := fun world =>
  match call world with
  | (after, some (.ok value)) => next value after
  | (after, some (.error message)) => (after, some (.error message))
  | (after, none) => (after, none)

instance : Monad Setup where
  pure := Setup.pure
  bind := Setup.bind

/-- `return fmt.Errorf(...)`. -/
def fail (message : String) : Setup α := fun world => (world, some (.error message))

/-- A loop that has used up the daemon's scripted answers without leaving. -/
def retrying : Setup α := fun world => (world, none)

def emit (effect : Effect) : Setup Unit := fun world =>
  ({ world with log := world.log ++ [effect] }, some (.ok ()))

/-- Go's `if err != nil { return err }` after a call that touches nothing. -/
def lift (result : Except String α) : Setup α := fun world => (world, some result)

/-- `value, err := call()` with `err` never checked: on an error the call's
Go function returns the zero value `zero` beside it. -/
def ignoringError (call : Setup α) (zero : α) : Setup α := fun world =>
  match call world with
  | (after, some (.error _)) => (after, some (.ok zero))
  | other => other

@[simp] theorem pure_apply (value : α) (world : World) :
    (pure value : Setup α) world = (world, some (.ok value)) := rfl

theorem bind_apply (call : Setup α) (next : α → Setup β) (world : World) :
    (call >>= next) world =
      match call world with
      | (after, some (.ok value)) => next value after
      | (after, some (.error message)) => (after, some (.error message))
      | (after, none) => (after, none) := rfl

theorem bind_of_ok {call : Setup α} {next : α → Setup β} {world after : World} {value : α}
    (ran : call world = (after, some (.ok value))) : (call >>= next) world = next value after := by
  rw [bind_apply, ran]

theorem bind_of_error {call : Setup α} {next : α → Setup β} {world after : World}
    {message : String} (ran : call world = (after, some (.error message))) :
    (call >>= next) world = (after, some (.error message)) := by
  rw [bind_apply, ran]

@[simp] theorem fail_apply (message : String) (world : World) :
    (fail message : Setup α) world = (world, some (.error message)) := rfl

@[simp] theorem retrying_apply (world : World) :
    (retrying : Setup α) world = (world, none) := rfl

@[simp] theorem emit_apply (effect : Effect) (world : World) :
    emit effect world = ({ world with log := world.log ++ [effect] }, some (.ok ())) := rfl

@[simp] theorem lift_apply (result : Except String α) (world : World) :
    lift result world = (world, some result) := rfl

theorem bind_eq_ok {call : Setup α} {next : α → Setup β} {world after : World} {value : β}
    (ran : (call >>= next) world = (after, some (.ok value))) :
    ∃ middle first, call world = (middle, some (.ok first)) ∧
      next first middle = (after, some (.ok value)) := by
  rw [bind_apply] at ran
  match result : call world with
  | (middle, some (.ok first)) => rw [result] at ran; exact ⟨middle, first, rfl, ran⟩
  | (middle, some (.error _)) => rw [result] at ran; cases ran
  | (middle, none) => rw [result] at ran; cases ran

/-- The code returns, with a value or an error, from every world. -/
def Returns (call : Setup α) : Prop :=
  ∀ world, ∃ after result, call world = (after, some result)

theorem Returns.pure (value : α) : Returns (pure value : Setup α) :=
  fun _ => ⟨_, _, rfl⟩

theorem Returns.fail (message : String) : Returns (fail message : Setup α) :=
  fun _ => ⟨_, _, rfl⟩

theorem Returns.emit (effect : Effect) : Returns (emit effect) :=
  fun _ => ⟨_, _, rfl⟩

theorem Returns.lift (result : Except String α) : Returns (lift result) :=
  fun _ => ⟨_, _, rfl⟩

theorem Returns.bind {call : Setup α} {next : α → Setup β}
    (first : Returns call) (rest : ∀ value, Returns (next value)) : Returns (call >>= next) := by
  intro world
  obtain ⟨after, result, ran⟩ := first world
  rw [bind_apply, ran]
  rcases result with message | value
  · exact ⟨_, _, rfl⟩
  · exact rest value after

/-- A call that returns always gives `ignoringError` a value. -/
theorem ignoringError_ok {call : Setup α} (returns : Returns call) (zero : α) (world : World) :
    ∃ after value, ignoringError call zero world = (after, some (.ok value)) := by
  obtain ⟨after, result, ran⟩ := returns world
  rcases result with message | value <;> simp [Setup.ignoringError, ran]

/-- The code only appends to the log, and only effects that `allowed` admits. -/
def AppendsOnly (allowed : Effect → Prop) (call : Setup α) : Prop :=
  ∀ world, ∃ more, (call world).1.log = world.log ++ more ∧ ∀ effect ∈ more, allowed effect

/-- The code only ever appends to the log. -/
def Appends (call : Setup α) : Prop :=
  AppendsOnly (fun _ => True) call

section AppendsOnly

variable {allowed : Effect → Prop}

theorem AppendsOnly.pure (value : α) : AppendsOnly allowed (pure value : Setup α) :=
  fun _ => ⟨[], by simp, nofun⟩

theorem AppendsOnly.fail (message : String) : AppendsOnly allowed (fail message : Setup α) :=
  fun _ => ⟨[], by simp, nofun⟩

theorem AppendsOnly.retrying : AppendsOnly allowed (retrying : Setup α) :=
  fun _ => ⟨[], by simp, nofun⟩

theorem AppendsOnly.emit {effect : Effect} (admitted : allowed effect) :
    AppendsOnly allowed (emit effect) :=
  fun _ => ⟨[effect], rfl, by simpa using admitted⟩

theorem AppendsOnly.lift (result : Except String α) : AppendsOnly allowed (lift result) :=
  fun _ => ⟨[], by simp, nofun⟩

theorem AppendsOnly.bind {call : Setup α} {next : α → Setup β} (first : AppendsOnly allowed call)
    (rest : ∀ value, AppendsOnly allowed (next value)) : AppendsOnly allowed (call >>= next) := by
  intro world
  obtain ⟨more, grown, admitted⟩ := first world
  rw [bind_apply]
  match result : call world with
  | (after, some (.ok value)) =>
      obtain ⟨later, grownAgain, admittedAgain⟩ := rest value after
      rw [result] at grown
      refine ⟨more ++ later, by simp only [grownAgain, show after.log = _ from grown,
        List.append_assoc], fun effect member => ?_⟩
      rcases List.mem_append.mp member with early | late
      exacts [admitted effect early, admittedAgain effect late]
  | (after, some (.error _)) => exact ⟨more, by simpa [result] using grown, admitted⟩
  | (after, none) => exact ⟨more, by simpa [result] using grown, admitted⟩

/-- After a checked call, only what follows its success matters. -/
theorem AppendsOnly.lift_bind {result : Except String α} {next : α → Setup β}
    (rest : ∀ value, result = .ok value → AppendsOnly allowed (next value)) :
    AppendsOnly allowed (Setup.lift result >>= next) := by
  intro world
  cases result with
  | error message => exact ⟨[], by simp [bind_of_error (lift_apply (.error message) world)], nofun⟩
  | ok value => simpa [bind_of_ok (lift_apply (.ok value) world)] using rest value rfl world

theorem AppendsOnly.ignoringError {call : Setup α} (first : AppendsOnly allowed call) (zero : α) :
    AppendsOnly allowed (ignoringError call zero) := by
  intro world
  obtain ⟨more, grown, admitted⟩ := first world
  refine ⟨more, ?_, admitted⟩
  simp only [Setup.ignoringError]
  split <;> simp_all

theorem AppendsOnly.mono {weaker : Effect → Prop} {call : Setup α}
    (appends : AppendsOnly allowed call) (implies : ∀ effect, allowed effect → weaker effect) :
    AppendsOnly weaker call := fun world =>
  (appends world).imp fun _ ⟨grown, admitted⟩ =>
    ⟨grown, fun effect member => implies effect (admitted effect member)⟩

/-- Every effect in the log afterwards was logged before or is admitted. -/
theorem AppendsOnly.admitted {call : Setup α} (appends : AppendsOnly allowed call) {world : World}
    {effect : Effect} (logged : effect ∈ (call world).1.log) : effect ∈ world.log ∨ allowed effect := by
  obtain ⟨more, grown, admitted⟩ := appends world
  rw [grown] at logged
  exact (List.mem_append.mp logged).imp_right (admitted effect)

end AppendsOnly

theorem Appends.pure (value : α) : Appends (pure value : Setup α) := AppendsOnly.pure value

theorem Appends.fail (message : String) : Appends (fail message : Setup α) :=
  AppendsOnly.fail message

theorem Appends.retrying : Appends (retrying : Setup α) := AppendsOnly.retrying

theorem Appends.emit (effect : Effect) : Appends (emit effect) := AppendsOnly.emit trivial

theorem Appends.lift (result : Except String α) : Appends (lift result) := AppendsOnly.lift result

theorem Appends.bind {call : Setup α} {next : α → Setup β}
    (first : Appends call) (rest : ∀ value, Appends (next value)) : Appends (call >>= next) :=
  AppendsOnly.bind first rest

theorem Appends.ignoringError {call : Setup α} (first : Appends call) (zero : α) :
    Appends (ignoringError call zero) :=
  AppendsOnly.ignoringError first zero

/-- An effect already logged stays logged. -/
theorem Appends.mem_log {call : Setup α} (appends : Appends call) {world : World}
    {effect : Effect} (logged : effect ∈ world.log) : effect ∈ (call world).1.log := by
  obtain ⟨more, grown, -⟩ := appends world
  exact grown ▸ List.mem_append_left more logged

end Setup

end Compose

end InfraE2E
