import InfraE2E.Kind.Forward

/-!
# The kind setup

`KindSetup` refuses a setup without a kind configuration file, returns at
once when the setup has no steps, and otherwise makes its calls in order: the
environment file, the cluster (`kind create cluster`, then `KUBECONFIG`), one
`kind load docker-image` per image, the connection to the cluster, the steps,
and the port exposure that `Kind.Forward` models.  Every error but the
environment file's ends the setup with that error.

The tools are data: what each call answers in one run.  `kindSetup` is the
code; `kindSetupSpec` says what it does, as the list of calls `kindPlan`
made until the first that fails, and `kindSetup_runs` shows that the code
does exactly that.
-/

namespace InfraE2E.Kind

open Text

/-- What `KindSetup` asks of the world outside the process. -/
inductive KindEffect where
  | exportEnvVars (profilePath : String)
  | kindRun (args : List String)
  | setenv (key value : String)
  | connectToK8sCluster (kubeConfigPath : String)
  | runStepsAndWait (steps : List String)
  | exposeKindService (exports : List KindExposePort)
  deriving DecidableEq, Repr

/-- The fields of the setup block that `KindSetup` reads.  `steps` is `none`
for a block without steps (a nil slice), and names the steps otherwise. -/
structure KindSetupConfig where
  file : String
  steps : Option (List String)
  initSystemEnvironment : String
  importImages : List String
  exposePorts : List KindExposePort
  deriving DecidableEq, Repr

/-- What the tools `KindSetup` calls answer in one run; `kubeConfigPath` is
`constant.K8sClusterConfigFilePath`. -/
structure KindTools where
  kubeConfigPath : String
  resolveAbs : String → String
  expandEnv : String → String
  kindRun : List String → Except String Unit
  connectToK8sCluster : Except String Unit
  runStepsAndWait : List String → Except String Unit
  exposeKindService : List KindExposePort → Except String Unit

/-- Setup code of the kind flavour: it records its calls and may return an
error. -/
abbrev KindRun := ExceptT String (StateM (List KindEffect))

/-! ## The code -/

/-- A call to the outside that answered `answer`, with Go's
`if err != nil { return err }` after it. -/
def call (effect : KindEffect) (answer : Except String Unit) : KindRun Unit := do
  modify (· ++ [effect])
  match answer with
  | .ok () => pure ()
  | .error err => throw err

/-- `kind.Run` with `args`. -/
def runKind (tools : KindTools) (args : List String) : KindRun Unit :=
  call (.kindRun args) (tools.kindRun args)

def createClusterArgs (kindConfigPath kubeConfigPath : String) : List String :=
  ["create", "cluster", "--config", kindConfigPath, "--kubeconfig", kubeConfigPath]

def loadImageArgs (image : String) : List String :=
  ["load", "docker-image", image]

/-- What `os.Setenv("KUBECONFIG", kubeConfigPath)` answers, wrapped as
`createKindCluster` wraps it. -/
def exportKubeConfig (kubeConfigPath : String) : Except String Unit :=
  if setenvValid "KUBECONFIG" kubeConfigPath then .ok ()
  else .error "could not export kubeconfig file path, setenv: invalid argument"

def createKindCluster (tools : KindTools) (kindConfigPath : String) : KindRun Unit := do
  runKind tools (createClusterArgs kindConfigPath tools.kubeConfigPath)
  call (.setenv "KUBECONFIG" tools.kubeConfigPath) (exportKubeConfig tools.kubeConfigPath)

/-- `KindSetup`.  `util.ExportEnvVars` reports no error; the image loop runs
over an empty list as the source's `len(...) > 0` guard does. -/
def kindSetup (tools : KindTools) (setup : KindSetupConfig) : KindRun Unit :=
  if setup.file = "" then throw "no kind config file was provided"
  else match setup.steps with
    | none => pure ()
    | some steps => do
        (if setup.initSystemEnvironment ≠ "" then
          call (.exportEnvVars (tools.resolveAbs setup.initSystemEnvironment)) (.ok ())
        else pure ())
        createKindCluster tools setup.file
        setup.importImages.forM fun image => runKind tools (loadImageArgs (tools.expandEnv image))
        call (.connectToK8sCluster tools.kubeConfigPath) tools.connectToK8sCluster
        call (.runStepsAndWait steps) (tools.runStepsAndWait steps)
        call (.exposeKindService setup.exposePorts) (tools.exposeKindService setup.exposePorts)

/-! ## What the code does -/

/-- A call and what it answered. -/
structure Call where
  effect : KindEffect
  answer : Except String Unit

/-- Makes `calls` in order until one fails: the effects made, and the first
error if one failed. -/
def runCalls : List Call → List KindEffect × Except String Unit
  | [] => ([], .ok ())
  | c :: calls =>
      match c.answer with
      | .ok () => (c.effect :: (runCalls calls).1, (runCalls calls).2)
      | .error err => ([c.effect], .error err)

def kindCall (tools : KindTools) (args : List String) : Call :=
  ⟨.kindRun args, tools.kindRun args⟩

/-- The calls `KindSetup` makes before it exposes the ports, in order, for a
setup with a file and steps. -/
def preparePlan (tools : KindTools) (setup : KindSetupConfig) (steps : List String) : List Call :=
  (if setup.initSystemEnvironment ≠ "" then
      [⟨.exportEnvVars (tools.resolveAbs setup.initSystemEnvironment), .ok ()⟩] else []) ++
    [kindCall tools (createClusterArgs setup.file tools.kubeConfigPath),
      ⟨.setenv "KUBECONFIG" tools.kubeConfigPath, exportKubeConfig tools.kubeConfigPath⟩] ++
    setup.importImages.map (fun image => kindCall tools (loadImageArgs (tools.expandEnv image))) ++
    [⟨.connectToK8sCluster tools.kubeConfigPath, tools.connectToK8sCluster⟩,
      ⟨.runStepsAndWait steps, tools.runStepsAndWait steps⟩]

def exposeCall (tools : KindTools) (setup : KindSetupConfig) : Call :=
  ⟨.exposeKindService setup.exposePorts, tools.exposeKindService setup.exposePorts⟩

/-- The calls `KindSetup` makes for a setup with a file and steps, in order. -/
def kindPlan (tools : KindTools) (setup : KindSetupConfig) (steps : List String) : List Call :=
  preparePlan tools setup steps ++ [exposeCall tools setup]

/-- What `KindSetup` does: the effects it makes and its result. -/
def kindSetupSpec (tools : KindTools) (setup : KindSetupConfig) :
    List KindEffect × Except String Unit :=
  if setup.file = "" then ([], .error "no kind config file was provided")
  else match setup.steps with
    | none => ([], .ok ())
    | some steps => runCalls (kindPlan tools setup steps)

/-! ## Running a list of calls -/

section Calls

variable {front back calls : List Call} {c : Call}

theorem runCalls_append (front back : List Call) :
    runCalls (front ++ back) =
      match runCalls front with
      | (made, .ok ()) => (made ++ (runCalls back).1, (runCalls back).2)
      | (made, .error err) => (made, .error err) := by
  induction front with
  | nil => rfl
  | cons c front induction =>
      rcases answer : c.answer with err | ⟨⟩ <;> simp [runCalls, answer, induction]
      split <;> simp_all

theorem runCalls_ok_iff : (runCalls calls).2 = .ok () ↔ ∀ c ∈ calls, c.answer = .ok () := by
  induction calls with
  | nil => simp [runCalls]
  | cons c calls induction =>
      rcases answer : c.answer with err | ⟨⟩ <;> simp [runCalls, answer, induction]

/-- A call is made only once every call before it has answered without an
error. -/
theorem answered_of_made (fresh : c.effect ∉ front.map (·.effect))
    (made : c.effect ∈ (runCalls (front ++ c :: back)).1) :
    ∀ c' ∈ front, c'.answer = .ok () := by
  induction front with
  | nil => nofun
  | cons first front induction =>
      simp only [List.map_cons, List.mem_cons, not_or] at fresh
      rcases answer : first.answer with err | ⟨⟩ <;>
        simp only [List.cons_append, runCalls, answer, List.mem_cons, List.not_mem_nil, or_false]
          at made
      · exact absurd made fresh.1
      · intro c' member
        rcases List.mem_cons.mp member with rfl | member
        · exact answer
        · exact induction fresh.2 (made.resolve_left fresh.1) c' member

theorem mem_map_effect_of_made {effect : KindEffect} (made : effect ∈ (runCalls calls).1) :
    effect ∈ calls.map (·.effect) := by
  induction calls with
  | nil => simp [runCalls] at made
  | cons c calls induction =>
      rcases answer : c.answer with err | ⟨⟩ <;>
        simp only [runCalls, answer, List.mem_cons, List.not_mem_nil, or_false] at made <;>
        simp only [List.map_cons, List.mem_cons]
      · exact .inl made
      · exact made.imp_right induction

end Calls

/-! ## The code refines the calls -/

/-- `code` makes the effects of `outcome` after the log it starts from, and
returns its result. -/
def Runs (code : KindRun Unit) (outcome : List KindEffect × Except String Unit) : Prop :=
  ∀ log, code.run.run log = (outcome.2, log ++ outcome.1)

section Runs

variable {first rest : KindRun Unit} {front back : List Call}

theorem Runs.pure : Runs (pure ()) (runCalls []) :=
  fun _ => by simp [runCalls]

theorem Runs.call (effect : KindEffect) (answer : Except String Unit) :
    Runs (call effect answer) (runCalls [⟨effect, answer⟩]) := by
  intro log
  rcases answer with err | ⟨⟩ <;> rfl

theorem Runs.seq (ranFirst : Runs first (runCalls front)) (ranRest : Runs rest (runCalls back)) :
    Runs (first >>= fun _ => rest) (runCalls (front ++ back)) := by
  intro log
  simp only [ExceptT.run_bind, StateT.run_bind, ranFirst log, runCalls_append]
  rcases runCalls front with ⟨made, err | ⟨⟩⟩
  · rfl
  · exact (ranRest (log ++ made)).trans (by simp)

theorem Runs.forM {β : Type} (items : List β) {code : β → KindRun Unit} {step : β → Call}
    (ranStep : ∀ item, Runs (code item) (runCalls [step item])) :
    Runs (items.forM code) (runCalls (items.map step)) := by
  induction items with
  | nil => exact Runs.pure
  | cons item items induction => exact (ranStep item).seq induction

theorem Runs.when (condition : Prop) [Decidable condition] (ran : Runs first (runCalls front)) :
    Runs (if condition then first else Pure.pure ())
      (runCalls (if condition then front else [])) := by
  split
  · exact ran
  · exact Runs.pure

end Runs

theorem createKindCluster_runs (tools : KindTools) (kindConfigPath : String) :
    Runs (createKindCluster tools kindConfigPath)
      (runCalls [kindCall tools (createClusterArgs kindConfigPath tools.kubeConfigPath),
        ⟨.setenv "KUBECONFIG" tools.kubeConfigPath, exportKubeConfig tools.kubeConfigPath⟩]) :=
  (Runs.call _ _).seq (Runs.call _ _)

/-- The code of `KindSetup` does what `kindSetupSpec` says. -/
theorem kindSetup_runs (tools : KindTools) (setup : KindSetupConfig) :
    Runs (kindSetup tools setup) (kindSetupSpec tools setup) := by
  unfold kindSetup kindSetupSpec
  split
  · exact fun _ => by simp
  · split
    · exact fun log => by simp
    · rename_i steps _
      simp only [kindPlan, preparePlan, List.append_assoc]
      exact (Runs.when _ (Runs.call _ _)).seq <| (createKindCluster_runs _ _).seq <|
        (Runs.forM _ fun _ => Runs.call _ _).seq <| (Runs.call _ _).seq <|
          (Runs.call _ _).seq (Runs.call _ _)

/-! ## What `KindSetup` guarantees -/

theorem exposeKindService_not_mem_preparePlan (tools : KindTools) (setup : KindSetupConfig)
    (steps : List String) (exports : List KindExposePort) :
    KindEffect.exposeKindService exports ∉ (preparePlan tools setup steps).map (·.effect) := by
  simp only [preparePlan]
  split <;> simp [kindCall]

/-- `KindSetup` succeeds exactly when a file is given and, if the setup has
steps, every call answers without an error.  Without steps it succeeds, and
(by `kindSetupSpec`) makes no call, whatever images and ports the setup lists. -/
theorem kindSetup_ok_iff (tools : KindTools) (setup : KindSetupConfig) :
    (kindSetupSpec tools setup).2 = .ok () ↔
      setup.file ≠ "" ∧ ∀ steps, setup.steps = some steps →
      tools.kindRun (createClusterArgs setup.file tools.kubeConfigPath) = .ok () ∧
      setenvValid "KUBECONFIG" tools.kubeConfigPath = true ∧
      (∀ image ∈ setup.importImages,
        tools.kindRun (loadImageArgs (tools.expandEnv image)) = .ok ()) ∧
      tools.connectToK8sCluster = .ok () ∧ tools.runStepsAndWait steps = .ok () ∧
      tools.exposeKindService setup.exposePorts = .ok () := by
  unfold kindSetupSpec
  split
  · simp_all
  cases given : setup.steps with
  | none => simp_all
  | some steps =>
      simp only [given, runCalls_ok_iff, kindPlan, preparePlan, List.forall_mem_append,
        List.forall_mem_cons, List.forall_mem_map, List.forall_mem_ne]
      split <;> simp [kindCall, exposeCall, exportKubeConfig, ‹¬setup.file = ""›, and_assoc]

-- A setup that lists an image and a port but no steps succeeds without a call.
example (tools : KindTools) :
    kindSetupSpec tools ⟨"kind.yaml", none, "", ["web:latest"],
      [⟨"service/web", "8080"⟩]⟩ = ([], .ok ()) :=
  rfl

/-- The ports are exposed only for the setup's own requests, and only after
the cluster was created, every image loaded, the cluster connected and the
steps run, each without an error. -/
theorem kindSetup_exposes_after_steps {tools : KindTools} {setup : KindSetupConfig}
    {exports : List KindExposePort}
    (exposed : KindEffect.exposeKindService exports ∈ (kindSetupSpec tools setup).1) :
    ∃ steps, setup.steps = some steps ∧ exports = setup.exposePorts ∧
      tools.kindRun (createClusterArgs setup.file tools.kubeConfigPath) = .ok () ∧
      (∀ image ∈ setup.importImages,
        tools.kindRun (loadImageArgs (tools.expandEnv image)) = .ok ()) ∧
      tools.connectToK8sCluster = .ok () ∧ tools.runStepsAndWait steps = .ok () := by
  unfold kindSetupSpec at exposed
  split at exposed
  · simp at exposed
  cases given : setup.steps with
  | none => simp [given] at exposed
  | some steps =>
      simp only [given] at exposed
      have fresh := exposeKindService_not_mem_preparePlan tools setup steps exports
      have listed := mem_map_effect_of_made exposed
      simp only [kindPlan, List.map_append, List.mem_append, List.map_cons, List.map_nil,
        List.mem_singleton, exposeCall, KindEffect.exposeKindService.injEq] at listed
      obtain rfl := listed.resolve_left fresh
      have answered := @answered_of_made _ [] (exposeCall tools setup) fresh exposed
      refine ⟨steps, rfl, rfl,
        answered (kindCall tools (createClusterArgs setup.file tools.kubeConfigPath))
          (by simp [preparePlan]),
        fun image member => answered (kindCall tools (loadImageArgs (tools.expandEnv image)))
          (by
            simp only [preparePlan, List.mem_append, List.mem_map]
            exact .inl (.inr ⟨image, member, rfl⟩)),
        answered ⟨.connectToK8sCluster tools.kubeConfigPath, tools.connectToK8sCluster⟩
          (by simp [preparePlan]),
        answered ⟨.runStepsAndWait steps, tools.runStepsAndWait steps⟩
          (by simp [preparePlan])⟩

/-! ## What the code of `KindSetup` does -/

/-- The code of `KindSetup` returns without an error exactly when a file is
given and, if the setup has steps, every call it makes answers without one. -/
theorem kindSetup_succeeds_iff (tools : KindTools) (setup : KindSetupConfig)
    (log : List KindEffect) :
    ((kindSetup tools setup).run.run log).1 = .ok () ↔
      setup.file ≠ "" ∧ ∀ steps, setup.steps = some steps →
      tools.kindRun (createClusterArgs setup.file tools.kubeConfigPath) = .ok () ∧
      setenvValid "KUBECONFIG" tools.kubeConfigPath = true ∧
      (∀ image ∈ setup.importImages,
        tools.kindRun (loadImageArgs (tools.expandEnv image)) = .ok ()) ∧
      tools.connectToK8sCluster = .ok () ∧ tools.runStepsAndWait steps = .ok () ∧
      tools.exposeKindService setup.exposePorts = .ok () := by
  rw [kindSetup_runs tools setup log]
  exact kindSetup_ok_iff tools setup

/-- The code of `KindSetup` exposes ports only for the setup's own requests,
and only after the cluster was created, every image loaded, the cluster
connected and the steps run, each without an error. -/
theorem kindSetup_exposes_only_after_steps {tools : KindTools} {setup : KindSetupConfig}
    {log : List KindEffect} {exports : List KindExposePort}
    (exposed : KindEffect.exposeKindService exports ∈ ((kindSetup tools setup).run.run log).2)
    (fresh : KindEffect.exposeKindService exports ∉ log) :
    ∃ steps, setup.steps = some steps ∧ exports = setup.exposePorts ∧
      tools.kindRun (createClusterArgs setup.file tools.kubeConfigPath) = .ok () ∧
      (∀ image ∈ setup.importImages,
        tools.kindRun (loadImageArgs (tools.expandEnv image)) = .ok ()) ∧
      tools.connectToK8sCluster = .ok () ∧ tools.runStepsAndWait steps = .ok () := by
  rw [kindSetup_runs tools setup log, List.mem_append] at exposed
  exact kindSetup_exposes_after_steps (exposed.resolve_left fresh)

/-- Tools that answer every call without an error. -/
def quietTools : KindTools :=
  ⟨"/root/.kube/config", id, id, fun _ => .ok (), .ok (), fun _ => .ok (), fun _ => .ok ()⟩

/-- A setup with one step, one image and one port. -/
def webSetup : KindSetupConfig :=
  ⟨"kind.yaml", some ["install"], "", ["web:latest"], [⟨"service/web", "8080"⟩]⟩

theorem kindSetup_exposes_only_after_steps_web :
    KindEffect.exposeKindService [⟨"service/web", "8080"⟩] ∈
        ((kindSetup quietTools webSetup).run.run []).2 ∧
      KindEffect.exposeKindService [⟨"service/web", "8080"⟩] ∉ ([] : List KindEffect) ∧
      ∃ steps, webSetup.steps = some steps ∧ [⟨"service/web", "8080"⟩] = webSetup.exposePorts ∧
        quietTools.kindRun (createClusterArgs webSetup.file quietTools.kubeConfigPath) = .ok () ∧
        (∀ image ∈ webSetup.importImages,
          quietTools.kindRun (loadImageArgs (quietTools.expandEnv image)) = .ok ()) ∧
        quietTools.connectToK8sCluster = .ok () ∧ quietTools.runStepsAndWait steps = .ok () :=
  have exposed : KindEffect.exposeKindService [⟨"service/web", "8080"⟩] ∈
      ((kindSetup quietTools webSetup).run.run []).2 := by decide
  ⟨exposed, nofun, kindSetup_exposes_only_after_steps exposed nofun⟩

end InfraE2E.Kind
