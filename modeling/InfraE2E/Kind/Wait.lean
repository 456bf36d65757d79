import InfraE2E.Text

/-!
# Wait conditions of the kind setup

`getWaitOptions` turns a `wait` block of the configuration into the flags of
`kubectl wait`: the resource as the one argument, the condition, and either
the block's label selector or, when the resource names only a kind, `--all`.
It refuses a block without a resource, and one that names a single resource
(`kind/name`) together with a label selector.  What `ToOptions` then makes of
the flags is kubectl's.
-/

namespace InfraE2E.Kind

open Text

/-- `config.Wait`; its namespace only tells the client where to look. -/
structure Wait where
  resource : String
  labelSelector : String
  forCondition : String
  deriving DecidableEq, Repr

/-- The flags `getWaitOptions` hands to `ToOptions`. -/
structure WaitFlags where
  args : List String
  labelSelector : Option String
  all : Bool
  forCondition : String
  deriving DecidableEq, Repr

def getWaitOptions (wait : Wait) : Except String WaitFlags :=
  if contains wait.resource '/' && wait.labelSelector != "" then
    .error ("when passing resource.group/resource.name in Resource, " ++
      "the labelSelector can not be set at the same time")
  else if wait.resource = "" then
    .error "resource must be provided in wait block"
  else if wait.labelSelector ≠ "" then
    .ok ⟨[wait.resource], some wait.labelSelector, false, wait.forCondition⟩
  else
    .ok ⟨[wait.resource], none, !contains wait.resource '/', wait.forCondition⟩

/-- How an accepted block selects what to wait for: one named resource, the
resources of a kind with a label, or all the resources of a kind. -/
inductive Selection (wait : Wait) : WaitFlags → Prop
  | named : contains wait.resource '/' = true → wait.labelSelector = "" →
      Selection wait ⟨[wait.resource], none, false, wait.forCondition⟩
  | labelled : contains wait.resource '/' = false → wait.labelSelector ≠ "" →
      Selection wait ⟨[wait.resource], some wait.labelSelector, false, wait.forCondition⟩
  | all : contains wait.resource '/' = false → wait.labelSelector = "" →
      Selection wait ⟨[wait.resource], none, true, wait.forCondition⟩

/-- An accepted block has a resource and selects in exactly one of the three
ways; every other block is refused with the message naming what is wrong. -/
theorem getWaitOptions_spec (wait : Wait) :
    (∀ flags, getWaitOptions wait = .ok flags → wait.resource ≠ "" ∧ Selection wait flags) ∧
      (contains wait.resource '/' = true → wait.labelSelector ≠ "" →
        getWaitOptions wait = .error ("when passing resource.group/resource.name in Resource, " ++
          "the labelSelector can not be set at the same time")) ∧
      (wait.resource = "" → getWaitOptions wait = .error "resource must be provided in wait block") := by
  refine ⟨fun flags accepted => ?_, fun named labelled => by simp [getWaitOptions, named, labelled],
    fun empty => by simp [getWaitOptions, empty, contains]⟩
  unfold getWaitOptions at accepted
  split at accepted
  · cases accepted
  rename_i notBoth
  split at accepted
  · cases accepted
  rename_i given
  split at accepted <;> cases accepted
  · rename_i labelled
    exact ⟨given, .labelled (by simpa [labelled] using notBoth) labelled⟩
  · rename_i unlabelled
    cases named : contains wait.resource '/'
    · exact ⟨given, .all named (not_not.mp unlabelled)⟩
    · exact ⟨given, .named named (not_not.mp unlabelled)⟩

end InfraE2E.Kind
