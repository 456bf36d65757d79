import InfraE2E.Compose.Daemon

/-!
# Finding the container of a service

`ComposeSetup` looks up the container of a service by name.
`getInstanceName` appends the replica suffix `_1` unless the service name
already matches `.*_[0-9]+`.  `findContainer` then lists the containers whose
name matches the filter `<identifier>_<instance>` and takes the first one.
Docker reads a name filter as an unanchored regular expression, so the
listing also holds every container whose name merely contains the filter:
the container of a service named `db_10` is found when looking up `db`.
-/

namespace InfraE2E.Compose

open Regex

/-- `.*_[0-9]+`. -/
def replicaPattern : Regex := .seq (.star .any) (.seq (.char '_') (.seq .digit (.star .digit)))

/-- `getInstanceName`; `regexp.MatchString` cannot fail on this constant
pattern, so its error branch is left out. -/
def getInstanceName (serviceName : String) : String :=
  if matchString replicaPattern serviceName then serviceName else serviceName ++ "_1"

/-- `ContainerList` with a `name` filter: the daemon's containers whose name
the filter matches, in the daemon's order. -/
def containerList (docker : Docker) (name : String) : Except String (List Container) :=
  match docker.containerListError with
  | some message => .error message
  | none => .ok (docker.containers.filter fun container =>
      matchString (ofName name.data) container.name)

def findContainer (docker : Docker) (instanceName : String) : Except String Container :=
  match containerList docker instanceName with
  | .error message => .error message
  | .ok [] => .error ("could not found container: " ++ instanceName)
  | .ok (container :: _) => .ok container

/-- The unanchored search for `.*_[0-9]+` succeeds exactly on the names that
hold an underscore directly followed by a digit, anywhere. -/
theorem matchString_replicaPattern_iff {name : String} :
    matchString replicaPattern name = true ↔
      ∃ front digit back, name.data = front ++ '_' :: digit :: back ∧ digit.isDigit = true := by
  simp only [matchString_iff, replicaPattern, matches_seq_iff, matches_char_iff,
    matches_digit_iff]
  constructor
  · rintro ⟨front, _, back, split, skipped, _, rfl, -, _, _, rfl, rfl, _, tail, rfl,
      ⟨digit, rfl, isDigit⟩, -⟩
    exact ⟨front ++ skipped, digit, tail ++ back, by simp [split], isDigit⟩
  · rintro ⟨front, digit, back, split, isDigit⟩
    exact ⟨front, ['_', digit], back, by simp [split], [], _, rfl, .starNil, _, _, rfl, rfl,
      [digit], [], rfl, ⟨digit, rfl, isDigit⟩, .starNil⟩

/-! ## Instance names -/

/-- The reading of a replica suffix as a suffix: the name ends with `_` and
one or more decimal digits. -/
def EndsWithReplica (name : String) : Prop :=
  ∃ front digits, name.data = front ++ '_' :: digits ∧ digits ≠ [] ∧
    ∀ d ∈ digits, d.isDigit = true

theorem getInstanceName_of_replica {serviceName : String} {front back : List Char} {digit : Char}
    (inner : serviceName.data = front ++ '_' :: digit :: back) (isDigit : digit.isDigit = true) :
    getInstanceName serviceName = serviceName := by
  simp [getInstanceName,
    matchString_replicaPattern_iff.mpr ⟨front, digit, back, inner, isDigit⟩]

theorem getInstanceName_of_no_replica {serviceName : String}
    (none : ∀ front digit back, serviceName.data = front ++ '_' :: digit :: back →
      digit.isDigit = false) :
    getInstanceName serviceName = serviceName ++ "_1" := by
  have unmatched : matchString replicaPattern serviceName = false := by
    rw [Bool.eq_false_iff, ne_eq, matchString_replicaPattern_iff]
    rintro ⟨front, digit, back, inner, isDigit⟩
    simp [none front digit back inner] at isDigit
  simp [getInstanceName, unmatched]

/-- A name with a replica suffix is kept. -/
theorem getInstanceName_of_endsWithReplica {serviceName : String}
    (suffixed : EndsWithReplica serviceName) : getInstanceName serviceName = serviceName := by
  obtain ⟨front, digits, inner, nonempty, allDigits⟩ := suffixed
  cases digits with
  | nil => contradiction
  | cons digit back => exact getInstanceName_of_replica inner (allDigits digit (.head _))

/-- The last character of a name with a replica suffix is a digit. -/
theorem last_isDigit_of_endsWithReplica {name : String} (suffixed : EndsWithReplica name) :
    ∃ last, name.data.getLast? = some last ∧ last.isDigit = true := by
  obtain ⟨front, digits, inner, nonempty, allDigits⟩ := suffixed
  obtain ⟨last, found⟩ :=
    Option.ne_none_iff_exists'.mp (List.getLast?_eq_none_iff.not.mpr nonempty)
  refine ⟨last, ?_, allDigits last (List.mem_of_getLast?_eq_some found)⟩
  rw [inner, List.getLast?_append, List.getLast?_cons, found]
  rfl

/-- A name that holds an underscore directly followed by a digit but does not
end in a digit is kept as it is: `_1` is not appended, and the instance name
does not end with a replica suffix. -/
theorem getInstanceName_keeps_inner_replica {serviceName : String} {front back : List Char}
    {digit : Char} (inner : serviceName.data = front ++ '_' :: digit :: back)
    (isDigit : digit.isDigit = true)
    (lastNotDigit : ∀ last, serviceName.data.getLast? = some last → last.isDigit = false) :
    getInstanceName serviceName = serviceName ∧
      ¬EndsWithReplica (getInstanceName serviceName) := by
  rw [getInstanceName_of_replica inner isDigit]
  refine ⟨rfl, fun suffixed => ?_⟩
  obtain ⟨last, found, lastDigit⟩ := last_isDigit_of_endsWithReplica suffixed
  simp [lastNotDigit last found] at lastDigit

theorem getInstanceName_keeps_inner_replica_a1b :
    "a_1b".data = ['a'] ++ '_' :: '1' :: ['b'] ∧ '1'.isDigit = true ∧
      (∀ last, "a_1b".data.getLast? = some last → last.isDigit = false) ∧
      getInstanceName "a_1b" = "a_1b" ∧ ¬EndsWithReplica (getInstanceName "a_1b") := by
  have lastNotDigit : ∀ last, "a_1b".data.getLast? = some last → last.isDigit = false := by
    rintro last found
    obtain rfl : 'b' = last := Option.some.inj found
    rfl
  have inner : "a_1b".data = ['a'] ++ '_' :: '1' :: ['b'] := rfl
  exact ⟨inner, rfl, lastNotDigit,
    getInstanceName_keeps_inner_replica inner (show '1'.isDigit = true from rfl) lastNotDigit⟩

/-- The name filter of a service finds the containers of every service whose
name starts with the service's instance name. -/
theorem findContainer_of_instance_prefix {docker : Docker} {container : Container}
    {rest : List Container} {identifier service suffix : String} {replica : Nat}
    (listedFirst : docker.containers = container :: rest)
    (named : container.name =
      identifier ++ "_" ++ (getInstanceName service ++ suffix) ++ "_" ++ toString replica)
    (listed : docker.containerListError = none) :
    findContainer docker (identifier ++ "_" ++ getInstanceName service) = .ok container := by
  have found : matchString (ofName (identifier ++ "_" ++ getInstanceName service).data)
      container.name = true := by
    have regroup : container.name = ⟨[] ++ (identifier ++ "_" ++ getInstanceName service).data ++
        (suffix ++ "_" ++ toString replica).data⟩ := by
      rw [named]
      simp [String.ext_iff]
    rw [regroup]
    exact matchString_ofName_of_infix
  have kept : (container :: rest).filter (fun listing =>
      matchString (ofName (identifier ++ "_" ++ getInstanceName service).data) listing.name) =
      container :: rest.filter (fun listing =>
        matchString (ofName (identifier ++ "_" ++ getInstanceName service).data) listing.name) :=
    List.filter_cons_of_pos found
  simp only [findContainer, containerList, listed, listedFirst, kept]

/-- Services `db` and `db_10`; the listing puts the container of `db_10` first. -/
def dbStack : Docker :=
  { Docker.quiet with containers := [⟨"b", "e2e_db_10_1", []⟩, ⟨"a", "e2e_db_1", []⟩] }

theorem findContainer_of_instance_prefix_db :
    dbStack.containers = ⟨"b", "e2e_db_10_1", []⟩ :: [⟨"a", "e2e_db_1", []⟩] ∧
      (⟨"b", "e2e_db_10_1", []⟩ : Container).name =
        "e2e" ++ "_" ++ (getInstanceName "db" ++ "0") ++ "_" ++ toString 1 ∧
      dbStack.containerListError = none ∧
      findContainer dbStack ("e2e" ++ "_" ++ getInstanceName "db") =
        .ok ⟨"b", "e2e_db_10_1", []⟩ := by
  have named : (⟨"b", "e2e_db_10_1", []⟩ : Container).name =
      "e2e" ++ "_" ++ (getInstanceName "db" ++ "0") ++ "_" ++ toString 1 := by
    decide
  exact ⟨rfl, named, rfl, findContainer_of_instance_prefix rfl named rfl⟩

end InfraE2E.Compose
