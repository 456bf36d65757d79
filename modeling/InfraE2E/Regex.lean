import InfraE2E.Text

/-!
# Regular expressions of the setup code

`getInstanceName` tests a compose service name with
`regexp.MatchString(".*_[0-9]+", name)`, and the Docker daemon keeps a
container in a `name`-filtered listing when the filter, read as a Go regular
expression, matches somewhere in the container's name.  Both are unanchored
searches.

`accepts` is a derivative matcher that follows the string one character at a
time; `Matches` is the language of an expression.  `accepts_iff` says they
agree, and `matchString_iff` reads Go's unanchored search as "some substring
is in the language".
-/

namespace InfraE2E

/-- The fragment of Go's regular-expression syntax that the setup code and
its name filters use. -/
inductive Regex where
  | empty
  | eps
  | char (c : Char)
  | any
  | digit
  | seq (first second : Regex)
  | alt (left right : Regex)
  | star (body : Regex)
  deriving DecidableEq, Repr

namespace Regex

/-- The language of an expression.  `.` is any character but a newline, as in
Go without the `s` flag. -/
inductive Matches : Regex → List Char → Prop where
  | eps : Matches .eps []
  | char (c : Char) : Matches (.char c) [c]
  | any {c : Char} : c ≠ '\n' → Matches .any [c]
  | digit {c : Char} : c.isDigit = true → Matches .digit [c]
  | seq {first second : Regex} {front back : List Char} :
      Matches first front → Matches second back → Matches (.seq first second) (front ++ back)
  | altLeft {left right : Regex} {s : List Char} :
      Matches left s → Matches (.alt left right) s
  | altRight {left right : Regex} {s : List Char} :
      Matches right s → Matches (.alt left right) s
  | starNil {body : Regex} : Matches (.star body) []
  | starCons {body : Regex} {front back : List Char} :
      Matches body front → Matches (.star body) back → Matches (.star body) (front ++ back)

def nullable : Regex → Bool
  | empty => false
  | eps => true
  | char _ => false
  | any => false
  | digit => false
  | seq first second => first.nullable && second.nullable
  | alt left right => left.nullable || right.nullable
  | star _ => true

/-- The expression for what may follow after reading `c`. -/
def deriv (c : Char) : Regex → Regex
  | empty => empty
  | eps => empty
  | char d => if c = d then eps else empty
  | any => if c = '\n' then empty else eps
  | digit => if c.isDigit then eps else empty
  | seq first second =>
      if first.nullable then alt (seq (deriv c first) second) (deriv c second)
      else seq (deriv c first) second
  | alt left right => alt (deriv c left) (deriv c right)
  | star body => seq (deriv c body) (star body)

def accepts (r : Regex) : List Char → Bool
  | [] => r.nullable
  | c :: rest => accepts (r.deriv c) rest

/-- Every character, newlines included. -/
def anything : Regex := alt any (char '\n')

/-- `regexp.MatchString(pattern, s)`: the pattern matches somewhere in `s`. -/
def matchString (pattern : Regex) (s : String) : Bool :=
  accepts (seq (star anything) (seq pattern (star anything))) s.data

/-- A filter value read as a Go pattern.  Filters are built from compose
service names and the run identifier, whose characters are letters, digits,
`_`, `-` and `.`; of these only `.` is a metacharacter. -/
def ofName (name : List Char) : Regex :=
  name.foldr (fun c rest => seq (if c = '.' then any else char c) rest) eps

/-! ## Inversion of the language -/

section Inversion

variable {first second body : Regex} {c d : Char} {s : List Char}

@[simp] theorem not_matches_empty : ¬Matches empty s := by
  intro matched
  cases matched

@[simp] theorem matches_eps_iff : Matches eps s ↔ s = [] :=
  ⟨fun matched => by cases matched; rfl, fun empty => empty ▸ .eps⟩

@[simp] theorem matches_char_iff : Matches (char d) s ↔ s = [d] :=
  ⟨fun matched => by cases matched; rfl, fun single => single ▸ .char d⟩

@[simp] theorem matches_any_iff : Matches any s ↔ ∃ c, s = [c] ∧ c ≠ '\n' :=
  ⟨fun matched => by cases matched with | any other => exact ⟨_, rfl, other⟩,
    fun ⟨_, single, other⟩ => single ▸ .any other⟩

@[simp] theorem matches_digit_iff : Matches digit s ↔ ∃ c, s = [c] ∧ c.isDigit = true :=
  ⟨fun matched => by cases matched with | digit isDigit => exact ⟨_, rfl, isDigit⟩,
    fun ⟨_, single, isDigit⟩ => single ▸ .digit isDigit⟩

theorem matches_seq_iff :
    Matches (seq first second) s ↔
      ∃ front back, s = front ++ back ∧ Matches first front ∧ Matches second back :=
  ⟨fun matched => by cases matched with | seq front back => exact ⟨_, _, rfl, front, back⟩,
    fun ⟨_, _, split, front, back⟩ => split ▸ .seq front back⟩

@[simp] theorem matches_alt_iff :
    Matches (alt first second) s ↔ Matches first s ∨ Matches second s :=
  ⟨fun matched => by
      cases matched with
      | altLeft left => exact .inl left
      | altRight right => exact .inr right,
    fun either => either.elim .altLeft .altRight⟩

private theorem star_cons_inv (matched : Matches (star body) (c :: s)) :
    ∃ front back, s = front ++ back ∧ Matches body (c :: front) ∧ Matches (star body) back := by
  generalize sameRegex : star body = r at matched
  generalize sameString : c :: s = w at matched
  induction matched generalizing s with
  | @starCons _ front back first rest _ restInduction =>
      cases sameRegex
      cases front with
      | nil => exact restInduction rfl (by simpa using sameString)
      | cons head tail =>
          obtain ⟨rfl, rfl⟩ := List.cons_eq_cons.mp sameString
          exact ⟨tail, back, rfl, first, rest⟩
  | starNil => cases sameString
  | _ => cases sameRegex

end Inversion

/-! ## The matcher decides the language -/

theorem nullable_iff {r : Regex} : r.nullable = true ↔ Matches r [] := by
  induction r with
  | empty => simp [nullable]
  | eps => simp [nullable]
  | char d => simp [nullable]
  | any => simp [nullable]
  | digit => simp [nullable]
  | seq first second firstInduction secondInduction =>
      simp only [nullable, Bool.and_eq_true, firstInduction, secondInduction, matches_seq_iff,
        List.nil_eq_append_iff]
      constructor
      · rintro ⟨front, back⟩
        exact ⟨[], [], ⟨rfl, rfl⟩, front, back⟩
      · rintro ⟨_, _, ⟨rfl, rfl⟩, front, back⟩
        exact ⟨front, back⟩
  | alt left right leftInduction rightInduction =>
      simp [nullable, leftInduction, rightInduction]
  | star body => simp only [nullable, true_iff]; exact .starNil

/-- A sequence reads its first character in its first part, or in its second
after an empty first part. -/
theorem matches_seq_cons_iff {first second : Regex} {c : Char} {s : List Char} :
    Matches (seq first second) (c :: s) ↔
      (∃ front back, s = front ++ back ∧ Matches first (c :: front) ∧ Matches second back) ∨
        (Matches first [] ∧ Matches second (c :: s)) := by
  rw [matches_seq_iff]
  constructor
  · rintro ⟨front, back, split, matchedFirst, matchedSecond⟩
    cases front with
    | nil => exact .inr ⟨matchedFirst, by simpa [split] using matchedSecond⟩
    | cons head tail =>
        obtain ⟨rfl, rfl⟩ := List.cons_eq_cons.mp split
        exact .inl ⟨tail, back, rfl, matchedFirst, matchedSecond⟩
  · rintro (⟨front, back, rfl, matchedFirst, matchedSecond⟩ | ⟨matchedFirst, matchedSecond⟩)
    · exact ⟨c :: front, back, rfl, matchedFirst, matchedSecond⟩
    · exact ⟨[], c :: s, rfl, matchedFirst, matchedSecond⟩

theorem matches_deriv_iff {c : Char} {r : Regex} {s : List Char} :
    Matches (r.deriv c) s ↔ Matches r (c :: s) := by
  induction r generalizing s with
  | empty => simp [deriv]
  | eps => simp [deriv]
  | char d => by_cases same : c = d <;> simp [deriv, same, eq_comm]
  | any => by_cases newline : c = '\n' <;> simp [deriv, newline, and_assoc]
  | digit => by_cases isDigit : c.isDigit <;> simp [deriv, isDigit, and_assoc]
  | seq first second firstInduction secondInduction =>
      rw [matches_seq_cons_iff, ← nullable_iff]
      simp only [deriv]
      split <;> rename_i nullable <;>
        simp [matches_seq_iff, firstInduction, secondInduction, nullable]
  | alt left right leftInduction rightInduction =>
      simp [deriv, leftInduction, rightInduction]
  | star body bodyInduction =>
      simp only [deriv, matches_seq_iff, bodyInduction]
      constructor
      · rintro ⟨front, back, rfl, matchedBody, matchedRest⟩
        exact (.starCons matchedBody matchedRest : Matches (star body) ((c :: front) ++ back))
      · exact star_cons_inv

theorem accepts_iff {r : Regex} {s : List Char} : r.accepts s = true ↔ Matches r s := by
  induction s generalizing r with
  | nil => exact nullable_iff
  | cons c rest induction => exact induction.trans matches_deriv_iff

/-! ## Unanchored search -/

theorem matches_star_anything (s : List Char) : Matches (star anything) s := by
  induction s with
  | nil => exact .starNil
  | cons c rest induction =>
      have single : Matches anything [c] := by
        by_cases newline : c = '\n'
        · exact .altRight (newline ▸ .char '\n')
        · exact .altLeft (.any newline)
      exact (.starCons single induction : Matches (star anything) ([c] ++ rest))

theorem matchString_iff {pattern : Regex} {s : String} :
    matchString pattern s = true ↔
      ∃ front middle back, s.data = front ++ middle ++ back ∧ Matches pattern middle := by
  simp only [matchString, accepts_iff, matches_seq_iff]
  constructor
  · rintro ⟨front, _, split, -, middle, back, rfl, matched, -⟩
    exact ⟨front, middle, back, by simp [split], matched⟩
  · rintro ⟨front, middle, back, split, matched⟩
    exact ⟨front, middle ++ back, by simp [split], matches_star_anything front,
      middle, back, rfl, matched, matches_star_anything back⟩

theorem matches_ofName_self (name : List Char) : Matches (ofName name) name := by
  induction name with
  | nil => exact .eps
  | cons c rest induction =>
      have atom : Matches (if c = '.' then any else char c) [c] := by
        split
        · rename_i dot
          exact .any (by rw [dot]; decide)
        · exact .char c
      exact (.seq atom induction : Matches _ ([c] ++ rest))

/-- A filter finds every name it occurs in literally. -/
theorem matchString_ofName_of_infix {name : String} {front back : List Char} :
    matchString (ofName name.data) ⟨front ++ name.data ++ back⟩ = true :=
  matchString_iff.mpr ⟨front, name.data, back, rfl, matches_ofName_self name.data⟩

end Regex

end InfraE2E
