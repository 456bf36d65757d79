import Mathlib

/-!
# Go text primitives of the setup code

The setup code splits port tokens with `strings.Split`, tests them with
`strings.Contains`, sanitises resource names with `strings.ReplaceAll`, prints
numbers with `%d` and `strconv.Itoa`, and reads them back with `strconv.Atoi`
and `strconv.ParseInt`.  Every pattern it passes is a single ASCII character,
so a Go string is modelled by the list of its characters and each primitive by
a list function.

The printed decimal of a natural number is Lean's `toString`, i.e.
`Nat.toDigits 10`.  The facts proved here are the ones the port-key and
port-token arguments rest on: a printed numeral is made of digits, parses back
to the number, and determines it.
-/

namespace InfraE2E

namespace Text

/-- `strings.Split(s, string(separator))`. -/
def split (s : String) (separator : Char) : List String :=
  (s.data.splitOn separator).map String.mk

/-- `strings.Contains(s, string(c))`. -/
def contains (s : String) (c : Char) : Bool :=
  s.data.contains c

/-- `strings.ReplaceAll(s, string(old), string(new))`. -/
def replaceAll (s : String) (old new : Char) : String :=
  ⟨s.data.map fun c => if c = old then new else c⟩

/-- `net.JoinHostPort(host, port)`: an IPv6 host is bracketed. -/
def joinHostPort (host port : String) : String :=
  if contains host ':' then "[" ++ host ++ "]:" ++ port else host ++ ":" ++ port

/-- `syscall.Setenv` refuses an empty key, a key holding `=` or NUL, and a
value holding NUL. -/
def setenvValid (key value : String) : Bool :=
  !key.data.isEmpty && !key.data.contains '=' && !key.data.contains '\x00' &&
    !value.data.contains '\x00'

/-- The value of a string of decimal digits, or `none` at the first other
character.  This is the digit loop of `strconv.ParseUint` in base 10. -/
def digitsValue (digits : List Char) : Option Nat :=
  digits.foldl (fun value c => value.bind fun v =>
    if c.isDigit then some (10 * v + (c.toNat - '0'.toNat)) else none) (some 0)

/-- A non-empty string of decimal digits, read as a number: what the tunnel
library accepts as a port. -/
def parseDecimal (s : String) : Option Nat :=
  if s.data = [] then none else digitsValue s.data

/-- Why a `strconv` parse failed. -/
inductive NumCause where
  | invalid
  | outOfRange
  deriving DecidableEq, Repr

/-- `strconv.NumError`: the parsing function, its input and the cause. -/
structure NumError where
  func : String
  num : String
  cause : NumCause
  deriving DecidableEq, Repr

/-- `NumError.Error()`, with `strconv.Quote` modelled as plain double quotes. -/
def NumError.message (error : NumError) : String :=
  "strconv." ++ error.func ++ ": parsing \"" ++ error.num ++ "\": " ++
    match error.cause with
    | .invalid => "invalid syntax"
    | .outOfRange => "value out of range"

/-- The optional sign in front of the digits of a Go integer literal. -/
def splitSign : List Char → Bool × List Char
  | '-' :: digits => (true, digits)
  | '+' :: digits => (false, digits)
  | digits => (false, digits)

/-- `strconv.ParseInt(s, 10, bitSize)` as reported by `func`.  A string that
both overflows and holds a non-digit is reported as invalid here, where Go may
report the overflow first; only the cause differs. -/
def parseIntAs (func s : String) (bitSize : Nat) : Except NumError Int :=
  let (negative, digits) := splitSign s.data
  match parseDecimal ⟨digits⟩ with
  | none => .error ⟨func, s, .invalid⟩
  | some value =>
      if negative then
        if value ≤ 2 ^ (bitSize - 1) then .ok (-(value : Int))
        else .error ⟨func, s, .outOfRange⟩
      else if value < 2 ^ (bitSize - 1) then .ok value
      else .error ⟨func, s, .outOfRange⟩

/-- `strconv.Atoi(s)` on a 64-bit platform. -/
def atoi (s : String) : Except NumError Int :=
  parseIntAs "Atoi" s 64

/-- `strconv.ParseInt(s, 10, bitSize)`. -/
def parseInt (s : String) (bitSize : Nat) : Except NumError Int :=
  parseIntAs "ParseInt" s bitSize

/-- `strconv.ParseUint(s, 10, bitSize)`: decimal digits only, no sign. -/
def parseUint (s : String) (bitSize : Nat) : Except NumError Nat :=
  match parseDecimal s with
  | none => .error ⟨"ParseUint", s, .invalid⟩
  | some value => if value < 2 ^ bitSize then .ok value else .error ⟨"ParseUint", s, .outOfRange⟩

theorem except_bind_eq_ok {ε α β : Type} {call : Except ε α} {next : α → Except ε β} {value : β} :
    (call >>= next) = .ok value ↔ ∃ first, call = .ok first ∧ next first = .ok value := by
  cases call <;> simp [bind, Except.bind]

/-! ## Splitting -/

private theorem not_beq_of_not_mem {separator : Char} {chars : List Char}
    (absent : separator ∉ chars) : ∀ c ∈ chars, ¬(c == separator) = true := by
  intro c member same
  exact absent (by simpa [beq_iff_eq.mp same] using member)

theorem split_of_not_mem {s : String} {separator : Char}
    (absent : separator ∉ s.data) : split s separator = [s] := by
  simp [split, List.splitOn, List.splitOnP_eq_single _ _ (not_beq_of_not_mem absent)]

theorem split_append {first rest : String} {separator : Char}
    (absent : separator ∉ first.data) :
    split (first ++ ⟨[separator]⟩ ++ rest) separator = first :: split rest separator := by
  have splitFirst := List.splitOnP_first (· == separator) first.data
    (not_beq_of_not_mem absent) separator (beq_self_eq_true separator) rest.data
  simp only [split, List.splitOn, String.data_append, List.append_assoc,
    List.singleton_append, splitFirst, List.map_cons]

theorem contains_iff {s : String} {c : Char} : contains s c = true ↔ c ∈ s.data := by
  simp [contains]

/-! ## Printed numerals -/

private theorem toDigitsCore_eq (fuel n : Nat) (rest : List Char) (enough : n < fuel) :
    Nat.toDigitsCore 10 fuel n rest = Nat.toDigits 10 n ++ rest := by
  induction n using Nat.strong_induction_on generalizing fuel rest with
  | _ n induction =>
      obtain ⟨fuel, rfl⟩ : ∃ f, fuel = f + 1 := ⟨fuel - 1, by omega⟩
      by_cases small : n / 10 = 0
      · simp [Nat.toDigits, Nat.toDigitsCore, small]
      · have below : n / 10 < n := Nat.div_lt_self (by omega) (by omega)
        simp only [Nat.toDigits, Nat.toDigitsCore, small, if_false]
        rw [induction _ below fuel _ (by omega), induction _ below n _ below]
        simp

/-- The numeral of `n` is the numeral of `n / 10` followed by its last digit. -/
theorem toDigits_eq (n : Nat) :
    Nat.toDigits 10 n =
      (if n < 10 then [] else Nat.toDigits 10 (n / 10)) ++ [Nat.digitChar (n % 10)] := by
  by_cases small : n < 10
  · have quotient : n / 10 = 0 := Nat.div_eq_of_lt small
    simp [Nat.toDigits, Nat.toDigitsCore, quotient, small]
  · have quotient : n / 10 ≠ 0 := by omega
    simp only [Nat.toDigits, Nat.toDigitsCore, quotient, if_false, small]
    exact toDigitsCore_eq n (n / 10) _ (Nat.div_lt_self (by omega) (by omega))

private theorem digitChar_isDigit : ∀ d, d < 10 → (Nat.digitChar d).isDigit = true := by
  decide

private theorem digitChar_value : ∀ d, d < 10 → (Nat.digitChar d).toNat - '0'.toNat = d := by
  decide

theorem isDigit_of_mem_toDigits {n : Nat} {c : Char} (member : c ∈ Nat.toDigits 10 n) :
    c.isDigit = true := by
  induction n using Nat.strong_induction_on with
  | _ n induction =>
      rw [toDigits_eq] at member
      rcases List.mem_append.mp member with front | last
      · split at front
        · simp at front
        · exact induction _ (Nat.div_lt_self (by omega) (by omega)) front
      · rw [List.mem_singleton.mp last]
        exact digitChar_isDigit _ (Nat.mod_lt _ (by omega))

theorem toDigits_ne_nil (n : Nat) : Nat.toDigits 10 n ≠ [] := by
  rw [toDigits_eq]
  simp

theorem digitsValue_append_digit (digits : List Char) (c : Char) :
    digitsValue (digits ++ [c]) = (digitsValue digits).bind fun v =>
      if c.isDigit then some (10 * v + (c.toNat - '0'.toNat)) else none := by
  simp [digitsValue, List.foldl_append]

/-- A printed numeral reads back as its number. -/
theorem digitsValue_toDigits (n : Nat) : digitsValue (Nat.toDigits 10 n) = some n := by
  induction n using Nat.strong_induction_on with
  | _ n induction =>
      have last : n % 10 < 10 := Nat.mod_lt _ (by omega)
      have front : digitsValue (if n < 10 then [] else Nat.toDigits 10 (n / 10)) =
          some (n / 10) := by
        split
        · simp only [digitsValue, List.foldl_nil, Option.some.injEq]
          omega
        · exact induction _ (Nat.div_lt_self (by omega) (by omega))
      rw [toDigits_eq, digitsValue_append_digit, front]
      simp only [Option.some_bind, digitChar_isDigit _ last, if_true,
        digitChar_value _ last, Nat.div_add_mod]

theorem parseDecimal_toString (n : Nat) : parseDecimal (toString n) = some n := by
  simp only [parseDecimal]
  exact if_neg (toDigits_ne_nil n) |>.trans (digitsValue_toDigits n)

/-- `%d` prints different numbers differently. -/
theorem toString_injective {m n : Nat} (same : toString m = toString n) : m = n := by
  have read := congrArg parseDecimal same
  rwa [parseDecimal_toString, parseDecimal_toString, Option.some.injEq] at read

@[simp] theorem toString_inj {m n : Nat} : toString m = toString n ↔ m = n :=
  ⟨toString_injective, congrArg _⟩

theorem not_mem_toString {n : Nat} {c : Char} (notDigit : c.isDigit = false) :
    c ∉ (toString n).data := by
  intro member
  have digit := isDigit_of_mem_toDigits member
  simp_all

private theorem splitSign_of_digits {digits : List Char}
    (allDigits : ∀ c ∈ digits, c.isDigit = true) : splitSign digits = (false, digits) := by
  unfold splitSign
  split
  · exact absurd (allDigits '-' (by simp)) (by decide)
  · exact absurd (allDigits '+' (by simp)) (by decide)
  · rfl

/-- `strconv.ParseInt` reads a printed numeral back when it fits `bitSize` bits. -/
theorem parseIntAs_toString (func : String) {n bitSize : Nat} (fits : n < 2 ^ (bitSize - 1)) :
    parseIntAs func (toString n) bitSize = .ok n := by
  have digits : ∀ c ∈ (toString n).data, c.isDigit = true :=
    fun _ member => isDigit_of_mem_toDigits member
  have sameString : (⟨(toString n).data⟩ : String) = toString n := rfl
  simp only [parseIntAs, splitSign_of_digits digits, sameString, parseDecimal_toString]
  simp [fits]

theorem atoi_toString {n : Nat} (fits : n < 2 ^ 63) : atoi (toString n) = .ok n :=
  parseIntAs_toString "Atoi" fits

theorem parseUint_toString {n bitSize : Nat} (fits : n < 2 ^ bitSize) :
    parseUint (toString n) bitSize = .ok n := by
  simp [parseUint, parseDecimal_toString, fits]

theorem digitsValue_eq_none {digits : List Char} (other : ∃ c ∈ digits, c.isDigit = false) :
    digitsValue digits = none := by
  induction digits using List.reverseRecOn with
  | nil => simp at other
  | append_singleton front last induction =>
      rw [digitsValue_append_digit]
      obtain ⟨c, member, notDigit⟩ := other
      rcases List.mem_append.mp member with inFront | isLast
      · rw [induction ⟨c, inFront, notDigit⟩]
        rfl
      · rw [List.mem_singleton.mp isLast] at notDigit
        cases digitsValue front <;> simp [notDigit]

theorem parseDecimal_eq_none {s : String} (other : ∃ c ∈ s.data, c.isDigit = false) :
    parseDecimal s = none := by
  simp only [parseDecimal]
  split
  · rfl
  · exact digitsValue_eq_none other

private theorem mem_splitSign {c : Char} {chars : List Char} (member : c ∈ chars)
    (notMinus : c ≠ '-') (notPlus : c ≠ '+') : c ∈ (splitSign chars).2 := by
  unfold splitSign
  split
  · simpa [notMinus] using member
  · simpa [notPlus] using member
  · exact member

/-- A string holding a character that is neither a digit nor a sign is no
Go integer. -/
theorem parseIntAs_error {func s : String} {bitSize : Nat}
    (other : ∃ c ∈ s.data, c.isDigit = false ∧ c ≠ '-' ∧ c ≠ '+') :
    parseIntAs func s bitSize = .error ⟨func, s, .invalid⟩ := by
  obtain ⟨c, member, notDigit, notMinus, notPlus⟩ := other
  have rejected : parseDecimal ⟨(splitSign s.data).2⟩ = none :=
    parseDecimal_eq_none ⟨c, mem_splitSign member notMinus notPlus, notDigit⟩
  unfold parseIntAs
  rcases signed : splitSign s.data with ⟨negative, digits⟩
  rw [signed] at rejected
  simp only [rejected]

end Text

end InfraE2E
