import KeyValueClient.Decimal.Integer

/-!
# Spellings of an integer

An integer has many spellings and one canonical form.  The spellings have an optional
sign and any number of digits; the canonical form has a minus sign only when the
integer is negative, no plus sign and no leading zero.

Main results:

- Theorem `Decimal.spells_ofInt`: an integer is written as one of its spellings.
- Theorem `Decimal.isCanonical_ofInt`: it is written in canonical form.
-/

namespace KeyValueClient.Decimal

/-! ## Digit strings -/

/-- At least one digit, and nothing else. -/
def IsDigits (b : Bytes) : Prop :=
  b ≠ [] ∧ ∀ d ∈ b, isDigit d = true

/-- No zero stands in front of other digits. -/
def NoLeadingZero (b : Bytes) : Prop :=
  b.head? = some (digit 0) → b = [digit 0]

theorem isDigits_ofNat (n : Nat) : IsDigits (ofNat n) :=
  ⟨ofNat_ne_nil n, fun _ hd => isDigit_of_mem_ofNat hd⟩

/-- The first digit of a positive number is not zero. -/
theorem head?_ofNat_ne_zero {n : Nat} (h : n ≠ 0) : (ofNat n).head? ≠ some (digit 0) := by
  fun_induction ofNat n with
  | case1 n hn =>
    intro hhead
    have hdigit : digit n = digit 0 := by simpa using hhead
    have hvalue := congrArg digitValue hdigit
    rw [digitValue_digit hn, digitValue_digit (by decide)] at hvalue
    exact h hvalue
  | case2 n hn ih =>
    obtain ⟨first, rest, hfirst⟩ := List.exists_cons_of_ne_nil (ofNat_ne_nil (n / 10))
    have hrest := ih (by omega)
    rw [hfirst] at hrest ⊢
    exact hrest

theorem noLeadingZero_ofNat (n : Nat) : NoLeadingZero (ofNat n) := by
  intro hhead
  by_cases hn : n = 0
  · rw [hn, ofNat_of_lt (by decide)]
  · exact absurd hhead (head?_ofNat_ne_zero hn)

/-! ## Integers -/

/-- The byte string has these digits behind an optional sign, and this value. -/
def SignedDigits (b digits : Bytes) (n : Int) : Prop :=
  (b = digits ∨ b = plus :: digits) ∧ n = value digits ∨
    b = minus :: digits ∧ n = -(value digits : Int)

/-- The byte string spells the integer. -/
def Spells (b : Bytes) (n : Int) : Prop :=
  ∃ digits, IsDigits digits ∧ SignedDigits b digits n

/-- The byte string spells an integer of the word, with no more digits than a word of
that size needs. -/
def SpellsWord (w : Word) (b : Bytes) (n : Int) : Prop :=
  ∃ digits, IsDigits digits ∧ digits.length ≤ w.maxDigits ∧ SignedDigits b digits n ∧
    w.InRange n

/-- The byte string is the canonical form of some integer. -/
def IsCanonical (b : Bytes) : Prop :=
  ∃ digits, IsDigits digits ∧ NoLeadingZero digits ∧
    (b = digits ∨ b = minus :: digits ∧ digits ≠ [digit 0])

/-- A spelling of a word spells its integer. -/
theorem SpellsWord.spells {w : Word} {b : Bytes} {n : Int} (h : SpellsWord w b n) :
    Spells b n := by
  obtain ⟨digits, hdigits, _, hsigned, _⟩ := h
  exact ⟨digits, hdigits, hsigned⟩

/-- An integer is written as one of its spellings. -/
theorem spells_ofInt (n : Int) : Spells (ofInt n) n := by
  refine ⟨ofNat n.natAbs, isDigits_ofNat _, ?_⟩
  rw [ofInt_eq, SignedDigits, value_ofNat]
  split
  · exact .inr ⟨rfl, by omega⟩
  · exact .inl ⟨.inl rfl, by omega⟩

/-- An integer is written in canonical form. -/
theorem isCanonical_ofInt (n : Int) : IsCanonical (ofInt n) := by
  refine ⟨ofNat n.natAbs, isDigits_ofNat _, noLeadingZero_ofNat _, ?_⟩
  rw [ofInt_eq]
  split
  · rename_i hneg
    refine .inr ⟨rfl, fun hzero => ?_⟩
    have hvalue := congrArg value hzero
    rw [value_ofNat] at hvalue
    have hnone : value [digit 0] = 0 := by decide
    omega
  · exact .inl rfl

end KeyValueClient.Decimal
