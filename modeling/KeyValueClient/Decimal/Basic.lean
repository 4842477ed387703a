import KeyValueClient.Bytes

/-!
# Decimal digits

Lengths, counts and numbers travel as ASCII digits, the most significant first.

Main results:

- Theorem `Decimal.value_ofNat`: the digits of a number have that number as their
  value.
- Theorem `Decimal.isDigit_of_mem_ofNat`: a number is written with digits only.
-/

namespace KeyValueClient.Decimal

/-! ## Single digits -/

/-- The byte is one of the ten digits. -/
def isDigit (b : UInt8) : Bool :=
  48 ≤ b.toNat && b.toNat ≤ 57

/-- The digit for a number below ten. -/
def digit (n : Nat) : UInt8 :=
  UInt8.ofNat (48 + n)

/-- The number a digit stands for. -/
def digitValue (b : UInt8) : Nat :=
  b.toNat - 48

theorem digit_toNat {n : Nat} (h : n < 10) : (digit n).toNat = 48 + n := by
  simp only [digit, UInt8.toNat_ofNat']
  omega

theorem isDigit_digit {n : Nat} (h : n < 10) : isDigit (digit n) = true := by
  simp [isDigit, digit_toNat h]
  omega

theorem digitValue_digit {n : Nat} (h : n < 10) : digitValue (digit n) = n := by
  simp [digitValue, digit_toNat h]

/-! ## Digit strings -/

/-- The digits of a number, without leading zeros. -/
def ofNat (n : Nat) : Bytes :=
  if n < 10 then [digit n] else ofNat (n / 10) ++ [digit (n % 10)]

theorem ofNat_of_lt {n : Nat} (h : n < 10) : ofNat n = [digit n] := by
  rw [ofNat, if_pos h]

theorem ofNat_of_le {n : Nat} (h : 10 ≤ n) : ofNat n = ofNat (n / 10) ++ [digit (n % 10)] := by
  rw [ofNat, if_neg (by omega)]

/-- The value of a digit string. -/
def value (digits : Bytes) : Nat :=
  digits.foldl (fun n b => 10 * n + digitValue b) 0

@[simp]
theorem value_nil : value [] = 0 :=
  rfl

@[simp]
theorem value_append_digit (digits : Bytes) (b : UInt8) :
    value (digits ++ [b]) = 10 * value digits + digitValue b := by
  simp [value, List.foldl_append]

/-- The digits of a number have that number as their value. -/
@[simp]
theorem value_ofNat (n : Nat) : value (ofNat n) = n := by
  fun_induction ofNat n with
  | case1 n h => simp [value, digitValue_digit h]
  | case2 n h ih =>
    have hlast : n % 10 < 10 := Nat.mod_lt n (by omega)
    rw [value_append_digit, ih, digitValue_digit hlast]
    omega

/-- A number is written with at least one digit. -/
theorem ofNat_ne_nil (n : Nat) : ofNat n ≠ [] := by
  unfold ofNat
  split <;> simp

/-- A number is written with digits only. -/
theorem isDigit_of_mem_ofNat {n : Nat} {b : UInt8} (h : b ∈ ofNat n) : isDigit b = true := by
  fun_induction ofNat n with
  | case1 n hn =>
    rw [List.mem_singleton.1 h]
    exact isDigit_digit hn
  | case2 n hn ih =>
    rcases List.mem_append.1 h with h | h
    · exact ih h
    · rw [List.mem_singleton.1 h]
      exact isDigit_digit (Nat.mod_lt n (by omega))

end KeyValueClient.Decimal
