import KeyValueClient.Decimal.Canonical
import Mathlib.Data.List.Induction
import Mathlib.Tactic.SplitIfs

/-!
# Accumulating digits

A word of 64 bits is made up digit by digit, and every product and every sum on the way is
checked.  No check fails unless the number that is spelled does not fit: a number moves away
from zero with every digit, so what came before it fits if it does.

Main results:

- Theorem `Decimal.checked_eq_some_iff`: a checked number is exact.
- Theorem `Decimal.accumulate_eq`: the digits are accumulated to the integer that they spell,
  if 64 bits hold it.
- Theorem `Decimal.accumulatesExactly`: then every step on the way is exact.
-/

namespace KeyValueClient.Decimal

/-! ## Checked numbers -/

/-- A word of 64 bits holds the number it was made of, if that is in its range. -/
theorem toInt_ofInt {n : Int} (h : Word.bits64.InRange n) : (Int64.ofInt n).toInt = n := by
  apply Int64.toInt_ofInt_of_le
  · exact h.1
  · exact Int.lt_of_le_of_lt h.2 (by decide)

/-- A checked number is exact. -/
theorem checked_eq_some_iff {n : Int} {x : Int64} :
    checked n = some x ↔ Word.bits64.InRange n ∧ x.toInt = n := by
  unfold checked
  constructor
  · intro h
    split_ifs at h with hrange
    injection h with h
    exact ⟨hrange, h ▸ toInt_ofInt hrange⟩
  · rintro ⟨hrange, rfl⟩
    rw [if_pos hrange, Int64.ofInt_toInt]

theorem checked_eq_none_iff {n : Int} : checked n = none ↔ ¬Word.bits64.InRange n := by
  simp [checked]

/-! ## One digit more -/

/-- The integer that is spelled with one digit more. -/
def extended (negative : Bool) (n : Int) (d : UInt8) : Int :=
  if negative then n * 10 - digitValue d else n * 10 + digitValue d

theorem signed_append_digit (negative : Bool) (digits : Bytes) (d : UInt8) :
    signed negative (digits ++ [d]) = extended negative (signed negative digits) d := by
  cases negative <;> simp [signed, extended] <;> omega

/-- A digit takes a number away from zero, so a number that fits with it fits without it. -/
theorem inRange_of_extended {negative : Bool} {n : Int} {d : UInt8}
    (hsign : if negative then n ≤ 0 else 0 ≤ n)
    (h : Word.bits64.InRange (extended negative n d)) :
    Word.bits64.InRange n ∧ Word.bits64.InRange (n * 10) := by
  simp only [Word.InRange, Word.least, Word.greatest, extended] at h ⊢
  cases negative
  · simp only [Bool.false_eq_true, if_false] at h hsign
    omega
  · simp only [if_true] at h hsign
    omega

theorem signed_sign (negative : Bool) (digits : Bytes) :
    if negative then signed negative digits ≤ 0 else 0 ≤ signed negative digits := by
  cases negative <;> simp [signed]

/-- A digit is accumulated exactly if the number that is spelled with it fits, and not at all
otherwise. -/
theorem pushDigit_eq {negative : Bool} {x : Int64} {d : UInt8}
    (hsign : if negative then x.toInt ≤ 0 else 0 ≤ x.toInt) :
    pushDigit negative x d = checked (extended negative x.toInt d) := by
  by_cases hfits : Word.bits64.InRange (extended negative x.toInt d)
  · have hscaled := (inRange_of_extended hsign hfits).2
    obtain ⟨scaled, hproduct⟩ : ∃ scaled, checked (x.toInt * 10) = some scaled :=
      ⟨_, if_pos hscaled⟩
    have hexact := (checked_eq_some_iff.1 hproduct).2
    rw [pushDigit, hproduct, Option.bind_eq_bind, Option.bind_some, hexact]
    rfl
  · rw [checked_eq_none_iff.2 hfits, pushDigit]
    cases hproduct : checked (x.toInt * 10) with
    | none => rfl
    | some scaled =>
      have hexact := (checked_eq_some_iff.1 hproduct).2
      rw [Option.bind_eq_bind, Option.bind_some, hexact]
      exact checked_eq_none_iff.2 hfits

/-! ## All digits -/

theorem accumulate_append_digit (negative : Bool) (digits : Bytes) (d : UInt8) :
    accumulate negative (digits ++ [d]) =
      (accumulate negative digits).bind fun x => pushDigit negative x d := by
  simp [accumulate, List.foldlM_append]

/-- The digits are accumulated to the integer that they spell, if 64 bits hold it. -/
theorem accumulate_eq (negative : Bool) (digits : Bytes) :
    accumulate negative digits = checked (signed negative digits) := by
  induction digits using List.reverseRecOn with
  | nil => cases negative <;> rfl
  | append_singleton front d ih =>
    have hsign := signed_sign negative front
    rw [accumulate_append_digit, ih, signed_append_digit]
    cases hfront : checked (signed negative front) with
    | none =>
      -- What did not fit before does not fit with one digit more.
      have hover := checked_eq_none_iff.1 hfront
      symm
      exact checked_eq_none_iff.2 fun hfits => hover (inRange_of_extended hsign hfits).1
    | some x =>
      have hexact := (checked_eq_some_iff.1 hfront).2
      rw [← hexact] at hsign ⊢
      exact pushDigit_eq hsign

/-! ## Exact steps -/

/-- The step from some digits to one more is exact: what was accumulated is the integer that
the digits spell, and neither its product with ten nor the sum with the digit overflows, so
that no word wraps around. -/
structure ExactStep (negative : Bool) (front : Bytes) (d : UInt8) (x next : Int64) : Prop where
  accumulated : accumulate negative front = some x
  worth : x.toInt = signed negative front
  product : checked (x.toInt * 10) = some (x * 10)
  unwrapped : (x * 10).toInt = x.toInt * 10
  sum : pushDigit negative x d = some next
  after : next.toInt = signed negative (front ++ [d])

/-- Every step through the digits is exact. -/
def AccumulatesExactly (negative : Bool) (digits : Bytes) : Prop :=
  ∀ front d back, digits = front ++ d :: back → ∃ x next, ExactStep negative front d x next

theorem toInt_of_accumulate {negative : Bool} {digits : Bytes} {x : Int64}
    (h : accumulate negative digits = some x) : x.toInt = signed negative digits := by
  rw [accumulate_eq] at h
  exact (checked_eq_some_iff.1 h).2

/-- If 64 bits hold the integer that is spelled, every step on the way to it is exact. -/
theorem accumulatesExactly {negative : Bool} {digits : Bytes}
    (h : Word.bits64.InRange (signed negative digits)) : AccumulatesExactly negative digits := by
  rintro front d back rfl
  obtain ⟨all, hall⟩ : ∃ all, accumulate negative (front ++ [d] ++ back) = some all := by
    rw [List.append_assoc, List.singleton_append, accumulate_eq]
    exact ⟨_, if_pos h⟩
  -- All digits are accumulated, so those in front are, and the next one is added to them.
  simp only [accumulate, List.foldlM_append, Option.bind_eq_bind, Option.bind_eq_some_iff] at hall
  obtain ⟨next, ⟨x, hfront, hnext⟩, -⟩ := hall
  have hpush : pushDigit negative x d = some next := by simpa using hnext
  have hafter : accumulate negative (front ++ [d]) = some next := by
    rw [accumulate_append_digit]
    exact Option.bind_eq_some_iff.2 ⟨x, hfront, hpush⟩
  have hproduct : ∃ scaled, checked (x.toInt * 10) = some scaled := by
    obtain ⟨scaled, hscaled, -⟩ := Option.bind_eq_some_iff.1 hpush
    exact ⟨scaled, hscaled⟩
  obtain ⟨scaled, hscaled⟩ := hproduct
  have hexact := checked_eq_some_iff.1 hscaled
  have hword : scaled = x * 10 := by
    rw [← Int64.ofInt_toInt scaled, hexact.2, Int64.ofInt_mul, Int64.ofInt_toInt]
    rfl
  subst hword
  exact ⟨x, next, hfront, toInt_of_accumulate hfront, hscaled, hexact.2, hpush,
    toInt_of_accumulate hafter⟩

end KeyValueClient.Decimal
