import KeyValueClient.Decimal.FractionForm
import KeyValueClient.Error
import KeyValueClient.Proofs.Decimal.Reading
import Mathlib.Data.Nat.Digits.Defs

/-!
# Exact integers

What an integer is read as is settled by arithmetic alone: by the sign, by how many digits
there are, and by the number that these are the decimal digits of.  The words that the number
is accumulated in leave no trace.

Main results:

- Theorem `Decimal.value_eq_ofDigits`: the value of a digit string is the number with these
  decimal digits.
- Theorem `Decimal.readNumber_exact`: an integer is read exactly if it is a short numeral and
  in range.
-/

namespace KeyValueClient.Decimal

/-! ## Numerals -/

/-- The value of a digit string is the number with these decimal digits. -/
theorem value_eq_ofDigits (digits : Bytes) :
    value digits = Nat.ofDigits 10 (digits.reverse.map digitValue) := by
  induction digits using List.reverseRecOn with
  | nil => rfl
  | append_singleton front d ih =>
    rw [value_append_digit, ih, List.reverse_append, List.reverse_singleton,
      List.singleton_append, List.map_cons, Nat.ofDigits_cons, Nat.add_comm]

/-- The byte string is an optional sign and at most so many digits, at least one, which are
the decimal digits of this integer. -/
def IsNumeral (limit : Nat) (b : Bytes) (n : Int) : Prop :=
  ∃ sign digits, IsSign sign ∧ b = sign ++ digits ∧ IsDigits digits ∧ digits.length ≤ limit ∧
    let magnitude : Nat := Nat.ofDigits 10 (digits.reverse.map digitValue)
    n = if sign = [minus] then -(magnitude : Int) else magnitude

/-- The numerals of an integer are its spellings with few digits. -/
theorem isNumeral_iff {limit : Nat} {b : Bytes} {n : Int} :
    IsNumeral limit b n ↔
      ∃ digits, IsDigits digits ∧ digits.length ≤ limit ∧ SignedDigits b digits n := by
  simp only [IsNumeral, ← value_eq_ofDigits]
  constructor
  · rintro ⟨sign, digits, rfl | rfl | rfl, rfl, hdigits, hshort, hn⟩
    · exact ⟨_, hdigits, hshort, .inl ⟨.inl rfl, hn⟩⟩
    · exact ⟨digits, hdigits, hshort, .inl ⟨.inr rfl, hn⟩⟩
    · exact ⟨digits, hdigits, hshort, .inr ⟨rfl, hn⟩⟩
  · rintro ⟨digits, hdigits, hshort, ⟨rfl | rfl, hn⟩ | ⟨rfl, hn⟩⟩
    · exact ⟨[], _, .inl rfl, rfl, hdigits, hshort, hn⟩
    · exact ⟨[plus], digits, .inr (.inl rfl), rfl, hdigits, hshort, hn⟩
    · exact ⟨[minus], digits, .inr (.inr rfl), rfl, hdigits, hshort, hn⟩

theorem spellsWord_iff {w : Word} {b : Bytes} {n : Int} :
    SpellsWord w b n ↔ IsNumeral w.maxDigits b n ∧ w.InRange n := by
  rw [isNumeral_iff]
  constructor
  · rintro ⟨digits, hdigits, hshort, hsigned, hrange⟩
    exact ⟨⟨digits, hdigits, hshort, hsigned⟩, hrange⟩
  · rintro ⟨⟨digits, hdigits, hshort, hsigned⟩, hrange⟩
    exact ⟨digits, hdigits, hshort, hsigned, hrange⟩

/-! ## Reading for a caller -/

theorem readNumber_ok_iff {w : Word} {b : Bytes} {n : Int} :
    readNumber w b = .ok n ↔ IsNumeral w.maxDigits b n ∧ w.InRange n := by
  rw [← spellsWord_iff, ← readWord_ok_iff, readNumber]
  cases readWord w b with
  | error cause => simp [Except.mapError]
  | ok m => simp [Except.mapError]

/-- An integer is read exactly if it is a short numeral and in range, and everything else is
refused as an argument.  A number of 32 bits is the number that 64 bits are read as.  On the
way to a number that fits nothing overflows, and no word ever holds another number than the
one that is spelled. -/
theorem readNumber_exact (b : Bytes) :
    (∀ n, readNumber .bits64 b = .ok n ↔ IsNumeral 19 b n ∧ -2 ^ 63 ≤ n ∧ n ≤ 2 ^ 63 - 1) ∧
      (∀ n, readNumber .bits32 b = .ok n ↔ IsNumeral 10 b n ∧ -2 ^ 31 ≤ n ∧ n ≤ 2 ^ 31 - 1) ∧
      (∀ n, readNumber .bits32 b = .ok n → readNumber .bits64 b = .ok n) ∧
      (∀ w, (∀ n, readNumber w b ≠ .ok n) →
        ∃ cause, readNumber w b = .error (.argument (.number cause))) ∧
      ∀ negative digits, splitSign b = (negative, digits) →
        (Word.bits64.InRange (signed negative digits) → AccumulatesExactly negative digits) ∧
          accumulate negative digits = checked (signed negative digits) := by
  refine ⟨fun n => readNumber_ok_iff, fun n => readNumber_ok_iff, ?_, ?_, ?_⟩
  · intro n h
    rcases readNumber_ok_iff.1 h with ⟨⟨sign, digits, hsign, hb, hdigits, hshort, hn⟩, hrange⟩
    have hlong : digits.length ≤ 19 := Nat.le_trans hshort (by decide)
    exact readNumber_ok_iff.2
      ⟨⟨sign, digits, hsign, hb, hdigits, hlong, hn⟩, Word.inRange_bits64 hrange⟩
  · intro w hnone
    rw [readNumber] at hnone ⊢
    cases hread : readWord w b with
    | error cause => exact ⟨cause, rfl⟩
    | ok n => exact absurd (congrArg (Except.mapError _) hread) (hnone n)
  · intro negative digits _
    exact ⟨accumulatesExactly, accumulate_eq negative digits⟩

/-- The least number of 64 bits, whose magnitude no word holds. -/
theorem readNumber_exact_least :
    let b := Bytes.ofText "-9223372036854775808"
    readNumber .bits64 b = .ok (-2 ^ 63) ∧ IsNumeral 19 b (-2 ^ 63) ∧
      (∃ cause, readNumber .bits32 b = .error (.argument (.number cause))) ∧
      AccumulatesExactly true (b.drop 1) := by
  intro b
  have hread : readNumber .bits64 b = .ok (-2 ^ 63) := by with_unfolding_all rfl
  have hsplit : splitSign b = (true, b.drop 1) := by decide
  have hrefused : ∀ n, readNumber .bits32 b ≠ .ok n := by
    intro n h
    have hrange := (readNumber_ok_iff.1 h).2
    have hsame := ((readNumber_exact b).2.2.1 n h).symm.trans hread
    injection hsame with hsame
    subst hsame
    exact absurd hrange (by decide)
  rcases readNumber_exact b with ⟨hlong, -, -, hnone, hsteps⟩
  exact ⟨hread, ((hlong _).1 hread).1, hnone .bits32 hrefused,
    (hsteps true _ hsplit).1 (by decide)⟩

end KeyValueClient.Decimal
