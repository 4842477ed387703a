import KeyValueClient.Proofs.Decimal.Accumulation
import Mathlib.Algebra.Group.Nat.Defs

/-!
# Reading integers

Reading an integer accepts exactly the spellings of the integers of its word.  Among the
spellings of an integer none is shorter than the canonical form.

Main results:

- Theorem `Decimal.readWord_ok_iff`: what is read, and as which integer.
- Theorem `Decimal.readInt64_ofInt`: what was written is read back.
- Theorem `Decimal.length_ofInt_le`: the canonical form is a shortest spelling.
-/

namespace KeyValueClient.Decimal

/-! ## Lengths of digit strings -/

theorem digitValue_lt {d : UInt8} (h : isDigit d = true) : digitValue d < 10 := by
  simp only [isDigit, Bool.and_eq_true, decide_eq_true_eq] at h
  simp only [digitValue]
  omega

/-- So many digits have a value below that power of ten. -/
theorem value_lt {digits : Bytes} (h : ∀ d ∈ digits, isDigit d = true) :
    value digits < 10 ^ digits.length := by
  induction digits using List.reverseRecOn with
  | nil => simp
  | append_singleton front d ih =>
    have hfront := ih fun b hb => h b (List.mem_append_left _ hb)
    have hd := digitValue_lt (h d (by simp))
    rw [value_append_digit, List.length_append, List.length_singleton, Nat.pow_succ]
    omega

/-- A number below a power of ten has no more digits. -/
theorem length_ofNat_le {n k : Nat} (hk : 0 < k) (h : n < 10 ^ k) : (ofNat n).length ≤ k := by
  induction k generalizing n with
  | zero => omega
  | succ k ih =>
    by_cases hn : n < 10
    · rw [ofNat_of_lt hn, List.length_singleton]
      omega
    · have hpow : 10 ^ (k + 1) = 10 ^ k * 10 := Nat.pow_succ 10 k
      have hk : 0 < k := by
        apply Nat.pos_of_ne_zero
        rintro rfl
        omega
      have hfront := ih hk (n := n / 10) (by omega)
      rw [ofNat_of_le (by omega), List.length_append, List.length_singleton]
      omega

/-- The canonical digits are a shortest digit string of their value. -/
theorem length_ofNat_value_le {digits : Bytes} (h : IsDigits digits) :
    (ofNat (value digits)).length ≤ digits.length :=
  length_ofNat_le (List.length_pos_iff.2 h.1) (value_lt h.2)

/-! ## Signs -/

theorem isDigit_minus : isDigit minus = false := by
  decide

theorem isDigit_plus : isDigit plus = false := by
  decide

/-- A digit string has no sign in front. -/
theorem splitSign_digits {digits : Bytes} (h : IsDigits digits) :
    splitSign digits = (false, digits) := by
  rcases digits with _ | ⟨first, rest⟩
  · rfl
  · have hfirst := h.2 first List.mem_cons_self
    have hminus : first ≠ minus := by
      rintro rfl
      simp [isDigit_minus] at hfirst
    have hplus : first ≠ plus := by
      rintro rfl
      simp [isDigit_plus] at hfirst
    rw [splitSign, if_neg hminus, if_neg hplus]

/-- A sign is split off, or there is none. -/
theorem splitSign_eq_iff {b digits : Bytes} {negative : Bool} (h : IsDigits digits) :
    splitSign b = (negative, digits) ↔
      b = minus :: digits ∧ negative = true ∨
        (b = digits ∨ b = plus :: digits) ∧ negative = false := by
  constructor
  · intro hsplit
    rcases b with _ | ⟨first, rest⟩
    · simp only [splitSign, Prod.mk.injEq] at hsplit
      exact Or.inr ⟨Or.inl hsplit.2, hsplit.1.symm⟩
    · simp only [splitSign] at hsplit
      split_ifs at hsplit with hminus hplus
      · simp only [Prod.mk.injEq] at hsplit
        exact Or.inl ⟨by rw [hminus, hsplit.2], hsplit.1.symm⟩
      · simp only [Prod.mk.injEq] at hsplit
        exact Or.inr ⟨Or.inr (by rw [hplus, hsplit.2]), hsplit.1.symm⟩
      · simp only [Prod.mk.injEq] at hsplit
        exact Or.inr ⟨Or.inl hsplit.2, hsplit.1.symm⟩
  · rintro (⟨rfl, rfl⟩ | ⟨rfl | rfl, rfl⟩)
    · simp [splitSign]
    · exact splitSign_digits h
    · simp [splitSign, plus, minus]

/-! ## Reading -/

/-- The part behind the sign is accepted exactly if it is a short digit string. -/
theorem splitDigits_ok_iff {limit : Nat} {b digits : Bytes} {negative : Bool} :
    splitDigits limit b = .ok (negative, digits) ↔
      splitSign b = (negative, digits) ∧ IsDigits digits ∧ digits.length ≤ limit := by
  have hdigits : ∀ rest : Bytes, IsDigits rest ↔
      ¬ rest.isEmpty = true ∧ rest.find? (!isDigit ·) = none := by
    intro rest
    simp [IsDigits]
  unfold splitDigits
  rcases splitSign b with ⟨sign, rest⟩
  dsimp only
  constructor
  · intro h
    split at h
    · contradiction
    · rename_i hempty
      split at h
      · contradiction
      · rename_i hfind
        split at h
        · contradiction
        · simp only [Except.ok.injEq, Prod.mk.injEq] at h
          rcases h with ⟨rfl, rfl⟩
          exact ⟨rfl, (hdigits rest).2 ⟨hempty, hfind⟩, by omega⟩
  · rintro ⟨hsame, hall, hshort⟩
    simp only [Prod.mk.injEq] at hsame
    rcases hsame with ⟨rfl, rfl⟩
    rcases (hdigits rest).1 hall with ⟨hempty, hfind⟩
    rw [if_neg hempty, hfind]
    exact if_neg (by omega)

/-- The sign and the digits say which integer is spelled. -/
theorem signedDigits_iff {b digits : Bytes} {n : Int} (h : IsDigits digits) :
    SignedDigits b digits n ↔
      ∃ negative, splitSign b = (negative, digits) ∧ n = signed negative digits := by
  constructor
  · rintro (⟨hb, hn⟩ | ⟨hb, hn⟩)
    · exact ⟨false, (splitSign_eq_iff h).2 (Or.inr ⟨hb, rfl⟩), hn⟩
    · exact ⟨true, (splitSign_eq_iff h).2 (Or.inl ⟨hb, rfl⟩), hn⟩
  · rintro ⟨negative, hsplit, hn⟩
    rcases (splitSign_eq_iff h).1 hsplit with ⟨hb, rfl⟩ | ⟨hb, rfl⟩
    · exact Or.inr ⟨hb, hn⟩
    · exact Or.inl ⟨hb, hn⟩

/-- Two steps in a row succeed if both of them do. -/
theorem bind_ok_iff {ε α β : Type} {first : Except ε α} {second : α → Except ε β} {b : β} :
    (first >>= second) = .ok b ↔ ∃ a, first = .ok a ∧ second a = .ok b := by
  cases first with
  | error cause => simp [bind, Except.bind]
  | ok a => simp [bind, Except.bind]

/-- What 64 bits are read from: a sign, and few enough digits that do not overflow. -/
theorem readLong_ok_iff {b : Bytes} {n : Int} :
    readLong b = .ok n ↔ SpellsWord .bits64 b n := by
  rw [readLong, bind_ok_iff]
  constructor
  · rintro ⟨⟨negative, digits⟩, hsplit, h⟩
    rcases splitDigits_ok_iff.1 hsplit with ⟨hsign, hdigits, hshort⟩
    cases hsum : accumulate negative digits with
    | none => simp [hsum] at h
    | some x =>
      simp only [hsum, Except.ok.injEq] at h
      have hexact := toInt_of_accumulate hsum
      exact ⟨digits, hdigits, hshort,
        (signedDigits_iff hdigits).2 ⟨negative, hsign, h.symm.trans hexact⟩,
        h ▸ inRange_toInt x⟩
  · rintro ⟨digits, hdigits, hshort, hsigned, hrange⟩
    rcases (signedDigits_iff hdigits).1 hsigned with ⟨negative, hsign, rfl⟩
    have hsum : accumulate negative digits = some (.ofInt (signed negative digits)) := by
      rw [accumulate_eq]
      exact if_pos hrange
    refine ⟨_, splitDigits_ok_iff.2 ⟨hsign, hdigits, hshort⟩, ?_⟩
    simp [hsum, toInt_ofInt hrange]

/-- The integers of 32 bits are those of 64 bits that have few digits and are in range. -/
theorem readWord_bits32 {b : Bytes} {n : Int} :
    readWord .bits32 b = .ok n ↔
      (∃ parts, splitDigits Word.bits32.maxDigits b = .ok parts) ∧ readLong b = .ok n ∧
        Word.bits32.InRange n := by
  have hpick (m : Int) :
      (if Word.bits32.InRange m then .ok m else .error (.outOfRange32 m) :
        Except NumberError Int) = .ok n ↔ m = n ∧ Word.bits32.InRange n := by
    by_cases hrange : Word.bits32.InRange m
    · rw [if_pos hrange, Except.ok.injEq]
      exact ⟨fun h => ⟨h, h ▸ hrange⟩, fun h => h.1⟩
    · rw [if_neg hrange]
      exact ⟨fun h => by contradiction, fun h => absurd (h.1 ▸ h.2) hrange⟩
  simp only [readWord, bind_ok_iff, hpick]
  constructor
  · rintro ⟨parts, hsplit, m, hlong, rfl, hrange⟩
    exact ⟨⟨parts, hsplit⟩, hlong, hrange⟩
  · rintro ⟨⟨parts, hsplit⟩, hlong, hrange⟩
    exact ⟨parts, hsplit, n, hlong, rfl, hrange⟩

theorem Word.inRange_bits64 {n : Int} (h : Word.bits32.InRange n) : Word.bits64.InRange n := by
  simp only [Word.InRange, Word.least, Word.greatest] at h ⊢
  omega

/-- Reading an integer accepts exactly the spellings of the integers of its word. -/
theorem readWord_ok_iff {w : Word} {b : Bytes} {n : Int} :
    readWord w b = .ok n ↔ SpellsWord w b n := by
  cases w with
  | bits64 => exact readLong_ok_iff
  | bits32 =>
    rw [readWord_bits32, readLong_ok_iff]
    constructor
    · rintro ⟨⟨⟨negative, digits⟩, hsplit⟩, ⟨all, hall, -, hsigned, -⟩, hrange⟩
      rcases splitDigits_ok_iff.1 hsplit with ⟨hsign, -, hshort⟩
      -- Both readings see the same digits behind the sign.
      rcases (signedDigits_iff hall).1 hsigned with ⟨_, hsame, -⟩
      rw [hsign] at hsame
      cases hsame
      exact ⟨digits, hall, hshort, hsigned, hrange⟩
    · rintro ⟨digits, hdigits, hshort, hsigned, hrange⟩
      rcases (signedDigits_iff hdigits).1 hsigned with ⟨negative, hsign, -⟩
      have hlong := Nat.le_trans hshort (show 10 ≤ 19 by decide)
      exact ⟨⟨_, splitDigits_ok_iff.2 ⟨hsign, hdigits, hshort⟩⟩,
        ⟨digits, hdigits, hlong, hsigned, Word.inRange_bits64 hrange⟩, hrange⟩

/-- What was written is read back. -/
theorem readInt64_ofInt {n : Int} (h : Word.bits64.InRange n) :
    readInt64 (ofInt n) = .ok n := by
  have hbelow : n.natAbs < 10 ^ 19 := by
    simp only [Word.InRange, Word.least, Word.greatest] at h
    omega
  have hshort : (ofNat n.natAbs).length ≤ Word.bits64.maxDigits :=
    length_ofNat_le (by decide) hbelow
  refine readWord_ok_iff.2 ⟨ofNat n.natAbs, isDigits_ofNat _, hshort, ?_, h⟩
  rw [ofInt_eq, SignedDigits, value_ofNat]
  split_ifs with hneg
  · exact Or.inr ⟨rfl, by omega⟩
  · exact Or.inl ⟨Or.inl rfl, by omega⟩

/-- A spelling is a part of one line. -/
theorem Spells.lf_not_mem {b : Bytes} {n : Int} (h : Spells b n) : Bytes.lf ∉ b := by
  rcases h with ⟨digits, hdigits, hsigned⟩
  have hopen : Bytes.lf ∉ digits := by
    intro hmem
    have hdigit := hdigits.2 _ hmem
    contradiction
  rcases hsigned with ⟨rfl | rfl, -⟩ | ⟨rfl, -⟩
  · exact hopen
  · rw [List.mem_cons, not_or]
    exact ⟨by decide, hopen⟩
  · rw [List.mem_cons, not_or]
    exact ⟨by decide, hopen⟩

theorem lf_not_mem_ofInt (n : Int) : Bytes.lf ∉ ofInt n :=
  (spells_ofInt n).lf_not_mem

/-! ## Canonical forms -/

/-- The integer that a sign and digits spell, checked neither for its size nor for its
form. -/
def spelled (b : Bytes) : Int :=
  let (negative, digits) := splitSign b
  signed negative digits

/-- A spelling tells its integer. -/
theorem Spells.spelled_eq {b : Bytes} {n : Int} (h : Spells b n) : spelled b = n := by
  rcases h with ⟨digits, hdigits, hsigned⟩
  rcases (signedDigits_iff hdigits).1 hsigned with ⟨negative, hsplit, hn⟩
  rw [spelled, hsplit, hn]

/-- The canonical form is a shortest spelling. -/
theorem length_ofInt_le {b : Bytes} {n : Int} (h : Spells b n) :
    (ofInt n).length ≤ b.length := by
  rcases h with ⟨digits, hdigits, hsigned⟩
  have hcanonical := length_ofNat_value_le hdigits
  have hvalue : n.natAbs = value digits := by
    rcases hsigned with ⟨_, rfl⟩ | ⟨_, rfl⟩
    · exact Int.natAbs_natCast _
    · rw [Int.natAbs_neg, Int.natAbs_natCast]
  rw [ofInt_eq, hvalue]
  rcases hsigned with ⟨hb, hn⟩ | ⟨rfl, hn⟩
  · rw [if_neg (by omega)]
    rcases hb with rfl | rfl
    · exact hcanonical
    · exact Nat.le_succ_of_le hcanonical
  · split_ifs
    · exact Nat.succ_le_succ hcanonical
    · exact Nat.le_succ_of_le hcanonical

end KeyValueClient.Decimal
