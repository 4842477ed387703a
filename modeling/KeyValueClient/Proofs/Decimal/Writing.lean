import KeyValueClient.Proofs.Decimal.Slots
import Mathlib.Tactic.IntervalCases

/-!
# Writing integers

An integer is written in its canonical form, the only spelling with no plus sign, no leading
zero and no sign before zero.  The digits of a small magnitude come out of the table and those
of a large one are printed, and both are the digits that the number is printed with.

Main results:

- Theorem `Decimal.eq_ofInt_of_isCanonical`: an integer has one canonical form.
- Theorem `Decimal.ofText_toString`: that is how it is printed.
- Theorem `Decimal.appendInt_canonical`: an integer is written in canonical form wherever its
  digits come from, and reading undoes writing.
-/

namespace KeyValueClient.Decimal

/-! ## Canonical digits -/

theorem digit_digitValue {d : UInt8} (h : isDigit d = true) : digit (digitValue d) = d := by
  have hvalue := digitValue_lt h
  simp only [isDigit, Bool.and_eq_true, decide_eq_true_eq] at h
  apply UInt8.toNat.inj
  rw [digit_toNat hvalue, digitValue]
  omega

/-- A digit string without leading zeros is how its value is written. -/
theorem ofNat_value {digits : Bytes} (h : IsDigits digits) (hzero : NoLeadingZero digits) :
    ofNat (value digits) = digits := by
  induction digits using List.reverseRecOn with
  | nil => exact absurd rfl h.1
  | append_singleton front d ih =>
    have hd : isDigit d = true := h.2 d (by simp)
    have hdigit := digit_digitValue hd
    have hlast := digitValue_lt hd
    rw [value_append_digit]
    by_cases hfront : front = []
    · subst hfront
      rw [value_nil, Nat.mul_zero, Nat.zero_add, ofNat_of_lt hlast, hdigit, List.nil_append]
    · have hhead : front.head? ≠ some (digit 0) := by
        intro hhead
        have hwhole := hzero (by rw [List.head?_append, hhead, Option.some_or])
        have hlength := congrArg List.length hwhole
        simp [hfront] at hlength
      have hdigits := ih ⟨hfront, fun e he => h.2 e (List.mem_append_left _ he)⟩
        (fun hsame => absurd hsame hhead)
      have hpositive : value front ≠ 0 := by
        intro hvalue
        rw [hvalue, ofNat_of_lt (by decide)] at hdigits
        exact hhead (by rw [← hdigits]; rfl)
      have hfirst : (10 * value front + digitValue d) / 10 = value front := by omega
      have hrest : (10 * value front + digitValue d) % 10 = digitValue d := by omega
      rw [ofNat_of_le (by omega), hfirst, hrest, hdigits, hdigit]

/-- An integer has one canonical form. -/
theorem eq_ofInt_of_isCanonical {b : Bytes} {n : Int} (hcanonical : IsCanonical b)
    (hspells : Spells b n) : b = ofInt n := by
  have hn := hspells.spelled_eq
  rcases hcanonical with ⟨digits, hdigits, hzero, rfl | ⟨rfl, hsome⟩⟩
  · rw [spelled, splitSign_digits hdigits] at hn
    have hvalue : n = value b := hn.symm
    rw [ofInt_eq, if_neg (by omega), hvalue, Int.natAbs_natCast, ofNat_value hdigits hzero]
  · have hvalue : n = -(value digits : Int) := by
      rw [← hn, spelled, (splitSign_eq_iff hdigits).2 (.inl ⟨rfl, rfl⟩)]
      rfl
    have hpositive : value digits ≠ 0 := by
      intro hnone
      have hsame := ofNat_value hdigits hzero
      rw [hnone, ofNat_of_lt (by decide)] at hsame
      exact hsome hsame.symm
    rw [ofInt_eq, if_pos (by omega), hvalue, Int.natAbs_neg, Int.natAbs_natCast,
      ofNat_value hdigits hzero]

/-! ## Printed integers -/

theorem digitChar_eq {n : Nat} (h : n < 10) : n.digitChar = Char.ofNat (digit n).toNat := by
  rw [digit_toNat h]
  interval_cases n <;> rfl

theorem toDigits_eq (n : Nat) :
    Nat.toDigits 10 n = (ofNat n).map fun d => Char.ofNat d.toNat := by
  fun_induction ofNat n with
  | case1 n hn => rw [Nat.toDigits_of_lt_base hn, digitChar_eq hn, List.map_singleton]
  | case2 n hn ih =>
    have hlast : n % 10 < 10 := Nat.mod_lt n (by decide)
    rw [Nat.toDigits_of_base_le (by decide) (Nat.le_of_not_lt hn), ih, digitChar_eq hlast,
      List.map_append, List.map_singleton]

/-- An integer is written as it is printed. -/
theorem ofText_toString (n : Int) : Bytes.ofText (toString n) = ofInt n := by
  have hascii (m : Nat) : ∀ d ∈ ofNat m, d.toNat < 128 := by
    intro d hd
    have hdigit := isDigit_of_mem_ofNat hd
    simp only [isDigit, Bool.and_eq_true, decide_eq_true_eq] at hdigit
    omega
  cases n with
  | ofNat m =>
    have hprinted : toString (Int.ofNat m) =
        String.ofList ((ofNat m).map fun d => Char.ofNat d.toNat) := by
      rw [← toDigits_eq]
      rfl
    rw [hprinted, Bytes.ofText_ascii (hascii m), ofInt_eq, if_neg (by simp)]
    rfl
  | negSucc m =>
    have hprinted : toString (Int.negSucc m) =
        String.ofList ((minus :: ofNat (m + 1)).map fun d => Char.ofNat d.toNat) := by
      rw [List.map_cons, ← toDigits_eq, ← List.singleton_append, String.ofList_append]
      rfl
    have hsigned : ∀ d ∈ minus :: ofNat (m + 1), d.toNat < 128 :=
      List.forall_mem_cons.2 ⟨by decide, hascii (m + 1)⟩
    rw [hprinted, Bytes.ofText_ascii hsigned, ofInt_eq, if_pos (by simp)]
    rfl

/-! ## Written integers -/

theorem head?_ofInt (n : Int) : (ofInt n).head? = some minus ↔ n < 0 := by
  rw [ofInt_eq]
  by_cases hn : n < 0
  · simp [hn]
  · rw [if_neg hn]
    constructor
    · intro hhead
      have hminus := isDigit_of_mem_ofNat (List.mem_of_head? hhead)
      simp [isDigit_minus] at hminus
    · intro hneg
      exact absurd hneg hn

theorem plus_not_mem_ofInt (n : Int) : plus ∉ ofInt n := by
  have hdigits : plus ∉ ofNat n.natAbs := by
    intro hplus
    have hdigit := isDigit_of_mem_ofNat hplus
    simp [isDigit_plus] at hdigit
  rw [ofInt_eq]
  by_cases hn : n < 0
  · rw [if_pos hn]
    exact List.not_mem_cons_of_ne_of_not_mem (by decide) hdigits
  · rwa [if_neg hn]

/-- The longest integer of 64 bits has nineteen digits behind its sign. -/
theorem length_ofInt_le_twenty {n : Int} (h : Word.bits64.InRange n) :
    (ofInt n).length ≤ 20 := by
  have hbelow : n.natAbs < 10 ^ 19 := by
    simp only [Word.InRange, Word.least, Word.greatest] at h
    omega
  have hdigits := length_ofNat_le (by decide) hbelow
  rw [ofInt_eq]
  split_ifs
  · exact Nat.succ_le_succ hdigits
  · exact Nat.le_succ_of_le hdigits

/-- From slots with the right digits the same is written. -/
theorem SlotTable.appendInt?_eq {t : SlotTable}
    (h : ∀ m ≤ DigitTable.limit, t.get? m = DigitTable.shared.lookup? m) (buffer : Bytes)
    (n : Int) : t.appendInt? buffer n = some (appendInt buffer n) := by
  unfold appendInt? appendInt
  by_cases hsmall : n.natAbs ≤ DigitTable.limit
  · rw [if_pos hsmall, h _ hsmall, DigitTable.lookup?_shared, if_pos hsmall, Option.map_some,
      ofInt_eq]
    by_cases hn : n < 0
    · rw [if_pos hn, if_pos hn, List.append_assoc, List.singleton_append]
    · rw [if_neg hn, if_neg hn]
  · rw [if_neg hsmall, ofText_toString]

/-- The byte string is how an integer of 64 bits is written. -/
structure IsWritten (n : Int) (form : Bytes) : Prop where
  /-- It is the one canonical form of the integer. -/
  canonical : ∀ b, IsCanonical b ∧ Spells b n ↔ b = form
  /-- There is a minus sign in front of the negative integers, and never a plus sign. -/
  sign : form.head? = some minus ↔ n < 0
  unsigned : plus ∉ form
  short : form.length ≤ 20
  /-- It is how the integer is printed. -/
  printed : Bytes.ofText (toString n) = form
  /-- The table has the digits of small magnitudes, and they are the same. -/
  tabled : n.natAbs ≤ 65535 ↔ (DigitTable.shared.lookup? n.natAbs).isSome = true
  digits : ∀ digits, DigitTable.shared.lookup? n.natAbs = some digits →
    form = if n < 0 then minus :: digits else digits
  /-- It is what a buffer gets. -/
  appended : ∀ buffer, appendInt buffer n = buffer ++ form
  /-- It is read back. -/
  read : readInt64 form = .ok n

theorem isWritten_ofInt {n : Int} (h : Word.bits64.InRange n) : IsWritten n (ofInt n) where
  canonical b := by
    constructor
    · exact fun hb => eq_ofInt_of_isCanonical hb.1 hb.2
    · rintro rfl
      exact ⟨isCanonical_ofInt n, spells_ofInt n⟩
  sign := head?_ofInt n
  unsigned := plus_not_mem_ofInt n
  short := length_ofInt_le_twenty h
  printed := ofText_toString n
  tabled := by
    rw [DigitTable.lookup?_shared]
    by_cases hsmall : n.natAbs ≤ DigitTable.limit
    · rw [if_pos hsmall]
      exact iff_of_true hsmall rfl
    · rw [if_neg hsmall]
      exact iff_of_false hsmall (by decide)
  digits digits hdigits := by
    rw [DigitTable.lookup?_shared] at hdigits
    split_ifs at hdigits with hsmall
    rw [ofInt_eq, Option.some.inj hdigits]
  appended _ := rfl
  read := readInt64_ofInt h

/-- Every integer is written in canonical form, wherever its digits come from: out of rows,
out of slots, or printed.  Reading undoes writing, and what was read is written as it was
spelled exactly if it was spelled in canonical form. -/
theorem appendInt_canonical :
    (∀ n, Word.bits64.InRange n → IsWritten n (ofInt n)) ∧
      (∃ t, SlotTable.build = some t ∧
        ∀ buffer n, t.appendInt? buffer n = some (appendInt buffer n)) ∧
      ∀ b n, readInt64 b = .ok n → (ofInt n = b ↔ IsCanonical b) := by
  refine ⟨fun n h => isWritten_ofInt h, ?_, ?_⟩
  · obtain ⟨t, hbuild, hdigits⟩ := SlotTable.exists_build
    exact ⟨t, hbuild, SlotTable.appendInt?_eq hdigits⟩
  · intro b n hread
    have hspells := (readWord_ok_iff.1 hread).spells
    constructor
    · rintro rfl
      exact isCanonical_ofInt n
    · exact fun hcanonical => (eq_ofInt_of_isCanonical hcanonical hspells).symm

/-- The first magnitude without a slot, below zero, and a spelling that is not written. -/
theorem appendInt_canonical_respelled :
    IsWritten (-65536) (Bytes.ofText "-65536") ∧
      readInt64 (Bytes.ofText "+007") = .ok 7 ∧ ¬IsCanonical (Bytes.ofText "+007") := by
  rcases appendInt_canonical with ⟨hwritten, -, hrespelled⟩
  have hform : ofInt (-65536) = Bytes.ofText "-65536" := (ofText_toString (-65536)).symm
  have hread : readInt64 (Bytes.ofText "+007") = .ok 7 := by decide
  have hseven : ofInt 7 = Bytes.ofText "7" := (ofText_toString 7).symm
  refine ⟨hform ▸ hwritten (-65536) (by decide), hread, ?_⟩
  rw [← hrespelled _ _ hread, hseven]
  decide

end KeyValueClient.Decimal
