import KeyValueClient.Decimal.FractionForm
import KeyValueClient.Proofs.Decimal.Reading
import Mathlib.Data.List.TakeDrop
import Mathlib.Data.List.TakeWhile

/-!
# Reading fractions

What is read as a fraction is what is spelled like one: an optional sign, digits with at most
one point, and an optional exponent.

Main results:

- Theorems `Decimal.spellsFraction_of_readFraction?` and
  `Decimal.readFraction?_of_spellsFraction`: a fraction is read off its spellings, and off
  nothing else.
- Theorem `Decimal.SpellsFraction.forall_mem`: the bytes that such a spelling is made of.
- Theorem `Decimal.checkScore_ok_iff`: a score is the spelling of a fraction whose double is
  finite.
-/

namespace KeyValueClient.Decimal

/-! ## Parts of a fraction -/

/-- The part in front of the rest is a sign, or nothing. -/
theorem exists_sign (b : Bytes) : ∃ sign, IsSign sign ∧ b = sign ++ (splitSign b).2 := by
  rcases b with _ | ⟨first, rest⟩
  · exact ⟨[], Or.inl rfl, rfl⟩
  · simp only [splitSign]
    split_ifs with hminus hplus
    · exact ⟨[minus], Or.inr (Or.inr rfl), by rw [hminus]; rfl⟩
    · exact ⟨[plus], Or.inr (Or.inl rfl), by rw [hplus]; rfl⟩
    · exact ⟨[], Or.inl rfl, rfl⟩

/-- The digits in front, and what follows them. -/
theorem span_isDigit {b digits rest : Bytes} (h : b.span isDigit = (digits, rest)) :
    b = digits ++ rest ∧ ∀ d ∈ digits, isDigit d = true := by
  rw [List.span_eq_takeWhile_dropWhile, Prod.mk.injEq] at h
  rcases h with ⟨rfl, rfl⟩
  exact ⟨List.takeWhile_append_dropWhile.symm, fun d hd => List.mem_takeWhile_imp hd⟩

/-- An exponent that was read is spelled behind its letter. -/
theorem scaleSpelling_of_readExponent? {letter : UInt8} {b : Bytes} {e : Int}
    (hletter : letter = 101 ∨ letter = 69) (h : readExponent? b = some e) :
    ScaleSpelling (letter :: b) e := by
  unfold readExponent? at h
  rcases hsplit : splitSign b with ⟨negative, digits⟩
  rw [hsplit] at h
  dsimp only at h
  split at h
  · contradiction
  · rename_i hall
    have hdigits : IsDigits digits := by
      simpa [IsDigits] using hall
    rcases (splitSign_eq_iff hdigits).1 hsplit with ⟨rfl, rfl⟩ | ⟨hb, rfl⟩
    · injection h with h
      rw [← h]
      exact .shrink hletter hdigits
    · injection h with h
      rw [← h]
      exact .grow hletter hdigits hb

theorem scaleSpelling_of_readScale? {b : Bytes} {e : Int} (h : readScale? b = some e) :
    ScaleSpelling b e := by
  rcases b with _ | ⟨letter, rest⟩
  · injection h with h
    rw [← h]
    exact .unit
  · simp only [readScale?, Bool.or_eq_true, decide_eq_true_eq] at h
    split at h
    · rename_i hletter
      exact scaleSpelling_of_readExponent? hletter h
    · contradiction

/-! ## Whole fractions -/

/-- Digits with an exponent behind them spell the fraction that is read off them. -/
theorem spellsFraction_of_parts {sign digits whole part scale : Bytes} {x : Fraction}
    (hsign : IsSign sign) (hdigits : whole ≠ [] ∨ part ≠ [] → PointedDigits digits whole part)
    (h : (if whole.isEmpty && part.isEmpty then none
      else (readScale? scale).map fun e => ⟨value (whole ++ part), e - part.length⟩) = some x) :
    SpellsFraction (sign ++ digits ++ scale) x := by
  split at h
  · contradiction
  · rename_i hsome
    rw [Bool.and_eq_true, List.isEmpty_iff, List.isEmpty_iff, not_and_or] at hsome
    rcases Option.map_eq_some_iff.1 h with ⟨e, hscale, rfl⟩
    exact .mk hsign (hdigits hsome) (scaleSpelling_of_readScale? hscale)

/-- A fraction that was read is spelled as such. -/
theorem spellsFraction_of_readFraction? {b : Bytes} {x : Fraction}
    (h : readFraction? b = some x) : SpellsFraction b x := by
  rcases exists_sign b with ⟨sign, hsign, hb⟩
  unfold readFraction? at h
  rcases hspan : (splitSign b).2.span isDigit with ⟨whole, rest⟩
  rcases span_isDigit hspan with ⟨hbody, hwhole⟩
  have hbare : whole ≠ [] ∨ ([] : Bytes) ≠ [] → PointedDigits whole whole [] := by
    intro hsome
    exact .whole ⟨by simpa using hsome, hwhole⟩
  rw [hspan] at h
  rw [hb, hbody, ← List.append_assoc]
  rcases rest with _ | ⟨c, after⟩
  · exact spellsFraction_of_parts hsign hbare h
  · dsimp only at h
    split at h
    · rename_i hpoint
      rcases hpart : after.span isDigit with ⟨part, scale⟩
      rcases span_isDigit hpart with ⟨rfl, hdigits⟩
      have hpointed : whole ≠ [] ∨ part ≠ [] → PointedDigits (whole ++ point :: part) whole part :=
        .pointed hwhole hdigits
      rw [hpart] at h
      have hspells := spellsFraction_of_parts hsign hpointed h
      simpa [hpoint] using hspells
    · exact spellsFraction_of_parts hsign hbare h

/-! ## Reading what is spelled -/

/-- No digit stands in front. -/
def NoDigitFirst (b : Bytes) : Prop :=
  ∀ d, b.head? = some d → isDigit d = false

/-- The digits in front are taken up to the first other byte. -/
theorem span_append {digits rest : Bytes} (hdigits : ∀ d ∈ digits, isDigit d = true)
    (hrest : NoDigitFirst rest) : (digits ++ rest).span isDigit = (digits, rest) := by
  have hbehind : rest.takeWhile isDigit = [] ∧ rest.dropWhile isDigit = rest := by
    rcases rest with _ | ⟨first, behind⟩
    · exact ⟨rfl, rfl⟩
    · have hfirst := hrest first rfl
      simp [hfirst]
  rw [List.span_eq_takeWhile_dropWhile, List.takeWhile_append_of_pos hdigits,
    List.dropWhile_append_of_pos hdigits, hbehind.1, hbehind.2, List.append_nil]

/-- A sign is dropped in front of what does not begin with one. -/
theorem splitSign_append {sign rest : Bytes} (hsign : IsSign sign)
    (hrest : ∀ d, rest.head? = some d → d ≠ minus ∧ d ≠ plus) :
    (splitSign (sign ++ rest)).2 = rest := by
  rcases hsign with rfl | rfl | rfl
  · rcases rest with _ | ⟨first, behind⟩
    · rfl
    · rcases hrest first rfl with ⟨hminus, hplus⟩
      rw [List.nil_append, splitSign, if_neg hminus, if_neg hplus]
  · rfl
  · rfl

theorem PointedDigits.ne_sign {digits whole part : Bytes} (h : PointedDigits digits whole part)
    (scale : Bytes) : ∀ d, (digits ++ scale).head? = some d → d ≠ minus ∧ d ≠ plus := by
  have hdigit : ∀ d, isDigit d = true → d ≠ minus ∧ d ≠ plus := by
    intro d hd
    constructor
    · rintro rfl
      simp [isDigit_minus] at hd
    · rintro rfl
      simp [isDigit_plus] at hd
  intro d hhead
  cases h with
  | whole hwhole =>
    rcases List.exists_cons_of_ne_nil hwhole.1 with ⟨first, behind, rfl⟩
    simp only [List.cons_append, List.head?_cons, Option.some.injEq] at hhead
    exact hdigit d (hwhole.2 d (by simp [hhead]))
  | pointed hwhole _ _ =>
    rcases whole with _ | ⟨first, behind⟩
    · simp only [List.nil_append, List.cons_append, List.head?_cons, Option.some.injEq] at hhead
      subst hhead
      decide
    · simp only [List.cons_append, List.head?_cons, Option.some.injEq] at hhead
      exact hdigit d (hwhole d (by simp [hhead]))

/-- An exponent begins with its letter. -/
theorem ScaleSpelling.first {b : Bytes} {e : Int} (h : ScaleSpelling b e) :
    ∀ d, b.head? = some d → d = 101 ∨ d = 69 := by
  intro d hhead
  cases h with
  | unit => contradiction
  | grow hletter =>
    simp only [List.head?_cons, Option.some.injEq] at hhead
    exact hhead ▸ hletter
  | shrink hletter =>
    simp only [List.head?_cons, Option.some.injEq] at hhead
    exact hhead ▸ hletter

theorem ScaleSpelling.noDigitFirst {b : Bytes} {e : Int} (h : ScaleSpelling b e) :
    NoDigitFirst b := by
  intro d hhead
  rcases h.first d hhead with rfl | rfl
  · decide
  · decide

/-- Digits behind an optional sign are read as an exponent. -/
theorem readExponent?_of_splitSign {b digits : Bytes} {negative : Bool} (hdigits : IsDigits digits)
    (h : splitSign b = (negative, digits)) :
    readExponent? b = some (if negative then -(exponentValue digits : Int)
      else exponentValue digits) := by
  have hall : (digits.isEmpty || !digits.all isDigit) = false := by
    simpa [IsDigits] using hdigits
  unfold readExponent?
  rw [h]
  dsimp only
  rw [hall]
  cases negative <;> rfl

/-- The spelling of an exponent is read. -/
theorem readScale?_of_scaleSpelling {b : Bytes} {e : Int} (h : ScaleSpelling b e) :
    readScale? b = some e := by
  have hread {letter : UInt8} (hletter : letter = 101 ∨ letter = 69) (behind : Bytes) :
      readScale? (letter :: behind) = readExponent? behind := by
    rcases hletter with rfl | rfl <;> rfl
  cases h with
  | unit => rfl
  | grow hletter hdigits hb =>
    have hsplit := (splitSign_eq_iff hdigits).2 (Or.inr ⟨hb, rfl⟩)
    rw [hread hletter, readExponent?_of_splitSign hdigits hsplit]
    rfl
  | shrink hletter hdigits =>
    have hsplit := (splitSign_eq_iff hdigits).2 (Or.inl ⟨rfl, rfl⟩)
    rw [hread hletter, readExponent?_of_splitSign hdigits hsplit]
    rfl

/-- What is spelled as a fraction is read as it. -/
theorem readFraction?_of_spellsFraction {b : Bytes} {x : Fraction} (h : SpellsFraction b x) :
    readFraction? b = some x := by
  cases h with
  | @mk sign digits whole part scale e hsign hdigits hscale =>
    have hsplit := splitSign_append hsign (hdigits.ne_sign scale)
    have hread := readScale?_of_scaleSpelling hscale
    unfold readFraction?
    rw [List.append_assoc, hsplit]
    cases hdigits with
    | whole hwhole =>
      have hsome : (digits.isEmpty && ([] : Bytes).isEmpty) = false := by simp [hwhole.1]
      rw [span_append hwhole.2 hscale.noDigitFirst]
      rcases scale with _ | ⟨letter, behind⟩
      · simp only [hsome, hread]
        rfl
      · have hpoint : letter ≠ point := by
          rcases hscale.first letter rfl with rfl | rfl
          · decide
          · decide
        simp only [if_neg hpoint, hsome, hread]
        rfl
    | pointed hwhole hpart hsome =>
      have hpoint : NoDigitFirst (point :: part ++ scale) := by
        intro d hhead
        simp only [List.cons_append, List.head?_cons, Option.some.injEq] at hhead
        subst hhead
        decide
      have hsome : (whole.isEmpty && part.isEmpty) = false := by
        rw [← not_and_or, ← List.isEmpty_iff, ← List.isEmpty_iff] at hsome
        simpa using hsome
      rw [List.append_assoc, span_append hwhole hpoint]
      simp only [List.cons_append, if_true, span_append hpart hscale.noDigitFirst, hsome, hread]
      rfl


/-! ## Bytes of a fraction -/

section Bytes

variable {P : UInt8 → Prop} (hdigit : ∀ d, isDigit d = true → P d)
  (hsigns : P plus ∧ P minus) (hpoint : P point) (hletters : P 101 ∧ P 69)

include hdigit hpoint in
theorem PointedDigits.forall_mem {digits whole part : Bytes}
    (h : PointedDigits digits whole part) : ∀ d ∈ digits, P d := by
  intro d hd
  cases h with
  | whole hwhole => exact hdigit d (hwhole.2 d hd)
  | pointed hwhole hpart =>
    simp only [List.mem_append, List.mem_cons] at hd
    rcases hd with hd | rfl | hd
    · exact hdigit d (hwhole d hd)
    · exact hpoint
    · exact hdigit d (hpart d hd)

include hdigit hsigns hletters in
theorem ScaleSpelling.forall_mem {b : Bytes} {e : Int} (h : ScaleSpelling b e) :
    ∀ d ∈ b, P d := by
  have hletter {letter : UInt8} (h : letter = 101 ∨ letter = 69) : P letter := by
    rcases h with rfl | rfl
    · exact hletters.1
    · exact hletters.2
  cases h with
  | unit => simp
  | grow hfirst hdigits hb =>
    rw [List.forall_mem_cons]
    refine ⟨hletter hfirst, ?_⟩
    rcases hb with rfl | rfl
    · exact fun d hd => hdigit d (hdigits.2 d hd)
    · exact List.forall_mem_cons.2 ⟨hsigns.1, fun d hd => hdigit d (hdigits.2 d hd)⟩
  | shrink hfirst hdigits =>
    rw [List.forall_mem_cons, List.forall_mem_cons]
    exact ⟨hletter hfirst, hsigns.2, fun d hd => hdigit d (hdigits.2 d hd)⟩

include hdigit hsigns hpoint hletters in
/-- A fraction is spelled with digits, signs, a point and the letter of its exponent. -/
theorem SpellsFraction.forall_mem {b : Bytes} {x : Fraction} (h : SpellsFraction b x) :
    ∀ d ∈ b, P d := by
  cases h with
  | mk hsign hdigits hscale =>
    rw [List.forall_mem_append, List.forall_mem_append]
    refine ⟨⟨?_, hdigits.forall_mem hdigit hpoint⟩, hscale.forall_mem hdigit hsigns hletters⟩
    rcases hsign with rfl | rfl | rfl
    · simp
    · exact List.forall_mem_singleton.2 hsigns.1
    · exact List.forall_mem_singleton.2 hsigns.2

end Bytes

theorem SpellsFraction.ne_nil {b : Bytes} {x : Fraction} (h : SpellsFraction b x) : b ≠ [] := by
  cases h with
  | mk hsign hdigits hscale =>
    cases hdigits with
    | whole hwhole => simp [hwhole.1]
    | pointed => simp

/-- The spelling of a fraction is ASCII text. -/
theorem SpellsFraction.exists_text {b : Bytes} {x : Fraction} (h : SpellsFraction b x) :
    ∃ s, Bytes.toText? b = some s := by
  have hdigit : ∀ d, isDigit d = true → d.toNat < 128 := by
    intro d hd
    simp only [isDigit, Bool.and_eq_true, decide_eq_true_eq] at hd
    omega
  have htext := Bytes.ofText_ascii (h.forall_mem hdigit (by decide) (by decide) (by decide))
  exact ⟨_, htext ▸ Bytes.toText?_ofText _⟩

/-- A score is the spelling of a fraction whose double is finite. -/
theorem checkScore_ok_iff {b : Bytes} :
    checkScore b = .ok () ↔ ∃ x, SpellsFraction b x ∧ x.isFinite = true := by
  constructor
  · intro h
    unfold checkScore at h
    split at h
    · contradiction
    · split at h
      · rename_i hscore
        rcases (Option.any_eq_true _ _).1 hscore with ⟨x, hread, hfinite⟩
        exact ⟨x, spellsFraction_of_readFraction? hread, hfinite⟩
      · contradiction
  · rintro ⟨x, hspells, hfinite⟩
    have hscore : isScore b = true :=
      (Option.any_eq_true _ _).2 ⟨x, readFraction?_of_spellsFraction hspells, hfinite⟩
    rcases hspells.exists_text with ⟨s, htext⟩
    simp only [checkScore, htext]
    exact if_pos hscore

end KeyValueClient.Decimal
