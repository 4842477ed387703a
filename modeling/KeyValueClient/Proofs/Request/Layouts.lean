import KeyValueClient.Proofs.Decimal.Fractions
import KeyValueClient.Request.Acceptance
import Mathlib.Data.List.Basic

/-!
# Checks against layouts

The checks go by the tables of a shape: how many arguments there are, and which positions hold
a token.  The layouts are said shape by shape.  A request passes its checks exactly if its
arguments are laid out as the shape of its command asks.

Main results:

- Theorem `Request.checkToken_ok_iff`: a token passes its check exactly if it is what it has to
  be.
- Theorems `Layout.Fits.length_eq` and `Layout.Fits.accepts`: the tables agree with the layouts.
- Theorem `Layout.exists_fits`: what goes by the tables has a layout.
- Theorem `Request.check_ok_iff`: a request passes its checks exactly if it is acceptable.
-/

namespace KeyValueClient

/-! ## Tokens in a row -/

namespace Request

variable {command : Command} {arguments : List Bytes} {r : Request}

/-- Two checks pass if both of them do. -/
theorem seq_ok_iff {first second : Except ArgumentError Unit} :
    (do first; second) = .ok () ↔ first = .ok () ∧ second = .ok () := by
  rw [Decimal.bind_ok_iff]
  constructor
  · rintro ⟨_, hfirst, hsecond⟩
    exact ⟨hfirst, hsecond⟩
  · rintro ⟨hfirst, hsecond⟩
    exact ⟨_, hfirst, hsecond⟩

/-- A token passes its check exactly if it is what it has to be. -/
theorem checkToken_ok_iff {kind : TokenKind} {token : Bytes} :
    checkToken command kind token = .ok () ↔ Accepts kind token := by
  cases kind with
  | key => exact isKey_iff command token
  | number =>
    simp only [checkToken, Accepts, IsNumber, ← Decimal.readWord_ok_iff]
    cases hread : Decimal.readInt64 token with
    | ok n => simp_all [Decimal.readInt64]
    | error cause => simp_all [Decimal.readInt64]
  | score =>
    simp only [checkToken, Accepts, IsScore, ← Decimal.checkScore_ok_iff]
    cases Decimal.checkScore token <;> simp

theorem checkPositions_ok_iff {checks : List (Nat × TokenKind)} :
    r.checkPositions checks = .ok () ↔
      ∀ check ∈ checks, Accepts check.2 (r.arguments.getD check.1 []) := by
  induction checks with
  | nil => simp [checkPositions]
  | cons check rest ih =>
    rw [checkPositions, seq_ok_iff, checkToken_ok_iff, ih, List.forall_mem_cons]

theorem checkKeys_ok_iff {keys : List Bytes} :
    checkKeys command keys = .ok () ↔ ∀ key ∈ keys, IsKey key := by
  induction keys with
  | nil => simp [checkKeys]
  | cons key rest ih => rw [checkKeys, seq_ok_iff, isKey_iff, ih, List.forall_mem_cons]

/-- Every second argument is one at an even position. -/
theorem forall_mem_everySecond {p : Bytes → Prop} :
    (∀ token ∈ everySecond arguments, p token) ↔
      ∀ (position : Nat) (token : Bytes), arguments[position]? = some token →
        position % 2 = 0 → p token := by
  fun_induction everySecond arguments with
  | case1 => simp
  | case2 last =>
    rw [List.forall_mem_singleton]
    constructor
    · intro hlast position token hargument _
      rwa [List.mem_singleton.1 (List.mem_of_getElem? hargument)]
    · intro h
      exact h 0 last rfl rfl
  | case3 first second rest ih =>
    rw [List.forall_mem_cons, ih]
    constructor
    · rintro ⟨hfirst, hrest⟩ position token hargument heven
      match position with
      | 0 => exact Option.some.inj hargument ▸ hfirst
      | 1 => contradiction
      | position + 2 => exact hrest position token hargument (by omega)
    · intro h
      refine ⟨h 0 first rfl rfl, fun position token hargument heven => ?_⟩
      exact h (position + 2) token hargument (by omega)

end Request

/-! ## Tables and layouts -/

namespace Layout

open Request

variable {layout : Layout} {shape : RequestShape}

/-- A layout has as many arguments as its shape fixes. -/
theorem Fits.length_eq (h : layout.Fits shape) {count : Nat} (harity : shape.arity = some count) :
    layout.arguments.length = count := by
  cases h <;> cases harity <;> rfl

/-- A layout holds an acceptable token wherever one is checked. -/
theorem Fits.accepts (h : layout.Fits shape) :
    ∀ check ∈ shape.checks, Accepts check.2 (layout.arguments.getD check.1 []) := by
  cases h with
  | bare | value | keys | pairs => exact List.forall_mem_nil _
  | number hfirst | key hfirst | keyValue hfirst => exact List.forall_mem_singleton.2 hfirst
  | keyKey hfirst hsecond | keyNumber hfirst hsecond | keyNumberValue hfirst hsecond
  | keyScoreValue hfirst hsecond | keyKeyValue hfirst hsecond =>
    exact List.forall_mem_cons.2 ⟨hfirst, List.forall_mem_singleton.2 hsecond⟩
  | keyNumberNumber hfirst hsecond hthird =>
    exact List.forall_mem_cons.2
      ⟨hfirst, List.forall_mem_cons.2 ⟨hsecond, List.forall_mem_singleton.2 hthird⟩⟩

/-- As many arguments as a shape fixes, with an acceptable token wherever one is checked, have a
layout. -/
theorem exists_fits {arguments : List Bytes} (harity : shape.arity = some arguments.length)
    (htokens : ∀ check ∈ shape.checks, Accepts check.2 (arguments.getD check.1 [])) :
    ∃ layout : Layout, layout.Fits shape ∧ arguments = layout.arguments := by
  have hlength {count : Nat} (h : shape.arity = some count) : arguments.length = count :=
    Option.some.inj (harity.symm.trans h)
  cases shape with
  | bare =>
    obtain rfl := List.length_eq_zero_iff.1 (hlength rfl)
    exact ⟨.line [], .bare, rfl⟩
  | number =>
    obtain ⟨first, rfl⟩ := List.length_eq_one_iff.1 (hlength rfl)
    have hfirst := htokens (0, .number) (by decide)
    exact ⟨.line [first], .number hfirst, rfl⟩
  | key =>
    obtain ⟨first, rfl⟩ := List.length_eq_one_iff.1 (hlength rfl)
    have hfirst := htokens (0, .key) (by decide)
    exact ⟨.line [first], .key hfirst, rfl⟩
  | value =>
    obtain ⟨value, rfl⟩ := List.length_eq_one_iff.1 (hlength rfl)
    exact ⟨.withValue [] value, .value, rfl⟩
  | keyKey =>
    obtain ⟨first, second, rfl⟩ := List.length_eq_two.1 (hlength rfl)
    have hfirst := htokens (0, .key) (by decide)
    have hsecond := htokens (1, .key) (by decide)
    exact ⟨.line [first, second], .keyKey hfirst hsecond, rfl⟩
  | keyNumber =>
    obtain ⟨first, second, rfl⟩ := List.length_eq_two.1 (hlength rfl)
    have hfirst := htokens (0, .key) (by decide)
    have hsecond := htokens (1, .number) (by decide)
    exact ⟨.line [first, second], .keyNumber hfirst hsecond, rfl⟩
  | keyNumberNumber =>
    obtain ⟨first, second, third, rfl⟩ := List.length_eq_three.1 (hlength rfl)
    have hfirst := htokens (0, .key) (by decide)
    have hsecond := htokens (1, .number) (by decide)
    have hthird := htokens (2, .number) (by decide)
    exact ⟨.line [first, second, third], .keyNumberNumber hfirst hsecond hthird, rfl⟩
  | keyValue =>
    obtain ⟨first, value, rfl⟩ := List.length_eq_two.1 (hlength rfl)
    have hfirst := htokens (0, .key) (by decide)
    exact ⟨.withValue [first] value, .keyValue hfirst, rfl⟩
  | keyNumberValue =>
    obtain ⟨first, second, value, rfl⟩ := List.length_eq_three.1 (hlength rfl)
    have hfirst := htokens (0, .key) (by decide)
    have hsecond := htokens (1, .number) (by decide)
    exact ⟨.withValue [first, second] value, .keyNumberValue hfirst hsecond, rfl⟩
  | keyScoreValue =>
    obtain ⟨first, second, value, rfl⟩ := List.length_eq_three.1 (hlength rfl)
    have hfirst := htokens (0, .key) (by decide)
    have hsecond := htokens (1, .score) (by decide)
    exact ⟨.withValue [first, second] value, .keyScoreValue hfirst hsecond, rfl⟩
  | keyKeyValue =>
    obtain ⟨first, second, value, rfl⟩ := List.length_eq_three.1 (hlength rfl)
    have hfirst := htokens (0, .key) (by decide)
    have hsecond := htokens (1, .key) (by decide)
    exact ⟨.withValue [first, second] value, .keyKeyValue hfirst hsecond, rfl⟩
  | keys => cases harity
  | pairs => cases harity

end Layout

/-! ## Whole requests -/

namespace Request

variable {r : Request}

/-- The number of arguments passes its check if it is the one that the shape fixes, if any. -/
theorem checkCount_ok_iff :
    r.checkCount = .ok () ↔
      ∀ count, r.command.requestShape.arity = some count → r.arguments.length = count := by
  unfold checkCount
  cases r.command.requestShape.arity with
  | none => simp
  | some expected => simp

/-- The tokens of a shape with a fixed number of arguments are checked by position. -/
theorem checkTokens_of_arity {count : Nat} (h : r.command.requestShape.arity = some count) :
    r.checkTokens = r.checkPositions r.command.requestShape.checks := by
  unfold checkTokens
  cases hshape : r.command.requestShape with
  | keys | pairs =>
    rw [hshape] at h
    cases h
  | _ => rfl

theorem checkTokens_keys (h : r.command.requestShape = .keys) :
    r.checkTokens = .ok () ↔ r.arguments ≠ [] ∧ ∀ token ∈ r.arguments, IsKey token := by
  simp only [checkTokens, h]
  split_ifs with hnone
  · simp [List.length_eq_zero_iff.1 hnone]
  · rw [checkKeys_ok_iff]
    exact (and_iff_right (mt List.length_eq_zero_iff.2 hnone)).symm

theorem checkTokens_pairs (h : r.command.requestShape = .pairs) :
    r.checkTokens = .ok () ↔ r.arguments ≠ [] ∧ r.arguments.length % 2 = 0 ∧
      ∀ (position : Nat) (token : Bytes), r.arguments[position]? = some token →
        position % 2 = 0 → IsKey token := by
  simp only [checkTokens, h]
  split_ifs with hcount
  · rcases hcount with hnone | hodd
    · simp [List.length_eq_zero_iff.1 hnone]
    · simp [hodd]
  · rw [not_or, not_not] at hcount
    rw [checkKeys_ok_iff, forall_mem_everySecond]
    simp [hcount.2, mt List.length_eq_zero_iff.2 hcount.1]

/-- What passes the checks has a layout. -/
theorem isAcceptable_of_checkArguments (h : r.checkArguments = .ok ()) : r.IsAcceptable := by
  obtain ⟨hcount, htokens⟩ := seq_ok_iff.1 h
  cases harity : r.command.requestShape.arity with
  | some count =>
    obtain rfl := checkCount_ok_iff.1 hcount count harity
    rw [checkTokens_of_arity harity, checkPositions_ok_iff] at htokens
    exact Layout.exists_fits harity htokens
  | none =>
    rcases RequestShape.arity_eq_none_iff.1 harity with hkeys | hpairs
    · obtain ⟨hsome, hall⟩ := (checkTokens_keys hkeys).1 htokens
      exact ⟨.line r.arguments, hkeys ▸ .keys hsome hall, rfl⟩
    · obtain ⟨hsome, heven, hall⟩ := (checkTokens_pairs hpairs).1 htokens
      exact ⟨.counted r.arguments, hpairs ▸ .pairs hsome heven hall, rfl⟩

/-- What has a layout passes the checks. -/
theorem checkArguments_of_isAcceptable (h : r.IsAcceptable) : r.checkArguments = .ok () := by
  obtain ⟨layout, hfits, harguments⟩ := h
  refine seq_ok_iff.2 ⟨checkCount_ok_iff.2 fun count harity => ?_, ?_⟩
  · rw [harguments]
    exact hfits.length_eq harity
  · cases harity : r.command.requestShape.arity with
    | some count =>
      rw [checkTokens_of_arity harity, checkPositions_ok_iff, harguments]
      exact hfits.accepts
    | none =>
      rcases RequestShape.arity_eq_none_iff.1 harity with hkeys | hpairs
      · rw [hkeys] at hfits
        rw [checkTokens_keys hkeys, harguments]
        cases hfits with
        | keys hsome hall => exact ⟨hsome, hall⟩
      · rw [hpairs] at hfits
        rw [checkTokens_pairs hpairs, harguments]
        cases hfits with
        | pairs hsome heven hall => exact ⟨hsome, heven, hall⟩

/-- A request passes its checks exactly if it is acceptable. -/
theorem check_ok_iff : r.check = .ok () ↔ r.IsAcceptable := by
  have hcheck : r.check = .ok () ↔ r.checkArguments = .ok () := by
    unfold check
    cases r.checkArguments <;> simp
  rw [hcheck]
  exact ⟨isAcceptable_of_checkArguments, checkArguments_of_isAcceptable⟩

theorem isAcceptable_of_check (h : r.check = .ok ()) : r.IsAcceptable :=
  check_ok_iff.1 h

end Request

end KeyValueClient
