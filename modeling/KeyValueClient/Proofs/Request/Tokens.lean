import KeyValueClient.Proofs.Request.Layouts

/-!
# Tokens of a checked request

Numbers and scores hold no more delimiters than keys do, so whatever an acceptable request
puts on a line can be told apart there.  Which bytes the writer puts where is read off the
tables of the shape, and comes to the layout that the request has.

Main results:

- Theorems `Request.isKey_of_isNumber` and `Request.isKey_of_isScore`: no token holds a
  delimiter.
- Theorems `Layout.Fits.line`, `Layout.Fits.withValue` and `Layout.Fits.counted`: what the
  tables say of a shape with such a layout.
- Theorem `Request.wire_eq`: the bytes of a request are those of its layout.
-/

namespace KeyValueClient

namespace Request

/-! ## Bytes of tokens -/

/-- No byte ends a token. -/
def IsPlain (b : Bytes) : Prop :=
  ∀ d ∈ b, isDelimiter d = false

theorem isKey_iff_isPlain (b : Bytes) : IsKey b ↔ b ≠ [] ∧ IsPlain b :=
  (isKey_iff .ping b).symm.trans (checkKey_ok_iff .ping b)

@[simp]
theorem isPlain_cons {d : UInt8} {b : Bytes} :
    IsPlain (d :: b) ↔ isDelimiter d = false ∧ IsPlain b :=
  List.forall_mem_cons

theorem isDelimiter_of_isDigit (d : UInt8) (h : Decimal.isDigit d = true) :
    isDelimiter d = false := by
  simp only [Decimal.isDigit, Bool.and_eq_true, decide_eq_true_eq] at h
  have hne : ∀ e : UInt8, e.toNat < 48 → d ≠ e := by
    rintro e he rfl
    omega
  simp [isDelimiter, hne Bytes.space (by decide), hne Bytes.cr (by decide),
    hne Bytes.lf (by decide)]

theorem isPlain_of_isDigit {digits : Bytes} (h : ∀ d ∈ digits, Decimal.isDigit d = true) :
    IsPlain digits :=
  fun d hd => isDelimiter_of_isDigit d (h d hd)

/-- The spelling of an integer can stand in a line. -/
theorem isPlain_of_spells {b : Bytes} {n : Int} (h : Decimal.Spells b n) : IsPlain b := by
  rcases h with ⟨digits, hdigits, ⟨rfl | rfl, -⟩ | ⟨rfl, -⟩⟩
  · exact isPlain_of_isDigit hdigits.2
  · exact isPlain_cons.2 ⟨by decide, isPlain_of_isDigit hdigits.2⟩
  · exact isPlain_cons.2 ⟨by decide, isPlain_of_isDigit hdigits.2⟩

/-- The spelling of a fraction can stand in a line. -/
theorem isKey_of_spellsFraction {b : Bytes} {x : Decimal.Fraction}
    (h : Decimal.SpellsFraction b x) : IsKey b := by
  rw [isKey_iff_isPlain]
  refine ⟨h.ne_nil, h.forall_mem isDelimiter_of_isDigit ?_ ?_ ?_⟩
  · decide
  · decide
  · decide

/-- The spelling of a number can stand in a line. -/
theorem isKey_of_isNumber {token : Bytes} (h : IsNumber token) : IsKey token := by
  rcases h with ⟨n, hspells⟩
  rw [isKey_iff_isPlain]
  refine ⟨?_, isPlain_of_spells hspells.spells⟩
  rcases hspells with ⟨digits, hdigits, -, ⟨rfl | rfl, -⟩ | ⟨rfl, -⟩, -⟩
  · exact hdigits.1
  · exact List.cons_ne_nil _ _
  · exact List.cons_ne_nil _ _

theorem isKey_of_isScore {token : Bytes} (h : IsScore token) : IsKey token := by
  rcases h with ⟨x, hspells, -⟩
  exact isKey_of_spellsFraction hspells

end Request

/-! ## What stands on the line -/

namespace Layout

open Request

variable {shape : RequestShape} {tokens : List Bytes} {value : Bytes} {arguments : List Bytes}

/-- A shape whose arguments all stand on the line carries no value. -/
theorem Fits.line (h : (line tokens).Fits shape) :
    shape ≠ .pairs ∧ shape.carriesValue = false ∧ ∀ token ∈ tokens, IsKey token := by
  refine ⟨?_, by cases h <;> rfl, ?_⟩
  · rintro rfl
    cases h
  · cases h with
    | bare => exact List.forall_mem_nil _
    | number hfirst => exact List.forall_mem_singleton.2 (isKey_of_isNumber hfirst)
    | key hfirst => exact List.forall_mem_singleton.2 hfirst
    | keyKey hfirst hsecond =>
      exact List.forall_mem_cons.2 ⟨hfirst, List.forall_mem_singleton.2 hsecond⟩
    | keyNumber hfirst hsecond =>
      have hsecond := isKey_of_isNumber hsecond
      exact List.forall_mem_cons.2 ⟨hfirst, List.forall_mem_singleton.2 hsecond⟩
    | keyNumberNumber hfirst hsecond hthird =>
      have hsecond := isKey_of_isNumber hsecond
      have hthird := isKey_of_isNumber hthird
      exact List.forall_mem_cons.2
        ⟨hfirst, List.forall_mem_cons.2 ⟨hsecond, List.forall_mem_singleton.2 hthird⟩⟩
    | keys _ hall => exact hall

/-- A shape with a value behind the line carries one. -/
theorem Fits.withValue (h : (withValue tokens value).Fits shape) :
    shape ≠ .pairs ∧ shape.carriesValue = true ∧ ∀ token ∈ tokens, IsKey token := by
  refine ⟨?_, by cases h <;> rfl, ?_⟩
  · rintro rfl
    cases h
  · cases h with
    | value => exact List.forall_mem_nil _
    | keyValue hfirst => exact List.forall_mem_singleton.2 hfirst
    | keyNumberValue hfirst hsecond =>
      have hsecond := isKey_of_isNumber hsecond
      exact List.forall_mem_cons.2 ⟨hfirst, List.forall_mem_singleton.2 hsecond⟩
    | keyScoreValue hfirst hsecond =>
      have hsecond := isKey_of_isScore hsecond
      exact List.forall_mem_cons.2 ⟨hfirst, List.forall_mem_singleton.2 hsecond⟩
    | keyKeyValue hfirst hsecond =>
      exact List.forall_mem_cons.2 ⟨hfirst, List.forall_mem_singleton.2 hsecond⟩

/-- Only pairs are counted in the shaped encoding. -/
theorem Fits.counted (h : (counted arguments).Fits shape) : shape = .pairs := by
  cases h with
  | pairs => rfl

end Layout

/-! ## The shaped encoding -/

namespace Request

variable {r : Request} {layout : Layout}

theorem counted_eq {arguments : List Bytes} (h : r.arguments = arguments) :
    r.counted = (Layout.counted arguments).wire r.command := by
  rw [counted, h]
  rfl

/-- The shaped encoding of anything but pairs goes by whether the shape carries a value. -/
theorem shaped_of_ne_pairs (h : r.command.requestShape ≠ .pairs) :
    r.shaped =
      match r.command.requestShape.carriesValue, r.arguments.getLast? with
      | true, some value => withValue r.command r.arguments.dropLast value
      | _, _ => inlineHead r.command r.arguments ++ Bytes.crlf := by
  unfold shaped
  cases hshape : r.command.requestShape with
  | pairs => exact absurd hshape h
  | _ => rfl

/-- The shaped encoding is the layout of the request. -/
theorem shaped_eq (hfits : layout.Fits r.command.requestShape)
    (harguments : r.arguments = layout.arguments) : r.shaped = layout.wire r.command := by
  cases layout with
  | line tokens =>
    obtain ⟨hpairs, hcarries, -⟩ := hfits.line
    rw [shaped_of_ne_pairs hpairs, hcarries, harguments]
    rfl
  | withValue tokens value =>
    obtain ⟨hpairs, hcarries, -⟩ := hfits.withValue
    rw [shaped_of_ne_pairs hpairs, hcarries, harguments, Layout.arguments,
      List.getLast?_concat, List.dropLast_concat]
    rfl
  | counted arguments =>
    rw [shaped, hfits.counted]
    exact counted_eq harguments

/-- The bytes of a request are those of the layout that is written. -/
theorem wire_eq (hfits : layout.Fits r.command.requestShape)
    (harguments : r.arguments = layout.arguments) (encoding : Encoding) :
    r.wire encoding = (layout.written encoding).wire r.command := by
  cases encoding with
  | shaped => exact shaped_eq hfits harguments
  | counted => exact counted_eq harguments

end Request

end KeyValueClient
