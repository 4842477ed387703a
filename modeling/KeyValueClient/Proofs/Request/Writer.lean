import KeyValueClient.Proofs.Request.Tokens
import KeyValueClient.Request.Writer

/-!
# Requests are written whole or not at all

Going through a request step by step, with every argument looked up by its position and every
piece put straight into the buffer, comes to the same as checking it first and then adding its
bytes.  The checks write nothing, and they let pass only requests that have an argument
wherever one is looked up and a value wherever one is written.

Main results:

- Theorems `Writing.put_append` and `Writing.demand_seq`: pieces in a row are one piece, and
  checks in a row are one check.
- Theorem `Request.write_eq`: writing a request is one check and one piece.
- Theorem `Request.appendTo_exact`: what is accepted, in which encoding, and what becomes of
  the buffer.
-/

namespace KeyValueClient

/-! ## Steps -/

namespace Writing

theorem put_nil : put [] = pure () := by
  funext buffer
  change EStateM.Result.ok () (buffer ++ []) = _
  rw [List.append_nil]
  rfl

/-- Pieces in a row are one piece. -/
theorem put_append (first second : Bytes) :
    put (first ++ second) = (do put first; put second) := by
  funext buffer
  change EStateM.Result.ok () (buffer ++ (first ++ second)) = _
  rw [← List.append_assoc]
  rfl

theorem put_cons (b : UInt8) (bytes : Bytes) : put (b :: bytes) = (do put [b]; put bytes) :=
  put_append [b] bytes

theorem count_eq (marker : Marker) (n : Int) :
    count marker n = put (Wire.line marker (Decimal.ofInt n)) := by
  rw [Wire.line, List.cons_append, put_cons, put_append]
  rfl

theorem bulk_eq (data : Bytes) : bulk data = put (Wire.bulk data) := by
  rw [Wire.bulk, List.append_assoc, put_append, put_append, ← count_eq]
  rfl

theorem bulks_eq (values : List Bytes) : bulks values = put (values.flatMap Wire.bulk) := by
  induction values with
  | nil => exact put_nil.symm
  | cons data rest ih => rw [bulks, ih, bulk_eq, List.flatMap_cons, put_append]

theorem tokens_eq (inline : List Bytes) :
    tokens inline = put (inline.flatMap (Bytes.space :: ·)) := by
  induction inline with
  | nil => exact put_nil.symm
  | cons token rest ih =>
    rw [tokens, ih, List.flatMap_cons, List.cons_append, put_cons Bytes.space (token ++ _),
      put_append]

theorem head_eq (command : Command) (inline : List Bytes) :
    head command inline = put (Request.inlineHead command inline) := by
  rw [head, tokens_eq, Request.inlineHead, put_append]

/-- Checks in a row are one check. -/
theorem demand_seq (first second : Except ArgumentError Unit) :
    (do demand first; demand second) = demand (do first; second) := by
  cases first <;> rfl

/-- What follows a check matters only if the check passes. -/
theorem demand_congr {verdict : Except ArgumentError Unit} {x y : Writing Unit}
    (h : verdict = .ok () → x = y) : (do demand verdict; x) = (do demand verdict; y) := by
  cases verdict with
  | ok _ => rw [h rfl]
  | error cause => rfl

end Writing

/-! ## Checks -/

namespace Request

open Writing

variable {r : Request}

/-- An argument is found at a position that there is. -/
theorem argument_eq {position : Nat} (h : position < r.arguments.length) :
    r.argument position = pure (r.arguments.getD position []) := by
  simp [argument, h]

/-- Looking arguments up that are there is checking them. -/
theorem lookUp_eq {checks : List (Nat × TokenKind)}
    (h : ∀ check ∈ checks, check.1 < r.arguments.length) :
    r.lookUp checks = demand (r.checkPositions checks) := by
  induction checks with
  | nil => rfl
  | cons check rest ih =>
    obtain ⟨hcheck, hrest⟩ := List.forall_mem_cons.1 h
    rw [lookUp, checkPositions, ← demand_seq, ih hrest, argument_eq hcheck]
    rfl

/-- The right number of arguments has one wherever one is looked up. -/
theorem position_lt {count : Nat} (harity : r.command.requestShape.arity = some count)
    (hcount : r.arguments.length = count) :
    ∀ check ∈ r.command.requestShape.checks, check.1 < r.arguments.length := by
  intro check hmem
  have hposition : check.1 ∈ r.command.requestShape.checks.map Prod.fst := List.mem_map_of_mem hmem
  rw [RequestShape.positions_checks harity, List.mem_range] at hposition
  omega

/-- Looking the arguments up one by one is the check of a request. -/
theorem validate_eq (r : Request) : r.validate = demand r.checkArguments := by
  rw [validate, checkArguments, ← demand_seq]
  refine demand_congr fun hcount => ?_
  cases harity : r.command.requestShape.arity with
  | some count =>
    have hlookUp := lookUp_eq (position_lt harity (checkCount_ok_iff.1 hcount count harity))
    rw [checkTokens_of_arity harity, ← hlookUp]
    cases r.command.requestShape <;> rfl
  | none =>
    rcases RequestShape.arity_eq_none_iff.1 harity with hkeys | hpairs
    · rw [hkeys]
    · rw [hpairs]

/-! ## Layouts -/

theorem putCounted_eq (r : Request) : r.putCounted = put r.counted := by
  rw [putCounted, counted, List.append_assoc, put_append, put_append, count_eq, bulk_eq, bulks_eq]

theorem putShaped_of_ne_pairs (h : r.command.requestShape ≠ .pairs) :
    r.putShaped = r.putInline := by
  unfold putShaped
  cases hshape : r.command.requestShape with
  | pairs => exact absurd hshape h
  | _ => rfl

/-- The shaped encoding writes the layout of a request, with a value wherever one is
written. -/
theorem putShaped_eq {layout : Layout} (hfits : layout.Fits r.command.requestShape)
    (harguments : r.arguments = layout.arguments) :
    r.putShaped = put (layout.wire r.command) := by
  cases layout with
  | line tokens =>
    obtain ⟨hpairs, hcarries, -⟩ := hfits.line
    rw [putShaped_of_ne_pairs hpairs, putInline, if_neg (by simp [hcarries]), harguments,
      Layout.wire, put_append, ← head_eq]
    rfl
  | withValue tokens value =>
    obtain ⟨hpairs, hcarries, -⟩ := hfits.withValue
    rw [putShaped_of_ne_pairs hpairs, putInline, if_pos hcarries, harguments, Layout.arguments,
      List.getLast?_concat, List.dropLast_concat]
    simp only [Layout.wire, withValue, head_eq, List.append_assoc, put_append,
      put_cons Bytes.space (Decimal.ofInt value.length), bind_assoc]
  | counted arguments =>
    have hcounted : r.counted = (Layout.counted arguments).wire r.command := counted_eq harguments
    rw [putShaped, hfits.counted, ← hcounted]
    exact putCounted_eq r

/-- An accepted request is written in the layout that it has. -/
theorem putWire_eq {layout : Layout} (hfits : layout.Fits r.command.requestShape)
    (harguments : r.arguments = layout.arguments) (encoding : Encoding) :
    r.putWire encoding = put (r.wire encoding) := by
  cases encoding with
  | shaped =>
    rw [putWire, wire, shaped_eq hfits harguments]
    exact putShaped_eq hfits harguments
  | counted => exact putCounted_eq r

/-! ## Whole requests -/

/-- Writing a request is one check and one piece. -/
theorem write_eq (r : Request) (encoding : Encoding) :
    r.write encoding = (do demand r.checkArguments; put (r.wire encoding)) := by
  rw [write, validate_eq]
  refine demand_congr fun hcheck => ?_
  obtain ⟨layout, hfits, harguments⟩ := isAcceptable_of_checkArguments hcheck
  exact putWire_eq hfits harguments encoding

/-- A request is appended exactly if it passes its checks, and it passes them exactly if its
arguments have a layout that the shape of its command asks for: as many as that, a key, a number
or a score wherever the shape has one, and anything for a value.  The verdict depends neither on
the encoding nor on what the buffer holds.  An accepted request adds the bytes of its layout and
no others; a refused one is refused for its arguments and leaves the buffer as it was.  Going
through the request step by step comes to the same, so no step looks for an argument that is not
there. -/
theorem appendTo_exact (r : Request) (encoding : Encoding) (buffer : Bytes) :
    ((r.appendTo buffer encoding).1 = .ok () ↔ r.check = .ok ()) ∧
      (r.check = .ok () ↔ r.IsAcceptable) ∧
      (∀ other held, (r.appendTo held other).1 = (r.appendTo buffer encoding).1) ∧
      ((∃ (layout : Layout) (bytes : Bytes), layout.Fits r.command.requestShape ∧
          r.arguments = layout.arguments ∧ bytes = (layout.written encoding).wire r.command ∧
          r.encode encoding = .ok bytes ∧
          r.appendTo buffer encoding = (.ok (), buffer ++ bytes) ∧
          r.write encoding buffer = .ok () (buffer ++ bytes)) ∨
        ∃ cause, r.encode encoding = .error (.argument cause) ∧
          r.appendTo buffer encoding = (.error (.argument cause), buffer) ∧
          r.write encoding buffer = .error (.refused cause) buffer) := by
  rw [write_eq]
  cases harguments : r.checkArguments with
  | ok _ =>
    have hcheck : r.check = .ok () := by rw [check, harguments]
    have hencode : r.encode encoding = .ok (r.wire encoding) := by rw [encode, hcheck]; rfl
    have happend := appendTo_ok hcheck
    obtain ⟨layout, hfits, hlayout⟩ := isAcceptable_of_check hcheck
    refine ⟨?_, check_ok_iff, ?_, Or.inl ⟨layout, _, hfits, hlayout, ?_, hencode,
      happend buffer encoding, rfl⟩⟩
    · rw [happend, hcheck]
    · intro other held
      rw [happend, happend]
    · exact wire_eq hfits hlayout encoding
  | error cause =>
    have hcheck : r.check = .error (.argument cause) := by rw [check, harguments]
    have hencode : r.encode encoding = .error (.argument cause) := by rw [encode, hcheck]; rfl
    have happend := appendTo_error hcheck
    refine ⟨?_, check_ok_iff, ?_, Or.inr ⟨cause, hencode, happend buffer encoding, rfl⟩⟩
    · rw [happend, hcheck]
    · intro other held
      rw [happend, happend]

end Request

end KeyValueClient
