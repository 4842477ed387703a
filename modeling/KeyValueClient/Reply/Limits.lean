import KeyValueClient.Reply.Decoding
import KeyValueClient.Reply.Wire

/-!
# Replies within the limits

Not every reply can travel.  A text on a line holds no line feed, a number fits its
word, a line with its marker and terminator is within the line limit, values and lists
are not too long, and aggregates are not nested too deeply.  A text that reads like
the acknowledgement of a queued command would be taken for one.

Main results:

- Theorem `fitsLine_iff`: the line limit counts the marker and the terminator.
- Theorem `Element.allFit_iff`: some elements fit when each of them does.
-/

namespace KeyValueClient

/-! ## Lines -/

/-- A line with this body is within the limit. -/
def FitsLine (limit : Nat) (body : Bytes) : Prop :=
  body.length + 3 ≤ limit

/-- The line limit counts the marker and the terminator. -/
theorem fitsLine_iff (limit : Nat) (marker : Marker) (body : Bytes) :
    FitsLine limit body ↔ (Wire.line marker body).length ≤ limit := by
  have hlength : (Wire.line marker body).length = body.length + 3 := by
    simp [Wire.line, Bytes.crlf]
  rw [FitsLine, hlength]

/-- The text can stand on a line. -/
structure TextFits (limit : Nat) (s : String) : Prop where
  lf_not_mem : Bytes.lf ∉ Bytes.ofText s
  fitsLine : FitsLine limit (Bytes.ofText s)

/-- The number can stand on a line. -/
structure NumberFits (limit : Nat) (n : Int) : Prop where
  inRange : Decimal.Word.bits64.InRange n
  fitsLine : FitsLine limit (Decimal.ofInt n)

/-! ## Values and lists -/

/-- The bulk value is within the limits. -/
def BulkFits (limit : Nat) : Option Bytes → Prop
  | none => FitsLine limit nilBody
  | some data => data.length ≤ maxBulkLength ∧ FitsLine limit (Decimal.ofInt data.length)

/-- A list of this length is within the limits. -/
def CountFits (limit count : Nat) : Prop :=
  count ≤ maxListLength ∧ FitsLine limit (Decimal.ofInt count)

mutual

/-- The element is within the limits, its nesting apart. -/
def Element.Fits (limit : Nat) : Element → Prop
  | .text s => TextFits limit s
  | .error s => TextFits limit s
  | .number n => NumberFits limit n
  | .bulk value => BulkFits limit value
  | .nilList => FitsLine limit nilBody
  | .list items => CountFits limit items.length ∧ Element.AllFit limit items

/-- Some elements are within the limits, their nesting apart. -/
def Element.AllFit (limit : Nat) : List Element → Prop
  | [] => True
  | item :: rest => item.Fits limit ∧ Element.AllFit limit rest

end

/-- Some elements fit when each of them does. -/
theorem Element.allFit_iff (limit : Nat) (items : List Element) :
    Element.AllFit limit items ↔ ∀ item ∈ items, item.Fits limit := by
  induction items with
  | nil => simp [Element.AllFit]
  | cons item rest ih => simp [Element.AllFit, ih]

/-! ## Replies -/

/-- The payload is within the limits. -/
def Reply.Fits (limit : Nat) : Reply → Prop
  | .none => FitsLine limit (Bytes.ofText "OK")
  | .queued => FitsLine limit Reading.queuedBody
  | .number n => NumberFits limit n
  | .boolean b => FitsLine limit (Bytes.ofText (if b then "1" else "0"))
  | .text s => TextFits limit s ∧ Bytes.ofText s ≠ Reading.queuedBody
  | .bulk value => BulkFits limit value
  | .multiBulk .none => FitsLine limit nilBody
  | .multiBulk (.some values) =>
    CountFits limit values.length ∧ ∀ value ∈ values, BulkFits limit value
  | .aggregate .none => FitsLine limit nilBody
  | .aggregate (.some items) =>
    (Element.list items).Fits limit ∧ (Element.list items).depth ≤ maxNesting

/-- The reply is within the limits. -/
def Outcome.Fits (limit : Nat) (o : Outcome) : Prop :=
  match o.status with
  | .error message => TextFits limit message
  | .success | .terminal => o.reply.Fits limit

/-! ## Checking

Whether a reply fits can be computed. -/

section Checking

variable (limit : Nat)

instance (body : Bytes) : Decidable (FitsLine limit body) :=
  inferInstanceAs (Decidable (_ ≤ _))

instance (s : String) : Decidable (TextFits limit s) :=
  decidable_of_iff (Bytes.lf ∉ Bytes.ofText s ∧ FitsLine limit (Bytes.ofText s))
    ⟨fun h => ⟨h.1, h.2⟩, fun h => ⟨h.lf_not_mem, h.fitsLine⟩⟩

instance (n : Int) : Decidable (NumberFits limit n) :=
  decidable_of_iff (Decimal.Word.bits64.InRange n ∧ FitsLine limit (Decimal.ofInt n))
    ⟨fun h => ⟨h.1, h.2⟩, fun h => ⟨h.inRange, h.fitsLine⟩⟩

instance (count : Nat) : Decidable (CountFits limit count) :=
  inferInstanceAs (Decidable (_ ∧ _))

instance BulkFits.decidable : (value : Option Bytes) → Decidable (BulkFits limit value)
  | none => inferInstanceAs (Decidable (FitsLine limit nilBody))
  | some _ => inferInstanceAs (Decidable (_ ∧ _))

mutual

instance Element.Fits.decidable : (e : Element) → Decidable (e.Fits limit)
  | .text s => inferInstanceAs (Decidable (TextFits limit s))
  | .error s => inferInstanceAs (Decidable (TextFits limit s))
  | .number n => inferInstanceAs (Decidable (NumberFits limit n))
  | .bulk value => inferInstanceAs (Decidable (BulkFits limit value))
  | .nilList => inferInstanceAs (Decidable (FitsLine limit nilBody))
  | .list items =>
    haveI := Element.AllFit.decidable items
    inferInstanceAs (Decidable (CountFits limit items.length ∧ Element.AllFit limit items))

instance Element.AllFit.decidable :
    (items : List Element) → Decidable (Element.AllFit limit items)
  | [] => .isTrue trivial
  | item :: rest =>
    haveI := Element.Fits.decidable item
    haveI := Element.AllFit.decidable rest
    inferInstanceAs (Decidable (item.Fits limit ∧ Element.AllFit limit rest))

end

instance Reply.Fits.decidable : (reply : Reply) → Decidable (reply.Fits limit)
  | .none => inferInstanceAs (Decidable (FitsLine limit _))
  | .queued => inferInstanceAs (Decidable (FitsLine limit _))
  | .number n => inferInstanceAs (Decidable (NumberFits limit n))
  | .boolean _ => inferInstanceAs (Decidable (FitsLine limit _))
  | .text _ => inferInstanceAs (Decidable (TextFits limit _ ∧ _ ≠ _))
  | .bulk value => inferInstanceAs (Decidable (BulkFits limit value))
  | .multiBulk .none => inferInstanceAs (Decidable (FitsLine limit nilBody))
  | .multiBulk (.some values) =>
    inferInstanceAs
      (Decidable (CountFits limit values.length ∧ ∀ value ∈ values, BulkFits limit value))
  | .aggregate .none => inferInstanceAs (Decidable (FitsLine limit nilBody))
  | .aggregate (.some items) =>
    inferInstanceAs (Decidable ((Element.list items).Fits limit ∧ _ ≤ _))

instance Outcome.Fits.decidable : (o : Outcome) → Decidable (o.Fits limit)
  | ⟨.error message, _⟩ => inferInstanceAs (Decidable (TextFits limit message))
  | ⟨.success, reply⟩ => inferInstanceAs (Decidable (reply.Fits limit))
  | ⟨.terminal, reply⟩ => inferInstanceAs (Decidable (reply.Fits limit))

end Checking

end KeyValueClient
