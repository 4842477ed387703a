import KeyValueClient.Decimal.Canonical
import KeyValueClient.Reply.Typing
import KeyValueClient.Reply.Wire

/-!
# Spellings of a reply

A reply can be spelled in more than one way: numbers, lengths and counts need not be
in canonical form, and a status without a payload may have any words that stand on one
line and do not acknowledge a queued command.  Nothing else is free.  The relations
here say which byte strings spell a reply.

Main results:

- Theorem `Element.spelling_wire`: an element is written as one of its spellings.
- Theorem `Outcome.spelling_wire`: so is a whole reply.
-/

namespace KeyValueClient

/-! ## Bulk values -/

/-- The byte string spells the bulk value. -/
inductive BulkSpelling : Option Bytes → Bytes → Prop where
  | nil {length : Bytes} (hlength : Decimal.Spells length (-1)) :
      BulkSpelling none (Wire.line .bulk length)
  | value {data length : Bytes} (hlength : Decimal.Spells length data.length) :
      BulkSpelling (some data) (Wire.line .bulk length ++ data ++ Bytes.crlf)

/-- The byte string spells some bulk values, one after the other. -/
inductive BulksSpelling : List (Option Bytes) → Bytes → Prop where
  | nil : BulksSpelling [] []
  | cons {value : Option Bytes} {rest : List (Option Bytes)} {b after : Bytes}
      (hvalue : BulkSpelling value b) (hrest : BulksSpelling rest after) :
      BulksSpelling (value :: rest) (b ++ after)

/-! ## Elements -/

mutual

/-- The byte string spells the element. -/
inductive Element.Spelling : Element → Bytes → Prop where
  | text (s : String) : Element.Spelling (.text s) (Wire.line .status (Bytes.ofText s))
  | error (s : String) : Element.Spelling (.error s) (Wire.line .error (Bytes.ofText s))
  | number {n : Int} {digits : Bytes} (hdigits : Decimal.Spells digits n) :
      Element.Spelling (.number n) (Wire.line .integer digits)
  | bulk {value : Option Bytes} {b : Bytes} (hvalue : BulkSpelling value b) :
      Element.Spelling (.bulk value) b
  | nilList {count : Bytes} (hcount : Decimal.Spells count (-1)) :
      Element.Spelling .nilList (Wire.line .list count)
  | list {items : List Element} {count b : Bytes} (hcount : Decimal.Spells count items.length)
      (hitems : Element.ListSpelling items b) :
      Element.Spelling (.list items) (Wire.line .list count ++ b)

/-- The byte string spells some elements, one after the other. -/
inductive Element.ListSpelling : List Element → Bytes → Prop where
  | nil : Element.ListSpelling [] []
  | cons {item : Element} {rest : List Element} {b after : Bytes}
      (hitem : Element.Spelling item b) (hrest : Element.ListSpelling rest after) :
      Element.ListSpelling (item :: rest) (b ++ after)

end

/-! ## Replies -/

/-- The byte string spells the payload of a successful reply. -/
inductive Reply.Spelling : Reply → Bytes → Prop where
  | status {words : Bytes} (hlf : Bytes.lf ∉ words) (hwords : words ≠ Reading.queuedBody) :
      Reply.Spelling .none (Wire.line .status words)
  | queued : Reply.Spelling .queued (Wire.line .status Reading.queuedBody)
  | number {n : Int} {digits : Bytes} (hdigits : Decimal.Spells digits n) :
      Reply.Spelling (.number n) (Wire.line .integer digits)
  | boolean (b : Bool) :
      Reply.Spelling (.boolean b) (Wire.line .integer (Bytes.ofText (if b then "1" else "0")))
  | text (s : String) : Reply.Spelling (.text s) (Wire.line .status (Bytes.ofText s))
  | bulk {value : Option Bytes} {b : Bytes} (hvalue : BulkSpelling value b) :
      Reply.Spelling (.bulk value) b
  | nilMultiBulk {count : Bytes} (hcount : Decimal.Spells count (-1)) :
      Reply.Spelling (.multiBulk .none) (Wire.line .list count)
  | multiBulk {values : List (Option Bytes)} {count b : Bytes}
      (hcount : Decimal.Spells count values.length) (hvalues : BulksSpelling values b) :
      Reply.Spelling (.multiBulk (.some values)) (Wire.line .list count ++ b)
  | nilAggregate {count : Bytes} (hcount : Decimal.Spells count (-1)) :
      Reply.Spelling (.aggregate .none) (Wire.line .list count)
  | aggregate {items : List Element} {b : Bytes} (hitems : (Element.list items).Spelling b) :
      Reply.Spelling (.aggregate (.some items)) b

/-- The byte string spells the reply. -/
inductive Outcome.Spelling : Outcome → Bytes → Prop where
  | error (message : String) :
      Outcome.Spelling (.error message) (Wire.line .error (Bytes.ofText message))
  | terminal {words : Bytes} (hlf : Bytes.lf ∉ words) :
      Outcome.Spelling .terminal (Wire.line .status words)
  | ok {reply : Reply} {b : Bytes} (hreply : reply.Spelling b) :
      Outcome.Spelling (.ok reply) b

/-! ## The written form -/

theorem bulkSpelling_wireBulk (value : Option Bytes) : BulkSpelling value (wireBulk value) := by
  cases value with
  | none => exact .nil (Decimal.spells_ofInt _)
  | some data => exact .value (Decimal.spells_ofInt _)

theorem bulksSpelling_flatMap (values : List (Option Bytes)) :
    BulksSpelling values (values.flatMap wireBulk) := by
  induction values with
  | nil => exact .nil
  | cons value rest ih => exact .cons (bulkSpelling_wireBulk value) ih

mutual

/-- An element is written as one of its spellings. -/
theorem Element.spelling_wire (e : Element) : e.Spelling e.wire := by
  cases e with
  | text s => exact .text s
  | error s => exact .error s
  | number n => exact .number (Decimal.spells_ofInt n)
  | bulk value => exact .bulk (bulkSpelling_wireBulk value)
  | nilList => exact .nilList (Decimal.spells_ofInt _)
  | list items =>
    exact .list (Decimal.spells_ofInt _) (Element.listSpelling_wireAll items)

theorem Element.listSpelling_wireAll (items : List Element) :
    Element.ListSpelling items (Element.wireAll items) := by
  cases items with
  | nil => exact .nil
  | cons item rest =>
    exact .cons (Element.spelling_wire item) (Element.listSpelling_wireAll rest)

end

/-- A payload is written as one of its spellings. -/
theorem Reply.spelling_wire (reply : Reply) : reply.Spelling reply.wire := by
  cases reply with
  | none => exact .status (by decide) (by decide)
  | queued => exact .queued
  | number n => exact .number (Decimal.spells_ofInt n)
  | boolean b => exact .boolean b
  | text s => exact .text s
  | bulk value => exact .bulk (bulkSpelling_wireBulk value)
  | multiBulk values =>
    cases values with
    | none => exact .nilMultiBulk (Decimal.spells_ofInt _)
    | some values => exact .multiBulk (Decimal.spells_ofInt _) (bulksSpelling_flatMap values)
  | aggregate items =>
    cases items with
    | none => exact .nilAggregate (Decimal.spells_ofInt _)
    | some items => exact .aggregate (Element.spelling_wire (.list items))

/-- A reply that a command can have is written as one of its spellings. -/
theorem Outcome.spelling_wire {command : Command} {o : Outcome} (h : o.Answers command) :
    o.Spelling o.wire := by
  cases h with
  | error message => exact .error message
  | terminal => exact .terminal (by decide)
  | queued => exact .ok .queued
  | payload => exact .ok (Reply.spelling_wire _)

end KeyValueClient
