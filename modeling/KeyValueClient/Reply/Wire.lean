import KeyValueClient.Reply.Decoding
import KeyValueClient.Wire

/-!
# Replies on the wire

How a server writes a reply: numbers, lengths and counts in canonical form, one line
for every scalar, and nil as the length minus one.  A status without a payload is
written `OK`.
-/

namespace KeyValueClient

/-! ## Payloads -/

/-- The body that stands for nil. -/
def nilBody : Bytes :=
  Decimal.ofInt (-1)

/-- A bulk value, or nil. -/
def wireBulk : Option Bytes → Bytes
  | some data => Wire.bulk data
  | none => Wire.line .bulk nilBody

mutual

/-- An element of an aggregate. -/
def Element.wire : Element → Bytes
  | .text s => Wire.line .status (Bytes.ofText s)
  | .error s => Wire.line .error (Bytes.ofText s)
  | .number n => Wire.line .integer (Decimal.ofInt n)
  | .bulk value => wireBulk value
  | .nilList => Wire.line .list nilBody
  | .list items => Wire.line .list (Decimal.ofInt items.length) ++ Element.wireAll items

/-- Some elements, one after the other. -/
def Element.wireAll : List Element → Bytes
  | [] => []
  | item :: rest => item.wire ++ Element.wireAll rest

end

/-- A payload. -/
def Reply.wire : Reply → Bytes
  | .none => Wire.line .status (Bytes.ofText "OK")
  | .queued => Wire.line .status Reading.queuedBody
  | .number n => Wire.line .integer (Decimal.ofInt n)
  | .boolean b => Wire.line .integer (Bytes.ofText (if b then "1" else "0"))
  | .text s => Wire.line .status (Bytes.ofText s)
  | .bulk value => wireBulk value
  | .multiBulk .none => Wire.line .list nilBody
  | .multiBulk (.some values) =>
    Wire.line .list (Decimal.ofInt values.length) ++ values.flatMap wireBulk
  | .aggregate .none => Wire.line .list nilBody
  | .aggregate (.some items) => (Element.list items).wire

/-! ## Whole replies -/

/-- A reply with its status. -/
def Outcome.wire (o : Outcome) : Bytes :=
  match o.status with
  | .error message => Wire.line .error (Bytes.ofText message)
  | .success | .terminal => o.reply.wire

end KeyValueClient
