import KeyValueClient.Decimal.Integer

/-!
# The digit table in one piece

The digits of all small numbers can be laid out in one byte string, cut into slots of equal
length.  Digits are written into a slot from its end, so they stand there right-aligned, and
a second byte string says how many they are.

By itself a slot may be too short for a number, and a slot that is asked for may not be there.
That neither happens is a fact about the numbers that the table is made for.
-/

namespace KeyValueClient.Decimal

/-- The digits of the first numbers, in slots. -/
structure SlotTable where
  /-- The slots, one behind the other. -/
  digits : Bytes
  /-- How many digits stand in each slot. -/
  lengths : Bytes
deriving DecidableEq, Repr

namespace SlotTable

/-! ## Slots -/

/-- How many digits a slot has room for. -/
def slotWidth : Nat := 5

/-- The bytes from one position up to another, if they are there. -/
def slice? (b : Bytes) (start stop : Nat) : Option Bytes :=
  if start ≤ stop ∧ stop ≤ b.length then some ((b.take stop).drop start) else none

/-- The byte string with other bytes between two positions. -/
def splice (b : Bytes) (start stop : Nat) (part : Bytes) : Bytes :=
  b.take start ++ part ++ b.drop stop

/-- Write the digits of a number into a slot, the last one first, as long as there is room
for them, and count them. -/
def fill : (room : Nat) → (n : Nat) → (slot : Bytes) → Option (Bytes × Nat)
  | 0, _, _ => none
  | room + 1, n, slot =>
    let slot := slot.set room (digit (n % 10))
    if n / 10 = 0 then some (slot, slotWidth - room) else fill room (n / 10) slot

/-! ## Tables -/

/-- A table with so many slots, in which nothing has been entered. -/
def blank (count : Nat) : SlotTable :=
  ⟨List.replicate (count * slotWidth) (digit 0), List.replicate count 0⟩

/-- Enter a number. -/
def enter (t : SlotTable) (n : Nat) : Option SlotTable := do
  let start := n * slotWidth
  let stop := (n + 1) * slotWidth
  let (slot, length) ← fill slotWidth n (← slice? t.digits start stop)
  if n < t.lengths.length then
    some ⟨splice t.digits start stop slot, t.lengths.set n (UInt8.ofNat length)⟩
  else none

/-- The table of the numbers up to the limit. -/
def build : Option SlotTable :=
  (List.range (DigitTable.limit + 1)).foldlM enter (blank (DigitTable.limit + 1))

/-- The digits of a number that was entered. -/
def get? (t : SlotTable) (n : Nat) : Option Bytes := do
  let length := (← t.lengths[n]?).toNat
  let stop := (n + 1) * slotWidth
  if length ≤ stop then slice? t.digits (stop - length) stop else none

/-! ## Writing -/

/-- Write an integer after what a buffer already holds: a small magnitude from the table,
behind its sign, and everything else as it is printed. -/
def appendInt? (t : SlotTable) (buffer : Bytes) (n : Int) : Option Bytes :=
  if n.natAbs ≤ DigitTable.limit then
    let signed := if n < 0 then buffer ++ [minus] else buffer
    (t.get? n.natAbs).map fun digits => signed ++ digits
  else some (buffer ++ Bytes.ofText (toString n))

end SlotTable

end KeyValueClient.Decimal
