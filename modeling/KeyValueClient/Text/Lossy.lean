import KeyValueClient.Bytes

/-!
# Reading bytes that need not be text

A message shows bytes from the wire as text even when they are not well-formed
UTF-8.  The reader goes through the bytes once, keeping the unfinished character
it is in.  Each longest piece that begins like a character and cannot be finished
becomes one replacement character, and the byte that broke it is read afresh.

Main results:

- Theorem `Text.lossy_ascii`: ASCII bytes are shown as the characters they are.
-/

namespace KeyValueClient.Text

/-! ## Unfinished characters -/

/-- A character of which the lead byte, and perhaps more, has been read: the bits
so far, the range its next byte must lie in, and how many bytes follow that one. -/
structure Unfinished where
  bits : Nat
  low : UInt8
  high : UInt8
  more : Nat

/-- What a lead byte begins. -/
inductive Lead where
  | whole (c : Char)
  | begins (u : Unfinished)
  | invalid

/-- Classify a lead byte.  The narrowed second bytes keep out overlong forms,
surrogates and code points beyond the last one. -/
def Lead.ofByte (b : UInt8) : Lead :=
  let n := b.toNat
  if n < 0x80 then .whole (Char.ofNat n)
  else if n < 0xC2 then .invalid
  else if n < 0xE0 then .begins ⟨n - 0xC0, 0x80, 0xBF, 0⟩
  else if n = 0xE0 then .begins ⟨0, 0xA0, 0xBF, 1⟩
  else if n = 0xED then .begins ⟨0xD, 0x80, 0x9F, 1⟩
  else if n < 0xF0 then .begins ⟨n - 0xE0, 0x80, 0xBF, 1⟩
  else if n = 0xF0 then .begins ⟨0, 0x90, 0xBF, 2⟩
  else if n < 0xF4 then .begins ⟨n - 0xF0, 0x80, 0xBF, 2⟩
  else if n = 0xF4 then .begins ⟨4, 0x80, 0x8F, 2⟩
  else .invalid

/-- The bits of an unfinished character with one more byte taken in. -/
def Unfinished.take (u : Unfinished) (b : UInt8) : Nat :=
  u.bits * 64 + (b.toNat - 0x80)

/-! ## The reader -/

/-- The character that stands for bytes which are no character. -/
def replacement : Char := '\uFFFD'

/-- Read a byte outside any character: the characters it completes and the
character it leaves unfinished. -/
def readLead (b : UInt8) : List Char × Option Unfinished :=
  match Lead.ofByte b with
  | .whole c => ([c], none)
  | .begins u => ([], some u)
  | .invalid => ([replacement], none)

/-- Read one byte after an unfinished character, or after none. -/
def readByte (pending : Option Unfinished) (b : UInt8) : List Char × Option Unfinished :=
  match pending with
  | none => readLead b
  | some u =>
    if u.low ≤ b ∧ b ≤ u.high then
      match u.more with
      | 0 => ([Char.ofNat (u.take b)], none)
      | more + 1 => ([], some ⟨u.take b, 0x80, 0xBF, more⟩)
    else
      let (shown, next) := readLead b
      (replacement :: shown, next)

/-- The characters shown for bytes that follow an unfinished character, or none. -/
def lossyFrom (pending : Option Unfinished) : Bytes → List Char
  | [] => if pending.isSome then [replacement] else []
  | b :: rest =>
    let (shown, next) := readByte pending b
    shown ++ lossyFrom next rest

/-- The text shown for bytes that need not be text. -/
def lossy (b : Bytes) : String :=
  String.ofList (lossyFrom none b)

/-- ASCII bytes are shown as the characters they are. -/
theorem lossy_ascii (b : Bytes) (h : ∀ x ∈ b, x.toNat < 0x80) :
    lossy b = String.ofList (b.map fun x => Char.ofNat x.toNat) := by
  unfold lossy
  congr 1
  induction b with
  | nil => rfl
  | cons x rest ih =>
    have hx : x.toNat < 0x80 := h x List.mem_cons_self
    have hrest := ih fun y hy => h y (List.mem_cons_of_mem x hy)
    simp [lossyFrom, readByte, readLead, Lead.ofByte, hx, hrest]

end KeyValueClient.Text
