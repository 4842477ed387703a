/-!
# Byte strings

What travels on the wire is a list of bytes.  A text is its UTF-8 bytes, and a
byte string is a text only when it is well-formed UTF-8.

Main results:

- Theorem `Bytes.toText?_ofText`: the bytes of a text read back as that text.
- Theorem `Bytes.ofText_of_toText?`: reading a text loses no byte.
- Theorem `Bytes.ofText_ascii`: ASCII bytes are the text of the characters they are.
-/

namespace KeyValueClient

/-- A byte string in wire order. -/
abbrev Bytes := List UInt8

namespace Bytes

/-! ## Named bytes -/

/-- Carriage return. -/
def cr : UInt8 := 13

/-- Line feed. -/
def lf : UInt8 := 10

/-- Space, which separates the tokens of an inline request. -/
def space : UInt8 := 32

/-- The line terminator. -/
def crlf : Bytes := [cr, lf]

/-! ## Texts -/

/-- The UTF-8 bytes of a text. -/
def ofText (s : String) : Bytes :=
  s.toUTF8.data.toList

/-- The text whose UTF-8 bytes these are, if they are well-formed. -/
def toText? (b : Bytes) : Option String :=
  String.fromUTF8? ⟨b.toArray⟩

/-- The bytes of a text read back as that text. -/
theorem toText?_ofText (s : String) : toText? (ofText s) = some s := by
  have hbytes : (⟨(ofText s).toArray⟩ : ByteArray) = s.toByteArray := rfl
  simp [toText?, String.fromUTF8?, hbytes, s.isValidUTF8, String.fromUTF8]

/-- Reading a text loses no byte. -/
theorem ofText_of_toText? {b : Bytes} {s : String} (h : toText? b = some s) :
    ofText s = b := by
  unfold toText? String.fromUTF8? at h
  split at h
  · injection h with h
    subst h
    rfl
  · contradiction

/-- An ASCII byte is the whole character it is. -/
theorem utf8EncodeChar_ascii {d : UInt8} (h : d.toNat < 128) :
    String.utf8EncodeChar (Char.ofNat d.toNat) = [d] := by
  have hvalue : (Char.ofNat d.toNat).val.toNat = d.toNat := by
    have hvalid : d.toNat.isValidChar := Or.inl (by omega)
    unfold Char.ofNat
    rw [dif_pos hvalid]
    rfl
  have hsize : (Char.ofNat d.toNat).utf8Size = 1 := by
    rw [Char.utf8Size_eq_one_iff, UInt32.le_iff_toNat_le, hvalue]
    exact Nat.le_of_lt_succ h
  rw [String.utf8EncodeChar_eq_singleton hsize]
  congr 1
  apply UInt8.toNat.inj
  rw [UInt32.toNat_toUInt8, hvalue]
  omega

/-- ASCII bytes are the text of the characters they are. -/
theorem ofText_ascii {b : Bytes} (h : ∀ d ∈ b, d.toNat < 128) :
    ofText (String.ofList (b.map fun d => Char.ofNat d.toNat)) = b := by
  have hchars (chars : List Char) :
      ofText (String.ofList chars) = chars.flatMap String.utf8EncodeChar := by
    simp [ofText, String.ofList, List.utf8Encode]
  rw [hchars, List.flatMap_map]
  induction b with
  | nil => rfl
  | cons d rest ih =>
    have hrest := ih fun e he => h e (List.mem_cons_of_mem d he)
    rw [List.flatMap_cons, hrest, utf8EncodeChar_ascii (h d List.mem_cons_self)]
    rfl

end Bytes

end KeyValueClient
