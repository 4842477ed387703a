import KeyValueClient.Bytes
import KeyValueClient.Text.Visible

/-!
# Quoted text

Messages quote what they complain about: a text between double quotes, a single
character between single quotes, and a byte string as a text literal of bytes.
A quoted form shows its visible characters as themselves and writes all others
as escapes.

Main results:

- Theorem `Text.quoteChar_visible`: a visible character that is neither a quote
  nor a backslash stands between single quotes as itself.
-/

namespace KeyValueClient.Text

/-! ## Hexadecimal -/

/-- A number in lower-case hexadecimal. -/
def hex (n : Nat) : String :=
  String.ofList (Nat.toDigits 16 n)

/-- A byte as two lower-case hexadecimal digits. -/
def hexByte (b : UInt8) : String :=
  if b.toNat < 16 then "0" ++ hex b.toNat else hex b.toNat

/-! ## Escapes -/

/-- The short escape of a character, shared by every quoted form. -/
def shortEscape? : Char → Option String
  | '\n' => some "\\n"
  | '\r' => some "\\r"
  | '\t' => some "\\t"
  | '\\' => some "\\\\"
  | '\x00' => some "\\0"
  | _ => none

/-- A character inside text that is closed by `delimiter`. -/
def escapeChar (delimiter : Char) (c : Char) : String :=
  match shortEscape? c with
  | some escape => escape
  | none =>
    if c = delimiter then "\\" ++ c.toString
    else if isVisible c then c.toString
    else "\\u\x7b" ++ hex c.toNat ++ "\x7d"

/-- A byte inside a quoted byte string. -/
def escapeByte (b : UInt8) : String :=
  let c := Char.ofNat b.toNat
  match shortEscape? c with
  | some escape => escape
  | none =>
    if c = '"' then "\\\""
    else if 0x20 ≤ b.toNat ∧ b.toNat < 0x7f then c.toString
    else "\\x" ++ hexByte b

/-! ## Quoted forms -/

/-- A text between double quotes. -/
def quote (s : String) : String :=
  "\"" ++ String.join (s.toList.map (escapeChar '"')) ++ "\""

/-- A character between single quotes. -/
def quoteChar (c : Char) : String :=
  "'" ++ escapeChar '\'' c ++ "'"

/-- A byte string between double quotes, marked as bytes. -/
def quoteBytes (b : Bytes) : String :=
  "b\"" ++ String.join (b.map escapeByte) ++ "\""

/-- A visible character that is neither a quote nor a backslash stands between
single quotes as itself. -/
theorem quoteChar_visible {c : Char} (hshort : shortEscape? c = none) (hquote : c ≠ '\'')
    (hvisible : isVisible c = true) : quoteChar c = "'" ++ c.toString ++ "'" := by
  simp [quoteChar, escapeChar, hshort, hquote, hvisible]

end KeyValueClient.Text
