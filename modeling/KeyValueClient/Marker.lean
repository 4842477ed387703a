import KeyValueClient.Bytes

/-!
# Markers

The first byte of a line tells what the line is.  Counted requests use the markers
of bulk values and lists; replies use all five.

Main results:

- Theorem `Marker.ofByte_toByte`: a known marker is read back from its byte.
- Theorem `Marker.toByte_ofByte`: classifying a byte forgets nothing.
-/

namespace KeyValueClient

/-- What a line is, by its first byte. -/
inductive Marker where
  | status
  | error
  | integer
  | bulk
  | list
  /-- A byte that marks nothing. -/
  | other (byte : UInt8)
deriving DecidableEq, Repr

namespace Marker

/-- The byte of a marker: `+`, `-`, `:`, `$` and `*`. -/
def toByte : Marker → UInt8
  | status => 43
  | error => 45
  | integer => 58
  | bulk => 36
  | list => 42
  | other byte => byte

/-- The marker a byte stands for. -/
def ofByte (byte : UInt8) : Marker :=
  if byte = status.toByte then status
  else if byte = error.toByte then error
  else if byte = integer.toByte then integer
  else if byte = bulk.toByte then bulk
  else if byte = list.toByte then list
  else other byte

/-- Classifying a byte forgets nothing. -/
theorem toByte_ofByte (byte : UInt8) : (ofByte byte).toByte = byte := by
  unfold ofByte
  repeat' split
  all_goals simp_all [toByte]

/-- A known marker is read back from its byte. -/
theorem ofByte_toByte {m : Marker} (h : ∀ byte, m ≠ other byte) : ofByte m.toByte = m := by
  cases m with
  | other byte => exact absurd rfl (h byte)
  | _ => rfl

end Marker

end KeyValueClient
