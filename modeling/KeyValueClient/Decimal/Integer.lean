import KeyValueClient.Decimal.Table
import KeyValueClient.Text.Lossy
import KeyValueClient.Text.Quoted

/-!
# Signed decimal integers

An integer is written in canonical form: a minus sign only when it is negative,
no plus sign and no leading zero.  Reading is more lenient about the spelling and
strict about the range: an optional sign, a limited number of digits, and a value
that fits the word it is read into.

Main results:

- Theorem `Decimal.ofInt_eq`: written digits do not depend on where they come from.
- Theorem `Decimal.readWord_inRange`: a number that was read fits its word.
-/

namespace KeyValueClient.Decimal

/-! ## Writing -/

/-- The minus sign. -/
def minus : UInt8 := 45

/-- The plus sign. -/
def plus : UInt8 := 43

/-- The canonical form of an integer.  The digits of small magnitudes come from
the digit table. -/
def ofInt (n : Int) : Bytes :=
  let digits := (DigitTable.shared.lookup? n.natAbs).getD (ofNat n.natAbs)
  if n < 0 then minus :: digits else digits

/-- Written digits do not depend on where they come from. -/
theorem ofInt_eq (n : Int) :
    ofInt n = if n < 0 then minus :: ofNat n.natAbs else ofNat n.natAbs := by
  have hdigits : (DigitTable.shared.lookup? n.natAbs).getD (ofNat n.natAbs) = ofNat n.natAbs := by
    rw [DigitTable.lookup?_shared]
    split <;> rfl
  simp only [ofInt, hdigits]

/-- Write an integer after what a buffer already holds. -/
def appendInt (buffer : Bytes) (n : Int) : Bytes :=
  buffer ++ ofInt n

/-! ## Words -/

/-- The signed words a number is read into. -/
inductive Word where
  | bits32
  | bits64
deriving DecidableEq, Repr

namespace Word

/-- The least number of a word. -/
def least : Word → Int
  | bits32 => -2147483648
  | bits64 => -9223372036854775808

/-- The greatest number of a word. -/
def greatest : Word → Int
  | bits32 => 2147483647
  | bits64 => 9223372036854775807

/-- The most digits a spelling may have. -/
def maxDigits : Word → Nat
  | bits32 => 10
  | bits64 => 19

/-- The number fits the word. -/
def InRange (w : Word) (n : Int) : Prop :=
  w.least ≤ n ∧ n ≤ w.greatest

instance (w : Word) (n : Int) : Decidable (w.InRange n) :=
  inferInstanceAs (Decidable (_ ∧ _))

end Word

/-! ## Signs and digits -/

/-- Why a byte string is not an integer of the wanted word. -/
inductive NumberError where
  /-- Nothing follows the sign. -/
  | noDigits (spelling : Bytes)
  /-- A byte after the sign is not a digit. -/
  | invalidDigit (byte : UInt8) (spelling : Bytes)
  /-- The spelling is longer than any canonical one. -/
  | tooManyDigits (count limit : Nat) (spelling : Bytes)
  /-- The value does not fit 64 bits. -/
  | outOfRange (spelling : Bytes)
  /-- The value does not fit 32 bits. -/
  | outOfRange32 (value : Int)
deriving DecidableEq, Repr

/-- The wording of a number error. -/
def NumberError.message : NumberError → String
  | .noDigits spelling => "not a number: " ++ Text.quote (Text.lossy spelling)
  | .invalidDigit byte spelling =>
    "invalid digit 0x" ++ Text.hexByte byte ++ " in " ++ Text.quote (Text.lossy spelling)
  | .tooManyDigits count limit spelling =>
    s!"too many digits ({count}, max {limit}) in " ++ Text.quote (Text.lossy spelling)
  | .outOfRange spelling => "number out of range: " ++ Text.lossy spelling
  | .outOfRange32 value => s!"number out of range for i32: {value}"

/-- An optional sign, and what follows it. -/
def splitSign : Bytes → Bool × Bytes
  | [] => (false, [])
  | b :: rest =>
    if b = minus then (true, rest)
    else if b = plus then (false, rest)
    else (false, b :: rest)

/-- The sign and the digits of a spelling that has at most so many digits. -/
def splitDigits (limit : Nat) (spelling : Bytes) : Except NumberError (Bool × Bytes) :=
  let (negative, digits) := splitSign spelling
  if digits.isEmpty then .error (.noDigits spelling)
  else match digits.find? (!isDigit ·) with
    | some byte => .error (.invalidDigit byte spelling)
    | none =>
      if limit < digits.length then .error (.tooManyDigits digits.length limit spelling)
      else .ok (negative, digits)

/-- The integer with this sign and these digits. -/
def signed (negative : Bool) (digits : Bytes) : Int :=
  if negative then -(value digits : Int) else value digits

/-! ## Accumulating -/

/-- The number as a word of 64 bits, unless it overflows. -/
def checked (n : Int) : Option Int64 :=
  if Word.bits64.InRange n then some (.ofInt n) else none

/-- One digit more.  Numbers grow toward their sign, because the least number of a word
has no counterpart above zero. -/
def pushDigit (negative : Bool) (n : Int64) (d : UInt8) : Option Int64 := do
  let scaled ← checked (n.toInt * 10)
  checked (if negative then scaled.toInt - digitValue d else scaled.toInt + digitValue d)

/-- The word that the digits make up, one after the other, unless it overflows. -/
def accumulate (negative : Bool) (digits : Bytes) : Option Int64 :=
  digits.foldlM (pushDigit negative) 0

/-! ## Reading -/

/-- Read an integer of 64 bits, out of which the smaller ones are picked. -/
def readLong (spelling : Bytes) : Except NumberError Int := do
  let (negative, digits) ← splitDigits Word.bits64.maxDigits spelling
  match accumulate negative digits with
  | some n => .ok n.toInt
  | none => .error (.outOfRange spelling)

/-- Read an integer into a word. -/
def readWord : Word → Bytes → Except NumberError Int
  | .bits64, spelling => readLong spelling
  | .bits32, spelling => do
    let _ ← splitDigits Word.bits32.maxDigits spelling
    let n ← readLong spelling
    if Word.bits32.InRange n then .ok n else .error (.outOfRange32 n)

/-- Read an integer of 64 bits. -/
def readInt64 : Bytes → Except NumberError Int :=
  readWord .bits64

/-- Read an integer of 32 bits. -/
def readInt32 : Bytes → Except NumberError Int :=
  readWord .bits32

theorem inRange_toInt (n : Int64) : Word.bits64.InRange n.toInt :=
  ⟨n.le_toInt, Int.le_of_lt_add_one n.toInt_lt⟩

/-- A number that was read fits its word. -/
theorem readWord_inRange {w : Word} {spelling : Bytes} {n : Int}
    (h : readWord w spelling = .ok n) : w.InRange n := by
  cases w with
  | bits64 =>
    simp only [readWord, readLong, bind, Except.bind] at h
    split at h
    · contradiction
    · split at h
      · injection h with h
        exact h ▸ inRange_toInt _
      · contradiction
  | bits32 =>
    simp only [readWord, bind, Except.bind] at h
    split at h
    · contradiction
    · split at h
      · contradiction
      · split at h
        · rename_i hrange
          injection h with h
          exact h ▸ hrange
        · contradiction

end KeyValueClient.Decimal
