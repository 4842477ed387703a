import KeyValueClient.Decimal.Integer

/-!
# Scores

A score is a decimal fraction with an optional exponent.  It is accepted when the
double nearest to it is finite.  No double is computed: the value is a natural
number times a power of ten, and whether it rounds to infinity is decided exactly
against the midpoint between the largest double and the next power of two.
-/

namespace KeyValueClient.Decimal

/-! ## Fractions -/

/-- The magnitude `mantissa * 10 ^ exponent`. -/
structure Fraction where
  mantissa : Nat
  exponent : Int
deriving DecidableEq, Repr

/-- The least magnitude that rounds to infinity as a double: it lies half a step above
the largest double, which is a number of 53 bits, all set, shifted by 971. -/
def infiniteFrom : Nat := 18014398509481983 <<< 970

/-- The magnitude rounds to a finite double. -/
def Fraction.isFinite (x : Fraction) : Bool :=
  match x.exponent with
  | .ofNat e => x.mantissa * Nat.pow 10 e < infiniteFrom
  | .negSucc e => x.mantissa < infiniteFrom * Nat.pow 10 (e + 1)

/-! ## Reading a score -/

/-- The decimal point. -/
def point : UInt8 := 46

/-- The exponent from its digits.  It stops growing once it has passed every
exponent that could matter. -/
def exponentValue (digits : Bytes) : Nat :=
  digits.foldl (fun e b => if e < 0x10000 then 10 * e + digitValue b else e) 0

/-- An exponent after its letter, which must be all that is left. -/
def readExponent? (b : Bytes) : Option Int :=
  let (negative, digits) := splitSign b
  if digits.isEmpty || !digits.all isDigit then none
  else if negative then some (-(exponentValue digits : Int))
  else some (exponentValue digits)

/-- What may follow the digits of a fraction: nothing, or the letter `e` and an
exponent. -/
def readScale? : Bytes → Option Int
  | [] => some 0
  | b :: rest => if b = 101 || b = 69 then readExponent? rest else none

/-- Read a fraction: digits with at most one point among them, and an exponent. -/
def readFraction? (b : Bytes) : Option Fraction :=
  let (whole, rest) := (splitSign b).2.span isDigit
  let (part, rest) :=
    match rest with
    | [] => ([], [])
    | c :: after => if c = point then after.span isDigit else ([], c :: after)
  if whole.isEmpty && part.isEmpty then none
  else (readScale? rest).map fun scale => ⟨value (whole ++ part), scale - part.length⟩

/-! ## Acceptance -/

/-- Why a byte string is not a score. -/
inductive ScoreError where
  | notText
  | notFinite (spelling : String)
deriving DecidableEq, Repr

/-- The wording of a score error. -/
def ScoreError.message : ScoreError → String
  | .notText => "score is not valid UTF-8"
  | .notFinite spelling => "invalid score: " ++ Text.quote spelling

/-- The byte string spells a number with a finite double. -/
def isScore (b : Bytes) : Bool :=
  (readFraction? b).any Fraction.isFinite

/-- Check a score. -/
def checkScore (b : Bytes) : Except ScoreError Unit :=
  match Bytes.toText? b with
  | none => .error .notText
  | some spelling => if isScore b then .ok () else .error (.notFinite spelling)

end KeyValueClient.Decimal
