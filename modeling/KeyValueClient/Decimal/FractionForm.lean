import KeyValueClient.Decimal.Canonical
import KeyValueClient.Decimal.Score

/-!
# The form of a fraction

A fraction is spelled with an optional sign, digits with at most one point before,
among or behind them, and an optional exponent.  The sign does not matter for the
magnitude.
-/

namespace KeyValueClient.Decimal

/-- The byte string is a sign, or nothing. -/
def IsSign (b : Bytes) : Prop :=
  b = [] ∨ b = [plus] ∨ b = [minus]

/-- The byte string spells a power of ten: nothing, or an exponent behind the letter
`e` in either case. -/
inductive ScaleSpelling : Bytes → Int → Prop where
  | unit : ScaleSpelling [] 0
  | grow {letter : UInt8} {b digits : Bytes} (hletter : letter = 101 ∨ letter = 69)
      (hdigits : IsDigits digits) (hb : b = digits ∨ b = plus :: digits) :
      ScaleSpelling (letter :: b) (exponentValue digits)
  | shrink {letter : UInt8} {digits : Bytes} (hletter : letter = 101 ∨ letter = 69)
      (hdigits : IsDigits digits) :
      ScaleSpelling (letter :: minus :: digits) (-(exponentValue digits : Int))

/-- The byte string spells digits before and behind a point, which may be missing when
nothing stands behind it. -/
inductive PointedDigits : Bytes → Bytes → Bytes → Prop where
  | whole {whole : Bytes} (hwhole : IsDigits whole) : PointedDigits whole whole []
  | pointed {whole part : Bytes} (hwhole : ∀ d ∈ whole, isDigit d = true)
      (hpart : ∀ d ∈ part, isDigit d = true) (hsome : whole ≠ [] ∨ part ≠ []) :
      PointedDigits (whole ++ point :: part) whole part

/-- The byte string spells a fraction of this magnitude. -/
inductive SpellsFraction : Bytes → Fraction → Prop where
  | mk {sign digits whole part scale : Bytes} {e : Int} (hsign : IsSign sign)
      (hdigits : PointedDigits digits whole part) (hscale : ScaleSpelling scale e) :
      SpellsFraction (sign ++ digits ++ scale) ⟨value (whole ++ part), e - part.length⟩

end KeyValueClient.Decimal
