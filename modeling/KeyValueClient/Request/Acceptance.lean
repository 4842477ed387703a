import KeyValueClient.Decimal.FractionForm
import KeyValueClient.Request.Wire

/-!
# Acceptable requests

Which requests may be sent, and how each of them is laid out, said shape by shape and without
the tables that the checks and the writer go by.  A request stands on one line, or on one line
with a value behind it, or as a counted list.

Main results:

- Theorem `Request.isKey_iff`: the check of a key passes exactly for the keys.
-/

namespace KeyValueClient

namespace Request

/-! ## Tokens -/

/-- The byte string is a key: it is not empty and holds nothing that ends a token. -/
def IsKey (b : Bytes) : Prop :=
  b ≠ [] ∧ Bytes.space ∉ b ∧ Bytes.cr ∉ b ∧ Bytes.lf ∉ b

/-- The byte string spells an integer of 64 bits: a sign or none, and no more digits than such an
integer can need. -/
def IsNumber (b : Bytes) : Prop :=
  ∃ n, Decimal.SpellsWord .bits64 b n

/-- The byte string spells a finite fraction. -/
def IsScore (b : Bytes) : Prop :=
  ∃ x, Decimal.SpellsFraction b x ∧ x.isFinite = true

/-- The token is what it has to be. -/
def Accepts : TokenKind → Bytes → Prop
  | .key => IsKey
  | .number => IsNumber
  | .score => IsScore

end Request

/-! ## Layouts -/

/-- How the arguments of a request are laid out. -/
inductive Layout where
  /-- Tokens on one line. -/
  | line (tokens : List Bytes)
  /-- Tokens on one line and the length of a value, with the value behind the line. -/
  | withValue (tokens : List Bytes) (value : Bytes)
  /-- A counted list of bulk values. -/
  | counted (arguments : List Bytes)

namespace Layout

/-- The arguments that are laid out. -/
def arguments : Layout → List Bytes
  | line tokens => tokens
  | withValue tokens value => tokens ++ [value]
  | counted arguments => arguments

/-- The bytes of a command with its arguments. -/
def wire (command : Command) : Layout → Bytes
  | line tokens => Request.inlineHead command tokens ++ Bytes.crlf
  | withValue tokens value => Request.withValue command tokens value
  | counted arguments => Request.counted ⟨command, arguments⟩

/-- The layout that is written in an encoding. -/
def written (encoding : Encoding) (layout : Layout) : Layout :=
  match encoding with
  | .shaped => layout
  | .counted => counted layout.arguments

open Request

/-- The layout is one that the shape of a command asks for, with acceptable tokens.  Values are
unrestricted. -/
inductive Fits : Layout → RequestShape → Prop where
  | bare : Fits (line []) .bare
  | number {token : Bytes} (hnumber : IsNumber token) : Fits (line [token]) .number
  | key {token : Bytes} (hkey : IsKey token) : Fits (line [token]) .key
  | value {value : Bytes} : Fits (withValue [] value) .value
  | keyKey {first second : Bytes} (hfirst : IsKey first) (hsecond : IsKey second) :
      Fits (line [first, second]) .keyKey
  | keyNumber {first second : Bytes} (hfirst : IsKey first) (hsecond : IsNumber second) :
      Fits (line [first, second]) .keyNumber
  | keyNumberNumber {first second third : Bytes} (hfirst : IsKey first)
      (hsecond : IsNumber second) (hthird : IsNumber third) :
      Fits (line [first, second, third]) .keyNumberNumber
  | keyValue {first value : Bytes} (hfirst : IsKey first) :
      Fits (withValue [first] value) .keyValue
  | keyNumberValue {first second value : Bytes} (hfirst : IsKey first)
      (hsecond : IsNumber second) : Fits (withValue [first, second] value) .keyNumberValue
  | keyScoreValue {first second value : Bytes} (hfirst : IsKey first)
      (hsecond : IsScore second) : Fits (withValue [first, second] value) .keyScoreValue
  | keyKeyValue {first second value : Bytes} (hfirst : IsKey first) (hsecond : IsKey second) :
      Fits (withValue [first, second] value) .keyKeyValue
  | keys {tokens : List Bytes} (hsome : tokens ≠ []) (hkeys : ∀ token ∈ tokens, IsKey token) :
      Fits (line tokens) .keys
  /-- An even number of arguments, with a key at every even position. -/
  | pairs {arguments : List Bytes} (hsome : arguments ≠ []) (heven : arguments.length % 2 = 0)
      (hkeys : ∀ (position : Nat) (token : Bytes), arguments[position]? = some token →
        position % 2 = 0 → IsKey token) : Fits (counted arguments) .pairs

end Layout

namespace Request

/-- The request may be sent: its arguments are laid out as the shape of its command asks. -/
def IsAcceptable (r : Request) : Prop :=
  ∃ layout : Layout, layout.Fits r.command.requestShape ∧ r.arguments = layout.arguments

/-! ## Laws -/

/-- The check of a key passes exactly for the keys. -/
theorem isKey_iff (command : Command) (key : Bytes) :
    checkKey command key = .ok () ↔ IsKey key := by
  rw [checkKey_ok_iff, IsKey]
  refine and_congr_right fun _ => ⟨fun h => ?_, fun ⟨hspace, hcr, hlf⟩ b hb => ?_⟩
  · refine ⟨fun hb => ?_, fun hb => ?_, fun hb => ?_⟩ <;>
      exact absurd (h _ hb) (by decide)
  · have hne : b ≠ Bytes.space ∧ b ≠ Bytes.cr ∧ b ≠ Bytes.lf :=
      ⟨fun e => hspace (e ▸ hb), fun e => hcr (e ▸ hb), fun e => hlf (e ▸ hb)⟩
    simp [isDelimiter, hne]

end Request

end KeyValueClient
