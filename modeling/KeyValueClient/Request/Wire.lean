import KeyValueClient.Request.Basic
import KeyValueClient.Wire

/-!
# Requests on the wire

A request is written in one of two encodings.  The shaped one follows the command:
the tokens stand inline, separated by single spaces, and a bulk value follows on its
own behind its length.  The counted one writes the command and every argument as a
bulk value behind a count; commands with key and value pairs always use it.

Main results:

- Theorem `Request.appendTo_error`: a refused request leaves the buffer as it was.
- Theorem `Request.appendTo_ok`: an accepted one adds exactly its wire bytes.
-/

namespace KeyValueClient

/-- How requests are laid out on the wire. -/
inductive Encoding where
  /-- The layout follows the shape of the command. -/
  | shaped
  /-- Every request is a counted list of bulk values. -/
  | counted
deriving DecidableEq, Repr

namespace Request

/-! ## Layouts -/

/-- The command name and some tokens, each after a space. -/
def inlineHead (command : Command) (tokens : List Bytes) : Bytes :=
  Bytes.ofText command.name ++ tokens.flatMap (Bytes.space :: ·)

/-- The counted layout. -/
def counted (r : Request) : Bytes :=
  Wire.line .list (Decimal.ofInt (r.arguments.length + 1))
    ++ Wire.bulk (Bytes.ofText r.command.name) ++ r.arguments.flatMap Wire.bulk

/-- The layout of a request whose last argument is a bulk value. -/
def withValue (command : Command) (tokens : List Bytes) (value : Bytes) : Bytes :=
  inlineHead command tokens ++ Bytes.space :: Decimal.ofInt value.length ++ Bytes.crlf
    ++ value ++ Bytes.crlf

/-- The layout that follows the shape of the command. -/
def shaped (r : Request) : Bytes :=
  match r.command.requestShape with
  | .pairs => r.counted
  | shape =>
    match shape.carriesValue, r.arguments.getLast? with
    | true, some value => withValue r.command r.arguments.dropLast value
    | _, _ => inlineHead r.command r.arguments ++ Bytes.crlf

/-- The bytes of a request. -/
def wire (encoding : Encoding) (r : Request) : Bytes :=
  match encoding with
  | .shaped => r.shaped
  | .counted => r.counted

/-! ## Checked encoding -/

/-- Check a request and write it. -/
def encode (encoding : Encoding) (r : Request) : Result Bytes := do
  r.check
  return r.wire encoding

/-- Check a request and write it after what a buffer already holds. -/
def appendTo (buffer : Bytes) (encoding : Encoding) (r : Request) : Result Unit × Bytes :=
  match r.encode encoding with
  | .ok bytes => (.ok (), buffer ++ bytes)
  | .error e => (.error e, buffer)

/-- A refused request leaves the buffer as it was. -/
theorem appendTo_error {r : Request} {e : Error} (h : r.check = .error e) (buffer : Bytes)
    (encoding : Encoding) : r.appendTo buffer encoding = (.error e, buffer) := by
  simp [appendTo, encode, h, bind, Except.bind]

/-- An accepted request adds exactly its wire bytes. -/
theorem appendTo_ok {r : Request} (h : r.check = .ok ()) (buffer : Bytes)
    (encoding : Encoding) :
    r.appendTo buffer encoding = (.ok (), buffer ++ r.wire encoding) := by
  simp [appendTo, encode, h, bind, Except.bind, pure, Except.pure]

end Request

end KeyValueClient
