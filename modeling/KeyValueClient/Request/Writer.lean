import KeyValueClient.Request.Wire

/-!
# Requests written step by step

A request can also be checked argument by argument, each looked up by its position, and
written piece by piece straight into a buffer.  The steps by themselves may look behind the
last argument, find no argument that could be the value, or stop when something has been
written already.  That no request makes them do so is a fact about the tables of the shapes.
-/

namespace KeyValueClient

/-! ## Steps -/

/-- Why writing a request stops. -/
inductive Stop where
  | refused (cause : ArgumentError)
  /-- No argument stands at this position. -/
  | outOfRange (position : Nat)
  /-- No argument is left to be the value. -/
  | missingValue
deriving DecidableEq, Repr

/-- A step that writes to a buffer.  What it has written when it stops stays there. -/
abbrev Writing := EStateM Stop Bytes

namespace Writing

/-- Go on only if a check passes. -/
def demand : Except ArgumentError Unit → Writing Unit
  | .ok () => pure ()
  | .error cause => throw (.refused cause)

/-- Write some bytes. -/
def put (bytes : Bytes) : Writing Unit :=
  modify (· ++ bytes)

/-- Write a line that holds a number. -/
def count (marker : Marker) (n : Int) : Writing Unit := do
  put [marker.toByte]
  put (Decimal.ofInt n)
  put Bytes.crlf

/-- Write a bulk value behind its length. -/
def bulk (data : Bytes) : Writing Unit := do
  count .bulk data.length
  put data
  put Bytes.crlf

/-- Write some bulk values. -/
def bulks : List Bytes → Writing Unit
  | [] => pure ()
  | data :: rest => do
    bulk data
    bulks rest

/-- Write some tokens, each after a space. -/
def tokens : List Bytes → Writing Unit
  | [] => pure ()
  | token :: rest => do
    put [Bytes.space]
    put token
    tokens rest

/-- Write the command name and some tokens. -/
def head (command : Command) (inline : List Bytes) : Writing Unit := do
  put (Bytes.ofText command.name)
  tokens inline

end Writing

/-! ## Whole requests -/

namespace Request

open Writing

variable (r : Request)

/-- The argument at a position. -/
def argument (position : Nat) : Writing Bytes :=
  match r.arguments[position]? with
  | some token => pure token
  | none => throw (.outOfRange position)

/-- Look the arguments at some positions up and check them, one after the other. -/
def lookUp : List (Nat × TokenKind) → Writing Unit
  | [] => pure ()
  | (position, kind) :: rest => do
    demand (checkToken r.command kind (← r.argument position))
    lookUp rest

/-- Check the arguments.  Only the ones that the shape of the command checks by position are
looked up. -/
def validate : Writing Unit := do
  demand r.checkCount
  match r.command.requestShape with
  | .keys | .pairs => demand r.checkTokens
  | shape => r.lookUp shape.checks

/-- Write the counted layout. -/
def putCounted : Writing Unit := do
  count .list (r.arguments.length + 1)
  bulk (Bytes.ofText r.command.name)
  bulks r.arguments

/-- Write the layout on one line, with the last argument behind it if that is a value. -/
def putInline : Writing Unit :=
  if r.command.requestShape.carriesValue then
    match r.arguments.getLast? with
    | none => throw .missingValue
    | some value => do
      head r.command r.arguments.dropLast
      put [Bytes.space]
      put (Decimal.ofInt value.length)
      put Bytes.crlf
      put value
      put Bytes.crlf
  else do
    head r.command r.arguments
    put Bytes.crlf

/-- Write the layout that follows the shape of the command. -/
def putShaped : Writing Unit :=
  match r.command.requestShape with
  | .pairs => r.putCounted
  | _ => r.putInline

/-- Write the layout of an encoding. -/
def putWire : Encoding → Writing Unit
  | .shaped => r.putShaped
  | .counted => r.putCounted

/-- Check a request and write it. -/
def write (encoding : Encoding) : Writing Unit := do
  r.validate
  r.putWire encoding

end Request

end KeyValueClient
