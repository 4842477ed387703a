import KeyValueClient.Command.Basic
import KeyValueClient.Decimal.Score
import KeyValueClient.Reply.Basic

/-!
# Errors and faults

An error names its cause; `Error.message` words it.  Errors of the caller leave the
connection as it was.  Errors of the stream are fatal: they leave it at an unknown
position, and the connection keeps them as its fault.

Main results:

- Theorem `Error.isFatal_iff`: the fatal errors are the stream errors and the report
  of an earlier fault.
-/

namespace KeyValueClient

/-! ## Errors of the caller -/

/-- Why an argument, or the list of arguments, is refused. -/
inductive ArgumentError where
  | number (cause : Decimal.NumberError)
  | score (cause : Decimal.ScoreError)
  | emptyKey (command : Command)
  /-- A key holds a byte that would end it early. -/
  | delimiter (command : Command) (byte : UInt8) (offset : Nat)
  | badNumber (command : Command) (cause : Decimal.NumberError)
  | badScore (command : Command) (cause : Decimal.ScoreError)
  | wrongCount (command : Command) (expected got : Nat)
  | noKeys (command : Command)
  | unpaired (command : Command) (got : Nat)
  /-- A cause given in words. -/
  | other (description : String)
deriving DecidableEq, Repr

/-- Why a response or a handle cannot be used in this way. -/
inductive StateError where
  | alreadyRead (command : Command)
  | notRead (command : Command)
  /-- A response that still holds a reply was offered for another one. -/
  | holdsReply (command : Command)
  | repliedWithError (command : Command) (message : String)
  | otherReply (command : Command) (reply : Reply) (wanted : String)
  | alreadyTaken (command : Command)
  /-- A cause given in words. -/
  | other (description : String)
deriving Repr

/-- Why a configuration is refused. -/
inductive ConfigError where
  | emptyReads
  | shortLines (limit : Nat)
  | emptyThreshold
  /-- A cause given in words. -/
  | other (description : String)
deriving DecidableEq, Repr

/-! ## Errors of the stream -/

/-- Why the transport failed. -/
inductive TransportError where
  /-- The transport gave this text. -/
  | reported (description : String)
  /-- A write took no bytes. -/
  | tookNothing
  /-- Nothing has arrived yet. -/
  | wouldBlock
deriving DecidableEq, Repr

/-- How the bytes of a reply break the protocol. -/
inductive ProtocolError where
  | lineTooLong (limit : Nat)
  | bareLineFeed
  | emptyLine
  | notText
  | unexpectedMarker (command : Command) (marker : UInt8)
  | badBoolean (command : Command) (body : Bytes)
  | badNumber (cause : Decimal.NumberError)
  | negativeLength (n : Int)
  | lengthOverLimit (n limit : Nat)
  | unterminatedPayload (length : Nat)
  | notBulk (index count : Nat) (marker : UInt8)
  | nestedTooDeep
  | unknownMarker (marker : UInt8)
  /-- A cause given in words. -/
  | other (description : String)
deriving DecidableEq, Repr

/-! ## Faults -/

/-- The kinds of failure that end a connection. -/
inductive FaultKind where
  | io
  | protocol
  | endOfStream
  /-- The connection was ended on purpose. -/
  | closed
deriving DecidableEq, Repr

/-- The published name of a fault kind. -/
def FaultKind.name : FaultKind → String
  | io => "Io"
  | protocol => "Protocol"
  | endOfStream => "EndOfStream"
  | closed => "Closed"

/-- Why a connection stopped serving requests, in words that never change. -/
structure Fault where
  kind : FaultKind
  message : String
deriving DecidableEq, Repr

namespace Fault

/-- The fault after a terminal command. -/
def closedBy (command : String) : Fault :=
  ⟨.closed, "connection closed by " ++ command⟩

/-- The fault that meets requests made after the caller closed the pipeline. -/
def closedByCaller : Fault :=
  ⟨.closed, "pipeline closed by caller"⟩

/-- A fault in one line. -/
def describe (f : Fault) : String :=
  f.kind.name ++ ": " ++ f.message

end Fault

/-! ## All errors -/

/-- Everything that can go wrong. -/
inductive Error where
  | argument (cause : ArgumentError)
  | unknownCommand (name : String)
  | state (cause : StateError)
  | timeout
  | transport (cause : TransportError)
  | protocol (cause : ProtocolError)
  /-- The stream ended early. -/
  | endOfStream (expected available : Nat)
  /-- The connection had already failed. -/
  | faulted (fault : Fault)
  /-- The server answered a setup request with an error line. -/
  | rejected (command message : String)
  | config (cause : ConfigError)
deriving Repr

/-! ## Wording -/

/-- An argument that the named cause makes unusable. -/
def invalidArgument (cause : String) : String :=
  "Invalid argument: " ++ cause

/-- The wording of an argument error. -/
def ArgumentError.message : ArgumentError → String
  | .number cause => cause.message
  | .score cause => cause.message
  | .emptyKey command => command.name ++ ": empty key"
  | .delimiter command byte offset =>
    command.name ++ ": key contains delimiter byte 0x" ++ Text.hexByte byte
      ++ s!" at offset {offset}"
  | .badNumber command cause => command.name ++ ": " ++ invalidArgument cause.message
  | .badScore command cause => command.name ++ ": " ++ invalidArgument cause.message
  | .wrongCount command expected got =>
    command.name ++ s!": expected {expected} argument(s), got {got}"
  | .noKeys command => command.name ++ ": at least one key required"
  | .unpaired command got =>
    command.name ++ s!": expected key/value pairs, got {got} argument(s)"
  | .other description => description

/-- The wording of a state error. -/
def StateError.message : StateError → String
  | .alreadyRead command => command.name ++ " response already read"
  | .notRead command => command.name ++ " response has not been read"
  | .holdsReply command =>
    command.name ++ " response already holds a reply; reset it first"
  | .repliedWithError command message => command.name ++ " replied with error: " ++ message
  | .otherReply command reply wanted =>
    command.name ++ " reply is " ++ reply.describe ++ ", not " ++ wanted
  | .alreadyTaken command => command.name ++ " result already taken"
  | .other description => description

/-- The wording of a configuration error. -/
def ConfigError.message : ConfigError → String
  | .emptyReads => "read_chunk_size must be > 0"
  | .shortLines limit => s!"max_line_length must be at least 3, got {limit}"
  | .emptyThreshold => "chunk_flush_threshold must be > 0 when set"
  | .other description => description

/-- The wording of a transport error. -/
def TransportError.message : TransportError → String
  | .reported description => description
  | .tookNothing => "failed to write whole buffer"
  | .wouldBlock => "operation would block"

/-- A reply marker, quoted as the character of its byte. -/
def quoteMarker (marker : UInt8) : String :=
  Text.quoteChar (Char.ofNat marker.toNat)

/-- The wording of a protocol error. -/
def ProtocolError.message : ProtocolError → String
  | .lineTooLong limit => s!"reply line exceeds {limit} bytes"
  | .bareLineFeed => "line terminated by LF without CR"
  | .emptyLine => "empty reply line"
  | .notText => "reply line is not valid UTF-8"
  | .unexpectedMarker command marker =>
    command.name ++ ": unexpected reply marker " ++ quoteMarker marker ++ " for "
      ++ command.replyShape.name ++ " response"
  | .badBoolean command body =>
    command.name ++ ": boolean reply must be 0 or 1, got " ++ Text.quote (Text.lossy body)
  | .badNumber cause => "bad integer reply: " ++ invalidArgument cause.message
  | .negativeLength n => s!"negative length {n}"
  | .lengthOverLimit n limit => s!"declared length {n} exceeds limit {limit}"
  | .unterminatedPayload length => s!"bulk payload of {length} bytes not followed by CRLF"
  | .notBulk index count marker =>
    s!"multi-bulk element {index} of {count} has marker " ++ quoteMarker marker
      ++ ", expected '$'"
  | .nestedTooDeep => "aggregate reply nested too deeply"
  | .unknownMarker marker =>
    "unknown reply marker " ++ quoteMarker marker ++ " inside aggregate"
  | .other description => description

namespace Error

/-- The wording of an error. -/
def message : Error → String
  | argument cause => invalidArgument cause.message
  | unknownCommand name => "Unknown command: " ++ name
  | state cause => "Response state error: " ++ cause.message
  | timeout => "Timed out waiting for response"
  | transport cause => "IO error: " ++ cause.message
  | protocol cause => "Protocol error: " ++ cause.message
  | endOfStream expected available =>
    s!"End of stream: expected {expected} bytes, {available} available"
  | faulted fault => "Connection faulted: " ++ fault.describe
  | rejected command message => "Server rejected " ++ command ++ ": " ++ message
  | config cause => "Configuration error: " ++ cause.message

/-- The published name of an error's kind. -/
def kind : Error → String
  | argument _ => "Argument"
  | unknownCommand _ => "UnknownCommand"
  | state _ => "ResponseState"
  | timeout => "Timeout"
  | transport _ => "Io"
  | protocol _ => "Protocol"
  | endOfStream .. => "EndOfStream"
  | faulted _ => "Faulted"
  | rejected .. => "Rejected"
  | config _ => "Config"

/-- The error leaves the stream at an unknown position. -/
def isFatal : Error → Bool
  | transport _ | protocol _ | endOfStream .. | faulted _ => true
  | _ => false

/-- The fatal errors are the stream errors and the report of an earlier fault. -/
theorem isFatal_iff (e : Error) :
    e.isFatal = true ↔ (∃ c, e = .transport c) ∨ (∃ c, e = .protocol c) ∨
      (∃ m n, e = .endOfStream m n) ∨ ∃ f, e = .faulted f := by
  cases e <;> simp [isFatal]

end Error

/-- The fault a connection keeps after an error. -/
def Fault.ofError (e : Error) : Fault :=
  match e with
  | .transport cause => ⟨.io, cause.message⟩
  | .endOfStream .. => ⟨.endOfStream, e.message⟩
  | .faulted fault => fault
  | e => ⟨.protocol, e.message⟩

/-- What an operation that can fail gives. -/
abbrev Result (α : Type) := Except Error α

/-- Read an integer that a caller gave as an argument. -/
def Decimal.readNumber (w : Word) (spelling : Bytes) : Result Int :=
  (readWord w spelling).mapError fun cause => .argument (.number cause)

end KeyValueClient
