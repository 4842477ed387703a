import KeyValueClient.Marker
import KeyValueClient.Stream.Channel

/-!
# Decoding replies

The first line of a reply tells what follows; the shape of the command tells what may
follow.  An error line and the acknowledgement of a queued command are understood
after every command.  A server may close the connection instead of answering a
terminal command.

Main results:

- Theorem `Outcome.read_silent_close`: a terminal command is done when the server
  closes without an answer.
- Theorem `Outcome.read_error`: every other failure to read the first line is the
  failure of the reply.
- Theorem `Outcome.readEach_append`: successive replies can be cut anywhere.
-/

namespace KeyValueClient

/-! ## Limits -/

/-- The longest bulk value accepted: 512 MiB. -/
def maxBulkLength : Nat := 512 * 1024 * 1024

/-- The longest list accepted: what a signed 32-bit count can say. -/
def maxListLength : Nat := 2147483647

/-- How many lists may be nested in an aggregate. -/
def maxNesting : Nat := 32

/-! ## Lines -/

namespace Reading

/-- Hand out the next line. -/
def line : Reading Bytes :=
  Channel.readLine

/-- Hand out exactly so many bytes. -/
def exact (n : Nat) : Reading Bytes :=
  Channel.readExact n

/-- Give up because the bytes break the protocol. -/
def refuse {α : Type} (cause : ProtocolError) : Reading α :=
  throw (.protocol cause)

/-- The next line, split into its marker and its body. -/
def header : Reading (Marker × Bytes) := do
  match ← line with
  | [] => refuse .emptyLine
  | first :: body => return (.ofByte first, body)

/-! ## Bodies -/

/-- The text of a body. -/
def text (body : Bytes) : Reading String :=
  match Bytes.toText? body with
  | some s => pure s
  | none => refuse .notText

/-- The integer of a body. -/
def number (body : Bytes) : Reading Int :=
  match Decimal.readInt64 body with
  | .ok n => pure n
  | .error cause => refuse (.badNumber cause)

/-- The length or count of a body; minus one declares nil. -/
def length (limit : Nat) (body : Bytes) : Reading (Option Nat) := do
  match ← number body with
  | .ofNat n => if limit < n then refuse (.lengthOverLimit n limit) else return some n
  | .negSucc 0 => return none
  | .negSucc (n + 1) => refuse (.negativeLength (.negSucc (n + 1)))

/-- The bulk value whose length is the body. -/
def bulk (body : Bytes) : Reading (Option Bytes) := do
  match ← length maxBulkLength body with
  | none => return none
  | some n =>
    let data ← exact (n + 2)
    if data.drop n = Bytes.crlf then return some (data.take n)
    else refuse (.unterminatedPayload n)

/-! ## Lists -/

/-- The last `remaining` values of a list of `count` bulk values. -/
def bulkValues (count : Nat) : Nat → Reading (List (Option Bytes))
  | 0 => return []
  | remaining + 1 => do
    let (marker, body) ← header
    if marker ≠ .bulk then refuse (.notBulk (count - (remaining + 1)) count marker.toByte)
    else
      let value ← bulk body
      return value :: (← bulkValues count remaining)

/-- The list of bulk values whose count is the body. -/
def multiBulk (body : Bytes) : Reading (Option (List (Option Bytes))) := do
  match ← length maxListLength body with
  | none => return none
  | some count => return some (← bulkValues count count)

/-- One element of an aggregate, given how to read a list nested in it. -/
def element (nested : Bytes → Reading (Option (List Element))) : Reading Element := do
  let (marker, body) ← header
  match marker with
  | .status => return .text (← text body)
  | .error => return .error (← text body)
  | .integer => return .number (← number body)
  | .bulk => return .bulk (← bulk body)
  | .list =>
    match ← nested body with
    | none => return .nilList
    | some items => return .list items
  | .other byte => refuse (.unknownMarker byte)

/-- So many elements of an aggregate. -/
def elements (nested : Bytes → Reading (Option (List Element))) : Nat → Reading (List Element)
  | 0 => return []
  | count + 1 => do
    let item ← element nested
    return item :: (← elements nested count)

/-- The aggregate whose count is the body, with so many levels of lists left. -/
def aggregate : Nat → Bytes → Reading (Option (List Element))
  | 0, _ => refuse .nestedTooDeep
  | levels + 1, body => do
    match ← length maxListLength body with
    | none => return none
    | some count => return some (← elements (aggregate levels) count)

/-! ## Replies by shape -/

/-- The body that acknowledges a command inside a transaction. -/
def queuedBody : Bytes :=
  Bytes.ofText "QUEUED"

/-- The reply to a command that answers with a status line. -/
def statusReply (command : Command) (marker : Marker) (body : Bytes) : Reading Outcome :=
  if marker ≠ .status then refuse (.unexpectedMarker command marker.toByte)
  else if command.isTerminal then return .terminal
  else if body = queuedBody then return .ok .queued
  else return .ok .none

/-- The boolean of a body. -/
def boolean (command : Command) (body : Bytes) : Reading Bool :=
  if body = Bytes.ofText "0" then return false
  else if body = Bytes.ofText "1" then return true
  else refuse (.badBoolean command body)

/-- The payload that a command of this shape answers with, unless it was queued. -/
def payload (command : Command) (marker : Marker) (body : Bytes) : Reading Reply := do
  match command.replyShape, marker with
  | .value .number, .integer => return .number (← number body)
  | .value .boolean, .integer => return .boolean (← boolean command body)
  | .value .text, .status => return .text (← text body)
  | .bulk, .bulk => return .bulk (← bulk body)
  | .multiBulk, .list => return .multiBulk (← multiBulk body)
  | .aggregate, .list => return .aggregate (← aggregate maxNesting body)
  | _, _ => refuse (.unexpectedMarker command marker.toByte)

/-- The reply whose first line has this marker and body. -/
def outcome (command : Command) (marker : Marker) (body : Bytes) : Reading Outcome := do
  if marker = .error then return .error (← text body)
  else if command.replyShape = .status then statusReply command marker body
  else if marker = .status ∧ body = queuedBody then return .ok .queued
  else return .ok (← payload command marker body)

end Reading

/-! ## Whole replies -/

/-- The server closed the connection without an answer, as it may after a terminal
command. -/
def Error.isSilentClose (command : Command) : Error → Bool
  | .endOfStream _ 0 => command.isTerminal
  | _ => false

/-- Decode one reply to a command. -/
def Outcome.read (command : Command) : Reading Outcome := fun ch =>
  match Reading.header ch with
  | .ok (marker, body) ch => Reading.outcome command marker body ch
  | .error e ch => if e.isSilentClose command then .ok .terminal ch else .error e ch

/-- Decode the replies to some commands, one after the other, whatever comes of them. -/
def Outcome.readEach : List Command → Channel → List (Result Outcome) × Channel
  | [], ch => ([], ch)
  | command :: rest, ch =>
    match Outcome.read command ch with
    | .ok outcome ch =>
      let (results, ch) := Outcome.readEach rest ch
      (.ok outcome :: results, ch)
    | .error e ch =>
      let (results, ch) := Outcome.readEach rest ch
      (.error e :: results, ch)

/-! ## Laws -/

/-- A terminal command is done when the server closes without an answer. -/
theorem Outcome.read_silent_close {command : Command} {ch ch' : Channel} {n : Nat}
    (hterminal : command.isTerminal = true)
    (h : Reading.header ch = .error (.endOfStream n 0) ch') :
    Outcome.read command ch = .ok .terminal ch' := by
  simp [Outcome.read, h, Error.isSilentClose, hterminal]

/-- Every other failure to read the first line is the failure of the reply. -/
theorem Outcome.read_error {command : Command} {ch ch' : Channel} {e : Error}
    (hloud : e.isSilentClose command = false) (h : Reading.header ch = .error e ch') :
    Outcome.read command ch = .error e ch' := by
  simp [Outcome.read, h, hloud]

theorem Outcome.readEach_append (first second : List Command) (ch : Channel) :
    Outcome.readEach (first ++ second) ch =
      ((Outcome.readEach first ch).1 ++
          (Outcome.readEach second (Outcome.readEach first ch).2).1,
        (Outcome.readEach second (Outcome.readEach first ch).2).2) := by
  induction first generalizing ch with
  | nil => rfl
  | cons command rest ih =>
    rw [List.cons_append, Outcome.readEach, Outcome.readEach]
    split <;> simp [ih]

end KeyValueClient
