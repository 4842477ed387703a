import KeyValueClient.Reply.Decoding

/-!
# Responses

A response belongs to one command and is filled once.  It is unread until a reply
has been decoded into it, refuses a second reply, and can be emptied for reuse.

Main results:

- Theorem `Response.read_again`: a response that holds a reply takes nothing from the
  channel.
-/

namespace KeyValueClient

/-- The reply to one command, or the place for it. -/
structure Response where
  command : Command
  /-- The decoded reply; `none` while unread. -/
  outcome? : Option Outcome
deriving Repr

namespace Response

/-- An unread response. -/
def unread (command : Command) : Response :=
  ⟨command, none⟩

/-- A reply has been decoded. -/
def isRead (r : Response) : Bool :=
  r.outcome?.isSome

/-- Decode the reply from a channel. -/
def read (r : Response) (ch : Channel) : Result Unit × Response × Channel :=
  match r.outcome? with
  | some _ => (.error (.state (.alreadyRead r.command)), r, ch)
  | none =>
    match Outcome.read r.command ch with
    | .ok outcome ch => (.ok (), { r with outcome? := some outcome }, ch)
    | .error e ch => (.error e, r, ch)

/-- Empty a response so that it can take another reply. -/
def reset (r : Response) : Response :=
  unread r.command

/-! ## What was read -/

/-- The decoded reply with its status. -/
def outcome (r : Response) : Result Outcome :=
  match r.outcome? with
  | some outcome => .ok outcome
  | none => .error (.state (.notRead r.command))

/-- How the server took the command. -/
def status (r : Response) : Result Status :=
  r.outcome.map Outcome.status

/-- The decoded payload. -/
def reply (r : Response) : Result Reply :=
  r.outcome.map Outcome.reply

/-- The decoded payload, for which the response is given up. -/
def intoReply (r : Response) : Result Reply :=
  r.outcome.map Outcome.reply

/-- The server answered with an error line. -/
def isError (r : Response) : Bool :=
  r.outcome?.any fun outcome => outcome.status.isError

/-- The server closes the connection after this reply. -/
def isTerminal (r : Response) : Bool :=
  r.outcome?.any fun outcome => outcome.status.isTerminal

/-! ## Typed payloads -/

/-- The complaint about a reply that is not what was wanted. -/
def mismatch (command : Command) (outcome : Outcome) (wanted : String) : Error :=
  match outcome.status with
  | .error message => .state (.repliedWithError command message)
  | _ => .state (.otherReply command outcome.reply wanted)

/-- The part of the payload that a view of the wanted kind picks out. -/
def payload {α : Type} (r : Response) (wanted : String) (view : Reply → Option α) :
    Result α := do
  let outcome ← r.outcome
  match view outcome.reply with
  | some a => .ok a
  | none => .error (mismatch r.command outcome wanted)

/-- The number the server answered. -/
def number (r : Response) : Result Int :=
  r.payload "a number" fun
    | .number n => some n
    | _ => none

/-- The boolean the server answered. -/
def boolean (r : Response) : Result Bool :=
  r.payload "a boolean" fun
    | .boolean b => some b
    | _ => none

/-- The text the server answered. -/
def text (r : Response) : Result String :=
  r.payload "a string" fun
    | .text s => some s
    | _ => none

/-- The bulk value the server answered. -/
def bulk (r : Response) : Result (Option Bytes) :=
  r.payload "a bulk value" fun
    | .bulk value => some value
    | _ => none

/-- The list of bulk values the server answered. -/
def multiBulk (r : Response) : Result (Option (List (Option Bytes))) :=
  r.payload "a multi-bulk list" fun
    | .multiBulk values => some values
    | _ => none

/-- The aggregate the server answered. -/
def aggregate (r : Response) : Result (Option (List Element)) :=
  r.payload "an aggregate" fun
    | .aggregate items => some items
    | _ => none

/-! ## Laws -/

/-- A response that holds a reply takes nothing from the channel. -/
theorem read_again {r : Response} (h : r.isRead = true) (ch : Channel) :
    r.read ch = (.error (.state (.alreadyRead r.command)), r, ch) := by
  obtain ⟨outcome, houtcome⟩ := Option.isSome_iff_exists.1 h
  simp [read, houtcome]

end Response

end KeyValueClient
