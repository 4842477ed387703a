import KeyValueClient.Response

/-!
# Responses by their fields

A response can also be kept as a place for a status and a place for a payload, where something
stands even while there is no reply, and a flag that says whether they may be looked at.

By itself the flag could be up over what was there before.  That what stands in the places
shows only when it belongs to the reply is a fact about the calls.
-/

namespace KeyValueClient.Response

/-- A response as it is kept. -/
structure Fields where
  command : Command
  isRead : Bool
  status : Status
  reply : Reply
deriving Repr

namespace Fields

/-! ## Calls -/

/-- An unread response. -/
def unread (command : Command) : Fields :=
  ⟨command, false, .success, .none⟩

/-- Decode the reply from a channel. -/
def read (f : Fields) (ch : Channel) : Result Unit × Fields × Channel :=
  if f.isRead then (.error (.state (.alreadyRead f.command)), f, ch)
  else
    match Outcome.read f.command ch with
    | .ok o ch => (.ok (), { f with status := o.status, reply := o.reply, isRead := true }, ch)
    | .error e ch => (.error e, f, ch)

/-- Empty a response so that it can take another reply. -/
def reset (f : Fields) : Fields :=
  { f with isRead := false, status := .success, reply := .none }

/-- Refuse to show anything of an unread response. -/
def ensureRead (f : Fields) : Result Unit :=
  if f.isRead then .ok () else .error (.state (.notRead f.command))

/-- How the server took the command. -/
def shownStatus (f : Fields) : Result Status := do
  f.ensureRead
  return f.status

/-- The decoded payload. -/
def shownReply (f : Fields) : Result Reply := do
  f.ensureRead
  return f.reply

/-- The server answered with an error line. -/
def isError (f : Fields) : Bool :=
  f.isRead && f.status.isError

/-- The part of the payload that a view of the wanted kind picks out. -/
def payload {α : Type} (f : Fields) (wanted : String) (view : Reply → Option α) : Result α := do
  match view (← f.shownReply) with
  | some a => .ok a
  | none => .error (mismatch f.command ⟨f.status, f.reply⟩ wanted)

/-! ## What the fields stand for -/

/-- The response that is kept in the fields. -/
def toResponse (f : Fields) : Response :=
  ⟨f.command, if f.isRead then some ⟨f.status, f.reply⟩ else none⟩

/-- The fields change with a reading as the response does. -/
theorem read_toResponse (f : Fields) (ch : Channel) :
    f.toResponse.read ch = ((f.read ch).1, (f.read ch).2.1.toResponse, (f.read ch).2.2) := by
  rcases f with ⟨command, _ | _, status, reply⟩
  · simp only [toResponse, Response.read, read, Bool.false_eq_true, if_false]
    cases Outcome.read command ch <;> rfl
  · rfl

@[simp]
theorem isRead_toResponse (f : Fields) : f.toResponse.isRead = f.isRead := by
  rcases f with ⟨command, _ | _, status, reply⟩ <;> rfl

@[simp]
theorem isError_toResponse (f : Fields) : f.toResponse.isError = f.isError := by
  rcases f with ⟨command, _ | _, status, reply⟩ <;> rfl

@[simp]
theorem status_toResponse (f : Fields) : f.toResponse.status = f.shownStatus := by
  rcases f with ⟨command, _ | _, status, reply⟩ <;> rfl

@[simp]
theorem reply_toResponse (f : Fields) : f.toResponse.reply = f.shownReply := by
  rcases f with ⟨command, _ | _, status, reply⟩ <;> rfl

@[simp]
theorem intoReply_toResponse (f : Fields) : f.toResponse.intoReply = f.shownReply := by
  rcases f with ⟨command, _ | _, status, reply⟩ <;> rfl

@[simp]
theorem payload_toResponse {α : Type} (f : Fields) (wanted : String) (view : Reply → Option α) :
    f.toResponse.payload wanted view = f.payload wanted view := by
  rcases f with ⟨command, _ | _, status, reply⟩ <;> rfl

end Fields

end KeyValueClient.Response
