import KeyValueClient.Connection.Blocking

/-!
# Runs of a blocking connection

A run is what a user does with a blocking connection and with the responses the user
keeps.  Responses are kept in slots; a kept response takes one reply, and has to be
emptied before it takes another.

Main results:

- Theorem `BlockingConnection.User.step_faulted`: no step changes a faulted
  connection.
-/

namespace KeyValueClient.BlockingConnection

/-- One step of a run. -/
inductive Operation where
  | service (request : Request)
  /-- Put an unread response into a slot. -/
  | keep (slot : Nat) (command : Command)
  /-- Send a request and decode its reply into the response of a slot. -/
  | serviceInto (slot : Nat) (arguments : List Bytes)
  /-- Empty the response of a slot. -/
  | reset (slot : Nat)
deriving DecidableEq, Repr

/-- What a step answers. -/
inductive Answer where
  | response (result : Result Response)
  /-- The response of the slot, after the request. -/
  | kept (result : Result Unit) (response : Response)
  /-- The response of the slot, now unread. -/
  | emptied (response : Response)
  /-- There is no response in the slot. -/
  | noResponse
  /-- The step has no answer. -/
  | silent

/-- A user of a blocking connection: the connection, and the responses kept. -/
structure User where
  connection : BlockingConnection
  /-- The response in each slot, if there is one. -/
  slots : Nat → Option Response

namespace User

/-- The user of a connection, who has kept nothing yet. -/
def ofConnection (connection : BlockingConnection) : User :=
  ⟨connection, fun _ => none⟩

/-- Put a response into a slot. -/
def put (slot : Nat) (r : Response) (u : User) : User :=
  { u with slots := fun i => if i = slot then some r else u.slots i }

/-! ## Steps and runs -/

/-- One step of a run. -/
def step (operation : Operation) (u : User) : Answer × User :=
  match operation with
  | .service request =>
    let (result, connection) := u.connection.service request
    (.response result, { u with connection := connection })
  | .keep slot command => (.silent, u.put slot (.unread command))
  | .serviceInto slot arguments =>
    match u.slots slot with
    | none => (.noResponse, u)
    | some r =>
      let (result, r, connection) := u.connection.serviceInto r arguments
      (.kept result r, { u with connection := connection }.put slot r)
  | .reset slot =>
    match u.slots slot with
    | none => (.noResponse, u)
    | some r => (.emptied r.reset, u.put slot r.reset)

/-- A whole run: the answers in order, and the user after it. -/
def run : List Operation → User → List Answer × User
  | [], u => ([], u)
  | operation :: rest, u =>
    let (answer, u) := u.step operation
    let (answers, u) := run rest u
    (answer :: answers, u)

/-! ## Laws -/

/-- No step changes a faulted connection. -/
theorem step_faulted {u : User} {fault : Fault} (h : u.connection.state = .faulted fault)
    (operation : Operation) : (u.step operation).2.connection = u.connection := by
  cases operation with
  | service request => simp [step, service, serviceInto_faulted h]
  | keep slot command => rfl
  | serviceInto slot arguments =>
    simp only [step]
    split
    · rfl
    · simp [put, serviceInto_faulted h]
  | reset slot =>
    simp only [step]
    split <;> rfl

end User

end KeyValueClient.BlockingConnection
