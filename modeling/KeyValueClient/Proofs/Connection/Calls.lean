import KeyValueClient.Proofs.Connection.Outcomes

/-!
# What a call does to a connection

A call offers a response and some arguments to a blocking connection.  It is refused, or its
request cannot be written, or its reply cannot be read, or it is answered, and what is
left of the connection and of the response follows from that.

Main results:

- Theorem `BlockingConnection.Call.went`: these are all the ways a call can go.
- Theorem `BlockingConnection.Call.lawful`: what the result of a call says about the
  connection and the response after it.
-/

namespace KeyValueClient

/-! ## Writing -/

namespace Sink

variable (data : Bytes) (s : Sink)

/-- A transmission takes a first part of its bytes. -/
theorem transmit_taken :
    ∃ taken, taken <+: data ∧ (s.transmit data).2.sent = s.sent ++ taken := by
  rcases hwrite : s.transmit data with ⟨written, after⟩
  cases written with
  | ok _ => exact ⟨data, List.prefix_rfl, (transmit_sent hwrite).1⟩
  | error cause => exact (transmit_error hwrite).2.1

/-- A flush that fails takes back nothing that was written. -/
theorem transmit_sent_of_writeAll (h : (s.writeAll data).1.isOk = true) :
    (s.transmit data).2.sent = s.sent ++ data := by
  rcases hwrite : s.writeAll data with ⟨written, mid⟩
  cases written with
  | ok _ =>
    have hsent := writeAll_sent hwrite
    simpa [transmit, hwrite] using hsent
  | error cause => simp [hwrite, Except.isOk, Except.toBool] at h

end Sink

/-- A response that is unread holds nothing. -/
theorem Response.eq_unread {r : Response} (h : r.isRead = false) : r = .unread r.command := by
  rcases r with ⟨command, _ | outcome⟩
  · rfl
  · contradiction

namespace BlockingConnection

/-- A terminal reply ends the connection, and no other reply does. -/
theorem settle_ready {c : BlockingConnection} (hready : c.state = .ready) (command : Command)
    (outcome : Outcome) :
    settle ⟨command, some outcome⟩ c =
      { c with
        state := if outcome.status.isTerminal then .faulted (.closedBy command.name)
          else .ready } := by
  cases hterminal : outcome.status.isTerminal <;>
    simp [settle, Response.isTerminal, hterminal, ← hready]

/-! ## Calls -/

/-- A call on a connection: the response that is offered for the reply, with its slot if
the caller keeps it, and the arguments. -/
structure Call where
  slot? : Option Nat
  response : Response
  arguments : List Bytes
  before : BlockingConnection

namespace Call

/-- The request of a call. -/
def request (call : Call) : Request :=
  ⟨call.response.command, call.arguments⟩

/-- What is to be written for a call. -/
def bytes (call : Call) : Bytes :=
  call.request.wire call.before.encoding

/-- What a call returns, with the response and the connection after it. -/
def gives (call : Call) : Result Unit × Response × BlockingConnection :=
  call.before.serviceInto call.response call.arguments

def result (call : Call) : Result Unit :=
  call.gives.1

/-- The response after the call. -/
def filled (call : Call) : Response :=
  call.gives.2.1

def after (call : Call) : BlockingConnection :=
  call.gives.2.2

/-- The response if the call succeeded, and its error otherwise. -/
def outcome (call : Call) : Result Response :=
  call.result.map fun _ => call.filled

/-- The connection is ready, the response is unread and the arguments pass their checks. -/
def accepted (call : Call) : Bool :=
  !call.before.state.isFaulted && !call.response.isRead && call.request.check.isOk

/-- All bytes of the request can be written. -/
def written (call : Call) : Bool :=
  (call.before.sink.writeAll call.bytes).1.isOk

/-- All bytes of the request can be written and flushed. -/
def transmitted (call : Call) : Bool :=
  (call.before.sink.transmit call.bytes).1.isOk

theorem accepted_iff (call : Call) :
    call.accepted = true ↔ call.before.state = .ready ∧ call.response.isRead = false ∧
      call.request.check = .ok () := by
  unfold accepted
  cases call.before.state <;> cases call.response.isRead <;> cases call.request.check <;>
    simp [ConnectionState.isFaulted, Except.isOk, Except.toBool]

theorem transmitted_of_eq {call : Call} {sink : Sink}
    (h : call.before.sink.transmit call.bytes = (.ok (), sink)) : call.transmitted = true := by
  simp [transmitted, h, Except.isOk, Except.toBool]

/-! ## All the ways a call can go -/

/-- How an accepted call goes, with what it gives. -/
inductive Exchanged (call : Call) : Result Unit × Response × BlockingConnection → Prop
  /-- The request cannot be written. -/
  | lost {cause : TransportError} {sink : Sink}
    (write : call.before.sink.transmit call.bytes = (.error cause, sink)) :
    Exchanged call (.error (.transport cause), call.response,
      { call.before with sink := sink, state := .faulted (.ofError (.transport cause)) })
  /-- The reply cannot be read. -/
  | broken {e : Error} {sink : Sink} {channel : Channel}
    (write : call.before.sink.transmit call.bytes = (.ok (), sink))
    (read : Outcome.read call.response.command call.before.channel = .error e channel)
    (stream : e.IsStream) :
    Exchanged call (.error e, call.response,
      { call.before with sink := sink, channel := channel, state := .faulted (.ofError e) })
  /-- There is a reply. -/
  | answered {outcome : Outcome} {sink : Sink} {channel : Channel}
    (write : call.before.sink.transmit call.bytes = (.ok (), sink))
    (read : Outcome.read call.response.command call.before.channel = .ok outcome channel) :
    Exchanged call (.ok (), ⟨call.response.command, some outcome⟩,
      { call.before with
        sink := sink
        channel := channel
        state := if outcome.status.isTerminal then
          .faulted (.closedBy call.response.command.name) else .ready })

/-- How a call goes, with what it gives. -/
inductive Went (call : Call) : Result Unit × Response × BlockingConnection → Prop
  | faulted {fault : Fault} (state : call.before.state = .faulted fault) :
    Went call (.error (.faulted fault), call.response, call.before)
  /-- The response holds a reply. -/
  | held (ready : call.before.state = .ready) (read : call.response.isRead = true) :
    Went call (.error (.state (.holdsReply call.response.command)), call.response, call.before)
  /-- The arguments fail their checks. -/
  | refused {cause : ArgumentError} (ready : call.before.state = .ready)
    (check : call.request.check = .error (.argument cause)) :
    Went call (.error (.argument cause), call.response, call.before)
  | accepted {given : Result Unit × Response × BlockingConnection}
    (accepted : call.accepted = true) (exchanged : call.Exchanged given) : Went call given

/-- An accepted call is written and its reply is read. -/
theorem exchanged {call : Call} (haccepted : call.accepted = true) :
    call.Exchanged call.gives := by
  rcases call.accepted_iff.1 haccepted with ⟨hready, hunread, hcheck⟩
  have hgives : call.gives = exchange call.bytes call.response call.before :=
    serviceInto_valid hready hunread hcheck
  rcases hwrite : call.before.sink.transmit call.bytes with ⟨written, sink⟩
  rw [hgives, exchange, hwrite]
  cases written with
  | error cause =>
    have hfail := fail_ready (c := { call.before with sink := sink }) (e := .transport cause)
      rfl hready
    dsimp only
    rw [hfail]
    exact .lost hwrite
  | ok _ =>
    have hempty := Response.eq_unread hunread
    rcases hread : call.response.read call.before.channel with ⟨result, response, channel⟩
    have hread' := hempty ▸ hread
    dsimp only
    rw [hread]
    cases result with
    | error e =>
      have hstream := Response.isStream_of_read hread'
      have hsame : response = call.response :=
        (Response.unread_of_read hread').trans hempty.symm
      have hfail := fail_ready (c := { call.before with sink := sink, channel := channel })
        hstream.isFatal hready
      dsimp only
      rw [hfail, hsame]
      exact .broken hwrite (Response.error_of_read hread') hstream
    | ok _ =>
      rcases Response.outcome_of_read hread' with ⟨outcome, hdecode, rfl⟩
      have hsettle := settle_ready (c := { call.before with sink := sink, channel := channel })
        hready call.response.command outcome
      dsimp only
      rw [hsettle]
      exact .answered hwrite hdecode

/-- A call goes one of these ways. -/
theorem went (call : Call) : call.Went call.gives := by
  cases hstate : call.before.state with
  | faulted fault =>
    rw [gives, serviceInto_faulted hstate]
    exact .faulted hstate
  | ready =>
    cases hunread : call.response.isRead with
    | true =>
      have hgives : call.gives = (.error (.state (.holdsReply call.response.command)),
          call.response, call.before) := by
        simp [gives, serviceInto, hstate, hunread]
      rw [hgives]
      exact .held hstate hunread
    | false =>
      cases hcheck : call.request.check with
      | error e =>
        rcases Request.check_error hcheck with ⟨cause, rfl⟩
        have hencode : Request.encode call.before.encoding call.request =
            .error (.argument cause) := by
          simp [Request.encode, hcheck, bind, Except.bind]
        rw [gives, serviceInto_refused hstate hunread hencode]
        exact .refused hstate hcheck
      | ok _ =>
        have haccepted := call.accepted_iff.2 ⟨hstate, hunread, hcheck⟩
        exact .accepted haccepted (exchanged haccepted)

/-! ## What the result says -/

/-- The error is that of writing the request. -/
def WriteFailed (call : Call) (e : Error) : Prop :=
  ∃ cause, e = .transport cause ∧
    (call.before.sink.transmit call.bytes).1 = .error cause ∧
      call.after.channel = call.before.channel

/-- The request is written, and the error is that of reading the reply. -/
def ReadFailed (call : Call) (e : Error) : Prop :=
  call.transmitted = true ∧ e.IsStream ∧
    Outcome.read call.response.command call.before.channel = .error e call.after.channel

/-- The request is written, and the reply is read into the response. -/
def Answered (call : Call) (outcome : Outcome) : Prop :=
  call.transmitted = true ∧ call.filled = ⟨call.response.command, some outcome⟩ ∧
    Outcome.read call.response.command call.before.channel = .ok outcome call.after.channel

/-- What the result of a call says about the connection and the response after it. -/
structure Lawful (call : Call) : Prop where
  /-- A faulted connection reports its fault and is left alone. -/
  faulted : ∀ fault, call.before.state = .faulted fault →
    call.result = .error (.faulted fault) ∧ call.after = call.before
  /-- A refusal of a ready connection leaves it alone. -/
  refused : call.before.state = .ready → ∀ e, call.result = .error e → e.isFatal = false →
    call.accepted = false ∧ ((∃ cause, e = .argument cause) ∨ ∃ cause, e = .state cause) ∧
      call.after = call.before
  /-- Any other error of a ready connection is one of the stream, and becomes its fault. -/
  failed : call.before.state = .ready → ∀ e, call.result = .error e → e.isFatal = true →
    call.accepted = true ∧ (call.WriteFailed e ∨ call.ReadFailed e) ∧
      call.after.state = .faulted (.ofError e)
  /-- A call that succeeds has its reply, and only a terminal one ends the connection. -/
  succeeded : call.result = .ok () → call.accepted = true ∧ ∃ outcome, call.Answered outcome ∧
    call.after.state = if outcome.status.isTerminal then
      .faulted (.closedBy call.response.command.name) else .ready
  /-- A call that fails leaves the response as it was. -/
  kept : ∀ e, call.result = .error e → call.filled = call.response

/-- All calls are lawful. -/
theorem lawful (call : Call) : call.Lawful := by
  have hwent := call.went
  rcases hgives : call.gives with ⟨result, filled, after⟩
  have hresult : call.result = result := by rw [Call.result, hgives]
  have hfilled : call.filled = filled := by rw [Call.filled, hgives]
  have hafter : call.after = after := by rw [Call.after, hgives]
  rw [hgives] at hwent
  -- What each part assumes of the state or of the result leaves only some of the ways.
  constructor
  · intro fault hstate
    cases hwent with
    | faulted state =>
      rw [hstate] at state
      cases state
      exact ⟨hresult, hafter⟩
    | held ready | refused ready => simp [hstate] at ready
    | accepted accepted => simp [(call.accepted_iff.1 accepted).1] at hstate
  · intro hready e he hfatal
    rw [hresult] at he
    cases hwent with
    | faulted state => simp [hready] at state
    | held ready read =>
      cases he
      exact ⟨by simp [accepted, read], Or.inr ⟨_, rfl⟩, hafter⟩
    | refused ready check =>
      cases he
      exact ⟨by simp [accepted, check, Except.isOk, Except.toBool], Or.inl ⟨_, rfl⟩, hafter⟩
    | accepted accepted exchanged =>
      cases exchanged with
      | lost => cases he; contradiction
      | broken write read stream =>
        cases he
        simp [stream.isFatal] at hfatal
      | answered => cases he
  · intro hready e he hfatal
    rw [hresult] at he
    cases hwent with
    | faulted state => simp [hready] at state
    | held | refused => cases he; contradiction
    | accepted accepted exchanged =>
      cases exchanged with
      | lost write =>
        cases he
        exact ⟨accepted, Or.inl ⟨_, rfl, by rw [write], by rw [hafter]⟩, by rw [hafter]⟩
      | broken write read stream =>
        cases he
        exact ⟨accepted, Or.inr ⟨transmitted_of_eq write, stream, by rw [hafter, read]⟩,
          by rw [hafter]⟩
      | answered => cases he
  · intro he
    rw [hresult] at he
    cases hwent with
    | faulted | held | refused => cases he
    | accepted accepted exchanged =>
      cases exchanged with
      | lost | broken => cases he
      | answered write read =>
        exact ⟨accepted, _, ⟨transmitted_of_eq write, hfilled, by rw [hafter, read]⟩,
          by rw [hafter]⟩
  · intro e he
    rw [hresult] at he
    cases hwent with
    | faulted | held | refused => exact hfilled
    | accepted accepted exchanged =>
      cases exchanged with
      | lost | broken => exact hfilled
      | answered => cases he

end Call

end BlockingConnection

end KeyValueClient
