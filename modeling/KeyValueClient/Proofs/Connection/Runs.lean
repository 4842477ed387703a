import KeyValueClient.Connection.Run
import KeyValueClient.Proofs.Connection.Calls
import KeyValueClient.Proofs.Writing.Requests

/-!
# Whole runs of a blocking connection

A user calls a blocking connection again and again, with new responses, with emptied ones
and with ones that still hold a reply.  The calls that the connection accepts decide
everything: which bytes are sent, which replies are read for whom, and when the connection
ends.

Main results:

- Theorem `BlockingConnection.Course.cons`: what one accepted call adds to a course.
- Theorem `BlockingConnection.User.run_lawful`: in every run all calls are lawful, and the
  accepted ones make up one course.
-/

namespace KeyValueClient.BlockingConnection

/-! ## Accepted calls -/

namespace Call

variable {call : Call}

/-- A call that is not accepted leaves the connection alone. -/
theorem after_refused (hrefused : call.accepted = false) : call.after = call.before := by
  have hwent := call.went
  unfold after
  generalize call.gives = given at hwent
  cases hwent with
  | faulted | held | refused => rfl
  | accepted accepted => simp [accepted] at hrefused

/-- An accepted call writes its request and keeps the encoding. -/
theorem after_accepted (haccepted : call.accepted = true) :
    call.after.sink = (call.before.sink.transmit call.bytes).2 ∧
      call.after.encoding = call.before.encoding := by
  have hexchanged := exchanged haccepted
  unfold after
  generalize call.gives = given at hexchanged
  cases hexchanged with
  | lost write | broken write | answered write => simp [write]

/-- An accepted call whose request is transmitted gives the reading of its reply. -/
theorem readOne_transmitted (haccepted : call.accepted = true)
    (htransmitted : call.transmitted = true) :
    Response.readOne call.response.command call.before.channel =
      (call.outcome, call.after.channel) := by
  have hexchanged := exchanged haccepted
  unfold outcome result filled after
  generalize call.gives = given at hexchanged
  cases hexchanged with
  | lost write => simp [transmitted, write, Except.isOk, Except.toBool] at htransmitted
  | broken write read | answered write read =>
    simp [Response.readOne, Response.read, Response.unread, read, Except.map]

theorem sent_transmitted (haccepted : call.accepted = true)
    (htransmitted : call.transmitted = true) :
    call.after.sink.sent = call.before.sink.sent ++ call.bytes := by
  rw [(after_accepted haccepted).1]
  unfold transmitted at htransmitted
  rcases hwrite : call.before.sink.transmit call.bytes with ⟨written, sink⟩
  rw [hwrite] at htransmitted
  cases written with
  | ok _ => exact (Sink.transmit_sent hwrite).1
  | error cause => contradiction

/-- Unless its request is transmitted, an accepted call ends the connection. -/
theorem transmitted_of_ready (haccepted : call.accepted = true)
    (hready : call.after.state = .ready) : call.transmitted = true := by
  have hexchanged := exchanged haccepted
  unfold after at hready
  generalize call.gives = given at hexchanged hready
  cases hexchanged with
  | lost write => contradiction
  | broken write | answered write => exact transmitted_of_eq write

end Call

/-! ## Courses -/

/-- What accepted calls have made of a connection. -/
structure Course (c : BlockingConnection) (calls : List Call) (after : BlockingConnection) :
    Prop where
  /-- What is sent is a first part of their requests. -/
  sent : after.sink.sent <+: c.sink.sent ++ Request.wireAll c.encoding (calls.map Call.request)
  /-- All of it is sent if no write failed. -/
  sentAll : (∀ call ∈ calls, call.written = true) →
    after.sink.sent = c.sink.sent ++ Request.wireAll c.encoding (calls.map Call.request)
  /-- The calls whose requests were transmitted have the replies in order. -/
  replies : (calls.filter Call.transmitted).map Call.outcome =
    (Response.readEach ((calls.filter Call.transmitted).map fun call => call.response.command)
      c.channel).1
  /-- No call but the last ends the connection. -/
  ready : ∀ call ∈ calls.dropLast, call.after.state = .ready
  /-- The last one leaves it in its state. -/
  state : after.state = (calls.getLast?.map fun call => call.after.state).getD c.state

namespace Course

/-- Without calls nothing changes. -/
theorem nil (c : BlockingConnection) : Course c [] c :=
  ⟨by simp, by simp, rfl, by simp, rfl⟩

/-- One accepted call adds its request and its reply; if it ends the connection it is the
only one. -/
theorem cons {call : Call} {calls : List Call} {after : BlockingConnection}
    (haccepted : call.accepted = true) (h : Course call.after calls after)
    (hlast : call.after.state ≠ .ready → calls = [] ∧ after = call.after) :
    Course call.before (call :: calls) after := by
  rcases Call.after_accepted haccepted with ⟨hsink, hencoding⟩
  have hwire (rest : List Request) : Request.wireAll call.before.encoding (call.request :: rest) =
      call.bytes ++ Request.wireAll call.before.encoding rest :=
    List.flatMap_cons
  have hreplies : ∀ rest, call.transmitted = true →
      (Response.readEach (call.response.command :: rest) call.before.channel).1 =
        call.outcome :: (Response.readEach rest call.after.channel).1 := by
    intro rest htransmitted
    simp [Response.readEach, Call.readOne_transmitted haccepted htransmitted]
  by_cases hready : call.after.state = .ready
  · -- The request was transmitted, and the others follow.
    have htransmitted := Call.transmitted_of_ready haccepted hready
    rcases h with ⟨hsent, hall, hrest, hbefore, hstate⟩
    rw [Call.sent_transmitted haccepted htransmitted, hencoding, List.append_assoc] at hsent hall
    refine ⟨by rwa [List.map_cons, hwire], ?_, ?_, ?_, ?_⟩
    · intro hwritten
      rw [List.map_cons, hwire]
      exact hall fun other hmem => hwritten other (List.mem_cons_of_mem _ hmem)
    · simp [htransmitted, hreplies, hrest]
    · cases calls with
      | nil => simp
      | cons next rest => simpa [hready] using hbefore
    · cases calls with
      | nil => simpa using hstate
      | cons next rest => simpa [List.getLast?_cons] using hstate
  · rcases hlast hready with ⟨rfl, rfl⟩
    rcases Sink.transmit_taken call.bytes call.before.sink with ⟨taken, hprefix, htaken⟩
    refine ⟨?_, ?_, ?_, by simp, by simp⟩
    · rw [hsink, htaken, List.map_cons, hwire]
      simpa using hprefix
    · intro hwritten
      have hall := Sink.transmit_sent_of_writeAll call.bytes call.before.sink
        (hwritten call List.mem_cons_self)
      rw [hsink, hall, List.map_cons, hwire]
      simp
    · cases htransmitted : call.transmitted with
      | false => simp [htransmitted, Response.readEach]
      | true =>
        have hreply := hreplies [] htransmitted
        simpa [htransmitted, Response.readEach] using hreply.symm

end Course

/-! ## Runs -/

/-- The step answers a call. -/
def Answer.isCall : Answer → Bool
  | .response _ | .kept .. => true
  | .emptied _ | .noResponse | .silent => false

/-- What the user is told of a call: only a response that the user keeps is there after a
failure. -/
def Call.answer (call : Call) : Answer :=
  match call.slot? with
  | none => .response call.outcome
  | some _ => .kept call.result call.filled

namespace User

/-- The call that a step makes, if it makes one. -/
def callOf (operation : Operation) (u : User) : Option Call :=
  match operation with
  | .service request => some ⟨none, .unread request.command, request.arguments, u.connection⟩
  | .serviceInto slot arguments =>
    (u.slots slot).map fun response => ⟨some slot, response, arguments, u.connection⟩
  | .keep .. | .reset _ => none

/-- The calls of a run, in order. -/
def calls : List Operation → User → List Call
  | [], _ => []
  | operation :: rest, u =>
    (u.callOf operation).toList ++ calls rest (u.step operation).2

/-- A step without a call leaves the connection alone. -/
theorem step_none {operation : Operation} {u : User} (h : u.callOf operation = none) :
    (u.step operation).1.isCall = false ∧ (u.step operation).2.connection = u.connection := by
  cases operation with
  | service request => simp [callOf] at h
  | keep slot command => exact ⟨rfl, rfl⟩
  | serviceInto slot arguments =>
    have hnone : u.slots slot = none := by simpa [callOf] using h
    simp [step, hnone, Answer.isCall]
  | reset slot =>
    simp only [step]
    split <;> exact ⟨rfl, rfl⟩

/-- A step that makes a call answers it, and leaves the connection and the response that the
call leaves. -/
theorem step_some {operation : Operation} {u : User} {call : Call}
    (h : u.callOf operation = some call) :
    call.before = u.connection ∧ (u.step operation).1 = call.answer ∧
      (u.step operation).2.connection = call.after ∧
      ∀ slot, call.slot? = some slot → (u.step operation).2.slots slot = some call.filled := by
  cases operation with
  | service request =>
    cases h
    refine ⟨rfl, ?_⟩
    simp only [step, service, Call.answer, Call.outcome, Call.result, Call.filled, Call.after,
      Call.gives, reduceCtorEq, false_implies, implies_true, and_true]
    rcases u.connection.serviceInto (.unread request.command) request.arguments with
      ⟨_ | _, response, after⟩ <;> exact ⟨rfl, rfl⟩
  | serviceInto slot arguments =>
    rcases hslot : u.slots slot with _ | response
    · simp [callOf, hslot] at h
    · simp only [callOf, hslot, Option.map_some, Option.some.injEq] at h
      subst h
      refine ⟨rfl, ?_⟩
      simp only [step, hslot]
      refine ⟨rfl, rfl, ?_⟩
      intro same hsame
      cases hsame
      simp [put, Call.filled, Call.gives]
  | keep | reset => simp [callOf] at h

/-- The calls of a run are what is answered in it. -/
theorem run_answers (operations : List Operation) (u : User) :
    (run operations u).1.filter Answer.isCall = (calls operations u).map Call.answer := by
  induction operations generalizing u with
  | nil => rfl
  | cons operation rest ih =>
    cases hcall : u.callOf operation with
    | none =>
      have hstep := (step_none hcall).1
      simp [run, calls, hcall, hstep, ih]
    | some call =>
      have hstep := (step_some hcall).2.1
      have hanswer : call.answer.isCall = true := by
        unfold Call.answer
        split <;> rfl
      simp [run, calls, hcall, hstep, hanswer, ih]

/-- Nothing happens to a connection once it is faulted. -/
theorem run_faulted {u : User} {fault : Fault} (h : u.connection.state = .faulted fault)
    (operations : List Operation) :
    (run operations u).2.connection = u.connection ∧
      ∀ call ∈ calls operations u, call.before = u.connection := by
  induction operations generalizing u with
  | nil => exact ⟨rfl, by simp [calls]⟩
  | cons operation rest ih =>
    have hstep := step_faulted h operation
    rcases ih (hstep ▸ h) with ⟨hrun, hcalls⟩
    refine ⟨hrun.trans hstep, ?_⟩
    intro call hmem
    rcases List.mem_append.1 hmem with hfirst | hlater
    · exact (step_some (Option.mem_toList.1 hfirst)).1
    · exact (hcalls call hlater).trans hstep

/-- The accepted calls of a run make up one course. -/
theorem course_run (operations : List Operation) (u : User) :
    Course u.connection ((calls operations u).filter Call.accepted)
      (run operations u).2.connection := by
  induction operations generalizing u with
  | nil => exact .nil _
  | cons operation rest ih =>
    have hrest := ih (u.step operation).2
    cases hcall : u.callOf operation with
    | none =>
      rw [(step_none hcall).2] at hrest
      simpa [calls, hcall, run] using hrest
    | some call =>
      rcases step_some hcall with ⟨hbefore, -, hafter, -⟩
      rw [hafter] at hrest
      cases haccepted : call.accepted with
      | false =>
        rw [Call.after_refused haccepted, hbefore] at hrest
        simpa [calls, hcall, run, haccepted] using hrest
      | true =>
        have hcons := Course.cons haccepted hrest ?_
        · rw [hbefore] at hcons
          simpa [calls, hcall, run, haccepted] using hcons
        · -- An ended connection accepts no other call.
          intro hended
          cases hstate : call.after.state with
          | ready => contradiction
          | faulted fault =>
            rw [← hafter] at hstate ⊢
            rcases run_faulted hstate rest with ⟨hrun, hcalls⟩
            refine ⟨List.filter_eq_nil_iff.2 ?_, hrun⟩
            intro later hmem hlater
            have hready := (later.accepted_iff.1 hlater).1
            rw [hcalls later hmem, hstate] at hready
            contradiction

/-- The law of a run of calls, on every stream.  The calls are what the run answers, and each
is lawful.  The accepted ones decide what is sent, which replies are read and how the
connection ends.  After that nothing happens to it, and every call reports its fault.  A call
for a response that is kept leaves in its slot what it made of it. -/
theorem run_lawful (source : Source) (sink : Sink) (config : Config)
    (operations : List Operation) :
    let start := BlockingConnection.onStream source sink config
    let user := ofConnection start
    let u := (run operations user).2
    (run operations user).1.filter Answer.isCall = (calls operations user).map Call.answer ∧
      (∀ call ∈ calls operations user, call.Lawful) ∧
      Course start ((calls operations user).filter Call.accepted) u.connection ∧
      (∀ fault, u.connection.state = .faulted fault → ∀ later,
        (run later u).2.connection = u.connection ∧
          ∀ call ∈ calls later u, call.result = .error (.faulted fault)) ∧
      ∀ operation call slot, u.callOf operation = some call → call.slot? = some slot →
        (u.step operation).2.slots slot = some call.filled := by
  intro start user u
  refine ⟨run_answers operations user, fun call _ => call.lawful, course_run operations user,
    ?_, ?_⟩
  · intro fault hstate later
    rcases run_faulted hstate later with ⟨hrun, hcalls⟩
    refine ⟨hrun, ?_⟩
    intro call hmem
    rw [← hcalls call hmem] at hstate
    exact (call.lawful.faulted fault hstate).1
  · intro operation call slot hcall
    exact (step_some hcall).2.2.2 slot

/-- A request without its argument, and one for a response that is kept, whose flush fails. -/
theorem run_lawful_failedFlush :
    let sink := Sink.scripted [] .takesAll [some (.reported "broken pipe")] none
    let user := ofConnection (.onStream ⟨[], .gone⟩ sink .default)
    let operations : List Operation :=
      [.service ⟨.get, []⟩, .keep 0 .ping, .serviceInto 0 [], .reset 0, .serviceInto 0 []]
    let u := (run operations user).2
    (calls operations user).map Call.accepted = [false, true, false] ∧
      u.connection.sink.sent = Bytes.ofText "PING\r\n" ∧
      ∀ later, (run later u).2.connection = u.connection := by
  intro sink user operations u
  have hstate : u.connection.state = .faulted ⟨.io, "broken pipe"⟩ := by decide
  have hlaw := run_lawful ⟨[], .gone⟩ sink .default operations
  exact ⟨by decide, by decide, fun later => (hlaw.2.2.2.1 _ hstate later).1⟩

end User

end KeyValueClient.BlockingConnection
