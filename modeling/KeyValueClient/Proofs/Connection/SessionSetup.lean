import KeyValueClient.Proofs.Connection.Calls
import KeyValueClient.Proofs.Connection.Disciplines
import KeyValueClient.Proofs.Reply.Soundness

/-!
# Setting a session up

Setup requests are made one after the other, each only once the one before it was granted: once
its reply was read and is no error line.  The first request that is not granted ends the setup
with its own error, and nothing is sent behind it.

Main results:

- Theorems `BlockingConnection.setUp_ended` and `Mirrors.setUp_ended`: setup ends behind requests
  that were all granted, or at the first that was not, on every connection.
- Theorem `Session.Ended.ok_iff`: setup succeeds just if nothing stands in its way.
- Theorem `Session.Granted.lines`: granted requests have taken just their status lines from the
  stream.
-/

namespace KeyValueClient

/-! ## Granted requests -/

namespace Session

/-- Requests are granted one after the other: each is written, and its reply is read and is no
error line, before the next is written. -/
inductive Granted (encoding : Encoding) :
    Channel → Sink → List Request → Channel → Sink → Prop
  | nil {ch : Channel} {s : Sink} : Granted encoding ch s [] ch s
  | cons {ch mid ch' : Channel} {s smid s' : Sink} {request : Request} {rest : List Request}
      {o : Outcome} (check : request.check = .ok ())
      (write : s.transmit (request.wire encoding) = (.ok (), smid))
      (read : Outcome.read request.command ch = .ok o mid) (granted : o.status.isError = false)
      (behind : Granted encoding mid smid rest ch' s') :
      Granted encoding ch s (request :: rest) ch' s'

/-- A request is not granted, with the error that is reported of it. -/
inductive Failed (encoding : Encoding) (ch : Channel) (s : Sink) (request : Request) :
    Error → Sink → Prop
  /-- The arguments fail their checks, and nothing is written. -/
  | refused {cause : ArgumentError} (check : request.check = .error (.argument cause)) :
      Failed encoding ch s request (.argument cause) s
  /-- The request cannot be written. -/
  | lost {cause : TransportError} {s' : Sink} (check : request.check = .ok ())
      (write : s.transmit (request.wire encoding) = (.error cause, s')) :
      Failed encoding ch s request (.transport cause) s'
  /-- The reply cannot be read. -/
  | broken {e : Error} {s' : Sink} {ch' : Channel} (check : request.check = .ok ())
      (write : s.transmit (request.wire encoding) = (.ok (), s'))
      (read : Outcome.read request.command ch = .error e ch') (stream : e.IsStream) :
      Failed encoding ch s request e s'
  /-- The reply is an error line. -/
  | rejected {o : Outcome} {message : String} {s' : Sink} {ch' : Channel}
      (check : request.check = .ok ())
      (write : s.transmit (request.wire encoding) = (.ok (), s'))
      (read : Outcome.read request.command ch = .ok o ch') (status : o.status = .error message) :
      Failed encoding ch s request (.rejected request.command.name message) s'

/-- The ends that setup can come to. -/
inductive Ended (encoding : Encoding) (ch : Channel) (s : Sink) (requests : List Request) :
    Result Unit → ConnectionState → Channel → Sink → Prop
  /-- All requests were granted. -/
  | established {ch' : Channel} {s' : Sink} (granted : Granted encoding ch s requests ch' s') :
      Ended encoding ch s requests (.ok ()) .ready ch' s'
  /-- The requests up to one were granted, and that one was not. -/
  | stopped {first rest : List Request} {request : Request} {mid ch' : Channel}
      {smid s' : Sink} {e : Error} {state : ConnectionState}
      (split : requests = first ++ request :: rest)
      (granted : Granted encoding ch s first mid smid)
      (failed : Failed encoding mid smid request e s') :
      Ended encoding ch s requests (.error e) state ch' s'

section Ended

variable {encoding : Encoding} {ch mid ch' : Channel} {s smid s' : Sink} {requests : List Request}
  {result : Result Unit} {state : ConnectionState}

/-- A granted request goes ahead of what becomes of the others. -/
theorem Ended.cons {request : Request} {o : Outcome}
    (h : Ended encoding mid smid requests result state ch' s') (check : request.check = .ok ())
    (write : s.transmit (request.wire encoding) = (.ok (), smid))
    (read : Outcome.read request.command ch = .ok o mid) (granted : o.status.isError = false) :
    Ended encoding ch s (request :: requests) result state ch' s' := by
  cases h with
  | established behind => exact .established (.cons check write read granted behind)
  | stopped split before failed =>
    subst split
    exact .stopped rfl (.cons check write read granted before) failed

/-- A connection on which setup has failed is not read again, so what is left of its stream does
not matter. -/
theorem Ended.reread {channel : Channel} (h : Ended encoding ch s requests result state ch' s')
    (hsame : result = .ok () → channel = ch') :
    Ended encoding ch s requests result state channel s' := by
  cases h with
  | established granted =>
    rw [hsame rfl]
    exact .established granted
  | stopped split granted failed => exact .stopped split granted failed

/-- Setup that succeeds leaves the connection ready. -/
theorem Ended.ready (h : Ended encoding ch s requests result state ch' s')
    (hok : result = .ok ()) : state = .ready := by
  cases h with
  | established => rfl
  | stopped => contradiction

end Ended

end Session

/-! ## Setup over a blocking connection -/

namespace Session

/-- An error line in answer to a setup request is a failure, and no other reply is. -/
theorem checkAnswer_eq (command : Command) (o : Outcome) :
    checkAnswer ⟨command, some o⟩ =
      match o.status with
      | .error message => .error (.rejected command.name message)
      | _ => .ok () := by
  rcases o with ⟨status, reply⟩
  cases status <;> rfl

end Session

namespace BlockingConnection

open Session (Granted Failed Ended setUp)

variable {c : BlockingConnection}

/-- A ready connection answers a request with its reply, or the request has failed. -/
theorem service_answered_or_failed (hready : c.state = .ready) {request : Request}
    (hopen : request.command.isTerminal = false) :
    (∃ o sink channel, request.check = .ok () ∧
      c.sink.transmit (request.wire c.encoding) = (.ok (), sink) ∧
      Outcome.read request.command c.channel = .ok o channel ∧
      c.service request =
        (.ok ⟨request.command, some o⟩, { c with sink := sink, channel := channel })) ∨
    ∃ e after, c.service request = (.error e, after) ∧
      Failed c.encoding c.channel c.sink request e after.sink := by
  let call : Call := ⟨none, .unread request.command, request.arguments, c⟩
  have hwent := call.went
  rcases hgives : call.gives with ⟨result, response, after⟩
  rw [hgives] at hwent
  have hinto : c.serviceInto (.unread request.command) request.arguments =
      (result, response, after) := hgives
  rw [service, hinto]
  cases hwent with
  | faulted state =>
    rw [hready] at state
    contradiction
  | held ready read => contradiction
  | refused ready check => exact Or.inr ⟨_, _, rfl, .refused check⟩
  | accepted accepted exchanged =>
    have hcheck : request.check = .ok () := (call.accepted_iff.1 accepted).2.2
    cases exchanged with
    | lost write => exact Or.inr ⟨_, _, rfl, .lost hcheck write⟩
    | broken write read stream => exact Or.inr ⟨_, _, rfl, .broken hcheck write read stream⟩
    | @answered o sink channel write read =>
      have hstays := (Outcome.answers_of_read read).isTerminal_eq_false hopen
      refine Or.inl ⟨o, sink, channel, hcheck, write, read, ?_⟩
      simp only [hstays, ← hready]
      rfl

/-- Setup ends behind requests that were all granted, or at the first that was not. -/
theorem setUp_ended {requests : List Request} (hready : c.state = .ready)
    (hopen : ∀ request ∈ requests, request.command.isTerminal = false) :
    Ended c.encoding c.channel c.sink requests (setUp service requests c).1
      (setUp service requests c).2.state (setUp service requests c).2.channel
      (setUp service requests c).2.sink := by
  induction requests generalizing c with
  | nil =>
    simp only [setUp, hready]
    exact .established .nil
  | cons request rest ih =>
    have hfirst := hopen request List.mem_cons_self
    have hrest : ∀ request ∈ rest, request.command.isTerminal = false := by
      intro request hmem
      exact hopen request (List.mem_cons_of_mem _ hmem)
    rcases service_answered_or_failed hready hfirst with
      ⟨o, sink, channel, hcheck, hwrite, hread, hservice⟩ | ⟨e, after, hservice, hfailed⟩
    · cases hstatus : o.status with
      | error message =>
        have hanswer := Session.checkAnswer_eq request.command o
        rw [hstatus] at hanswer
        simp only [setUp, hservice, hanswer]
        exact .stopped rfl .nil (.rejected hcheck hwrite hread hstatus)
      | _ =>
        have hanswer := Session.checkAnswer_eq request.command o
        rw [hstatus] at hanswer
        rw [Session.setUp_cons_ok hservice hanswer]
        have hgranted : o.status.isError = false := by
          rw [hstatus]
          rfl
        -- The connection is still ready, so setup goes on with what the request has left of the
        -- stream and of the sink.
        exact (ih (c := { c with sink := sink, channel := channel }) hready hrest).cons hcheck
          hwrite hread hgranted
    · rw [Session.setUp_cons_error hservice]
      exact .stopped rfl .nil hfailed

end BlockingConnection

/-! ## Setup over a pipeline -/

namespace Mirrors

variable {c : BlockingConnection} {p : Pipeline}

/-- Setup ends alike on connections that mirror each other. -/
theorem setUp (h : Mirrors c p) (requests : List Request) :
    (Session.setUp Pipeline.service requests p).1 =
        (Session.setUp BlockingConnection.service requests c).1 ∧
      Mirrors (Session.setUp BlockingConnection.service requests c).2
        (Session.setUp Pipeline.service requests p).2 := by
  induction requests generalizing c p with
  | nil => exact ⟨rfl, h⟩
  | cons request rest ih =>
    rcases h.service request with ⟨hresult, hafter⟩
    rcases hblocking : c.service request with ⟨result, c'⟩
    rcases hpipeline : p.service request with ⟨result', p'⟩
    rw [hblocking, hpipeline] at hresult hafter
    dsimp only at hresult
    subst hresult
    simp only [Session.setUp, hblocking, hpipeline]
    cases result' with
    | error e => exact ⟨rfl, hafter⟩
    | ok response =>
      dsimp only
      cases Session.checkAnswer response with
      | error e => exact ⟨rfl, hafter⟩
      | ok _ => exact ih hafter

/-- Nothing is held back between requests, so giving the pipeline up writes nothing. -/
theorem abandon_sink (h : Mirrors c p) : p.abandon.sink = p.sink := by
  have hquiet : p.buffer.isEmpty || p.state.isFaulted := by
    cases hstate : c.state with
    | ready => simp [(h.idle hstate).buffer]
    | faulted fault => simp [h.state.trans hstate, ConnectionState.isFaulted]
  simp only [Pipeline.abandon, if_pos hquiet]

/-- Setup on the pipeline ends as on the connection that it mirrors.  If it succeeds, nothing is
under way, and if not, nothing more is written. -/
theorem setUp_ended (h : Mirrors c p) (hready : c.state = .ready) {requests : List Request}
    (hopen : ∀ request ∈ requests, request.command.isTerminal = false) :
    let given := Session.setUp Pipeline.service requests p
    Session.Ended c.encoding c.channel c.sink requests given.1 given.2.state given.2.channel
        given.2.sink ∧
      (given.1 = .ok () → given.2.Idle) ∧ given.2.abandon.sink = given.2.sink := by
  intro given
  have hended := BlockingConnection.setUp_ended hready hopen
  rcases h.setUp requests with ⟨hresult, hafter⟩
  rw [← hresult, ← hafter.state, ← hafter.sink] at hended
  have hstate : given.1 = .ok () →
      (Session.setUp BlockingConnection.service requests c).2.state = .ready := by
    intro hok
    rw [← hafter.state]
    exact hended.ready hok
  exact ⟨hended.reread fun hok => hafter.channel (hstate hok), fun hok => hafter.idle (hstate hok),
    hafter.abandon_sink⟩

end Mirrors

/-! ## What setup comes to -/

/-- All of these can be transmitted one after the other. -/
def Sink.TakesEach : List Bytes → Sink → Prop
  | [], _ => True
  | data :: rest, s => (s.transmit data).1 = .ok () ∧ TakesEach rest (s.transmit data).2

namespace Session

variable {encoding : Encoding} {ch ch' : Channel} {s s' : Sink} {requests : List Request}

/-- Nothing stands in the way of the requests: they pass their checks, they can be written, and
their replies can be read and are no error lines. -/
structure Favoured (encoding : Encoding) (ch : Channel) (s : Sink) (requests : List Request) :
    Prop where
  valid : ∀ request ∈ requests, request.check = .ok ()
  written : s.TakesEach (requests.map (Request.wire encoding))
  granted : ∀ reply ∈ (Outcome.readEach (requests.map Request.command) ch).1,
    ∃ o, reply = .ok o ∧ o.status.isError = false

theorem favoured_cons_iff {request : Request} {smid : Sink} {o : Outcome} {mid : Channel}
    (check : request.check = .ok ())
    (write : s.transmit (request.wire encoding) = (.ok (), smid))
    (read : Outcome.read request.command ch = .ok o mid) (granted : o.status.isError = false) :
    Favoured encoding ch s (request :: requests) ↔ Favoured encoding mid smid requests := by
  have hreads : (Outcome.readEach ((request :: requests).map Request.command) ch).1 =
      .ok o :: (Outcome.readEach (requests.map Request.command) mid).1 := by
    simp [Outcome.readEach, read]
  constructor
  · rintro ⟨hvalid, hwritten, hgranted⟩
    rw [hreads] at hgranted
    simp only [List.map_cons, Sink.TakesEach, write] at hwritten
    exact ⟨fun request hmem => hvalid request (List.mem_cons_of_mem _ hmem), hwritten.2,
      fun reply hmem => hgranted reply (List.mem_cons_of_mem _ hmem)⟩
  · rintro ⟨hvalid, hwritten, hgranted⟩
    refine ⟨List.forall_mem_cons.2 ⟨check, hvalid⟩, ?_, ?_⟩
    · simpa only [List.map_cons, Sink.TakesEach, write, true_and] using hwritten
    · rw [hreads]
      exact List.forall_mem_cons.2 ⟨⟨o, rfl, granted⟩, hgranted⟩

/-- A request that is not granted is not favoured. -/
theorem Failed.not_favoured {request : Request} {e : Error}
    (h : Failed encoding ch s request e s') : ¬Favoured encoding ch s (request :: requests) := by
  rintro ⟨hvalid, hwritten, hgranted⟩
  have hcheck := hvalid request List.mem_cons_self
  simp only [List.map_cons, Sink.TakesEach] at hwritten
  cases h with
  | refused check =>
    rw [hcheck] at check
    contradiction
  | lost check write =>
    rw [write] at hwritten
    exact absurd hwritten.1 (by simp)
  | broken check write read stream =>
    simp only [List.map_cons, Outcome.readEach, read] at hgranted
    rcases hgranted _ List.mem_cons_self with ⟨o, ho, -⟩
    contradiction
  | @rejected o message _ _ check write read status =>
    simp only [List.map_cons, Outcome.readEach, read] at hgranted
    rcases hgranted _ List.mem_cons_self with ⟨o', ho, herror⟩
    cases ho
    rw [status] at herror
    contradiction

/-- Setup succeeds just if nothing stands in its way. -/
theorem Ended.ok_iff {result : Result Unit} {state : ConnectionState}
    (h : Ended encoding ch s requests result state ch' s') :
    result = .ok () ↔ Favoured encoding ch s requests := by
  cases h with
  | established granted =>
    refine iff_of_true rfl ?_
    induction granted with
    | nil => exact ⟨by simp, trivial, by simp [Outcome.readEach]⟩
    | cons check write read granted _ ih => exact (favoured_cons_iff check write read granted).2 ih
  | @stopped first rest request mid _ smid _ e _ split granted failed =>
    refine iff_of_false (by simp) ?_
    subst split
    -- Granted requests are no obstacle, so it is the one behind them that decides.
    induction granted with
    | nil => exact failed.not_favoured
    | cons check write read granted _ ih =>
      rw [List.cons_append, favoured_cons_iff check write read granted]
      exact ih failed

/-- Granted requests are what was sent. -/
theorem Granted.sent (h : Granted encoding ch s requests ch' s') :
    s'.sent = s.sent ++ Request.wireAll encoding requests := by
  induction h with
  | nil => simp
  | @cons _ _ _ s smid s' request rest _ check write read granted behind ih =>
    rw [ih, (Sink.transmit_sent write).1, List.append_assoc]
    rfl

/-- A request that is not granted has sent a first part of its own bytes at most. -/
theorem Failed.sent {request : Request} {e : Error} (h : Failed encoding ch s request e s') :
    ∃ taken, taken <+: request.wire encoding ∧ s'.sent = s.sent ++ taken := by
  cases h with
  | refused => exact ⟨[], List.nil_prefix, by simp⟩
  | lost check write => exact (Sink.transmit_error write).2.1
  | broken check write | rejected check write =>
    exact ⟨_, List.prefix_rfl, (Sink.transmit_sent write).1⟩

/-- An argument is reported only if it fails its check. -/
theorem Failed.check_error {request : Request} {cause : ArgumentError}
    (h : Failed encoding ch s request (.argument cause) s') :
    request.check = .error (.argument cause) := by
  cases h with
  | refused check => exact check
  | broken _ _ _ stream =>
    rcases stream with ⟨_, hstream⟩ | ⟨_, hstream⟩ | ⟨_, _, hstream⟩ <;> contradiction

/-- Requests that are answered with status lines have taken just these from the stream. -/
theorem Granted.lines (h : Granted encoding ch s requests ch' s')
    (hstatus : ∀ request ∈ requests,
      request.command.replyShape = .status ∧ request.command.isTerminal = false) :
    ∃ lines : List Bytes, lines.length = requests.length ∧ (∀ words ∈ lines, Bytes.lf ∉ words) ∧
      ch.flat = ch'.flat.after (lines.flatMap (Wire.line .status)) := by
  induction h with
  | nil => exact ⟨[], rfl, by simp, rfl⟩
  | cons check write read granted behind ih =>
    rw [List.forall_mem_cons] at hstatus
    rcases hstatus with ⟨⟨hshape, hopen⟩, hrest⟩
    rcases Outcome.statusLine_of_read read granted hshape hopen with ⟨words, hlf, hflat⟩
    rcases ih hrest with ⟨lines, hlength, hlines, hbehind⟩
    refine ⟨words :: lines, by simp [hlength], List.forall_mem_cons.2 ⟨hlf, hlines⟩, ?_⟩
    rw [hflat, hbehind, FlatStream.after_after, List.flatMap_cons]

end Session

end KeyValueClient
