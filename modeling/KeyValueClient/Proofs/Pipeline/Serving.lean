import KeyValueClient.Proofs.Pipeline.Correlation
import KeyValueClient.Proofs.Writing.Requests

/-!
# One request at a time

A pipeline that serves one request at a time has nothing else under way: the request is
written, by itself or by the flush behind it, and the first turn of the reader answers it.
So neither the write mode nor the threshold shows.

Main results:

- Theorem `Pipeline.Idle.service_refused`: a request that fails its checks changes nothing.
- Theorem `Pipeline.Idle.service_lost`: a request that cannot be written ends the pipeline.
- Theorem `Pipeline.Idle.service_sent`: a request that is written is answered with the
  reading of its reply.
-/

namespace KeyValueClient

namespace Pipeline

/-- A pipeline that takes requests and has none under way. -/
structure Idle (p : Pipeline) : Prop where
  ready : p.state = .ready
  opened : p.closing = false
  buffer : p.buffer = []
  calls : p.calls = []
  unwritten : p.unwritten = 0

/-- The pipeline once it has written a request and all that it held back. -/
def sent (request : Request) (sink : Sink) (p : Pipeline) : Pipeline :=
  { p with
    sink := sink
    buffer := []
    calls := p.calls ++ [p.nextCall request]
    unwritten := 0
    nextTicket := p.nextTicket + 1 }

variable {p : Pipeline} {request : Request} {sink : Sink} {cause : TransportError}

namespace Idle

theorem checkAccepting (h : p.Idle) : p.checkAccepting = .ok () :=
  checkAccepting_ok_iff.2 ⟨h.ready, h.opened⟩

/-! ## Writing -/

/-- An immediate pipeline writes the request at once. -/
theorem queue_immediate (h : p.Idle) (hcheck : request.check = .ok ())
    (hmode : p.writeMode = .immediate) :
    p.queue request =
      queueWritten request.command { p with buffer := request.wire p.encoding } := by
  rw [queue, h.checkAccepting]
  simp only [Request.appendTo_ok hcheck, h.buffer, List.nil_append]
  rw [hmode]

/-- A request that was held back is written by the next flush, if it can be. -/
theorem flush_held (h : p.Idle) (request : Request) :
    (p.held request).flush =
      match p.sink.transmit (request.wire p.encoding) with
      | (.ok (), sink) => (.ok (), p.sent request sink)
      | (.error cause, sink) =>
        (.error (.transport cause),
          writerFault cause { p.held request with sink := sink, buffer := [] }) := by
  have hbuffer : (p.held request).buffer = request.wire p.encoding := by
    simp [held, h.buffer]
  have hsome : ¬(request.wire p.encoding).isEmpty = true := by
    simp [Request.wire_ne_nil]
  have haccept : (p.held request).checkAccepting = .ok () := h.checkAccepting
  have hsink : (p.held request).sink = p.sink := rfl
  rw [flush, hbuffer, if_neg hsome, haccept]
  simp only [writeBuffer, hbuffer, hsink]
  rcases p.sink.transmit (request.wire p.encoding) with ⟨written, sink⟩
  cases written with
  | ok _ => rfl
  | error cause => rfl

/-- Queueing a request and flushing writes it, in either write mode. -/
theorem queue_sent (h : p.Idle) (hcheck : request.check = .ok ())
    (hwrite : p.sink.transmit (request.wire p.encoding) = (.ok (), sink)) :
    ∃ q, p.queue request = (.ok (p.nextCall request), q) ∧
      q.flush = (.ok (), p.sent request sink) := by
  have hdone : (p.sent request sink).flush = (.ok (), p.sent request sink) := rfl
  have hheld := h.flush_held request
  rw [hwrite] at hheld
  cases hmode : p.writeMode with
  | immediate =>
    refine ⟨p.sent request sink, ?_, hdone⟩
    rw [h.queue_immediate hcheck hmode]
    simp only [queueWritten, writeBuffer, hwrite]
    simp [register, Pipeline.checkAccepting, h.ready, h.opened, sent, nextCall, h.unwritten]
  | chunked =>
    rw [queue_chunked h.ready h.opened hcheck hmode, hheld]
    split_ifs
    · exact ⟨p.sent request sink, rfl, hdone⟩
    · exact ⟨p.held request, rfl, hheld⟩

/-- A request that cannot be written ends the pipeline, in either write mode. -/
theorem service_lost (h : p.Idle) (hcheck : request.check = .ok ())
    (hwrite : p.sink.transmit (request.wire p.encoding) = (.error cause, sink)) :
    ∃ q, p.service request = (.error (.transport cause), q) ∧ q.sink = sink ∧
      q.encoding = p.encoding ∧ q.state = .faulted (.ofError (.transport cause)) := by
  have hstate : p.state.fail (.ofError (.transport cause)) =
      .faulted (.ofError (.transport cause)) := by
    rw [h.ready]
    rfl
  have hheld := h.flush_held request
  rw [hwrite] at hheld
  rw [service]
  cases hmode : p.writeMode with
  | immediate =>
    rw [h.queue_immediate hcheck hmode]
    simp only [queueWritten, writeBuffer, hwrite]
    exact ⟨_, rfl, rfl, rfl, hstate⟩
  | chunked =>
    refine ⟨writerFault cause { p.held request with sink := sink, buffer := [] }, ?_, rfl, rfl,
      hstate⟩
    rw [queue_chunked h.ready h.opened hcheck hmode, hheld]
    split_ifs
    · rfl
    · dsimp only
      rw [hheld]

/-- A request that fails its checks changes nothing. -/
theorem service_refused (h : p.Idle) {e : Error} (hcheck : request.check = .error e) :
    p.service request = (.error e, p) := by
  rw [service, queue, h.checkAccepting]
  simp only [Request.appendTo_error hcheck]

end Idle

/-! ## Reading -/

/-- Every answered call had an earlier ticket than the next. -/
theorem Ordered.ticket_lt {j : Journal} (h : Ordered j p) {entry : Call × Result Response}
    (hmem : entry ∈ p.results) : entry.1.ticket < p.nextTicket := by
  have hticket : entry.1.ticket ∈ p.results.map fun entry => entry.1.ticket :=
    List.mem_map_of_mem hmem
  have hlength := h.answered_isPrefix.length_le
  rw [h.results_tickets, List.mem_range] at hticket
  rw [List.length_map] at hlength
  rw [h.nextTicket]
  exact Nat.lt_of_lt_of_le hticket hlength

/-- Serving a request keeps the order of the calls. -/
theorem Ordered.service {j : Journal} (h : Ordered j p) (request : Request) :
    ∃ k, Ordered k (p.service request).2 :=
  ⟨_, (path_service request p).preserves (fun h move => move.ordered h) h⟩

namespace Idle

/-- The only call is answered with its reply. -/
theorem drain_sent (h : p.Idle) {outcome : Result Unit} {response : Response}
    {channel : Channel}
    (hread : (Response.unread request.command).read p.channel = (outcome, response, channel))
    (harrived : outcome ≠ .error (.transport .wouldBlock)) :
    (p.sent request sink).drain =
      answer (p.nextCall request) [] outcome response
        { p.sent request sink with channel := channel } := by
  have hcalls : (p.sent request sink).calls = [p.nextCall request] := by
    simp [sent, h.calls]
  have hhead : (p.sent request sink).writtenHead? = some (p.nextCall request, []) := by
    rw [writtenHead?, hcalls]
    rfl
  rw [drain, hcalls]
  exact readStep_eq h.ready hhead hread harrived

/-- A request that is written is answered with the reading of its reply. -/
theorem service_sent (h : p.Idle) {j : Journal} (hordered : Ordered j p)
    (hcheck : request.check = .ok ())
    (hwrite : p.sink.transmit (request.wire p.encoding) = (.ok (), sink))
    {outcome : Result Unit} {response : Response} {channel : Channel}
    (hread : (Response.unread request.command).read p.channel = (outcome, response, channel))
    (harrived : outcome ≠ .error (.transport .wouldBlock)) :
    p.service request =
      (outcome.map fun _ => response,
        answer (p.nextCall request) [] outcome response
          { p.sent request sink with channel := channel }) := by
  have hfresh : p.results.find? (fun entry => entry.1.ticket == p.nextTicket) = none := by
    rw [List.find?_eq_none]
    intro entry hmem
    have hbefore := hordered.ticket_lt hmem
    simp only [beq_iff_eq]
    omega
  rcases h.queue_sent hcheck hwrite with ⟨q, hqueue, hflush⟩
  rcases results_answer (p.nextCall request) [] outcome response
    { p.sent request sink with channel := channel } with ⟨more, hresults⟩
  simp only [service, hqueue, hflush, h.drain_sent hread harrived, result?, hresults]
  simp [sent, nextCall, List.find?_append, hfresh]

end Idle

end Pipeline

end KeyValueClient
