import KeyValueClient.Proofs.Pipeline.Ledger
import KeyValueClient.Proofs.Pipeline.Order
import KeyValueClient.Proofs.Writing.Requests

/-!
# Requests are written in order

A request is submitted once it has been checked and encoded.  While a pipeline is ready,
what it has sent and what it holds back are the submitted requests in order, and what it
holds back belongs to its latest calls.  A fault cuts what was sent somewhere, and
nothing else.  A reply is looked at only for a call whose request has been sent and
flushed.

Main results:

- Theorem `Pipeline.Move.tracked`: every move keeps the order of writing.
- Theorem `Client.live_tracked`: so does every run, and what arrives while no written
  call waits is left alone.
-/

namespace KeyValueClient

namespace Pipeline

open Request (wireAll)

/-! ## What has been written -/

/-- The calls of some requests, numbered in the order in which they were submitted. -/
def callsFor (log : List Request) : List Call :=
  log.mapIdx fun ticket request => ⟨ticket, request.command⟩

theorem callsFor_concat (log : List Request) (request : Request) :
    callsFor (log ++ [request]) = callsFor log ++ [⟨log.length, request.command⟩] := by
  simp [callsFor, List.mapIdx_concat]

theorem isPrefix_callsFor (log extra : List Request) :
    callsFor log <+: callsFor (log ++ extra) := by
  simp only [callsFor, List.mapIdx_append]
  exact List.prefix_append _ _

/-- A ready pipeline on which these requests were submitted. -/
structure InStep (log : List Request) (p : Pipeline) : Prop where
  /-- What was sent and what is held back are the requests, in order. -/
  wire : p.sink.sent ++ p.buffer = wireAll p.encoding log
  /-- Every request has its call, and no other call joined the queue. -/
  calls : p.history = callsFor log
  nextTicket : p.nextTicket = log.length
  unwritten : p.unwritten ≤ p.calls.length
  /-- What is held back are the latest requests. -/
  held : p.buffer = wireAll p.encoding (log.drop (log.length - p.unwritten))
  immediate : p.writeMode = .immediate → p.buffer = [] ∧ p.unwritten = 0
  closing : p.closing = true → p.buffer = []
  /-- Nothing that was sent waits to be flushed. -/
  flushed : p.sink.flushed = p.sink.sent.length

/-- A pipeline, ready or faulted, on which these requests were submitted. -/
structure Written (log : List Request) (p : Pipeline) : Prop where
  /-- What was sent is the beginning of the requests. -/
  sent : p.sink.sent <+: wireAll p.encoding log
  flushed : p.sink.flushed ≤ p.sink.sent.length
  /-- The calls belong to the first requests. -/
  calls : p.history <+: callsFor log
  /-- The requests up to that of a call with a reply were sent and flushed. -/
  replied : ∀ k entry, p.results[k]? = some entry → IsOriginal entry.2 →
    wireAll p.encoding (log.take (k + 1)) <+: p.sink.sent.take p.sink.flushed

namespace InStep

variable {log : List Request} {p : Pipeline}

theorem length_log (h : InStep log p) : p.results.length + p.calls.length = log.length := by
  have hlength := congrArg List.length h.calls
  simpa [history, callsFor] using hlength

/-- Only calls whose requests were sent have been answered. -/
theorem answered_le (h : InStep log p) : p.results.length + p.unwritten ≤ log.length := by
  have hlength := h.length_log
  have hunwritten := h.unwritten
  omega

/-- The requests held back are those of the calls that are not written yet. -/
theorem calls_held (h : InStep log p) :
    p.calls.drop (p.calls.length - p.unwritten) =
      (callsFor log).drop (log.length - p.unwritten) := by
  have hlength := h.length_log
  have hunwritten := h.unwritten
  have hanswered : (p.results.map fun entry => entry.1).length ≤ log.length - p.unwritten := by
    rw [List.length_map]
    omega
  rw [← h.calls, history, List.drop_append, List.drop_eq_nil_of_le hanswered, List.nil_append,
    List.length_map]
  congr 1
  omega

/-- All but the latest requests were sent. -/
theorem sent_eq (h : InStep log p) :
    p.sink.sent = wireAll p.encoding (log.take (log.length - p.unwritten)) := by
  have hsplit : p.sink.sent ++ p.buffer =
      wireAll p.encoding (log.take (log.length - p.unwritten)) ++ p.buffer := by
    rw [h.wire, h.held, ← Request.wireAll_append, List.take_append_drop]
  exact List.append_cancel_right hsplit

/-- What a fault leaves of a pipeline: a part of what was held back or of further
requests has been sent, and some replies are followed by the fault alone. -/
theorem written_of_ended {q : Pipeline} {extra : List Request} {taken : Bytes}
    {read : List (Call × Result Response)} {fault : Fault} {failed : List Call}
    (h : InStep log p) (hencoding : q.encoding = p.encoding) (hhistory : q.history = p.history)
    (hsent : q.sink.sent = p.sink.sent ++ taken)
    (htaken : taken <+: p.buffer ++ wireAll p.encoding extra)
    (hflushed : q.sink.flushed = p.sink.flushed)
    (hresults : q.results = read ++ failedEntries fault failed)
    (hread : read.length + p.unwritten ≤ log.length) : Written (log ++ extra) q := by
  constructor
  · have hall : p.sink.sent ++ (p.buffer ++ wireAll p.encoding extra) =
        wireAll p.encoding (log ++ extra) := by
      rw [← List.append_assoc, h.wire, Request.wireAll_append]
    rw [hsent, hencoding, ← hall]
    exact (List.prefix_append_right_inj _).2 htaken
  · rw [hflushed, h.flushed, hsent, List.length_append]
    omega
  · rw [hhistory, h.calls]
    exact isPrefix_callsFor log extra
  · intro k entry hentry horiginal
    rw [hresults] at hentry
    have hk : k < read.length := lt_of_isOriginal hentry horiginal
    rw [hflushed, h.flushed, hsent, List.take_left, hencoding, h.sent_eq]
    rw [List.take_append_of_le_length (by omega)]
    exact Request.isPrefix_wireAll_take _ _ (by omega)

/-- A ready pipeline has sent what it must have sent. -/
theorem written (h : InStep log p) : Written log p := by
  have hsent : p.sink.sent = p.sink.sent ++ [] := (List.append_nil _).symm
  have hresults : p.results = p.results ++ failedEntries .closedByCaller [] :=
    (List.append_nil _).symm
  have hwritten : Written (log ++ []) p :=
    h.written_of_ended rfl rfl hsent List.nil_prefix rfl hresults h.answered_le
  rwa [List.append_nil] at hwritten

/-- A reply is followed by the fault alone, and nothing more is sent. -/
theorem written_of_answer {q : Pipeline} {call : Call} {rest : List Call}
    {result : Result Response} {fault : Fault} (h : InStep log p)
    (hcalls : p.calls = call :: rest) (hwritten : p.unwritten ≤ rest.length)
    (hencoding : q.encoding = p.encoding) (hhistory : q.history = p.history)
    (hsink : q.sink = p.sink)
    (hresults : q.results = (p.results ++ [(call, result)]) ++ failedEntries fault rest) :
    Written (log ++ []) q := by
  have hlength := h.length_log
  rw [hcalls, List.length_cons] at hlength
  have hsent : q.sink.sent = p.sink.sent ++ [] := by rw [hsink, List.append_nil]
  have hflushed : q.sink.flushed = p.sink.flushed := by rw [hsink]
  refine h.written_of_ended hencoding hhistory hsent List.nil_prefix hflushed hresults ?_
  rw [List.length_append, List.length_singleton]
  omega

end InStep

/-! ## Moves -/

/-- What a pipeline owes the submitted requests, ready or faulted. -/
structure Tracked (log : List Request) (p : Pipeline) : Prop where
  ready : p.state = .ready → InStep log p
  written : Written log p

namespace Tracked

variable {log : List Request} {p : Pipeline}

theorem of_inStep (h : InStep log p) : Tracked log p :=
  ⟨fun _ => h, h.written⟩

theorem of_failAll {fault : Fault} (h : Written log (p.failAll fault)) :
    Tracked log (p.failAll fault) := by
  refine ⟨?_, h⟩
  intro hready
  have hfaulted := isFaulted_failAll fault p
  rw [hready] at hfaulted
  contradiction

theorem onStream (source : Source) (writes : List (Option WriteEvent))
    (laterWrites : WriteEvent) (flushes : List (Option TransportError))
    (laterFlushes : Option TransportError) (config : Config) :
    Tracked [] (.onStream source (.scripted writes laterWrites flushes laterFlushes) config) :=
  .of_inStep ⟨rfl, rfl, rfl, Nat.le_refl 0, rfl, fun _ => ⟨rfl, rfl⟩, fun _ => rfl, rfl⟩

/-- A pipeline that differs in its channel and in what it holds back, and in the latter
only when it is faulted. -/
theorem congr {q : Pipeline} (h : Tracked log p) (hstate : q.state = p.state)
    (hencoding : q.encoding = p.encoding) (hmode : q.writeMode = p.writeMode)
    (hsink : q.sink = p.sink) (hcalls : q.calls = p.calls) (hticket : q.nextTicket = p.nextTicket)
    (hunwritten : q.unwritten = p.unwritten) (hresults : q.results = p.results)
    (hbuffer : p.state = .ready → q.buffer = p.buffer)
    (hclosing : p.state = .ready → q.closing = true → q.buffer = []) : Tracked log q := by
  have hhistory : q.history = p.history := by
    rw [history, history, hresults, hcalls]
  constructor
  · intro hready
    rw [hstate] at hready
    rcases h.ready hready with
      ⟨wire, calls, nextTicket, unwritten, held, immediate, closing, flushed⟩
    have hsame := hbuffer hready
    constructor
    · rw [hsink, hsame, hencoding, wire]
    · rw [hhistory, calls]
    · rw [hticket, nextTicket]
    · rw [hunwritten, hcalls]
      exact unwritten
    · rw [hsame, hencoding, hunwritten, held]
    · intro himmediate
      rw [hsame, hunwritten]
      exact immediate (hmode ▸ himmediate)
    · exact hclosing hready
    · rw [hsink, flushed]
  · rcases h.written with ⟨sent, flushed, calls, replied⟩
    constructor
    · rw [hsink, hencoding]
      exact sent
    · rw [hsink]
      exact flushed
    · rw [hhistory]
      exact calls
    · rw [hresults, hsink, hencoding]
      exact replied

end Tracked

/-- A request that is held back joins what is held back. -/
theorem inStep_held {log : List Request} {p : Pipeline} (h : InStep log p)
    (request : Request) (hopen : p.closing = false) (hmode : p.writeMode = .chunked) :
    InStep (log ++ [request]) (p.held request) := by
  have hlength := h.length_log
  have hunwritten := h.unwritten
  constructor
  · simp only [held, Request.wireAll_append, Request.wireAll_singleton]
    rw [← List.append_assoc, h.wire]
  · rw [callsFor_concat, ← h.calls, ← h.nextTicket]
    simp only [history, held, nextCall, List.append_assoc]
  · simp only [held, List.length_append, List.length_singleton, h.nextTicket]
  · simp only [held, List.length_append, List.length_singleton]
    omega
  · simp only [held, List.length_append, List.length_singleton]
    rw [show log.length + 1 - (p.unwritten + 1) = log.length - p.unwritten by omega,
      List.drop_append_of_le_length (by omega), Request.wireAll_append,
      Request.wireAll_singleton, ← h.held]
  · intro himmediate
    simp only [held, hmode] at himmediate
    contradiction
  · intro hclosing
    simp only [held, hopen] at hclosing
    contradiction
  · exact h.flushed

/-- Every move keeps the order of writing. -/
theorem Move.tracked {log : List Request} {p q : Pipeline} {j : Journal} (move : Move p j q)
    (h : Tracked log p) : Tracked (log ++ j.submitted) q := by
  have hhistory := move.history
  cases move with
  | @hold request hready hopen hcheck hmode =>
    exact .of_inStep (inStep_held (h.ready hready) request hopen hmode)
  | @send request sink hready hopen hcheck hmode hwrite =>
    have hstep := h.ready hready
    have hnone := (hstep.immediate hmode).2
    rcases Sink.transmit_sent hwrite with ⟨hsent, hflushed⟩
    refine .of_inStep ⟨?_, ?_, ?_, ?_, ?_, ?_, ?_, hflushed⟩
    · simp only [hsent, List.append_nil, Request.wireAll_append, Request.wireAll_singleton]
      rw [← List.append_assoc, hstep.wire]
    · rw [hhistory, callsFor_concat, ← hstep.calls, ← hstep.nextTicket, nextCall]
    · rw [List.length_append, List.length_singleton, ← hstep.nextTicket]
    · simp [hnone]
    · simp [hnone]
    · intro _
      exact ⟨rfl, hnone⟩
    · intro _
      rfl
  | @sendFails request sink cause runs hready hopen hcheck hmode hwrite =>
    have hstep := h.ready hready
    have hsome := hstep.answered_le
    rcases Sink.transmit_error hwrite with ⟨_, ⟨taken, htaken, hsent⟩, hflushed⟩
    rw [← Request.wireAll_singleton p.encoding request] at htaken
    rw [List.append_nil] at hhistory
    exact .of_failAll (hstep.written_of_ended rfl hhistory hsent htaken hflushed rfl hsome)
  | @deliver sink hready hwrite =>
    have hstep := h.ready hready
    rcases Sink.transmit_sent hwrite with ⟨hsent, hflushed⟩
    rw [Journal.empty, List.append_nil] at hhistory ⊢
    refine .of_inStep ⟨?_, ?_, hstep.nextTicket, ?_, ?_, ?_, ?_, hflushed⟩
    · simp [hsent, hstep.wire]
    · rw [hhistory, hstep.calls]
    · exact Nat.zero_le _
    · simp
    · intro _
      exact ⟨rfl, rfl⟩
    · intro _
      rfl
  | @deliverFails sink cause runs hready hwrite =>
    have hstep := h.ready hready
    have hsome := hstep.answered_le
    rcases Sink.transmit_error hwrite with ⟨_, ⟨taken, htaken, hsent⟩, hflushed⟩
    have htaken' : taken <+: p.buffer ++ wireAll p.encoding [] := by
      rwa [Request.wireAll_nil, List.append_nil]
    rw [Journal.empty, List.append_nil] at hhistory
    exact .of_failAll (hstep.written_of_ended rfl hhistory hsent htaken' hflushed rfl hsome)
  | discard hclosed =>
    rw [Journal.empty, List.append_nil]
    refine h.congr rfl rfl rfl rfl rfl rfl rfl rfl ?_ (fun _ _ => rfl)
    intro hready
    exact ((h.ready hready).closing (hclosed hready)).symm
  | stop hnothing =>
    rw [Journal.empty, List.append_nil]
    exact h.congr rfl rfl rfl rfl rfl rfl rfl rfl (fun _ => rfl) (fun hready _ => hnothing hready)
  | @answer call rest response channel hready hcalls hwritten hread hstays =>
    have hstep := h.ready hready
    rw [Journal.empty, List.append_nil] at hhistory ⊢
    refine .of_inStep ⟨hstep.wire, ?_, hstep.nextTicket, hwritten, hstep.held, hstep.immediate,
      hstep.closing, hstep.flushed⟩
    rw [hhistory, hstep.calls]
  | answerLast hready hcalls hwritten hread hterminal =>
    rw [Journal.empty, List.append_nil] at hhistory
    exact .of_failAll ((h.ready hready).written_of_answer hcalls hwritten rfl hhistory rfl rfl)
  | answerError hready hcalls hwritten hread harrived =>
    rw [Journal.empty, List.append_nil] at hhistory
    exact .of_failAll ((h.ready hready).written_of_answer hcalls hwritten rfl hhistory rfl rfl)
  | arrive event =>
    rw [List.append_nil]
    refine h.congr rfl rfl rfl rfl rfl rfl rfl rfl (fun _ => rfl) ?_
    intro hready hclosing
    exact (h.ready hready).closing hclosing

/-- A path from a new pipeline keeps the order of writing. -/
theorem Path.tracked {p q : Pipeline} {j : Journal} (path : Path p j q) (h : Tracked [] p) :
    Tracked j.submitted q := by
  let Inv : Journal → Pipeline → Prop := fun j p => Tracked j.submitted p
  have hmove : ∀ {j k p q}, Inv j p → Move p k q → Inv (j.append k) q := by
    intro j k p q htracked move
    exact move.tracked htracked
  have hstart : Inv .empty p := h
  have hend := path.preserves hmove hstart
  rwa [Journal.empty_append] at hend

/-! ## Settings -/

/-- No move changes how requests are laid out and when they are written. -/
theorem Move.settings {p q : Pipeline} {j : Journal} (move : Move p j q) :
    q.encoding = p.encoding ∧ q.writeMode = p.writeMode := by
  cases move <;> exact ⟨rfl, rfl⟩

theorem Path.settings {p q : Pipeline} {j : Journal} (path : Path p j q) :
    q.encoding = p.encoding ∧ q.writeMode = p.writeMode := by
  induction path with
  | refl => exact ⟨rfl, rfl⟩
  | snoc _ move ih =>
    rcases move.settings with ⟨hencoding, hmode⟩
    exact ⟨hencoding.trans ih.1, hmode.trans ih.2⟩

/-! ## Nothing is read ahead -/

/-- The pipeline once some events have arrived. -/
def receive (events : List SourceEvent) (p : Pipeline) : Pipeline :=
  { p with channel := { p.channel with source := p.channel.source.receive events } }

/-- Without a written call, the reader does not run. -/
theorem drain_waiting {p : Pipeline} (h : p.writtenHead? = none) : p.drain = p := by
  let Inv : Pipeline → Prop := fun q => q = p
  have hturn : ∀ q, Inv q → Inv q.readStep := by
    intro q hsame
    rw [hsame]
    exact readStep_waiting h
  have hstart : Inv p := rfl
  exact drain_preserves Inv hturn hstart

end Pipeline

/-- An operation of the peer or of the reader. -/
def Operation.isPassive : Operation → Bool
  | .arrive _ | .readStep | .drain => true
  | _ => false

namespace Client

open Pipeline (InStep Written callsFor)

/-- Without a written call, what the peer and the reader do leaves everything as it was;
what arrives is kept for later. -/
theorem run_passive {later : List Operation} {c : Client}
    (hpassive : ∀ operation ∈ later, operation.isPassive = true)
    (hwaiting : c.pipeline.writtenHead? = none) :
    (run later c).2 = { c with pipeline := c.pipeline.receive (arrivals later) } := by
  induction later generalizing c with
  | nil => simp [run, arrivals, Pipeline.receive, Source.receive]
  | cons operation rest ih =>
    have hoperation := hpassive operation List.mem_cons_self
    have hrest : ∀ operation ∈ rest, operation.isPassive = true := by
      intro operation hmem
      exact hpassive operation (List.mem_cons_of_mem _ hmem)
    cases operation with
    | arrive event =>
      have hstill : (c.step (.arrive event)).2.pipeline.writtenHead? = none := hwaiting
      simp only [run]
      rw [ih hrest hstill]
      simp [step, Pipeline.receive, Source.receive, Pipeline.arrive, Source.append, arrivals,
        Operation.arrival?]
    | readStep =>
      simp only [run, step]
      rw [Pipeline.readStep_waiting hwaiting, ih hrest hwaiting]
      simp [arrivals, List.filterMap_cons, Operation.arrival?]
    | drain =>
      simp only [run, step]
      rw [Pipeline.drain_waiting hwaiting, ih hrest hwaiting]
      simp [arrivals, List.filterMap_cons, Operation.arrival?]
    | _ => contradiction

/-- In every run over a sink that does whatever its script says, what was sent is the
beginning of the submitted requests, in order, and while the pipeline is ready all the
rest is held back, for the latest calls.  Replies are only given to calls whose requests
were sent and flushed.  While no written call waits, whatever arrives is left alone. -/
theorem live_tracked (source : Source) (writes : List (Option WriteEvent))
    (laterWrites : WriteEvent) (flushes : List (Option TransportError))
    (laterFlushes : Option TransportError) (config : Config) (schedule : List Operation)
    (afterwards : Option (List Operation)) :
    let sink := Sink.scripted writes laterWrites flushes laterFlushes
    let start := ofPipeline (.onStream source sink config)
    let log := (liveJournal schedule afterwards start).submitted
    let c := live schedule afterwards start
    (c.pipeline.encoding = config.encoding ∧ c.pipeline.writeMode = config.writeMode) ∧
      (c.pipeline.state = .ready → InStep log c.pipeline ∧
        c.pipeline.calls.drop (c.pipeline.calls.length - c.pipeline.unwritten) =
          (callsFor log).drop (log.length - c.pipeline.unwritten)) ∧
      Written log c.pipeline ∧
      (c.pipeline.writtenHead? = none → ∀ later : List Operation,
        (∀ operation ∈ later, operation.isPassive = true) →
          (run later c).2 = { c with pipeline := c.pipeline.receive (arrivals later) }) := by
  intro sink start log c
  have hpath := path_live schedule afterwards start
  have htracked := hpath.tracked
    (.onStream source writes laterWrites flushes laterFlushes config)
  refine ⟨hpath.settings, ?_, htracked.written, ?_⟩
  · intro hready
    have hstep := htracked.ready hready
    exact ⟨hstep, hstep.calls_held⟩
  · intro hwaiting later hpassive
    exact run_passive hpassive hwaiting

end Client

end KeyValueClient
