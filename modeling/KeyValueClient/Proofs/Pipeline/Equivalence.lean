import KeyValueClient.Proofs.Connection.Outcomes
import KeyValueClient.Proofs.Pipeline.Draining
import KeyValueClient.Proofs.Pipeline.Faults
import KeyValueClient.Proofs.Pipeline.Reliability

/-!
# Pipelines answer as blocking connections do

On a pipeline a request behind the end of the connection may be written, held back or
refused, depending on when the reader took its turns.  Its outcome does not depend on
that: after any schedule that ends with closing the pipeline, the outcomes of all
requests are what a blocking connection answers to the same requests on the same
stream of replies.

Main results:

- Theorem `Pipeline.Ended.outcomes`: the results of a pipeline that ended, and its
  refusals behind them, are the outcomes of the calls on its stream.
- Theorem `Client.Streaming.run`: each request has joined the queue, or was refused
  after the end.
- Theorem `Client.outcomes_eq_serviceAll`: pipelines answer as blocking connections do.
-/

namespace KeyValueClient

namespace Pipeline

open Response (outcomes refusals)

/-! ## Results are outcomes -/

theorem map_snd_failedEntries (fault : Fault) (failed : List Call) :
    (failedEntries fault failed).map Prod.snd = refusals fault failed := by
  simp only [failedEntries, refusals, List.map_map]
  rfl

theorem outcomes_answeredEntries {ch ch' : Channel} {answered : List (Call × Response)}
    (h : Answers ch answered ch') (rest : List Command) :
    outcomes (commandsOf (answeredEntries answered) ++ rest) ch =
      (answeredEntries answered).map Prod.snd ++ outcomes rest ch' := by
  rw [commandsOf_answeredEntries h, h.reads.outcomes]
  simp [answeredEntries]

/-- The results of a pipeline that ended, and its refusals behind them, are the outcomes
of the calls on its stream, unless a write failed. -/
theorem Ended.outcomes {ch : Channel} {sink : Sink} {fault : Fault}
    {read : List (Call × Result Response)} (h : Ended ch sink fault read)
    (hwritten : sink.failed = false) (rest : List Command) :
    Response.outcomes (commandsOf read ++ rest) ch =
      read.map Prod.snd ++ refusals fault rest := by
  cases h with
  | lost answers failed =>
    rw [hwritten] at failed
    contradiction
  | @closed answered mid ch' call response answers read terminal cause =>
    have hlast : Response.outcomes (call.command :: rest) mid =
        .ok response :: refusals fault rest := by
      simp [Response.outcomes, read, terminal, cause]
    have hentries : answeredEntries (answered ++ [(call, response)]) =
        answeredEntries answered ++ [(call, .ok response)] := by
      simp [answeredEntries]
    have hcommands : commandsOf (answeredEntries answered ++ [(call, .ok response)]) ++ rest =
        commandsOf (answeredEntries answered) ++ call.command :: rest := by
      simp [commandsOf]
    rw [hentries, hcommands, outcomes_answeredEntries answers, hlast]
    simp
  | @broken answered mid ch' call response e answers read arrived cause =>
    have hlast : Response.outcomes (call.command :: rest) mid =
        .error e :: refusals fault rest := by
      simp [Response.outcomes, read, cause]
    have hcommands : commandsOf (answeredEntries answered ++ [(call, .error e)]) ++ rest =
        commandsOf (answeredEntries answered) ++ call.command :: rest := by
      simp [commandsOf]
    rw [hcommands, outcomes_answeredEntries answers, hlast]
    simp

/-- The results of a ready pipeline are the outcomes of their calls. -/
theorem Ledger.outcomes_ready {ch : Channel} {p : Pipeline} (h : Ledger ch p)
    (hready : p.state = .ready) :
    outcomes (commandsOf p.results) ch = p.results.map Prod.snd := by
  rcases h.answers_of_ready hready with ⟨answered, hresults, answers⟩
  have hall := outcomes_answeredEntries answers []
  rw [hresults]
  simpa [outcomes] using hall

/-- The results of a faulted pipeline, and its refusals behind them, are the outcomes of
the calls. -/
theorem Ledger.outcomes_faulted {ch : Channel} {p : Pipeline} {fault : Fault}
    (h : Ledger ch p) (hfault : p.state = .faulted fault) (hwritten : p.sink.failed = false)
    (rest : List Command) :
    outcomes (commandsOf p.results ++ rest) ch =
      p.results.map Prod.snd ++ refusals fault rest := by
  rcases h.ended_of_faulted hfault with ⟨_, read, failed, hresults, hended⟩
  have hcommands : commandsOf p.results ++ rest =
      commandsOf read ++ (failed.map Call.command ++ rest) := by
    simp [hresults, commandsOf, failedEntries, Function.comp_def]
  rw [hcommands, hended.outcomes hwritten, hresults, List.map_append, map_snd_failedEntries]
  simp

end Pipeline

/-! ## Streaming requests -/

/-- An operation that queues a request, flushes, lets something arrive, or lets the reader
run. -/
def Operation.isStreaming : Operation → Bool
  | .queue _ | .flush | .arrive _ | .readStep | .drain => true
  | _ => false

/-- The request that an operation queues. -/
def Operation.request? : Operation → Option Request
  | .queue request => some request
  | _ => none

/-- The requests queued in a schedule, in order. -/
def queuedRequests (schedule : List Operation) : List Request :=
  schedule.filterMap Operation.request?

/-- What queueing a request answered. -/
def Answer.handle? : Answer → Option (Result Nat)
  | .handle result => some result
  | _ => none

/-- What queueing the requests answered, in order. -/
def handleAnswers (answers : List Answer) : List (Result Nat) :=
  answers.filterMap Answer.handle?

namespace Client

open Response (refusals)

/-- The outcome of a request: the error with which it was refused, or what its handle
yields; `none` if that would block. -/
def outcome? (c : Client) : Result Nat → Option (Result Response)
  | .error e => some (.error e)
  | .ok number =>
    match c.handles[number]? with
    | some (some h) => h.wait c.pipeline
    | _ => none

/-- The calls of the first requests joined the queue and were given handles, and the
other requests were refused with the fault. -/
inductive Taken (requests : List Request) (answers : List (Result Nat)) (p : Pipeline) : Prop
  | all (commands : p.history.map Call.command = requests.map Request.command)
      (numbers : answers = (List.range requests.length).map .ok)
  | first {accepted refused : List Request} {fault : Fault} (state : p.state = .faulted fault)
      (split : requests = accepted ++ refused)
      (commands : p.history.map Call.command = accepted.map Request.command)
      (numbers : answers = (List.range accepted.length).map .ok ++ refusals fault refused)

/-- What takes in no request leaves the requests as they were answered. -/
theorem Taken.path {requests : List Request} {answers : List (Result Nat)} {p q : Pipeline}
    {j : Journal} (h : Taken requests answers p) (path : Pipeline.Path p j q)
    (hpushed : j.pushed = []) : Taken requests answers q := by
  have hhistory := path.history
  rw [hpushed, List.append_nil] at hhistory
  cases h with
  | all commands numbers => exact .all (hhistory ▸ commands) numbers
  | first state split commands numbers =>
    have hstate := (path.frozen state).state.trans state
    exact .first hstate split (hhistory ▸ commands) numbers

/-- A client that streams valid requests over a reliable sink. -/
structure Streaming (requests : List Request) (answers : List (Result Nat)) (c : Client) :
    Prop where
  opened : c.pipeline.closing = false
  reliable : c.pipeline.sink.Reliable
  /-- Every call has its handle, and no result was taken. -/
  handles : c.handles = c.pipeline.history.map fun call => some (.ofCall call)
  taken : Taken requests answers c.pipeline

namespace Streaming

variable {requests : List Request} {answers : List (Result Nat)} {c : Client}

theorem onStream (source : Source) {sink : Sink} (config : Config) (h : sink.Reliable) :
    Streaming [] [] (ofPipeline (.onStream source sink config)) :=
  ⟨rfl, h, rfl, .all rfl rfl⟩

/-- What takes in no request and gives out no handle. -/
theorem quiet {p : Pipeline} {j : Journal} (h : Streaming requests answers c)
    (path : Pipeline.Path c.pipeline j p) (hpushed : j.pushed = [])
    (hclosing : p.closing = c.pipeline.closing) :
    Streaming requests answers { c with pipeline := p } := by
  have hhistory := path.history
  rw [hpushed, List.append_nil] at hhistory
  refine ⟨hclosing.trans h.opened, path.reliable h.reliable, ?_, h.taken.path path hpushed⟩
  rw [hhistory]
  exact h.handles

/-- A refused request changes nothing but the answers. -/
theorem refuse {fault : Fault} (h : Streaming requests answers c)
    (hfault : c.pipeline.state = .faulted fault) (request : Request) :
    Streaming (requests ++ [request]) (answers ++ [.error (.faulted fault)]) c := by
  refine ⟨h.opened, h.reliable, h.handles, ?_⟩
  cases h.taken with
  | all commands numbers =>
    refine .first hfault rfl commands ?_
    rw [numbers]
    rfl
  | @first accepted refused fault' state split commands numbers =>
    have hsame : fault' = fault := ConnectionState.faulted.inj (state.symm.trans hfault)
    subst hsame
    have hsplit : requests ++ [request] = accepted ++ (refused ++ [request]) := by
      rw [split, List.append_assoc]
    refine .first hfault hsplit commands ?_
    rw [numbers, Response.refusals_append, List.append_assoc]
    rfl

/-- A request that is taken is given the next handle. -/
theorem accept {request : Request} (h : Streaming requests answers c)
    (hready : c.pipeline.state = .ready) (hcheck : request.check = .ok ()) :
    Streaming (requests ++ [request]) (answers ++ [.ok c.handles.length])
      ⟨(c.pipeline.queue request).2,
        c.handles ++ [some (.ofCall (c.pipeline.nextCall request))]⟩ := by
  have hqueue := Pipeline.queue_ok hready h.opened hcheck h.reliable
  have hpath := Pipeline.path_queue request c.pipeline
  have hhistory := hpath.history
  rw [Pipeline.pushes_of_queue hqueue] at hhistory
  cases h.taken with
  | first state =>
    rw [hready] at state
    contradiction
  | all commands numbers =>
    have hlength : c.handles.length = requests.length := by
      have hcommands := congrArg List.length commands
      rw [h.handles]
      simpa using hcommands
    refine ⟨(Pipeline.queue_closing hqueue).trans h.opened, hpath.reliable h.reliable, ?_,
      .all ?_ ?_⟩
    · rw [hhistory, h.handles, List.map_append]
      rfl
    · rw [hhistory, List.map_append, List.map_append, commands]
      rfl
    · rw [numbers, hlength, List.length_append, List.length_singleton, List.range_succ,
        List.map_append]
      rfl

/-- Every step keeps the split of the requests. -/
theorem step {operation : Operation} (h : Streaming requests answers c)
    (hstreaming : operation.isStreaming = true)
    (hvalid : ∀ request, operation.request? = some request → request.check = .ok ()) :
    Streaming (requests ++ operation.request?.toList)
      (answers ++ (c.step operation).1.handle?.toList) (c.step operation).2 := by
  cases operation with
  | queue request =>
    have hcheck := hvalid request rfl
    cases hstate : c.pipeline.state with
    | ready =>
      have haccept := h.accept hstate hcheck
      have hqueue := Pipeline.queue_ok hstate h.opened hcheck h.reliable
      rcases hqueued : c.pipeline.queue request with ⟨queued, p⟩
      rw [hqueued] at haccept hqueue
      subst hqueue
      simpa [Client.step, hqueued, Operation.request?, Answer.handle?] using haccept
    | faulted fault =>
      have hrefuse := h.refuse hstate request
      have hqueue := Pipeline.queue_faulted hstate request
      simpa [Client.step, hqueue, Operation.request?, Answer.handle?] using hrefuse
  | flush =>
    have hquiet := h.quiet (Pipeline.path_flush _) rfl (Pipeline.flush_closing _)
    simpa [Client.step, Operation.request?, Answer.handle?] using hquiet
  | arrive event =>
    have hquiet := h.quiet (.single (.arrive event)) rfl rfl
    simpa [Client.step, Operation.request?, Answer.handle?] using hquiet
  | readStep =>
    have hquiet := h.quiet (Pipeline.path_readStep _) rfl (Pipeline.aside_readStep _).closing
    simpa [Client.step, Operation.request?, Answer.handle?] using hquiet
  | drain =>
    have hquiet := h.quiet (Pipeline.path_drain _) rfl (Pipeline.aside_drain _).closing
    simpa [Client.step, Operation.request?, Answer.handle?] using hquiet
  | _ => contradiction

/-- Each request of a schedule has joined the queue, or was refused after the end. -/
theorem run {schedule : List Operation} (h : Streaming requests answers c)
    (hstreaming : ∀ operation ∈ schedule, operation.isStreaming = true)
    (hvalid : ∀ request ∈ queuedRequests schedule, request.check = .ok ()) :
    Streaming (requests ++ queuedRequests schedule)
      (answers ++ handleAnswers (Client.run schedule c).1) (Client.run schedule c).2 := by
  induction schedule generalizing requests answers c with
  | nil => simpa [queuedRequests, handleAnswers, Client.run] using h
  | cons operation rest ih =>
    have hrequests : queuedRequests (operation :: rest) =
        operation.request?.toList ++ queuedRequests rest := by
      simp only [queuedRequests, List.filterMap_cons]
      cases operation.request? <;> rfl
    have hvalidFirst : ∀ request, operation.request? = some request → request.check = .ok () := by
      intro request hrequest
      apply hvalid
      rw [hrequests, hrequest]
      exact List.mem_cons_self
    have hvalidRest : ∀ request ∈ queuedRequests rest, request.check = .ok () := by
      intro request hmem
      apply hvalid
      rw [hrequests]
      exact List.mem_append_right _ hmem
    have hstreamingRest : ∀ operation ∈ rest, operation.isStreaming = true := by
      intro operation hmem
      exact hstreaming operation (List.mem_cons_of_mem _ hmem)
    have hfirst := h.step (hstreaming operation List.mem_cons_self) hvalidFirst
    have hrest := ih hfirst hstreamingRest hvalidRest
    have hanswers : handleAnswers (Client.run (operation :: rest) c).1 =
        (c.step operation).1.handle?.toList ++
          handleAnswers (Client.run rest (c.step operation).2).1 := by
      simp only [Client.run, handleAnswers, List.filterMap_cons]
      cases (c.step operation).1.handle? <;> rfl
    rw [hrequests, hanswers, ← List.append_assoc, ← List.append_assoc]
    exact hrest

end Streaming

/-! ## Outcomes after closing -/

/-- The handle of an answered call yields its result. -/
theorem outcome?_handle {c : Client} {j : Journal} (hordered : Pipeline.Ordered j c.pipeline)
    (hhandles : c.handles = c.pipeline.history.map fun call => some (.ofCall call)) {k : Nat}
    (hk : k < c.pipeline.results.length) :
    c.outcome? (.ok k) = some c.pipeline.results[k].2 := by
  have hhandle : c.handles[k]? = some (some (.ofCall c.pipeline.results[k].1)) := by
    rw [hhandles, Pipeline.history, List.map_append, List.getElem?_append_left (by simpa using hk)]
    simp [hk]
  have hticket : c.pipeline.results[k].1.ticket = k := by
    have hget := congrArg (fun tickets => tickets[k]?) hordered.results_tickets
    simpa [hk] using hget
  have hresult : c.pipeline.result? k = some c.pipeline.results[k].2 := by
    rw [hordered.result?_eq, List.getElem?_eq_getElem hk]
    rfl
  simp [outcome?, hhandle, Handle.wait, Handle.tryTake, Handle.ofCall, hticket, hresult]

/-- Once no call waits, the handles yield the results in order. -/
theorem map_outcome?_range {c : Client} {j : Journal}
    (hordered : Pipeline.Ordered j c.pipeline)
    (hhandles : c.handles = c.pipeline.history.map fun call => some (.ofCall call)) :
    ((List.range c.pipeline.results.length).map .ok).map c.outcome? =
      (c.pipeline.results.map Prod.snd).map some := by
  apply List.ext_getElem
  · simp
  · intro k hleft hright
    have hk : k < c.pipeline.results.length := by simpa using hright
    simpa using outcome?_handle hordered hhandles hk

/-- Once no call waits, the outcomes of the requests are those of their commands on the
stream of replies. -/
theorem Taken.outcomes {requests : List Request} {answers : List (Result Nat)} {c : Client}
    {ch : Channel} {j : Journal} (h : Taken requests answers c.pipeline)
    (hledger : Pipeline.Ledger ch c.pipeline) (hordered : Pipeline.Ordered j c.pipeline)
    (hhandles : c.handles = c.pipeline.history.map fun call => some (.ofCall call))
    (hcalls : c.pipeline.calls = []) (hwritten : c.pipeline.sink.failed = false) :
    answers.map c.outcome? =
      (Response.outcomes (requests.map Request.command) ch).map some := by
  have hresults : c.pipeline.history.map Call.command =
      Pipeline.commandsOf c.pipeline.results := by
    simp [Pipeline.history, hcalls, Pipeline.commandsOf]
  have hlength : (c.pipeline.history.map Call.command).length = c.pipeline.results.length := by
    simp [Pipeline.history, hcalls]
  have hyield := map_outcome?_range hordered hhandles
  cases h with
  | all commands numbers =>
    rw [commands, List.length_map] at hlength
    rw [numbers, hlength, hyield, ← commands, hresults]
    cases hstate : c.pipeline.state with
    | ready => rw [hledger.outcomes_ready hstate]
    | faulted fault =>
      have hall := hledger.outcomes_faulted hstate hwritten []
      rw [List.append_nil] at hall
      rw [hall]
      simp [refusals]
  | @first accepted refused fault state split commands numbers =>
    rw [commands, List.length_map] at hlength
    have hall := hledger.outcomes_faulted state hwritten (refused.map Request.command)
    rw [split, List.map_append, ← commands, hresults, hall, numbers, List.map_append, hlength,
      hyield, Response.refusals_map, List.map_append]
    simp [refusals, outcome?]

/-- Pipelines answer as blocking connections do.  Valid requests are streamed over a
reliable sink by any schedule of flushes, arrivals and turns of the reader, and the
pipeline is closed once the stream of replies has come to its end.  Then the outcomes of
the requests, one by one, are the results of a blocking connection that serves them on
the same stream of replies. -/
theorem outcomes_eq_serviceAll (source : Source) (writes : List (Option WriteEvent))
    (laterWrites : WriteEvent) (flushes : List (Option TransportError))
    (laterFlushes : Option TransportError) (other : Sink) (config : Config)
    (schedule : List Operation)
    (hstreaming : ∀ operation ∈ schedule, operation.isStreaming = true)
    (hvalid : ∀ request ∈ queuedRequests schedule, request.check = .ok ())
    (hreliable : (Sink.scripted writes laterWrites flushes laterFlushes).Reliable)
    (hother : other.Reliable) (hsends : source.MaySend (arrivals schedule))
    (hends : (source.receive (arrivals schedule)).Ends) :
    let sink := Sink.scripted writes laterWrites flushes laterFlushes
    let finished := run (schedule ++ [.close]) (ofPipeline (.onStream source sink config))
    let blocking :=
      BlockingConnection.onStream (source.receive (arrivals schedule)) other config
    (handleAnswers finished.1).map finished.2.outcome? =
      (Session.serviceAll BlockingConnection.service (queuedRequests schedule)
        blocking).1.map some := by
  intro sink finished blocking
  let start := ofPipeline (.onStream source sink config)
  let c := (run schedule start).2
  have hfinished : finished.2 = { c with pipeline := c.pipeline.close.2 } := by
    simp [finished, run_append, run, step, c, start]
  have hanswers : handleAnswers finished.1 = handleAnswers (run schedule start).1 := by
    simp [finished, run_append, run, step, handleAnswers, Answer.handle?, start]
  have harrived : (journal schedule start).arrived = arrivals schedule :=
    journal_arrived schedule start
  have hstream := (Streaming.onStream source config hreliable).run hstreaming hvalid
  have hpath := path_run schedule start
  have hclose := Pipeline.path_close c.pipeline
  have hclosed := hpath.trans hclose
  rw [Journal.append_empty] at hclosed
  have hcalls : c.pipeline.close.2.calls = [] :=
    Pipeline.close_calls hpath (by rwa [harrived]) (by rwa [harrived])
  have hledger := Pipeline.Path.ledger hclosed (by rwa [harrived])
  rw [harrived] at hledger
  have hhistory := hclose.history
  rw [Journal.empty, List.append_nil] at hhistory
  have hhandles : c.handles = c.pipeline.close.2.history.map fun call => some (.ofCall call) := by
    rw [hhistory]
    exact hstream.handles
  have htaken := hstream.taken.path hclose rfl
  have hwritten := (hclosed.reliable hreliable).not_failed
  have houtcomes := Taken.outcomes (c := { c with pipeline := c.pipeline.close.2 }) htaken hledger
    (Pipeline.Path.ordered hclosed) hhandles hcalls hwritten
  have hblocking : (Session.serviceAll BlockingConnection.service (queuedRequests schedule)
      blocking).1 = Response.outcomes ((queuedRequests schedule).map Request.command)
        (config.channel (source.receive (arrivals schedule))) :=
    BlockingConnection.serviceAll_outcomes rfl hother hvalid
  rw [hanswers, hfinished, hblocking]
  exact houtcomes

/-- Three requests on a chunked pipeline, the last held back when the stream breaks. -/
theorem outcomes_eq_serviceAll_broken :
    let source : Source := ⟨[], .waiting⟩
    let schedule : List Operation :=
      [.queue ⟨.ping, []⟩, .queue ⟨.dbSize, []⟩, .flush,
        .arrive (.data (Bytes.ofText "+PONG\r\n?\r\n")), .readStep, .queue ⟨.ping, []⟩,
        .readStep, .arrive .ended]
    let config : Config := { Config.default with writeMode := .chunked }
    let finished :=
      run (schedule ++ [.close])
        (ofPipeline (.onStream source (.scripted [] .takesAll [] none) config))
    let blocking :=
      BlockingConnection.onStream (source.receive (arrivals schedule)) .accepting config
    (∀ operation ∈ schedule, operation.isStreaming = true) ∧
      (∀ request ∈ queuedRequests schedule, request.check = .ok ()) ∧
      Sink.accepting.Reliable ∧ source.MaySend (arrivals schedule) ∧
      (source.receive (arrivals schedule)).Ends ∧
      (handleAnswers finished.1).map finished.2.outcome? =
        (Session.serviceAll BlockingConnection.service (queuedRequests schedule)
          blocking).1.map some := by
  intro source schedule config finished blocking
  have hstreaming : ∀ operation ∈ schedule, operation.isStreaming = true := by decide
  have hvalid : ∀ request ∈ queuedRequests schedule, request.check = .ok () := by
    intro request hmem
    simp only [schedule, queuedRequests, Operation.request?, List.filterMap_cons,
      List.filterMap_nil, List.mem_cons, List.not_mem_nil, or_false] at hmem
    rcases hmem with rfl | rfl | rfl <;> rfl
  have hreliable : Sink.accepting.Reliable := Sink.reliable_accepting
  have hsends : source.MaySend (arrivals schedule) := by
    intro hsilence
    contradiction
  have hends : (source.receive (arrivals schedule)).Ends := ⟨by decide, by decide⟩
  have heq := outcomes_eq_serviceAll source [] .takesAll [] none .accepting config schedule
    hstreaming hvalid hreliable hreliable hsends hends
  exact ⟨hstreaming, hvalid, hreliable, hsends, hends, heq⟩

end Client

end KeyValueClient
