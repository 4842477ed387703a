import KeyValueClient.Proofs.Pipeline.Draining
import KeyValueClient.Proofs.Pipeline.Faults

/-!
# No handle is left behind

A pipeline ends in one of two ways: the user closes it, or gives it up and the reader runs to
its end.  Both write out what is held back, and if the stream of replies ends, both answer
every call: with its own reply, with the error that the reader met, or with the fault.
A pipeline that was closed does nothing any more.

Main results:

- Theorem `Pipeline.Ledger.resolved`: without calls that wait, every call was answered once.
- Theorem `Client.atRest_run`: only arrivals change a pipeline at rest.
- Theorem `Client.shutDown_resolved`: closing a pipeline and giving it up resolve every
  handle that was ever given out.
-/

namespace KeyValueClient

namespace Pipeline

/-! ## Resolved calls -/

/-- The call was answered once, and its result is the reply at its position or the fault. -/
structure Resolved (replies : List (Result Response)) (p : Pipeline) (call : Call) : Prop where
  once : (p.results.map Prod.fst).count call = 1
  result : ∃ result, p.result? call.ticket = some result ∧
    (IsOriginal result ∧ replies[call.ticket]? = some result ∨
      ∃ fault, p.state = .faulted fault ∧ result = .error (.faulted fault))

/-- What was read for a call is no fault. -/
theorem Ended.isOriginal {ch : Channel} {sink : Sink} {fault : Fault}
    {read : List (Call × Result Response)} (h : Ended ch sink fault read)
    {entry : Call × Result Response} (hmem : entry ∈ read) : IsOriginal entry.2 := by
  rcases h.blocks with ⟨answered, met, rfl, hmet⟩
  rcases List.mem_append.1 hmem with hanswered | hmet'
  · rcases exists_of_mem_answeredEntries hanswered with ⟨response, hresponse⟩
    simp [IsOriginal, hresponse]
  · cases hmet with
    | nothing => contradiction
    | error call original cause =>
      rw [List.mem_singleton.1 hmet']
      exact original

/-- A result is no fault, or it is the fault of the pipeline. -/
theorem Ledger.isOriginal_or {ch : Channel} {p : Pipeline} (h : Ledger ch p)
    {entry : Call × Result Response} (hmem : entry ∈ p.results) :
    IsOriginal entry.2 ∨ ∃ fault, p.state = .faulted fault ∧ entry.2 = .error (.faulted fault) := by
  cases h with
  | running state results answers =>
    rw [results] at hmem
    rcases exists_of_mem_answeredEntries hmem with ⟨response, hresponse⟩
    exact Or.inl (by simp [IsOriginal, hresponse])
  | faulted state calls unwritten results ended =>
    rw [results] at hmem
    rcases List.mem_append.1 hmem with hread | hfailed
    · exact Or.inl (ended.isOriginal hread)
    · rcases List.mem_map.1 hfailed with ⟨call, _, rfl⟩
      exact Or.inr ⟨_, state, rfl⟩

/-- On a pipeline without calls that wait, every call was answered once. -/
theorem Ledger.resolved {ch : Channel} {p : Pipeline} {j : Journal} (hledger : Ledger ch p)
    (hordered : Ordered j p) (hcalls : p.calls = []) {call : Call} (hcall : call ∈ j.pushed) :
    Resolved (Response.readEach (j.pushed.map Call.command) ch).1 p call := by
  have horder : p.results.map Prod.fst = j.pushed := by
    rw [← hordered.history, history, hcalls, List.append_nil]
  constructor
  · rw [horder]
    exact List.count_eq_one_of_mem hordered.nodup_pushed hcall
  · have hposition := hordered.getElem?_ticket hcall
    rw [← horder, List.getElem?_map, Option.map_eq_some_iff] at hposition
    rcases hposition with ⟨entry, hentry, rfl⟩
    refine ⟨entry.2, by rw [hordered.result?_eq, hentry]; rfl, ?_⟩
    rcases hledger.isOriginal_or (List.mem_of_getElem? hentry) with horiginal | hfault
    · have hreply := hledger.reply_of_result hordered.answered_isPrefix hentry horiginal
      exact Or.inl ⟨horiginal, hreply.1⟩
    · exact Or.inr hfault

/-! ## What is held back -/

/-- The sink once what is held back is written, which a faulted pipeline does not do. -/
def writtenOut (p : Pipeline) : Sink :=
  if p.buffer.isEmpty || p.state.isFaulted then p.sink else (p.sink.transmit p.buffer).2

/-- Giving a pipeline up writes what is held back. -/
theorem abandon_sink (p : Pipeline) : p.abandon.sink = p.writtenOut := by
  unfold abandon writtenOut
  split
  · rfl
  · rcases hwrite : p.sink.transmit p.buffer with ⟨written, sink⟩
    cases written <;> simp [writeBuffer, hwrite, failAll]

/-- So does flushing, unless requests are no longer taken. -/
theorem flush_sink {p : Pipeline}
    (hclosing : p.state = .ready → p.closing = true → p.buffer = []) :
    p.flush.2.sink = p.writtenOut := by
  unfold flush writtenOut
  split
  · rename_i hempty
    simp [hempty]
  · rename_i hsome
    cases hstate : p.state with
    | faulted fault => simp [checkAccepting, hstate, ConnectionState.isFaulted]
    | ready =>
      have hopen : p.closing = false := by
        rw [← Bool.not_eq_true]
        intro hclosed
        simp [hclosing hstate hclosed] at hsome
      rcases hwrite : p.sink.transmit p.buffer with ⟨written, sink⟩
      cases written <;>
        simp [checkAccepting, hstate, hopen, hsome, writeBuffer, hwrite, writerFault, failAll,
          ConnectionState.isFaulted]

/-- So does closing a pipeline. -/
theorem close_sink {p : Pipeline}
    (hclosing : p.state = .ready → p.closing = true → p.buffer = []) :
    p.close.2.sink = p.writtenOut :=
  (aside_drain _).sink.trans (flush_sink hclosing)

/-! ## Nothing happens any more -/

/-- A pipeline that takes no more requests never takes any again. -/
theorem Move.closing {p q : Pipeline} {j : Journal} (move : Move p j q)
    (hclosing : p.closing = true) : q.closing = true := by
  cases move with
  | stop => rfl
  | _ => exact hclosing

theorem Path.closing {p q : Pipeline} {j : Journal} (path : Path p j q)
    (hclosing : p.closing = true) : q.closing = true := by
  induction path with
  | refl => exact hclosing
  | snoc _ move ih => exact move.closing ih

theorem Path.pushed_of_closing {p q : Pipeline} {j : Journal} (path : Path p j q)
    (hclosing : p.closing = true) : j.pushed = [] := by
  induction path with
  | refl => rfl
  | snoc before move ih =>
    have hstopped := before.closing hclosing
    cases move with
    | hold _ hopen | send _ hopen => simp [hstopped] at hopen
    | _ => simpa [Journal.append, Journal.empty] using ih

/-- The pipeline was closed and has nothing left to write or to answer. -/
structure AtRest (p : Pipeline) : Prop where
  closing : p.closing = true
  buffer : p.buffer = []
  calls : p.calls = []

namespace AtRest

variable {p : Pipeline}

/-- Every request is refused. -/
theorem queue (h : AtRest p) (request : Request) :
    ∃ fault, p.queue request = (.error (.faulted fault), p) := by
  unfold Pipeline.queue checkAccepting
  cases p.state with
  | ready => exact ⟨.closedByCaller, by simp [h.closing]⟩
  | faulted fault => exact ⟨fault, rfl⟩

theorem service (h : AtRest p) (request : Request) :
    ∃ fault, p.service request = (.error (.faulted fault), p) := by
  rcases h.queue request with ⟨fault, hqueue⟩
  exact ⟨fault, by rw [Pipeline.service, hqueue]⟩

theorem flush (h : AtRest p) : p.flush = (.ok (), p) := by
  simp [Pipeline.flush, h.buffer]

theorem writtenHead? (h : AtRest p) : p.writtenHead? = none := by
  simp [Pipeline.writtenHead?, h.calls]

theorem stop (h : AtRest p) : { p with closing := true } = p := by
  rw [← h.closing]

theorem close (h : AtRest p) : p.close = (.ok (), p) := by
  rw [Pipeline.close, h.flush]
  dsimp only
  rw [h.stop, drain_waiting h.writtenHead?]

theorem abandon (h : AtRest p) : p.abandon = p := by
  have hnothing : (p.buffer.isEmpty || p.state.isFaulted) = true := by simp [h.buffer]
  simp only [Pipeline.abandon, hnothing, if_true]
  exact h.stop

theorem arrive (h : AtRest p) (event : SourceEvent) : AtRest (p.arrive event) :=
  ⟨h.closing, h.buffer, h.calls⟩

end AtRest

end Pipeline

namespace Client

open Pipeline (AtRest Resolved)

/-- No step but an arrival changes a pipeline at rest. -/
theorem atRest_step {operation : Operation} {c : Client} (h : AtRest c.pipeline)
    (hquiet : operation.arrival? = none) : (c.step operation).2.pipeline = c.pipeline := by
  cases operation with
  | queue request =>
    rcases h.queue request with ⟨fault, hqueue⟩
    simp [step, hqueue]
  | flush => simp [step, h.flush]
  | service request =>
    rcases h.service request with ⟨fault, hservice⟩
    simp [step, hservice]
  | close => simp [step, h.close]
  | handle number operation => exact step_handle_pipeline number operation c
  | arrive event => contradiction
  | readStep => exact Pipeline.readStep_waiting h.writtenHead?
  | drain => exact Pipeline.drain_waiting h.writtenHead?

/-- A run leaves a pipeline at rest as it was, with what has arrived since. -/
theorem atRest_run {later : List Operation} {c : Client} (h : AtRest c.pipeline) :
    (run later c).2.pipeline = c.pipeline.receive (arrivals later) := by
  induction later generalizing c with
  | nil => simp [run, arrivals, Pipeline.receive, Source.receive]
  | cons operation rest ih =>
    simp only [run]
    cases harrival : operation.arrival? with
    | none =>
      have hsame := atRest_step h harrival
      rw [ih (hsame ▸ h), hsame]
      simp [arrivals, harrival]
    | some event =>
      cases operation with
      | arrive event =>
        rw [ih (h.arrive event)]
        simp [step, Pipeline.receive, Source.receive, Pipeline.arrive, Source.append, arrivals,
          Operation.arrival?]
      | _ => contradiction

/-! ## Both ends -/

/-- Every handle that was given out during a run has its call resolved. -/
def AllResolved (schedule : List Operation) (start : Client) (replies : List (Result Response))
    (p : Pipeline) : Prop :=
  ∀ first second h, schedule = first ++ second → some h ∈ (run first start).2.handles →
    Resolved replies p h.call

/-- What a pipeline that was closed does from then on. -/
structure Retired (closed p : Pipeline) : Prop where
  pending : p.pending = 0
  buffered : p.buffered = 0
  queue : ∀ request, ∃ fault, p.queue request = (.error (.faulted fault), p)
  flush : p.flush = (.ok (), p)
  close : p.close = (.ok (), p)
  /-- Nothing is written, also when the pipeline is given up. -/
  sink : p.sink = closed.sink
  abandon : p.abandon = p
  state : p.state = closed.state
  results : p.results = closed.results

theorem retired_run {c : Client} (h : AtRest c.pipeline) (later : List Operation) :
    Retired c.pipeline (run later c).2.pipeline := by
  rw [atRest_run h]
  have hrest : AtRest (c.pipeline.receive (arrivals later)) := ⟨h.closing, h.buffer, h.calls⟩
  refine ⟨?_, ?_, hrest.queue, hrest.flush, hrest.close, rfl, hrest.abandon, rfl, rfl⟩
  · rw [Pipeline.pending, hrest.calls, List.length_nil]
  · rw [Pipeline.buffered, hrest.buffer, List.length_nil]

/-- Once a pipeline takes no more requests and the stream of replies has ended, a reader that
runs to its end resolves every call. -/
theorem resolved_drain {source : Source} {writes : List (Option WriteEvent)}
    {laterWrites : WriteEvent} {flushes : List (Option TransportError)}
    {laterFlushes : Option TransportError} {config : Config} {j : Journal} {c : Client}
    (path : Pipeline.Path
      (.onStream source (.scripted writes laterWrites flushes laterFlushes) config) j c.pipeline)
    (hclosing : c.pipeline.closing = true) (later : List Operation)
    (hsends : source.MaySend (j.arrived ++ arrivals later))
    (hends : (source.receive (j.arrived ++ arrivals later)).Ends) :
    ∀ call ∈ j.pushed, Resolved
      (Response.readEach (j.pushed.map Call.command)
        (config.channel (source.receive (j.arrived ++ arrivals later)))).1
      (run later c).2.pipeline.drain call := by
  have hrun := path.trans (path_run later c)
  have hpushed : (j.append (journal later c)).pushed = j.pushed := by
    simp [Journal.append, (path_run later c).pushed_of_closing hclosing]
  have harrived : (j.append (journal later c)).arrived = j.arrived ++ arrivals later := by
    simp [Journal.append, journal_arrived]
  have htracked := hrun.tracked
    (.onStream source writes laterWrites flushes laterFlushes config)
  have hstopped := (path_run later c).closing hclosing
  rw [← harrived] at hsends hends ⊢
  have hcalls := Pipeline.drain_calls (hrun.ledger hsends) htracked hends
    fun hready => (htracked.ready hready).closing hstopped
  have hdrained := hrun.trans (Pipeline.path_drain _)
  rw [Journal.append_empty] at hdrained
  intro call hcall
  rw [← hpushed] at hcall ⊢
  exact (hdrained.ledger hsends).resolved hdrained.ordered hcalls hcall

/-- Whatever a user did with a pipeline: closing it and giving it up both write what is held
back, unless it is faulted, and resolve every handle that was given out, once the stream of
replies has ended and the reader has run to its end.  If the stream has ended before, closing
does not return earlier, and a pipeline that was closed refuses requests and does nothing any
more. -/
theorem shutDown_resolved (source : Source) (writes : List (Option WriteEvent))
    (laterWrites : WriteEvent) (flushes : List (Option TransportError))
    (laterFlushes : Option TransportError) (config : Config) (schedule : List Operation) :
    let sink := Sink.scripted writes laterWrites flushes laterFlushes
    let start := ofPipeline (.onStream source sink config)
    let before := (run schedule start).2
    let closed := (before.step .close).2
    let calls := (journal schedule start).pushed
    let replies := fun events : List SourceEvent =>
      (Response.readEach (calls.map Call.command) (config.channel (source.receive events))).1
    (∀ last ∈ [closed, before.abandon],
      last.pipeline.sink = before.pipeline.writtenOut ∧
        ∀ later, source.MaySend (arrivals (schedule ++ later)) →
          (source.receive (arrivals (schedule ++ later))).Ends →
            AllResolved schedule start (replies (arrivals (schedule ++ later)))
              (run later last).2.pipeline.drain) ∧
    (source.MaySend (arrivals schedule) → (source.receive (arrivals schedule)).Ends →
      AllResolved schedule start (replies (arrivals schedule)) closed.pipeline ∧
        ∀ later, Retired closed.pipeline (run later closed).2.pipeline) := by
  intro sink start before closed calls replies
  have hbefore := path_run schedule start
  have hclosed := hbefore.trans (Pipeline.path_close before.pipeline)
  have habandon := hbefore.trans (Pipeline.path_abandon before.pipeline)
  rw [Journal.append_empty] at hclosed habandon
  have haside := Pipeline.aside_drain { before.pipeline.flush.2 with closing := true }
  have hends : ∀ last : Client, Pipeline.Path start.pipeline (journal schedule start)
      last.pipeline → last.pipeline.closing = true → ∀ later,
      source.MaySend (arrivals (schedule ++ later)) →
        (source.receive (arrivals (schedule ++ later))).Ends →
          AllResolved schedule start (replies (arrivals (schedule ++ later)))
            (run later last).2.pipeline.drain := by
    intro last hpath hclosing later hsends hends
    have harrived : arrivals (schedule ++ later) =
        (journal schedule start).arrived ++ arrivals later := by
      rw [journal_arrived, arrivals, arrivals, arrivals, List.filterMap_append]
    rw [harrived] at hsends hends ⊢
    rintro first second h rfl hheld
    have hpushed : h.call ∈ (liveJournal (first ++ second) none start).pushed :=
      pushed_of_held hheld
    exact resolved_drain hpath hclosing later hsends hends _ hpushed
  refine ⟨?_, ?_⟩
  · intro last hlast
    rcases List.mem_pair.1 hlast with rfl | rfl
    · refine ⟨Pipeline.close_sink ?_, hends _ hclosed haside.closing⟩
      intro hready
      have htracked := hbefore.tracked
        (.onStream source writes laterWrites flushes laterFlushes config)
      exact (htracked.ready hready).closing
    · exact ⟨Pipeline.abandon_sink _, hends _ habandon rfl⟩
  · intro hsends hended
    have hall := hends closed hclosed haside.closing [] (by rwa [List.append_nil])
      (by rwa [List.append_nil])
    rw [← journal_arrived schedule start] at hsends hended
    have hrest : AtRest closed.pipeline :=
      ⟨haside.closing, haside.buffer.trans (Pipeline.flush_buffer _),
        Pipeline.close_calls hbefore hsends hended⟩
    refine ⟨?_, retired_run hrest⟩
    rwa [List.append_nil, run, Pipeline.drain_waiting hrest.writtenHead?] at hall

/-- Two requests held back when the pipeline is closed, and a stream that ends after the first
reply. -/
theorem shutDown_resolved_heldBack :
    let source : Source := ⟨[.data (Bytes.ofText "+PONG\r\n")], .gone⟩
    let config : Config := { Config.default with writeMode := .chunked }
    let schedule : List Operation := [.queue ⟨.ping, []⟩, .queue ⟨.dbSize, []⟩]
    let start := ofPipeline (.onStream source .accepting config)
    let before := (run schedule start).2
    let replies := (Response.readEach [.ping, .dbSize] (config.channel source)).1
    before.pipeline.buffered = 14 ∧ before.handles.length = 2 ∧ source.Ends ∧
      AllResolved schedule start replies (before.step .close).2.pipeline := by
  intro source config schedule start before replies
  have hsends : source.MaySend (arrivals schedule) := fun _ => rfl
  have hends : source.Ends := ⟨by decide, Or.inl rfl⟩
  have hclosed := (shutDown_resolved source [] .takesAll [] none config schedule).2 hsends hends
  exact ⟨by decide, by decide, hends, hclosed.1⟩

end Client

end KeyValueClient
