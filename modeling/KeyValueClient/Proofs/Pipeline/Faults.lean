import KeyValueClient.Proofs.Pipeline.Correlation

/-!
# Faults end a pipeline at once

Whatever ends a pipeline, a reply or a write, answers every call that waited, and
answers each call once.  The results are responses, then at most the one error that the
reader met, and then only the fault.  Nothing changes them afterwards, and no byte is
written any more, even if some were still held back.

Main results:

- Theorem `Pipeline.Path.frozen`: what happens to a faulted pipeline leaves its fault,
  its results and its sink alone.
- Theorem `Client.live_settled`: a pipeline that is faulted has answered every call
  exactly once, and stays as it is.
-/

namespace KeyValueClient

namespace Pipeline

/-! ## Nothing happens any more -/

/-- The second pipeline is the first, as far as its fault, its calls, their results and
its sink are concerned. -/
structure Frozen (p q : Pipeline) : Prop where
  state : q.state = p.state
  calls : q.calls = p.calls
  results : q.results = p.results
  sink : q.sink = p.sink

theorem Frozen.refl (p : Pipeline) : Frozen p p :=
  ⟨rfl, rfl, rfl, rfl⟩

theorem Frozen.trans {p q r : Pipeline} (first : Frozen p q) (second : Frozen q r) :
    Frozen p r :=
  ⟨second.state.trans first.state, second.calls.trans first.calls,
    second.results.trans first.results, second.sink.trans first.sink⟩

/-- A faulted pipeline takes no request, writes nothing and answers nothing. -/
theorem Move.frozen {p q : Pipeline} {j : Journal} {fault : Fault}
    (hfault : p.state = .faulted fault) (move : Move p j q) : Frozen p q := by
  have hbusy : p.state ≠ .ready := by
    rw [hfault]
    simp
  cases move with
  | discard => exact ⟨rfl, rfl, rfl, rfl⟩
  | stop => exact ⟨rfl, rfl, rfl, rfl⟩
  | arrive event => exact ⟨rfl, rfl, rfl, rfl⟩
  | hold hready => exact absurd hready hbusy
  | send hready => exact absurd hready hbusy
  | sendFails runs hready => exact absurd hready hbusy
  | deliver hready => exact absurd hready hbusy
  | deliverFails runs hready => exact absurd hready hbusy
  | answer hready => exact absurd hready hbusy
  | answerLast hready => exact absurd hready hbusy
  | answerError hready => exact absurd hready hbusy

/-- What happens to a faulted pipeline leaves its fault, its results and its sink
alone. -/
theorem Path.frozen {p q : Pipeline} {j : Journal} {fault : Fault}
    (hfault : p.state = .faulted fault) (path : Path p j q) : Frozen p q := by
  induction path with
  | refl => exact .refl p
  | snoc _ move ih =>
    have hstill := ih.state.trans hfault
    exact ih.trans (move.frozen hstill)

theorem frozen_peerGone (p : Pipeline) : Frozen p p.peerGone :=
  ⟨rfl, rfl, rfl, rfl⟩

/-! ## How the results end -/

/-- What stands between the responses and the faults: at most one error, which is no
fault itself and has become the fault. -/
inductive Met (fault : Fault) : List (Call × Result Response) → Prop
  | nothing : Met fault []
  | error (call : Call) {e : Error} (original : IsOriginal (.error e))
      (cause : fault = .ofError e) : Met fault [(call, .error e)]

/-- The replies that were read are responses and at most one error. -/
theorem Ended.blocks {ch : Channel} {sink : Sink} {fault : Fault}
    {read : List (Call × Result Response)} (h : Ended ch sink fault read) :
    ∃ answered met, read = answeredEntries answered ++ met ∧ Met fault met := by
  cases h with
  | @lost answered _ answers failed => exact ⟨answered, [], by simp, .nothing⟩
  | @closed answered _ _ call response answers read terminal cause =>
    exact ⟨answered ++ [(call, response)], [], by simp, .nothing⟩
  | @broken answered _ _ call response e answers read arrived cause =>
    have horiginal : IsOriginal (.error e) := by
      intro earlier hsame
      injection hsame with hsame
      exact (Response.isStream_of_read read).ne_faulted earlier hsame
    exact ⟨answered, [(call, .error e)], rfl, .error call horiginal cause⟩

/-- A faulted pipeline has answered each call once: with a response, with the error that
the reader met, or with the fault. -/
structure Settled (channel : Channel) (calls : List Call) (fault : Fault) (p : Pipeline) :
    Prop where
  /-- No call waits. -/
  empty : p.calls = []
  pending : p.pending = 0
  /-- Results stand in the order of the queue. -/
  order : p.results.map Prod.fst = calls
  once : ∀ call ∈ calls, (p.results.map Prod.fst).count call = 1
  /-- First come responses, then at most one error, and then only the fault; what comes
  before the fault is what the replies are read as. -/
  blocks : ∃ answered met failed,
    p.results = answeredEntries answered ++ met ++ failedEntries fault failed ∧
      Met fault met ∧
      (Response.readEach (commandsOf (answeredEntries answered ++ met)) channel).1 =
        (answeredEntries answered ++ met).map Prod.snd

theorem Ledger.settled {ch : Channel} {p : Pipeline} {j : Journal} {fault : Fault}
    (hledger : Ledger ch p) (hordered : Ordered j p) (hfault : p.state = .faulted fault) :
    Settled ch j.pushed fault p := by
  rcases hledger.ended_of_faulted hfault with ⟨hcalls, read, failed, hresults, hended⟩
  have horder : p.results.map Prod.fst = j.pushed := by
    rw [← hordered.history, history, hcalls, List.append_nil]
  rcases hended.blocks with ⟨answered, met, rfl, hmet⟩
  refine ⟨hcalls, ?_, horder, ?_, answered, met, failed, hresults, hmet, ?_⟩
  · rw [pending, hcalls, List.length_nil]
  · intro call hcall
    rw [horder]
    exact List.count_eq_one_of_mem hordered.nodup_pushed hcall
  · exact hended.replies.1

end Pipeline

namespace Client

open Pipeline (Frozen Settled)

/-! ## Handles of a whole life -/

theorem journal_append (first second : List Operation) (c : Client) :
    journal (first ++ second) c = (journal first c).append (journal second (run first c).2) := by
  induction first generalizing c with
  | nil => simp [journal, run]
  | cons operation rest ih => simp [journal, run, ih, Journal.append_assoc]

/-- A handle that was held at any time waits for a call that joined the queue. -/
theorem pushed_of_held {first second : List Operation} {afterwards : Option (List Operation)}
    {p : Pipeline} {h : Handle} (hheld : some h ∈ (run first (ofPipeline p)).2.handles) :
    h.call ∈ (liveJournal (first ++ second) afterwards (ofPipeline p)).pushed := by
  have hfirst : h.call ∈ (journal first (ofPipeline p)).pushed := by
    rcases run_handles hheld with hpushed | ⟨_, hnone, _⟩
    · exact hpushed
    · simp [ofPipeline] at hnone
  have hboth : h.call ∈ (journal (first ++ second) (ofPipeline p)).pushed := by
    rw [journal_append]
    exact List.mem_append.2 (Or.inl hfirst)
  cases afterwards with
  | none => exact hboth
  | some later => exact List.mem_append.2 (Or.inl hboth)

/-! ## Faulted pipelines -/

theorem frozen_finish {c : Client} {fault : Fault} (hfault : c.pipeline.state = .faulted fault) :
    Frozen c.pipeline c.finish.pipeline := by
  have habandon := (Pipeline.path_abandon c.pipeline).frozen hfault
  have hgone := habandon.trans (Pipeline.frozen_peerGone _)
  have hstill := hgone.state.trans hfault
  exact hgone.trans ((Pipeline.path_drain _).frozen hstill)

/-- A pipeline that is faulted, at any time before or after the user gave it up, has
answered every call exactly once, and so the call of every handle that was ever given
out.  From then on its fault, its results and its sink stay the same and it refuses
every request, whatever else happens. -/
theorem live_settled (source : Source) (sink : Sink) (config : Config)
    (schedule : List Operation) (afterwards : Option (List Operation)) (fault : Fault)
    (hsends : source.MaySend (arrivals (schedule ++ afterwards.getD []))) :
    let start := ofPipeline (.onStream source sink config)
    let calls := (liveJournal schedule afterwards start).pushed
    let channel := config.channel (source.receive (arrivals (schedule ++ afterwards.getD [])))
    let faulted := live schedule afterwards start
    faulted.pipeline.state = .faulted fault →
      Settled channel calls fault faulted.pipeline ∧
      (∀ first second h, schedule = first ++ second → some h ∈ (run first start).2.handles →
        (faulted.pipeline.results.map Prod.fst).count h.call = 1) ∧
      (∀ later, Frozen faulted.pipeline (run later faulted).2.pipeline ∧
        (∀ request, ((run later faulted).2.pipeline.queue request).1 =
          .error (.faulted fault)) ∧
        Frozen faulted.pipeline (run later faulted).2.abandon.pipeline ∧
        Frozen faulted.pipeline (run later faulted).2.finish.pipeline) := by
  intro start calls channel faulted hfault
  have hpath := path_live schedule afterwards start
  have hledger : Pipeline.Ledger channel faulted.pipeline := by
    have h := Pipeline.Path.ledger hpath (by rwa [liveJournal_arrived])
    rwa [liveJournal_arrived] at h
  have hsettled : Settled channel calls fault faulted.pipeline :=
    hledger.settled (Pipeline.Path.ordered hpath) hfault
  refine ⟨hsettled, ?_, ?_⟩
  · rintro first second h rfl hheld
    exact hsettled.once _ (pushed_of_held hheld)
  · intro later
    have hlater := (path_run later faulted).frozen hfault
    have hstill := hlater.state.trans hfault
    refine ⟨hlater, ?_, ?_, ?_⟩
    · intro request
      rw [Pipeline.queue_faulted hstill]
    · exact hlater.trans ((Pipeline.path_abandon _).frozen hstill)
    · exact hlater.trans (frozen_finish hstill)

/-- Two requests held back, and a flush that fails. -/
theorem live_settled_failedFlush :
    let source : Source := ⟨[], .waiting⟩
    let sink := Sink.refusing (.reported "broken pipe")
    let config : Config := { Config.default with writeMode := .chunked }
    let schedule : List Operation := [.queue ⟨.ping, []⟩, .queue ⟨.dbSize, []⟩, .flush]
    let faulted := live schedule none (ofPipeline (.onStream source sink config))
    let calls := (liveJournal schedule none (ofPipeline (.onStream source sink config))).pushed
    source.MaySend (arrivals schedule) ∧
      faulted.pipeline.state = .faulted ⟨.io, "broken pipe"⟩ ∧
      Settled (config.channel (source.receive (arrivals schedule))) calls
        ⟨.io, "broken pipe"⟩ faulted.pipeline := by
  intro source sink config schedule faulted calls
  have hsends : source.MaySend (arrivals (schedule ++ [])) := by
    intro hsilence
    contradiction
  have hfault : faulted.pipeline.state = .faulted ⟨.io, "broken pipe"⟩ := by
    decide
  have hsettled := (live_settled source sink config schedule none _ hsends hfault).1
  exact ⟨hsends, hfault, hsettled⟩

end Client

end KeyValueClient
