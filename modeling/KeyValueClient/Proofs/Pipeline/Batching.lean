import KeyValueClient.Proofs.Pipeline.Draining
import KeyValueClient.Proofs.Pipeline.Serving

/-!
# Batches of requests

A chunked pipeline holds the bytes of its requests back until it is flushed, or until a request
brings them to the threshold: that request is then written with all that was held back before
it.  So less than the threshold is held back between operations, and without a threshold
nothing is written before a flush.

Main results:

- Theorem `Pipeline.batched_queue`: all the ways in which a chunked pipeline takes a request.
- Theorem `Client.step_below`: every operation leaves less than the threshold held back.
- Theorem `Client.run_quiet`: without a threshold only flushes write.
- Theorem `Client.run_batching`: what requests and flushes do after every run.
-/

namespace KeyValueClient

namespace Pipeline

open Request (wireAll)

variable {p q : Pipeline}

/-! ## Taking a request -/

/-- How a chunked pipeline answers a request. -/
inductive Batched (request : Request) (p : Pipeline) : Result Call × Pipeline → Prop
  /-- No more requests are taken. -/
  | closed {e : Error} (refuses : p.checkAccepting = .error e) : Batched request p (.error e, p)
  /-- The request fails its checks. -/
  | refused {e : Error} (fails : request.check = .error e) : Batched request p (.error e, p)
  /-- The request is held back. -/
  | held (below : (p.held request).reachedThreshold = false) :
      Batched request p (.ok (p.nextCall request), p.held request)
  /-- The request brings what is held back to the threshold. -/
  | reached (above : (p.held request).reachedThreshold = true) :
      Batched request p
        ((p.held request).flush.1.map fun _ => p.nextCall request, (p.held request).flush.2)

/-- These are all the ways in which a chunked pipeline takes a request. -/
theorem batched_queue (request : Request) (hmode : p.writeMode = .chunked) :
    Batched request p (p.queue request) := by
  cases haccept : p.checkAccepting with
  | error e =>
    have hqueue : p.queue request = (.error e, p) := by rw [queue, haccept]
    rw [hqueue]
    exact .closed haccept
  | ok _ =>
    rcases checkAccepting_ok_iff.1 haccept with ⟨hready, hopen⟩
    cases hcheck : request.check with
    | error e =>
      have hqueue : p.queue request = (.error e, p) := by
        rw [queue, haccept]
        simp only [Request.appendTo_error hcheck]
      rw [hqueue]
      exact .refused hcheck
    | ok _ =>
      rw [queue_chunked hready hopen hcheck hmode]
      split_ifs with hreached
      · exact .reached hreached
      · exact .held (by simpa using hreached)

/-- Taking a request does not close a chunked pipeline. -/
theorem closing_queue (request : Request) (hmode : p.writeMode = .chunked) :
    (p.queue request).2.closing = p.closing := by
  have h := batched_queue request hmode
  generalize p.queue request = queued at h ⊢
  cases h with
  | reached => simp [held]
  | _ => rfl

/-- What queueing the request, flushing and the reader preserve, serving the request
preserves. -/
theorem service_preserves {Inv : Pipeline → Prop} {request : Request}
    (hqueue : Inv (p.queue request).2) (hflush : ∀ {q : Pipeline}, Inv q → Inv q.flush.2)
    (hdrain : ∀ {q : Pipeline}, Inv q → Inv q.drain) : Inv (p.service request).2 := by
  unfold service
  rcases hqueued : p.queue request with ⟨queued, q⟩
  rw [hqueued] at hqueue
  cases queued with
  | error e => exact hqueue
  | ok call =>
    have hafter := hflush hqueue
    rcases hflushed : q.flush with ⟨flushed, r⟩
    rw [hflushed] at hafter
    cases flushed with
    | error e => simpa [hflushed] using hafter
    | ok _ => simpa [hflushed] using hdrain hafter

theorem closing_service (request : Request) (hmode : p.writeMode = .chunked) :
    (p.service request).2.closing = p.closing := by
  let Inv : Pipeline → Prop := fun q => q.closing = p.closing
  have hqueue : Inv (p.queue request).2 := closing_queue request hmode
  exact service_preserves hqueue (fun hsame => (flush_closing _).trans hsame)
    fun hsame => (aside_drain _).closing.trans hsame

/-! ## The threshold -/

/-- No move changes the threshold. -/
theorem Move.flushThreshold {j : Journal} (move : Move p j q) :
    q.flushThreshold = p.flushThreshold := by
  cases move <;> rfl

theorem Path.flushThreshold {j : Journal} (path : Path p j q) :
    q.flushThreshold = p.flushThreshold := by
  induction path with
  | refl => rfl
  | snoc _ move ih => exact move.flushThreshold.trans ih

theorem reachedThreshold_eq_false_iff :
    p.reachedThreshold = false ↔ ∀ t, p.flushThreshold = some t → p.buffered < t := by
  unfold reachedThreshold buffered
  cases p.flushThreshold <;> simp

/-- What is held back has not reached the threshold, which no empty buffer does. -/
structure Below (p : Pipeline) : Prop where
  positive : p.flushThreshold ≠ some 0
  below : p.reachedThreshold = false

namespace Below

theorem of_buffer (h : p.Below) (hthreshold : q.flushThreshold = p.flushThreshold)
    (hbuffer : q.buffer = p.buffer) : q.Below := by
  refine ⟨hthreshold ▸ h.positive, ?_⟩
  rw [← h.below, reachedThreshold, reachedThreshold, hthreshold, hbuffer]

theorem of_nil (h : p.Below) (hthreshold : q.flushThreshold = p.flushThreshold)
    (hbuffer : q.buffer = []) : q.Below := by
  refine ⟨hthreshold ▸ h.positive, ?_⟩
  rw [reachedThreshold_eq_false_iff]
  intro t ht
  have hpositive : t ≠ 0 := by
    rintro rfl
    exact h.positive (hthreshold ▸ ht)
  rw [buffered, hbuffer, List.length_nil]
  omega

theorem flush (h : p.Below) : p.flush.2.Below :=
  h.of_nil (path_flush p).flushThreshold (flush_buffer p)

theorem drain (h : p.Below) : p.drain.Below :=
  h.of_buffer (path_drain p).flushThreshold (aside_drain p).buffer

theorem queue (h : p.Below) (hmode : p.writeMode = .chunked) (request : Request) :
    (p.queue request).2.Below := by
  have hbatched := batched_queue request hmode
  generalize p.queue request = queued at hbatched ⊢
  cases hbatched with
  | held below => exact ⟨h.positive, below⟩
  | reached => exact h.of_nil (path_flush _).flushThreshold (flush_buffer _)
  | _ => exact h

theorem service (h : p.Below) (hmode : p.writeMode = .chunked) (request : Request) :
    (p.service request).2.Below :=
  service_preserves (h.queue hmode request) Below.flush Below.drain

theorem close (h : p.Below) : p.close.2.Below := by
  have hstopped : ({ p.flush.2 with closing := true } : Pipeline).Below :=
    h.flush.of_buffer rfl rfl
  exact hstopped.drain

end Below

/-! ## A pipeline that is ready -/

/-- A flush that does not fail to write leaves nothing held back. -/
theorem flush_written {log : List Request} (h : InStep log p) (hready : p.state = .ready)
    (hopen : p.closing = false) (hwritten : p.flush.2.sink.failed = false) :
    ∃ sink, p.flush = (.ok (), { p with sink := sink, buffer := [], unwritten := 0 }) ∧
      sink.sent = p.sink.sent ++ p.buffer := by
  have hflushed := flushed_flush p
  generalize p.flush = flushed at hwritten hflushed ⊢
  cases hflushed with
  | nothing hempty =>
    have hunwritten := h.unwritten_eq_zero hempty
    refine ⟨p.sink, ?_, by simp [hempty]⟩
    rw [← hunwritten, ← hempty]
  | refused refuses =>
    rw [checkAccepting_ok_iff.2 ⟨hready, hopen⟩] at refuses
    contradiction
  | delivered ready write => exact ⟨_, rfl, (Sink.transmit_sent write).1⟩
  | lost ready write =>
    have hfailed := (Sink.transmit_error write).1
    dsimp only [failAll] at hwritten
    rw [hfailed] at hwritten
    contradiction

/-- What requests and flushes do on a chunked pipeline that is ready, with these requests
submitted before.  Writes are those that do not fail. -/
structure Batching (config : Config) (log : List Request) (p : Pipeline) : Prop where
  /-- What was sent and what is held back are the requests, in order. -/
  wire : p.sink.sent ++ p.buffer = wireAll config.encoding log
  /-- What is held back are the requests of the calls that are not written. -/
  latest : p.buffer = wireAll config.encoding (log.drop (log.length - p.unwritten))
  /-- A request that fails its checks changes nothing. -/
  refused : ∀ request e, request.check = .error e → p.queue request = (.error e, p)
  /-- A valid request that leaves less than the threshold is held back, and nothing is
  written. -/
  held : ∀ request, request.check = .ok () →
    (∀ t, config.flushThreshold = some t →
      p.buffered + (request.wire config.encoding).length < t) →
    p.queue request = (.ok (p.nextCall request), p.held request)
  /-- A valid request that reaches the threshold is written, behind all that was held back. -/
  reached : ∀ request t, request.check = .ok () → config.flushThreshold = some t →
    t ≤ p.buffered + (request.wire config.encoding).length →
    (p.queue request).2.sink.failed = false →
      ∃ sink, p.queue request = (.ok (p.nextCall request), p.sent request sink) ∧
        sink.sent = p.sink.sent ++ (p.buffer ++ request.wire config.encoding)
  /-- A flush writes just what is held back, and a second one writes nothing. -/
  flush : p.flush.2.sink.failed = false →
    ∃ sink, p.flush = (.ok (), { p with sink := sink, buffer := [], unwritten := 0 }) ∧
      sink.sent = p.sink.sent ++ p.buffer ∧ p.flush.2.flush = (.ok (), p.flush.2)

/-- A ready chunked pipeline on which requests were submitted takes them in batches. -/
theorem InStep.batching {config : Config} {log : List Request} (h : InStep log p)
    (hready : p.state = .ready) (hopen : p.closing = false) (hmode : p.writeMode = .chunked)
    (hencoding : p.encoding = config.encoding)
    (hthreshold : p.flushThreshold = config.flushThreshold) : Batching config log p := by
  have haccept : p.checkAccepting = .ok () := checkAccepting_ok_iff.2 ⟨hready, hopen⟩
  have hlength : ∀ request, (p.held request).buffered =
      p.buffered + (request.wire config.encoding).length := by
    intro request
    rw [buffered, Pipeline.held, List.length_append, hencoding, buffered]
  constructor
  · rw [← hencoding]
    exact h.wire
  · rw [← hencoding]
    exact h.held
  · intro request e hcheck
    rw [queue, haccept]
    simp only [Request.appendTo_error hcheck]
  · intro request hcheck hbelow
    have hshort : (p.held request).reachedThreshold = false := by
      rw [reachedThreshold_eq_false_iff, hlength]
      intro t ht
      exact hbelow t (hthreshold ▸ ht)
    rw [queue_chunked hready hopen hcheck hmode, if_neg (by simp [hshort])]
  · intro request t hcheck ht habove hwritten
    have hlong : (p.held request).reachedThreshold = true := by
      rw [← Bool.not_eq_false, reachedThreshold_eq_false_iff, hlength]
      intro hbelow
      have hlt := hbelow t (by rw [← ht]; exact hthreshold)
      omega
    rw [queue_chunked hready hopen hcheck hmode, if_pos hlong] at hwritten ⊢
    rcases flush_written (inStep_held h request hopen hmode) hready hopen hwritten with
      ⟨sink, hflush, hsent⟩
    rw [hflush]
    refine ⟨sink, rfl, ?_⟩
    rw [hsent, Pipeline.held, hencoding]
  · intro hwritten
    rcases flush_written h hready hopen hwritten with ⟨sink, hflush, hsent⟩
    refine ⟨sink, hflush, hsent, ?_⟩
    rw [Pipeline.flush, flush_buffer]
    rfl

end Pipeline

/-! ## Runs -/

/-- An operation that writes whatever is held back. -/
def Operation.isWriting : Operation → Bool
  | .flush | .service _ | .close => true
  | _ => false

namespace Client

open Request (wireAll)

variable {c : Client}

/-- Queueing has the same effect on the pipeline, whatever handle is given out. -/
theorem step_queue_pipeline (request : Request) (c : Client) :
    (c.step (.queue request)).2.pipeline = (c.pipeline.queue request).2 := by
  simp only [step]
  split <;> simp [*]

/-- Every operation leaves less than the threshold held back. -/
theorem step_below (operation : Operation) (hmode : c.pipeline.writeMode = .chunked)
    (h : c.pipeline.Below) : (c.step operation).2.pipeline.Below := by
  cases operation with
  | queue request =>
    rw [step_queue_pipeline]
    exact h.queue hmode request
  | flush => exact h.flush
  | service request => exact h.service hmode request
  | close => exact h.close
  | handle number operation =>
    rw [step_handle_pipeline]
    exact h
  | arrive event => exact h.of_buffer rfl rfl
  | readStep =>
    exact h.of_buffer (Pipeline.path_readStep _).flushThreshold (Pipeline.aside_readStep _).buffer
  | drain => exact h.drain

theorem run_below {schedule : List Operation} (hmode : c.pipeline.writeMode = .chunked)
    (h : c.pipeline.Below) : (run schedule c).2.pipeline.Below := by
  induction schedule generalizing c with
  | nil => exact h
  | cons operation rest ih =>
    have hstill := (path_step operation c).settings.2.trans hmode
    exact ih hstill (step_below operation hmode h)

/-- Without a threshold an operation that is no flush writes nothing. -/
theorem step_quiet {operation : Operation} (hmode : c.pipeline.writeMode = .chunked)
    (hthreshold : c.pipeline.flushThreshold = none) (hquiet : operation.isWriting = false) :
    (c.step operation).2.pipeline.sink = c.pipeline.sink := by
  cases operation with
  | queue request =>
    rw [step_queue_pipeline]
    have hbatched := Pipeline.batched_queue request hmode
    generalize c.pipeline.queue request = queued at hbatched ⊢
    cases hbatched with
    | reached above => simp [Pipeline.reachedThreshold, Pipeline.held, hthreshold] at above
    | _ => rfl
  | handle number operation => rw [step_handle_pipeline]
  | arrive event => rfl
  | readStep => exact (Pipeline.aside_readStep _).sink
  | drain => exact (Pipeline.aside_drain _).sink
  | _ => contradiction

/-- Without a threshold only flushes write. -/
theorem run_quiet {later : List Operation} (hmode : c.pipeline.writeMode = .chunked)
    (hthreshold : c.pipeline.flushThreshold = none)
    (hquiet : ∀ operation ∈ later, operation.isWriting = false) :
    (run later c).2.pipeline.sink = c.pipeline.sink := by
  induction later generalizing c with
  | nil => rfl
  | cons operation rest ih =>
    have hpath := path_step operation c
    have hfirst := step_quiet hmode hthreshold (hquiet operation List.mem_cons_self)
    have hrest := ih (hpath.settings.2.trans hmode) (hpath.flushThreshold.trans hthreshold)
      fun operation hmem => hquiet operation (List.mem_cons_of_mem _ hmem)
    exact hrest.trans hfirst

/-- Only closing a chunked pipeline closes it. -/
theorem step_closing {operation : Operation} (hmode : c.pipeline.writeMode = .chunked)
    (hopen : operation ≠ .close) :
    (c.step operation).2.pipeline.closing = c.pipeline.closing := by
  cases operation with
  | queue request =>
    rw [step_queue_pipeline]
    exact Pipeline.closing_queue request hmode
  | flush => exact Pipeline.flush_closing _
  | service request => exact Pipeline.closing_service request hmode
  | close => exact absurd rfl hopen
  | handle number operation => rw [step_handle_pipeline]
  | arrive event => rfl
  | readStep => exact (Pipeline.aside_readStep _).closing
  | drain => exact (Pipeline.aside_drain _).closing

theorem run_closing {schedule : List Operation} (hmode : c.pipeline.writeMode = .chunked)
    (hopen : .close ∉ schedule) :
    (run schedule c).2.pipeline.closing = c.pipeline.closing := by
  induction schedule generalizing c with
  | nil => rfl
  | cons operation rest ih =>
    rw [List.mem_cons, not_or] at hopen
    have hstill := (path_step operation c).settings.2.trans hmode
    exact (ih hstill hopen.2).trans (step_closing hmode (Ne.symm hopen.1))

/-- In every run of a chunked pipeline that is not closed, less than the threshold is held back
after each operation, and without a threshold only flushes write.  While the pipeline is ready,
requests are taken in batches. -/
theorem run_batching (source : Source) (writes : List (Option WriteEvent))
    (laterWrites : WriteEvent) (flushes : List (Option TransportError))
    (laterFlushes : Option TransportError) (config : Config) (hvalid : config.check = .ok ())
    (hmode : config.writeMode = .chunked) (schedule : List Operation)
    (hopen : .close ∉ schedule) :
    let sink := Sink.scripted writes laterWrites flushes laterFlushes
    let start := ofPipeline (.onStream source sink config)
    let c := (run schedule start).2
    (∀ t, config.flushThreshold = some t → c.pipeline.buffered < t) ∧
      (config.flushThreshold = none → ∀ later : List Operation,
        (∀ operation ∈ later, operation.isWriting = false) →
          (run later c).2.pipeline.sink = c.pipeline.sink) ∧
      (c.pipeline.state = .ready →
        c.pipeline.Batching config (journal schedule start).submitted) := by
  intro sink start c
  have hpath := path_run schedule start
  have hchunked : c.pipeline.writeMode = .chunked := hpath.settings.2.trans hmode
  have hthreshold : c.pipeline.flushThreshold = config.flushThreshold := hpath.flushThreshold
  have hempty : start.pipeline.Below := by
    have hpositive := (config.check_ok_iff.1 hvalid).2.2
    refine ⟨hpositive, ?_⟩
    rw [Pipeline.reachedThreshold_eq_false_iff]
    intro t ht
    exact Nat.pos_of_ne_zero fun hzero => hpositive (hzero ▸ ht)
  refine ⟨?_, ?_, ?_⟩
  · intro t ht
    have hbelow : c.pipeline.Below := run_below hmode hempty
    exact Pipeline.reachedThreshold_eq_false_iff.1 hbelow.below t (hthreshold.trans ht)
  · intro hnone later hquiet
    exact run_quiet hchunked (hthreshold.trans hnone) hquiet
  · intro hready
    have htracked := hpath.tracked
      (.onStream source writes laterWrites flushes laterFlushes config)
    have hstillOpen : c.pipeline.closing = false := run_closing hmode hopen
    exact (htracked.ready hready).batching hready hstillOpen hchunked hpath.settings.1 hthreshold

/-- A request that reaches the threshold just so, behind one that is held back and one that fails
its checks, over a writer that is interrupted and takes a few bytes at a time. -/
theorem run_batching_justReached :
    let sink := Sink.scripted [some (.takes 2), none] (.takes 5) [] none
    let config : Config := { Config.default with writeMode := .chunked, flushThreshold := some 14 }
    let schedule : List Operation := [.queue ⟨.ping, []⟩, .queue ⟨.get, []⟩, .readStep]
    let start := ofPipeline (.onStream ⟨[], .waiting⟩ sink config)
    let p := (run schedule start).2.pipeline
    (config.check = .ok () ∧ config.writeMode = .chunked ∧ .close ∉ schedule ∧
        p.state = .ready) ∧
      p.buffered < 14 ∧ p.Batching config (journal schedule start).submitted ∧
      ∃ sink, p.queue ⟨.dbSize, []⟩ = (.ok (p.nextCall ⟨.dbSize, []⟩), p.sent ⟨.dbSize, []⟩ sink) ∧
        sink.sent = p.sink.sent ++ (p.buffer ++ Request.wire .shaped ⟨.dbSize, []⟩) := by
  intro sink config schedule start p
  have hvalid : config.check = .ok () := rfl
  have hopen : Operation.close ∉ schedule := by decide
  have hready : p.state = .ready := by decide +kernel
  rcases run_batching ⟨[], .waiting⟩ [some (.takes 2), none] (.takes 5) [] none config hvalid rfl
    schedule hopen with ⟨hbelow, -, hbatching⟩
  have hlength : 14 ≤ p.buffered + (Request.wire .shaped ⟨.dbSize, []⟩).length := by
    decide +kernel
  have hwritten : (p.queue ⟨.dbSize, []⟩).2.sink.failed = false := by decide +kernel
  exact ⟨⟨hvalid, rfl, hopen, hready⟩, hbelow 14 rfl, hbatching hready,
    (hbatching hready).reached ⟨.dbSize, []⟩ 14 rfl rfl hlength hwritten⟩

end Client

end KeyValueClient
