import KeyValueClient.Proofs.Pipeline.Operations
import Mathlib.Logic.Relation

/-!
# When the fault hook runs

The fault hook wakes a reader that waits on a connection whose writer has failed.  While a
pipeline is in use, the hook follows the writer: it runs once when a transmission fails, and
for no other reason, and after that nothing is transmitted any more.  A pipeline that is given
up writes what it still holds back, and there the hook is left out: if this last transmission
fails, the hook does not run.

Main results:

- Theorem `Pipeline.Wrote.watched`: what one step transmits, and what the hook does about it.
- Theorem `Client.wrotes_run`: a run is made of such steps.
- Theorem `Client.live_hooked`: the hook follows the writer up to the moment when the
  pipeline is given up, and does not run from then on.
-/

namespace KeyValueClient

/-! ## Transmissions -/

namespace Sink

/-- The second sink is the first after some transmissions, which went in these ways. -/
inductive Transmits (s : Sink) : List (Except TransportError Unit) → Sink → Prop
  | nothing : Transmits s [] s
  | next {log : List (Except TransportError Unit)} {t u : Sink} {data : Bytes}
      {went : Except TransportError Unit} (before : Transmits s log t)
      (write : t.transmit data = (went, u)) : Transmits s (log ++ [went]) u

theorem writeAll_ok_failed {s after : Sink} {data : Bytes}
    (h : s.writeAll data = (.ok (), after)) : after.failed = s.failed := by
  simp only [writeAll] at h
  split at h
  · injection h with _ hafter
    rw [← hafter]
  · simp at h

theorem flush_ok_failed {s after : Sink} (h : s.flush = (.ok (), after)) :
    after.failed = s.failed := by
  unfold flush at h
  split at h
  · injection h with _ hafter
    rw [← hafter]
  · simp at h

/-- A transmission that goes well is no failure. -/
theorem transmit_ok_failed {s after : Sink} {data : Bytes}
    (h : s.transmit data = (.ok (), after)) : after.failed = s.failed := by
  unfold transmit at h
  rcases hwrite : s.writeAll data with ⟨written, mid⟩
  rw [hwrite] at h
  cases written with
  | ok _ => exact (flush_ok_failed h).trans (writeAll_ok_failed hwrite)
  | error cause => simp at h

/-- A sink that had not failed has failed if one of the transmissions has. -/
theorem Transmits.failed_iff {s t : Sink} {log : List (Except TransportError Unit)}
    (h : s.Transmits log t) (hsound : s.failed = false) :
    t.failed = true ↔ ∃ cause, .error cause ∈ log := by
  induction h with
  | nothing => simp [hsound]
  | @next log t u data went before write ih =>
    cases went with
    | ok _ => simp [transmit_ok_failed write, ih]
    | error cause => simp [(transmit_error write).1]

end Sink

/-- All transmissions went well and the hook has not run, or the last one failed and the hook
has run once. -/
inductive Heeded : List (Except TransportError Unit) → Nat → Prop
  | sound {log : List (Except TransportError Unit)} (well : ∀ went ∈ log, went = .ok ()) :
      Heeded log 0
  | failed {log : List (Except TransportError Unit)} {cause : TransportError}
      (well : ∀ went ∈ log, went = .ok ()) : Heeded (log ++ [.error cause]) 1

theorem Heeded.eq_zero {log : List (Except TransportError Unit)} {runs : Nat}
    (h : Heeded log runs) (well : ∀ went ∈ log, went = .ok ()) : runs = 0 := by
  cases h with
  | sound => rfl
  | @failed log cause _ =>
    have hlast := well (.error cause) (by simp)
    contradiction

/-- On a new sink the failure that is remembered tells how often the hook has run. -/
theorem Heeded.eq_ite {s t : Sink} {log : List (Except TransportError Unit)} {runs : Nat}
    (h : Heeded log runs) (htransmits : s.Transmits log t) (hsound : s.failed = false) :
    runs = if t.failed then 1 else 0 := by
  have hfailed := htransmits.failed_iff hsound
  cases h with
  | sound well =>
    have hnone : ¬ t.failed = true := by
      rw [hfailed]
      rintro ⟨cause, hmem⟩
      have hwell := well _ hmem
      contradiction
    rw [if_neg hnone]
  | @failed log cause well => rw [if_pos (hfailed.2 ⟨cause, by simp⟩)]

namespace Pipeline

/-! ## Steps -/

/-- What one step of an operation transmits, and whether the fault hook runs. -/
inductive Wrote (p q : Pipeline) : Prop
  /-- Nothing is transmitted. -/
  | nothing (sink : q.sink = p.sink) (runs : q.hookRuns = p.hookRuns)
      (ready : q.state = .ready → p.state = .ready)
      (closing : p.closing = true → q.closing = true)
  | delivered {data : Bytes} (accepts : p.checkAccepting = .ok ())
      (write : p.sink.transmit data = (.ok (), q.sink)) (runs : q.hookRuns = p.hookRuns)
  | lost {data : Bytes} {cause : TransportError} (accepts : p.checkAccepting = .ok ())
      (write : p.sink.transmit data = (.error cause, q.sink))
      (runs : q.hookRuns = p.hookRuns + 1) (faulted : q.state.isFaulted = true)

/-- Some steps, one after the other. -/
abbrev Wrotes : Pipeline → Pipeline → Prop :=
  Relation.ReflTransGen Wrote

/-- Since the sink was new, the hook has followed the writer, and a pipeline that is ready has
not failed to write. -/
structure Watched (s : Sink) (log : List (Except TransportError Unit)) (p : Pipeline) : Prop where
  transmits : s.Transmits log p.sink
  heeded : Heeded log p.hookRuns
  well : p.state = .ready → ∀ went ∈ log, went = .ok ()

theorem Wrote.watched {s : Sink} {log : List (Except TransportError Unit)} {p q : Pipeline}
    (wrote : Wrote p q) (h : Watched s log p) : ∃ log', Watched s log' q := by
  cases wrote with
  | nothing sink runs ready _ =>
    refine ⟨log, ?_, ?_, fun hready => h.well (ready hready)⟩
    · rw [sink]
      exact h.transmits
    · rw [runs]
      exact h.heeded
  | delivered accepts write runs =>
    have hwell := h.well (checkAccepting_ok_iff.1 accepts).1
    have hmore : ∀ went ∈ log ++ [.ok ()], went = .ok () := by
      intro went hmem
      rcases List.mem_append.1 hmem with hbefore | hlast
      · exact hwell went hbefore
      · exact List.mem_singleton.1 hlast
    refine ⟨_, h.transmits.next write, ?_, fun _ => hmore⟩
    rw [runs, h.heeded.eq_zero hwell]
    exact .sound hmore
  | lost accepts write runs faulted =>
    have hwell := h.well (checkAccepting_ok_iff.1 accepts).1
    refine ⟨_, h.transmits.next write, ?_, ?_⟩
    · rw [runs, h.heeded.eq_zero hwell]
      exact .failed hwell
    · intro hready
      simp [hready, ConnectionState.isFaulted] at faulted

theorem Wrotes.watched {s : Sink} {log : List (Except TransportError Unit)} {p q : Pipeline}
    (wrotes : Wrotes p q) (h : Watched s log p) : ∃ log', Watched s log' q := by
  induction wrotes with
  | refl => exact ⟨log, h⟩
  | tail _ wrote ih =>
    rcases ih with ⟨log', h'⟩
    exact wrote.watched h'

/-- A pipeline that is closing transmits nothing. -/
structure Silent (p q : Pipeline) : Prop where
  sink : q.sink = p.sink
  hookRuns : q.hookRuns = p.hookRuns
  closing : q.closing = true

theorem Wrotes.silent {p q : Pipeline} (wrotes : Wrotes p q) (h : p.closing = true) :
    Silent p q := by
  induction wrotes with
  | refl => exact ⟨rfl, rfl, h⟩
  | tail _ wrote ih =>
    cases wrote with
    | nothing sink runs _ closing =>
      exact ⟨sink.trans ih.sink, runs.trans ih.hookRuns, closing ih.closing⟩
    | delivered accepts =>
      have hopen := (checkAccepting_ok_iff.1 accepts).2
      simp [ih.closing] at hopen
    | lost accepts =>
      have hopen := (checkAccepting_ok_iff.1 accepts).2
      simp [ih.closing] at hopen

/-! ## Operations -/

theorem wrote_flush (p : Pipeline) : Wrote p p.flush.2 := by
  cases haccept : p.checkAccepting with
  | error e =>
    unfold flush
    rw [haccept]
    split
    · exact .nothing rfl rfl id id
    · exact .nothing rfl rfl id id
  | ok _ =>
    have h := flushed_flush p
    generalize p.flush = flushed at h ⊢
    cases h with
    | nothing => exact .nothing rfl rfl id id
    | refused => exact .nothing rfl rfl id id
    | delivered ready write => exact .delivered haccept write rfl
    | lost ready write => exact .lost haccept write rfl (isFaulted_failAll _ _)

/-- Queueing transmits at most once. -/
theorem wrotes_queue (request : Request) (p : Pipeline) : Wrotes p (p.queue request).2 := by
  unfold queue
  cases haccept : p.checkAccepting with
  | error e => exact .refl
  | ok _ =>
    rcases checkAccepting_ok_iff.1 haccept with ⟨hready, hopen⟩
    cases hcheck : request.check with
    | error e =>
      simp only [Request.appendTo_error hcheck]
      exact .refl
    | ok _ =>
      simp only [Request.appendTo_ok hcheck]
      split
      · rcases hwrite : p.sink.transmit (p.buffer ++ request.wire p.encoding) with
          ⟨written, sink⟩
        cases written with
        | error cause =>
          simp only [queueWritten, writeBuffer, hwrite]
          exact .single (.lost haccept hwrite rfl (isFaulted_failAll _ _))
        | ok _ =>
          simp only [queueWritten, writeBuffer, hwrite, register, checkAccepting, hready, hopen]
          exact .single (.delivered haccept hwrite rfl)
      · have hheld : Wrotes p (p.held request) := .single (.nothing rfl rfl id id)
        rw [queueBuffered_eq hready hopen]
        split_ifs
        · exact hheld.tail (wrote_flush _)
        · exact hheld

/-- A turn of the reader does not run the hook, whatever it answers. -/
theorem readStep_hookRuns (p : Pipeline) : p.readStep.hookRuns = p.hookRuns := by
  unfold readStep
  split
  · rfl
  · split
    · rfl
    · split
      · rfl
      · unfold answer
        split
        · dsimp only
          split <;> rfl
        · rfl

theorem wrote_readStep (p : Pipeline) : Wrote p p.readStep := by
  have haside := aside_readStep p
  refine .nothing haside.sink (readStep_hookRuns p) ?_ ?_
  · intro hready
    by_cases hstate : p.state.isFaulted = true
    · rwa [readStep, if_pos hstate] at hready
    · exact ready_of_not_isFaulted hstate
  · intro hclosing
    rw [haside.closing]
    exact hclosing

theorem wrotes_drain (p : Pipeline) : Wrotes p p.drain :=
  drain_preserves (Wrotes p) (fun _ h => h.tail (wrote_readStep _)) .refl

theorem wrotes_service (request : Request) (p : Pipeline) : Wrotes p (p.service request).2 := by
  have hqueue := wrotes_queue request p
  unfold service
  rcases hqueued : p.queue request with ⟨queued, q⟩
  rw [hqueued] at hqueue
  cases queued with
  | error e => exact hqueue
  | ok call =>
    have hflush := hqueue.tail (wrote_flush q)
    rcases hflushed : q.flush with ⟨flushed, r⟩
    rw [hflushed] at hflush
    cases flushed with
    | error e => simpa [hflushed] using hflush
    | ok _ => simpa [hflushed] using hflush.trans (wrotes_drain r)

theorem wrotes_close (p : Pipeline) : Wrotes p p.close.2 := by
  have hstop : Wrote p.flush.2 { p.flush.2 with closing := true } :=
    .nothing rfl rfl id fun _ => rfl
  exact ((Relation.ReflTransGen.single (wrote_flush p)).tail hstop).trans (wrotes_drain _)

/-! ## Giving up -/

/-- A pipeline that is given up transmits at most once, and only if it is not faulted.  The
hook does not run, even if the transmission fails. -/
theorem abandon_hooked (p : Pipeline) :
    p.abandon.hookRuns = p.hookRuns ∧ p.abandon.closing = true ∧
      (p.abandon.sink = p.sink ∨
        p.state = .ready ∧ p.abandon.sink = (p.sink.transmit p.buffer).2) := by
  unfold abandon
  split
  · exact ⟨rfl, rfl, Or.inl rfl⟩
  · rename_i hsomething
    simp only [Bool.or_eq_true, List.isEmpty_iff, not_or] at hsomething
    have hready := ready_of_not_isFaulted hsomething.2
    rcases hwrite : p.sink.transmit p.buffer with ⟨written, sink⟩
    cases written with
    | error cause => simp [writeBuffer, hwrite, hready, failAll]
    | ok _ => simp [writeBuffer, hwrite, hready]

end Pipeline

/-! ## Runs -/

namespace Client

open Pipeline (Wrotes Watched)

theorem wrotes_step (operation : Operation) (c : Client) :
    Wrotes c.pipeline (c.step operation).2.pipeline := by
  cases operation with
  | queue request =>
    have hqueue := Pipeline.wrotes_queue request c.pipeline
    simp only [step]
    rcases hqueued : c.pipeline.queue request with ⟨queued, p⟩
    rw [hqueued] at hqueue
    cases queued <;> exact hqueue
  | flush => exact .single (Pipeline.wrote_flush c.pipeline)
  | service request => exact Pipeline.wrotes_service request c.pipeline
  | close => exact Pipeline.wrotes_close c.pipeline
  | handle number operation =>
    rw [step_handle_pipeline]
  | arrive event => exact .single (.nothing rfl rfl id id)
  | readStep => exact .single (Pipeline.wrote_readStep c.pipeline)
  | drain => exact Pipeline.wrotes_drain c.pipeline

theorem wrotes_run (schedule : List Operation) (c : Client) :
    Wrotes c.pipeline (run schedule c).2.pipeline := by
  induction schedule generalizing c with
  | nil => exact .refl
  | cons operation rest ih => exact (wrotes_step operation c).trans (ih _)

/-- While a pipeline is in use, all its transmissions go well and the fault hook does not run,
or the last of them fails and the hook has run once.  No turn of the reader runs it.  Once the
pipeline is given up, the hook never runs.  At most one more transmission is made then, only
if none has failed before, and the hook has run as often as it should exactly if this
transmission does not fail. -/
theorem live_hooked (source : Source) (writes : List (Option WriteEvent))
    (laterWrites : WriteEvent) (flushes : List (Option TransportError))
    (laterFlushes : Option TransportError) (config : Config) (schedule later : List Operation) :
    let sink := Sink.scripted writes laterWrites flushes laterFlushes
    let used := (run schedule (ofPipeline (.onStream source sink config))).2
    let dropped := (run later used.abandon).2
    (∃ log, sink.Transmits log used.pipeline.sink ∧ Heeded log used.pipeline.hookRuns) ∧
      used.pipeline.readStep.hookRuns = used.pipeline.hookRuns ∧
      dropped.pipeline.hookRuns = used.pipeline.hookRuns ∧
      (dropped.pipeline.sink = used.pipeline.sink ∨
        used.pipeline.sink.failed = false ∧
          dropped.pipeline.sink = (used.pipeline.sink.transmit used.pipeline.buffer).2) ∧
      (dropped.pipeline.hookRuns = (if dropped.pipeline.sink.failed then 1 else 0) ↔
        dropped.pipeline.sink.failed = used.pipeline.sink.failed) := by
  intro sink used dropped
  have hnew : Watched sink [] (.onStream source sink config) :=
    ⟨.nothing, .sound (by simp), by simp⟩
  rcases (wrotes_run schedule (ofPipeline (.onStream source sink config))).watched hnew with
    ⟨log, hused⟩
  have hruns : used.pipeline.hookRuns = if used.pipeline.sink.failed then 1 else 0 :=
    hused.heeded.eq_ite hused.transmits rfl
  rcases Pipeline.abandon_hooked used.pipeline with ⟨hhooks, hclosing, hwrites⟩
  have hsilent : Pipeline.Silent used.pipeline.abandon dropped.pipeline :=
    (wrotes_run later used.abandon).silent hclosing
  have hsame := hsilent.hookRuns.trans hhooks
  refine ⟨⟨log, hused.transmits, hused.heeded⟩, Pipeline.readStep_hookRuns _, hsame, ?_, ?_⟩
  · rw [hsilent.sink]
    refine hwrites.imp_right ?_
    rintro ⟨hready, hwrite⟩
    refine ⟨?_, hwrite⟩
    rw [← Bool.not_eq_true, hused.transmits.failed_iff rfl]
    rintro ⟨cause, hmem⟩
    have hwell := hused.well hready _ hmem
    contradiction
  · rw [hsame, hruns]
    cases used.pipeline.sink.failed <;> cases dropped.pipeline.sink.failed <;> simp

/-- A request that is held back when the pipeline is given up, and a writer that fails: the
hook does not run. -/
theorem live_unhooked :
    let sink := Sink.refusing (.reported "late")
    let config : Config := { Config.default with writeMode := .chunked }
    let used := (run [.queue ⟨.ping, []⟩] (ofPipeline (.onStream ⟨[], .waiting⟩ sink config))).2
    used.abandon.pipeline.sink.failed = true ∧ used.finish.pipeline.sink.failed = true ∧
      used.finish.pipeline.hookRuns = 0 := by
  decide

end Client

end KeyValueClient
