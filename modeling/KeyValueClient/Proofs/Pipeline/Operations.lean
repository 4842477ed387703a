import KeyValueClient.Proofs.Pipeline.Moves
import KeyValueClient.Proofs.Writing.Transmission
import Mathlib.Tactic.SplitIfs

/-!
# Operations as paths

Each operation of a user, each turn of the reader and so each run of a client is a path
of moves, and the journal of the path says which requests were encoded, which calls
joined the queue and which events arrived.

Main results:

- Theorems `Pipeline.path_queue`, `Pipeline.path_flush`, `Pipeline.path_readStep` and
  `Pipeline.path_abandon`: the operations of a pipeline are paths.
- Theorem `Client.path_run`: a run is a path.
-/

namespace KeyValueClient

namespace Pipeline

/-! ## Operations as paths -/

theorem ready_of_not_isFaulted {p : Pipeline} (h : ¬ p.state.isFaulted = true) :
    p.state = .ready := by
  cases hstate : p.state with
  | ready => rfl
  | faulted fault => simp [hstate, ConnectionState.isFaulted] at h

/-- Requests are taken exactly while the pipeline is ready and not closing. -/
theorem checkAccepting_ok_iff {p : Pipeline} :
    p.checkAccepting = .ok () ↔ p.state = .ready ∧ p.closing = false := by
  unfold checkAccepting
  cases p.state <;> cases p.closing <;> simp

/-- A pipeline that takes no requests is closing unless it is faulted. -/
theorem closing_of_checkAccepting {p : Pipeline} {e : Error}
    (h : p.checkAccepting = .error e) (hready : p.state = .ready) : p.closing = true := by
  cases hopen : p.closing with
  | true => rfl
  | false =>
    rw [checkAccepting_ok_iff.2 ⟨hready, hopen⟩] at h
    contradiction

@[simp]
theorem isFaulted_failAll (fault : Fault) (p : Pipeline) :
    (p.failAll fault).state.isFaulted = true := by
  simp only [failAll]
  cases p.state <;> rfl

/-- How flushing a pipeline goes. -/
inductive Flushed (p : Pipeline) : Result Unit × Pipeline → Prop
  /-- Nothing is held back. -/
  | nothing (empty : p.buffer = []) : Flushed p (.ok (), p)
  /-- No more requests are taken, and what is held back is given up. -/
  | refused {e : Error} (refuses : p.checkAccepting = .error e) :
      Flushed p (.error e, { p with buffer := [] })
  /-- What is held back is written. -/
  | delivered {sink : Sink} (ready : p.state = .ready)
      (write : p.sink.transmit p.buffer = (.ok (), sink)) :
      Flushed p (.ok (), { p with sink := sink, buffer := [], unwritten := 0 })
  /-- What is held back cannot be written. -/
  | lost {sink : Sink} {cause : TransportError} (ready : p.state = .ready)
      (write : p.sink.transmit p.buffer = (.error cause, sink)) :
      Flushed p (.error (.transport cause),
        failAll (.ofError (.transport cause))
          { p with sink := sink, buffer := [], hookRuns := p.hookRuns + 1 })

theorem flushed_flush (p : Pipeline) : Flushed p p.flush := by
  unfold flush
  split
  · rename_i hempty
    exact .nothing (List.isEmpty_iff.1 hempty)
  · cases haccept : p.checkAccepting with
    | error e => exact .refused haccept
    | ok _ =>
      rcases checkAccepting_ok_iff.1 haccept with ⟨hready, _⟩
      rcases hwrite : p.sink.transmit p.buffer with ⟨written, sink⟩
      cases written with
      | error cause =>
        simp only [writeBuffer, hwrite]
        exact .lost hready hwrite
      | ok _ =>
        simp only [writeBuffer, hwrite]
        exact .delivered hready hwrite

/-- Flushing delivers the buffer, gives it up, or does nothing. -/
theorem path_flush (p : Pipeline) : Path p .empty p.flush.2 := by
  have h := flushed_flush p
  generalize p.flush = flushed at h ⊢
  cases h with
  | nothing => exact .refl p
  | refused refuses => exact .single (.discard (closing_of_checkAccepting refuses))
  | delivered ready write => exact .single (.deliver ready write)
  | lost ready write => exact .single (.deliverFails (p.hookRuns + 1) ready write)

/-- A flush leaves nothing held back. -/
theorem flush_buffer (p : Pipeline) : p.flush.2.buffer = [] := by
  have h := flushed_flush p
  generalize p.flush = flushed at h ⊢
  cases h with
  | nothing empty => exact empty
  | refused => rfl
  | delivered => rfl
  | lost => rfl

theorem flush_nextTicket (p : Pipeline) : p.flush.2.nextTicket = p.nextTicket := by
  have h := flushed_flush p
  generalize p.flush = flushed at h ⊢
  cases h <;> rfl

@[simp]
theorem flush_closing (p : Pipeline) : p.flush.2.closing = p.closing := by
  have h := flushed_flush p
  generalize p.flush = flushed at h ⊢
  cases h <;> rfl

/-- A flush of a pipeline that takes requests fails only by failing to write. -/
theorem failed_of_flush_error {p : Pipeline} {e : Error} (haccept : p.checkAccepting = .ok ())
    (h : p.flush.1 = .error e) : p.flush.2.sink.failed = true := by
  have hflushed := flushed_flush p
  generalize p.flush = flushed at h hflushed ⊢
  cases hflushed with
  | nothing => contradiction
  | refused refuses =>
    rw [haccept] at refuses
    contradiction
  | delivered => contradiction
  | lost ready write => exact (Sink.transmit_error write).1

/-- How a request is answered that got as far as its bytes. -/
inductive Took (request : Request) (p : Pipeline) : Result Call × Pipeline → Prop
  /-- Its call joined the queue. -/
  | queued {q : Pipeline} (path : Path p ⟨[request], [p.nextCall request], []⟩ q)
      (ticket : q.nextTicket = p.nextTicket + 1) (closing : q.closing = p.closing) :
      Took request p (.ok (p.nextCall request), q)
  /-- Its call joined the queue and was failed by a write. -/
  | failed {q : Pipeline} {e : Error} (path : Path p ⟨[request], [p.nextCall request], []⟩ q)
      (ticket : q.nextTicket = p.nextTicket + 1) (write : q.sink.failed = true) :
      Took request p (.error e, q)
  /-- A write failed before its call joined the queue. -/
  | lost {q : Pipeline} {e : Error} (path : Path p ⟨[request], [], []⟩ q)
      (ticket : q.nextTicket = p.nextTicket) (write : q.sink.failed = true) :
      Took request p (.error e, q)

/-- Queueing on an immediate pipeline writes the request or fails to. -/
theorem took_queueWritten {p : Pipeline} {request : Request} (hready : p.state = .ready)
    (hopen : p.closing = false) (hcheck : request.check = .ok ())
    (hmode : p.writeMode = .immediate) :
    Took request p (queueWritten request.command
      { p with buffer := p.buffer ++ request.wire p.encoding }) := by
  rcases hwrite : p.sink.transmit (p.buffer ++ request.wire p.encoding) with ⟨written, sink⟩
  cases written with
  | error cause =>
    have hmove := Move.sendFails (p.hookRuns + 1) hready hopen hcheck hmode hwrite
    simp only [queueWritten, writeBuffer, hwrite]
    exact .lost (.single hmove) rfl (Sink.transmit_error hwrite).1
  | ok _ =>
    have hmove := Move.send hready hopen hcheck hmode hwrite
    simp only [queueWritten, writeBuffer, hwrite, register, checkAccepting, hready, hopen]
    simp only [hready, hopen] at hmove
    exact .queued (.single hmove) rfl hopen.symm

/-- Queueing on a chunked pipeline holds the request back, and flushes at the
threshold. -/
theorem queueBuffered_eq {p : Pipeline} {request : Request} (hready : p.state = .ready)
    (hopen : p.closing = false) :
    queueBuffered request.command
        { p with buffer := p.buffer ++ request.wire p.encoding } =
      if (p.held request).reachedThreshold then
        ((p.held request).flush.1.map fun _ => p.nextCall request, (p.held request).flush.2)
      else (.ok (p.nextCall request), p.held request) := by
  have hregister : register request.command false
      { p with buffer := p.buffer ++ request.wire p.encoding } =
        (.ok (p.nextCall request), p.held request) := by
    simp [register, checkAccepting, hready, hopen, held, nextCall]
  simp only [queueBuffered, hregister]
  split_ifs
  · rcases (p.held request).flush with ⟨flushed, q⟩
    cases flushed <;> rfl
  · rfl

/-- A chunked pipeline that takes requests holds a valid one back, and flushes at the
threshold. -/
theorem queue_chunked {p : Pipeline} {request : Request} (hready : p.state = .ready)
    (hopen : p.closing = false) (hcheck : request.check = .ok ())
    (hmode : p.writeMode = .chunked) :
    p.queue request =
      if (p.held request).reachedThreshold then
        ((p.held request).flush.1.map fun _ => p.nextCall request, (p.held request).flush.2)
      else (.ok (p.nextCall request), p.held request) := by
  rw [← queueBuffered_eq hready hopen, queue, checkAccepting_ok_iff.2 ⟨hready, hopen⟩]
  simp only [Request.appendTo_ok hcheck]
  rw [hmode]

theorem took_queueBuffered {p : Pipeline} {request : Request} (hready : p.state = .ready)
    (hopen : p.closing = false) (hcheck : request.check = .ok ())
    (hmode : p.writeMode = .chunked) :
    Took request p (queueBuffered request.command
      { p with buffer := p.buffer ++ request.wire p.encoding }) := by
  have hheld := Path.single (Move.hold hready hopen hcheck hmode)
  rw [queueBuffered_eq hready hopen]
  split_ifs
  · have hpath := hheld.trans (path_flush (p.held request))
    rw [Journal.append_empty] at hpath
    have hticket : (p.held request).flush.2.nextTicket = p.nextTicket + 1 := by
      rw [flush_nextTicket, held]
    have hclosing : (p.held request).flush.2.closing = p.closing := by simp [held]
    cases hflushed : (p.held request).flush.1 with
    | ok _ => exact .queued hpath hticket hclosing
    | error e =>
      have haccept : (p.held request).checkAccepting = .ok () :=
        checkAccepting_ok_iff.2 ⟨hready, hopen⟩
      exact .failed hpath hticket (failed_of_flush_error haccept hflushed)
  · exact .queued hheld rfl rfl

/-- Encoding succeeds exactly if the request passes its checks. -/
theorem encode_eq {request : Request} (encoding : Encoding) :
    request.encode encoding = request.check.map fun _ => request.wire encoding := by
  unfold Request.encode
  cases request.check <;> rfl

/-- Queueing takes the request, or refuses it and changes nothing. -/
theorem queue_cases (request : Request) (p : Pipeline) :
    (p.submits request = [request] ∧ Took request p (p.queue request)) ∨
      (p.submits request = [] ∧ ∃ e, p.queue request = (.error e, p)) := by
  unfold queue submits
  cases haccept : p.checkAccepting with
  | error e => exact Or.inr ⟨rfl, e, rfl⟩
  | ok _ =>
    rcases checkAccepting_ok_iff.1 haccept with ⟨hready, hopen⟩
    cases hcheck : request.check with
    | error e =>
      simp [encode_eq, Request.appendTo, hcheck, Except.map]
    | ok _ =>
      refine Or.inl ⟨by simp [encode_eq, hcheck, Except.map], ?_⟩
      simp only [Request.appendTo_ok hcheck]
      split
      · rename_i hmode
        exact took_queueWritten hready hopen hcheck hmode
      · rename_i hmode
        exact took_queueBuffered hready hopen hcheck hmode

/-- Queueing is a path. -/
theorem path_queue (request : Request) (p : Pipeline) :
    Path p ⟨p.submits request, p.pushes request, []⟩ (p.queue request).2 := by
  unfold pushes
  rcases queue_cases request p with ⟨hsubmits, htook⟩ | ⟨hsubmits, e, hsame⟩
  · rw [hsubmits]
    generalize p.queue request = answered at htook ⊢
    cases htook with
    | queued path ticket =>
      dsimp only
      rwa [if_neg (by omega)]
    | failed path ticket =>
      dsimp only
      rwa [if_neg (by omega)]
    | lost path ticket =>
      dsimp only
      rwa [if_pos ticket]
  · rw [hsubmits, hsame, if_pos rfl]
    exact .refl p

/-- A request that is given a handle has let its call join the queue. -/
theorem pushes_of_queue {p : Pipeline} {request : Request} {call : Call}
    (h : (p.queue request).1 = .ok call) : p.pushes request = [call] := by
  unfold pushes
  rcases queue_cases request p with ⟨_, htook⟩ | ⟨_, e, hsame⟩
  · generalize p.queue request = answered at htook h ⊢
    cases htook with
    | queued path ticket =>
      simp only [Except.ok.injEq] at h
      dsimp only
      rw [if_neg (by omega), h]
    | failed => contradiction
    | lost => contradiction
  · rw [hsame] at h
    contradiction

/-! ## Turns of the reader -/

/-- A written call waits at the head of the queue. -/
theorem writtenHead?_eq_some {p : Pipeline} {call : Call} {rest : List Call}
    (h : p.writtenHead? = some (call, rest)) :
    p.calls = call :: rest ∧ p.unwritten ≤ rest.length := by
  unfold writtenHead? at h
  split at h
  · contradiction
  · rename_i head tail hcalls
    split at h
    · rename_i hwritten
      simp only [Option.some.injEq, Prod.mk.injEq] at h
      rcases h with ⟨rfl, rfl⟩
      rw [hcalls, List.length_cons] at hwritten
      exact ⟨hcalls, by omega⟩
    · contradiction

/-- A turn of the reader that finds a written call and its reply answers the call. -/
theorem readStep_eq {p : Pipeline} {call : Call} {rest : List Call} {outcome : Result Unit}
    {response : Response} {channel : Channel} (hready : p.state = .ready)
    (hhead : p.writtenHead? = some (call, rest))
    (hread : (Response.unread call.command).read p.channel = (outcome, response, channel))
    (harrived : outcome ≠ .error (.transport .wouldBlock)) :
    p.readStep = answer call rest outcome response { p with channel := channel } := by
  have hstate : ¬ p.state.isFaulted = true := by
    simp [hready, ConnectionState.isFaulted]
  rw [readStep, if_neg hstate, hhead]
  dsimp only
  split
  · rename_i hwait
    rw [hread, Prod.mk.injEq] at hwait
    exact absurd hwait.1 harrived
  · rename_i hsame
    rw [hread, Prod.mk.injEq, Prod.mk.injEq] at hsame
    rcases hsame with ⟨rfl, rfl, rfl⟩
    rfl

/-- A turn of the reader answers the oldest call, or does nothing. -/
theorem path_readStep (p : Pipeline) : Path p .empty p.readStep := by
  unfold readStep
  split
  · exact .refl p
  · rename_i hstate
    have hready := ready_of_not_isFaulted hstate
    split
    · exact .refl p
    · rename_i call rest hhead
      rcases writtenHead?_eq_some hhead with ⟨hcalls, hwritten⟩
      split
      · exact .refl p
      · rename_i result response channel hcame hread
        cases result with
        | ok _ =>
          cases hterminal : response.isTerminal with
          | false =>
            simp only [answer, resolve, hterminal]
            exact .single (.answer hready hcalls hwritten hread hterminal)
          | true =>
            simp only [answer, resolve, hterminal]
            exact .single (.answerLast hready hcalls hwritten hread hterminal)
        | error e =>
          have harrived : e ≠ .transport .wouldBlock := fun hwait => hcame (by rw [hwait])
          exact .single (.answerError hready hcalls hwritten hread harrived)

/-- What every turn of the reader preserves, a reader that keeps running preserves. -/
theorem drain_preserves (Inv : Pipeline → Prop) (hturn : ∀ p, Inv p → Inv p.readStep)
    {p : Pipeline} (h : Inv p) : Inv p.drain := by
  have hrepeat : ∀ n, Inv (Nat.repeat readStep n p) := by
    intro n
    induction n with
    | zero => exact h
    | succ n ih => exact hturn _ ih
  exact hrepeat p.calls.length

theorem path_drain (p : Pipeline) : Path p .empty p.drain := by
  let Inv : Pipeline → Prop := fun q => Path p .empty q
  have hturn : ∀ q, Inv q → Inv q.readStep := by
    intro q hpath
    exact hpath.trans (path_readStep q)
  have hstart : Inv p := .refl p
  exact drain_preserves Inv hturn hstart

/-- What the reader has no part in. -/
structure Aside (p q : Pipeline) : Prop where
  sink : q.sink = p.sink
  buffer : q.buffer = p.buffer
  closing : q.closing = p.closing

/-- A turn of the reader writes nothing and holds nothing back. -/
theorem aside_readStep (p : Pipeline) : Aside p p.readStep := by
  unfold readStep
  split
  · exact ⟨rfl, rfl, rfl⟩
  · split
    · exact ⟨rfl, rfl, rfl⟩
    · split
      · exact ⟨rfl, rfl, rfl⟩
      · unfold answer
        split
        · dsimp only
          split <;> exact ⟨rfl, rfl, rfl⟩
        · exact ⟨rfl, rfl, rfl⟩

theorem aside_drain (p : Pipeline) : Aside p p.drain := by
  let Inv : Pipeline → Prop := fun q => Aside p q
  have hturn : ∀ q, Inv q → Inv q.readStep := by
    intro q hbefore
    have hafter := aside_readStep q
    exact ⟨hafter.sink.trans hbefore.sink, hafter.buffer.trans hbefore.buffer,
      hafter.closing.trans hbefore.closing⟩
  have hstart : Inv p := ⟨rfl, rfl, rfl⟩
  exact drain_preserves Inv hturn hstart

/-! ## Calls of the user -/

theorem path_service (request : Request) (p : Pipeline) :
    Path p ⟨p.submits request, p.pushes request, []⟩ (p.service request).2 := by
  have hqueue := path_queue request p
  unfold service
  rcases hqueued : p.queue request with ⟨queued, q⟩
  rw [hqueued] at hqueue
  cases queued with
  | error e => exact hqueue
  | ok call =>
    have hflush := hqueue.trans (path_flush q)
    rcases hflushed : q.flush with ⟨flushed, r⟩
    rw [hflushed] at hflush
    cases flushed with
    | error e => simpa [hflushed] using hflush
    | ok _ => simpa [hflushed] using hflush.trans (path_drain r)

theorem path_close (p : Pipeline) : Path p .empty p.close.2 := by
  have hstop : Move p.flush.2 .empty { p.flush.2 with closing := true } :=
    .stop fun _ => flush_buffer p
  simpa [close] using ((path_flush p).snoc hstop).trans (path_drain _)

/-- Giving the pipeline up is a path. -/
theorem path_abandon (p : Pipeline) : Path p .empty p.abandon := by
  unfold abandon
  split
  · rename_i hnothing
    simp only [Bool.or_eq_true, List.isEmpty_iff] at hnothing
    refine .single (.stop fun hready => ?_)
    simpa [hready, ConnectionState.isFaulted] using hnothing
  · rename_i hsomething
    simp only [Bool.or_eq_true, List.isEmpty_iff, not_or] at hsomething
    have hready := ready_of_not_isFaulted hsomething.2
    rcases hwrite : p.sink.transmit p.buffer with ⟨written, sink⟩
    cases written with
    | error cause =>
      simp only [writeBuffer, hwrite]
      exact (Path.single (.deliverFails p.hookRuns hready hwrite)).snoc
        (.stop fun _ => rfl)
    | ok _ =>
      simp only [writeBuffer, hwrite]
      exact (Path.single (.deliver hready hwrite)).snoc (.stop fun _ => rfl)

end Pipeline

/-! ## Runs -/

/-- The event that an operation lets arrive. -/
def Operation.arrival? : Operation → Option SourceEvent
  | .arrive event => some event
  | _ => none

/-- The events that arrive in a schedule. -/
def arrivals (schedule : List Operation) : List SourceEvent :=
  schedule.filterMap Operation.arrival?

namespace Client

/-- What one operation takes in. -/
def stepJournal (operation : Operation) (c : Client) : Journal :=
  match operation with
  | .queue request | .service request =>
    ⟨c.pipeline.submits request, c.pipeline.pushes request, []⟩
  | .arrive event => ⟨[], [], [event]⟩
  | _ => .empty

/-- What a run takes in. -/
def journal : List Operation → Client → Journal
  | [], _ => .empty
  | operation :: rest, c => (c.stepJournal operation).append (journal rest (c.step operation).2)

/-- A step of a run is a path of the pipeline. -/
theorem path_step (operation : Operation) (c : Client) :
    Pipeline.Path c.pipeline (c.stepJournal operation) (c.step operation).2.pipeline := by
  cases operation with
  | queue request =>
    have hqueue := Pipeline.path_queue request c.pipeline
    simp only [step, stepJournal]
    rcases hqueued : c.pipeline.queue request with ⟨queued, p⟩
    rw [hqueued] at hqueue
    cases queued <;> exact hqueue
  | flush => exact Pipeline.path_flush c.pipeline
  | service request => exact Pipeline.path_service request c.pipeline
  | close => exact Pipeline.path_close c.pipeline
  | handle number operation =>
    rw [step_handle_pipeline]
    exact .refl _
  | arrive event => exact .single (.arrive event)
  | readStep => exact Pipeline.path_readStep c.pipeline
  | drain => exact Pipeline.path_drain c.pipeline

/-- A run is a path of the pipeline. -/
theorem path_run (schedule : List Operation) (c : Client) :
    Pipeline.Path c.pipeline (journal schedule c) (run schedule c).2.pipeline := by
  induction schedule generalizing c with
  | nil => exact .refl _
  | cons operation rest ih => exact (path_step operation c).trans (ih _)

theorem journal_arrived (schedule : List Operation) (c : Client) :
    (journal schedule c).arrived = arrivals schedule := by
  induction schedule generalizing c with
  | nil => rfl
  | cons operation rest ih =>
    simp only [journal, Journal.append, ih]
    cases operation <;>
      simp [stepJournal, Journal.empty, arrivals, List.filterMap_cons, Operation.arrival?]

/-! ## Giving the pipeline up -/

/-- The user gives the pipeline up, and keeps the handles. -/
def abandon (c : Client) : Client :=
  { c with pipeline := c.pipeline.abandon }

/-- The client after a schedule, and after what still happens once the user has given
the pipeline up. -/
def live (schedule : List Operation) (afterwards : Option (List Operation)) (c : Client) :
    Client :=
  match afterwards with
  | none => (run schedule c).2
  | some later => (run later (run schedule c).2.abandon).2

/-- What is taken in before and after the user has given the pipeline up. -/
def liveJournal (schedule : List Operation) (afterwards : Option (List Operation))
    (c : Client) : Journal :=
  match afterwards with
  | none => journal schedule c
  | some later => (journal schedule c).append (journal later (run schedule c).2.abandon)

theorem path_live (schedule : List Operation) (afterwards : Option (List Operation))
    (c : Client) :
    Pipeline.Path c.pipeline (liveJournal schedule afterwards c)
      (live schedule afterwards c).pipeline := by
  cases afterwards with
  | none => exact path_run schedule c
  | some later =>
    have habandon := (path_run schedule c).trans (Pipeline.path_abandon _)
    rw [Journal.append_empty] at habandon
    exact habandon.trans (path_run later (run schedule c).2.abandon)

theorem liveJournal_arrived (schedule : List Operation) (afterwards : Option (List Operation))
    (c : Client) :
    (liveJournal schedule afterwards c).arrived =
      arrivals (schedule ++ afterwards.getD []) := by
  cases afterwards with
  | none => simp [liveJournal, journal_arrived]
  | some later => simp [liveJournal, Journal.append, journal_arrived, arrivals]

end Client

end KeyValueClient
