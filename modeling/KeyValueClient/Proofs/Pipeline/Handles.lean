import KeyValueClient.Proofs.Pipeline.Correlation
import Mathlib.Data.List.Induction

/-!
# Handles only look

What a user does with handles never shows on the pipeline: two runs that differ only in
that go through the same pipelines, and give the handles that both have kept the same
results.  A handle hands its result out once, to the first that takes it after the call was
answered.

Main results:

- Theorem `Client.Within.run`: a run goes through the same pipelines as the run without
  operations on handles.
- Theorem `Client.entryTells_run`: a handle is taken once its result has been handed out.
- Theorem `Client.result?_handle`: what a handle has is what its own call was answered with.
- Theorem `Client.handles_apart`: runs that differ only in operations on handles agree, and
  each handle hands out its result once.
-/

namespace KeyValueClient

/-- An operation on a handle. -/
def Operation.isHandle : Operation → Bool
  | .handle .. => true
  | _ => false

/-- What a schedule does with the pipeline, without the operations on handles. -/
def connectionSteps (schedule : List Operation) : List Operation :=
  schedule.filter fun operation => !operation.isHandle

/-- The operation asks a handle for its result. -/
def HandleOperation.takes : HandleOperation → Bool
  | .tryTake | .waitTimeout | .wait => true
  | .command | .isReady | .drop => false

namespace Pipeline

/-- The result of a call stays what it is. -/
theorem Path.result?_eq {p q : Pipeline} {j : Journal} (path : Path p j q) {ticket : Nat}
    {result : Result Response} (h : p.result? ticket = some result) :
    q.result? ticket = some result := by
  rcases path.results with ⟨more, hmore⟩
  rcases Option.map_eq_some_iff.1 h with ⟨entry, hentry, rfl⟩
  simp [result?, ← hmore, List.find?_append, hentry]

end Pipeline

namespace Client

/-! ## Runs without operations on handles -/

/-- What is seen of the pipeline in a run: the answer to each step that is not an operation
on a handle, and the pipeline after it. -/
def watch : List Operation → Client → List (Answer × Pipeline)
  | [], _ => []
  | operation :: rest, c =>
    let (answer, after) := c.step operation
    if operation.isHandle then watch rest after
    else (answer, after.pipeline) :: watch rest after

/-- Two users of the same pipeline.  The first may have taken results and given handles up
that the second still holds. -/
structure Within (c d : Client) : Prop where
  pipeline : c.pipeline = d.pipeline
  length : c.handles.length = d.handles.length
  handles : ∀ (number : Nat) (h : Handle), c.handles[number]? = some (some h) →
    ∃ h', d.handles[number]? = some (some h') ∧ h.call = h'.call

namespace Within

variable {c d : Client}

theorem refl (c : Client) : Within c c :=
  ⟨rfl, rfl, fun _ h hmem => ⟨h, hmem, rfl⟩⟩

/-- An operation on a handle keeps the relation. -/
theorem handle (h : Within c d) (number : Nat) (action : HandleOperation) :
    Within (c.step (.handle number action)).2 d := by
  simp only [step, withHandle]
  split
  · rename_i before hbefore
    refine ⟨h.pipeline, by simpa using h.length, ?_⟩
    intro other after hafter
    rw [List.getElem?_set] at hafter
    split at hafter
    · rename_i hsame
      subst hsame
      split at hafter
      · have hstep := handleStep_call (Option.some.inj hafter)
        rcases h.handles _ _ hbefore with ⟨h', hother, hcall⟩
        exact ⟨h', hother, hstep.trans hcall⟩
      · contradiction
    · exact h.handles other after hafter
  · exact h

/-- Any other operation answers alike and keeps the relation. -/
theorem common (h : Within c d) {operation : Operation} (hcommon : operation.isHandle = false) :
    (c.step operation).1 = (d.step operation).1 ∧
      Within (c.step operation).2 (d.step operation).2 := by
  rcases h with ⟨hpipeline, hlength, hhandles⟩
  cases operation with
  | queue request =>
    simp only [step, hpipeline]
    rcases d.pipeline.queue request with ⟨queued, p⟩
    cases queued with
    | error e => exact ⟨rfl, rfl, hlength, hhandles⟩
    | ok call =>
      refine ⟨by rw [hlength], rfl, by simp [hlength], ?_⟩
      intro number after hafter
      by_cases hold : number < c.handles.length
      · rw [List.getElem?_append_left hold] at hafter
        rw [List.getElem?_append_left (hlength ▸ hold)]
        exact hhandles number after hafter
      · rw [List.getElem?_append_right (by omega)] at hafter
        rw [List.getElem?_append_right (by omega), ← hlength]
        exact ⟨after, hafter, rfl⟩
  | handle => contradiction
  | flush | service | close | arrive | readStep | drain =>
    simp only [step, hpipeline, true_and]
    exact ⟨rfl, hlength, hhandles⟩

/-- A run goes through the same pipelines as the run without operations on handles, and
keeps no other handles. -/
theorem run (h : Within c d) (schedule : List Operation) :
    watch schedule c = watch (connectionSteps schedule) d ∧
      Within (Client.run schedule c).2 (Client.run (connectionSteps schedule) d).2 := by
  induction schedule generalizing c d with
  | nil => exact ⟨rfl, h⟩
  | cons operation rest ih =>
    cases hkind : operation.isHandle with
    | true =>
      have hstep : Within (c.step operation).2 d := by
        cases operation <;> first | exact h.handle _ _ | contradiction
      simpa [watch, connectionSteps, hkind, Client.run] using ih hstep
    | false =>
      rcases h.common hkind with ⟨hanswer, hstep⟩
      rcases ih hstep with ⟨hwatch, hrun⟩
      refine ⟨?_, by simpa [connectionSteps, hkind, Client.run] using hrun⟩
      simp only [connectionSteps] at hwatch
      simp [watch, connectionSteps, hkind, hanswer, hstep.pipeline, hwatch]

end Within

/-! ## Handing out -/

/-- The call of the handle of this number has been answered. -/
def IsAnswered (number : Nat) (c : Client) : Prop :=
  ∃ h, c.handles[number]? = some (some h) ∧ (c.pipeline.result? h.ticket).isSome = true

/-- Some operation of the schedule asked the handle of this number for its result when the
result was there. -/
def HandedOut (number : Nat) (schedule : List Operation) (start : Client) : Prop :=
  ∃ first action second, schedule = first ++ .handle number action :: second ∧
    action.takes = true ∧ (run first start).2.IsAnswered number

theorem handedOut_concat (number : Nat) (schedule : List Operation) (operation : Operation)
    (start : Client) :
    HandedOut number (schedule ++ [operation]) start ↔
      HandedOut number schedule start ∨
        ∃ action, operation = .handle number action ∧ action.takes = true ∧
          (run schedule start).2.IsAnswered number := by
  constructor
  · rintro ⟨first, action, second, hsplit, htakes, hanswered⟩
    rcases List.eq_nil_or_concat second with rfl | ⟨before, last, rfl⟩
    · rcases List.append_inj' hsplit rfl with ⟨rfl, hlast⟩
      exact Or.inr ⟨action, by simpa using hlast, htakes, hanswered⟩
    · rw [List.concat_eq_append, ← List.cons_append, ← List.append_assoc] at hsplit
      rcases List.append_inj' hsplit rfl with ⟨hfront, _⟩
      exact Or.inl ⟨first, action, before, hfront, htakes, hanswered⟩
  · rintro (⟨first, action, second, rfl, htakes, hanswered⟩ | ⟨action, rfl, htakes, hanswered⟩)
    · exact ⟨first, action, second ++ [operation], by simp, htakes, hanswered⟩
    · exact ⟨schedule, action, [], rfl, htakes, hanswered⟩

/-- A handle is taken by the first operation that asks for its result when it is there. -/
theorem handleStep_taken {action : HandleOperation} {h h' : Handle} {p : Pipeline}
    (hstep : (handleStep action h p).2 = some h') :
    h'.taken = true ↔ h.taken = true ∨
      action.takes = true ∧ (p.result? h.ticket).isSome = true := by
  have htry : (h.tryTake p).2.taken = true ↔ h.taken = true ∨
      (p.result? h.ticket).isSome = true := by
    unfold Handle.tryTake
    cases htaken : h.taken <;> cases p.result? h.ticket <;> simp [htaken]
  cases action with
  | command | isReady | drop => simp_all [handleStep, HandleOperation.takes]
  | tryTake =>
    have hsame : (h.tryTake p).2 = h' := by
      simp only [handleStep] at hstep
      rcases htaken : h.tryTake p with ⟨result?, after⟩
      rw [htaken] at hstep
      cases result? <;> exact Option.some.inj hstep
    rw [← hsame, htry]
    simp [HandleOperation.takes]
  | waitTimeout =>
    have hsame : (h.waitTimeout p).2 = h' := Option.some.inj hstep
    rw [← hsame, Handle.waitTimeout_handle, htry]
    simp [HandleOperation.takes]
  | wait =>
    simp only [handleStep] at hstep
    split at hstep
    · contradiction
    · rename_i hnone
      injection hstep with hsame
      rw [← hsame]
      have hfirst : (h.tryTake p).1 = none := hnone
      unfold Handle.tryTake at hfirst
      cases htaken : h.taken <;> cases hresult : p.result? h.ticket <;> simp_all

/-- What an operation does to the entry of a handle. -/
theorem step_entry (operation : Operation) (number : Nat) (c : Client) :
    (∃ action h, operation = .handle number action ∧ c.handles[number]? = some (some h) ∧
      (c.step operation).2.handles[number]? = some (handleStep action h c.pipeline).2) ∨
    (∀ action h, operation = .handle number action → c.handles[number]? ≠ some (some h)) ∧
      ((c.step operation).2.handles[number]? = c.handles[number]? ∨
        c.handles[number]? = none ∧ ∃ call,
          (c.step operation).2.handles[number]? = some (some (.ofCall call))) := by
  cases operation with
  | queue request =>
    refine Or.inr ⟨by simp, ?_⟩
    simp only [step]
    rcases c.pipeline.queue request with ⟨queued, p⟩
    cases queued with
    | error e => exact Or.inl rfl
    | ok call =>
      dsimp only
      rcases Nat.lt_trichotomy number c.handles.length with hlt | heq | hgt
      · exact Or.inl (List.getElem?_append_left hlt)
      · exact Or.inr ⟨by simp [heq], call, by simp [heq]⟩
      · left
        rw [List.getElem?_eq_none (by simp; omega), List.getElem?_eq_none (by omega)]
  | handle other action =>
    simp only [step, withHandle]
    split
    · rename_i before hbefore
      by_cases hsame : other = number
      · subst hsame
        refine Or.inl ⟨action, before, rfl, hbefore, ?_⟩
        have hlt : other < c.handles.length := by
          by_contra hge
          rw [List.getElem?_eq_none (by omega)] at hbefore
          contradiction
        simp [hlt]
      · refine Or.inr ⟨by simp [hsame], Or.inl ?_⟩
        simp [hsame]
    · rename_i hgone
      refine Or.inr ⟨?_, Or.inl rfl⟩
      intro action' h hsame hentry
      injection hsame with hnumber
      subst hnumber
      exact hgone h hentry
  | flush | service | close | arrive | readStep | drain =>
    exact Or.inr ⟨by simp, Or.inl rfl⟩

/-- The entry of a handle says whether its result has been handed out, which happens only
to a result that is there; without an entry nothing has been. -/
def EntryTells (handedOut : Prop) (p : Pipeline) : Option (Option Handle) → Prop
  | none => ¬handedOut
  | some none => True
  | some (some h) =>
    (h.taken = true ↔ handedOut) ∧ (h.taken = true → (p.result? h.ticket).isSome = true)

/-- An entry that is left alone goes on telling what it did. -/
theorem EntryTells.path {handedOut : Prop} {p q : Pipeline} {j : Journal}
    {entry : Option (Option Handle)} (h : EntryTells handedOut p entry)
    (path : Pipeline.Path p j q) : EntryTells handedOut q entry := by
  rcases entry with _ | _ | handle
  · exact h
  · trivial
  · refine ⟨h.1, fun htaken => ?_⟩
    rcases Option.isSome_iff_exists.1 (h.2 htaken) with ⟨result, hresult⟩
    rw [path.result?_eq hresult]
    rfl

theorem run_concat (schedule : List Operation) (operation : Operation) (c : Client) :
    (run (schedule ++ [operation]) c).2 = ((run schedule c).2.step operation).2 := by
  simp [run_append, run]

theorem entryTells_run (number : Nat) (schedule : List Operation) (p : Pipeline) :
    EntryTells (HandedOut number schedule (ofPipeline p))
      (run schedule (ofPipeline p)).2.pipeline
      (run schedule (ofPipeline p)).2.handles[number]? := by
  induction schedule using List.reverseRecOn with
  | nil =>
    rintro ⟨first, action, second, hsplit, _⟩
    simp at hsplit
  | append_singleton schedule operation ih =>
    rw [run_concat, handedOut_concat]
    have hpath := path_step operation (run schedule (ofPipeline p)).2
    have hentry := step_entry operation number (run schedule (ofPipeline p)).2
    generalize (run schedule (ofPipeline p)).2 = c at ih hpath hentry ⊢
    have hkept := ih.path hpath
    rcases hentry with ⟨action, h, rfl, hbefore, hafter⟩ | ⟨hother, hentry⟩
    · -- The handle is there and is asked: it is taken if its result is there.
      rw [hbefore] at ih
      rw [hafter]
      cases hstep : (handleStep action h c.pipeline).2 with
      | none => trivial
      | some h' =>
        have hticket : h'.ticket = h.ticket := congrArg Call.ticket (handleStep_call hstep)
        have htaken := handleStep_taken hstep
        have hanswered : c.IsAnswered number ↔ (c.pipeline.result? h.ticket).isSome = true := by
          simp [IsAnswered, hbefore]
        rw [EntryTells, step_handle_pipeline, hticket, htaken, hanswered, ih.1]
        refine ⟨by simp, ?_⟩
        rintro (hout | ⟨_, hsome⟩)
        · exact ih.2 (ih.1.2 hout)
        · exact hsome
    · -- Nothing is handed out, and an entry that is new is not taken.
      have hnothing : ¬∃ action, operation = .handle number action ∧ action.takes = true ∧
          c.IsAnswered number := by
        rintro ⟨action, hsame, _, h, hmem, _⟩
        exact hother action h hsame hmem
      rw [or_iff_left hnothing]
      rcases hentry with hsame | ⟨hnone, call, hnew⟩
      · rwa [hsame]
      · rw [hnone] at ih
        rw [hnew]
        have hfresh : ¬(Handle.ofCall call).taken = true := by simp [Handle.ofCall]
        exact ⟨⟨fun htaken => absurd htaken hfresh, fun hout => absurd hout ih⟩,
          fun htaken => absurd htaken hfresh⟩

/-! ## Answers -/

/-- What the handle of a number answers at some moment of a run, when its result has been
handed out or not. -/
structure HandsOutOnce (number : Nat) (h : Handle) (handedOut : Prop) (c : Client) : Prop where
  /-- Before the call is answered there is nothing to take. -/
  unanswered : c.pipeline.result? h.ticket = none →
    (c.step (.handle number .tryTake)).1 = .nothing ∧
      (c.step (.handle number .waitTimeout)).1 = .response (.error .timeout)
  /-- The first that asks afterwards is given the result. -/
  first : ∀ result, c.pipeline.result? h.ticket = some result → ¬handedOut →
    ∀ action, action.takes = true → (c.step (.handle number action)).1 = .response result
  /-- Every later one is refused. -/
  later : handedOut → ∀ action, action.takes = true →
    (c.step (.handle number action)).1 = .response (.error (.state (.alreadyTaken h.command)))
  /-- The handle is ready in between. -/
  ready : ∃ ready, (c.step (.handle number .isReady)).1 = .ready ready ∧
    (ready = true ↔ (c.pipeline.result? h.ticket).isSome = true ∧ ¬handedOut)
  /-- The result stays what it is. -/
  stays : ∀ result, c.pipeline.result? h.ticket = some result → ∀ schedule,
    (run schedule c).2.pipeline.result? h.ticket = some result

/-- What asks a handle for its result answers with what can be taken. -/
theorem handleStep_answer {action : HandleOperation} {h : Handle} {p : Pipeline}
    {result : Result Response} (htakes : action.takes = true)
    (htry : (h.tryTake p).1 = some result) : (handleStep action h p).1 = .response result := by
  rcases htaken : h.tryTake p with ⟨result?, after⟩
  rw [htaken] at htry
  cases action with
  | tryTake => simp_all [handleStep]
  | waitTimeout => simp_all [handleStep, Handle.waitTimeout]
  | wait => simp_all [handleStep, Handle.wait]
  | command | isReady | drop => contradiction

/-- A handle whose entry tells what was handed out hands its result out once. -/
theorem EntryTells.handsOutOnce {c : Client} {number : Nat} {h : Handle} {handedOut : Prop}
    (htells : EntryTells handedOut c.pipeline (some (some h)))
    (hmem : c.handles[number]? = some (some h)) : HandsOutOnce number h handedOut c := by
  rcases htells with ⟨htaken, hanswered⟩
  have hstep : ∀ action, (c.step (.handle number action)).1 =
      (handleStep action h c.pipeline).1 := by
    intro action
    simp [step, withHandle, hmem]
  constructor
  · intro hnone
    have hfresh : h.taken = false := by
      rw [← Bool.not_eq_true]
      intro hout
      simpa [hnone] using hanswered hout
    have htry : h.tryTake c.pipeline = (none, h) := by
      simp [Handle.tryTake, hfresh, hnone]
    simp [hstep, handleStep, Handle.waitTimeout, htry]
  · intro result hresult hnot action htakes
    have hfresh : h.taken = false := by
      rwa [← Bool.not_eq_true, htaken]
    rw [hstep]
    exact handleStep_answer htakes (by simp [Handle.tryTake, hfresh, hresult])
  · intro hout action htakes
    rw [hstep]
    exact handleStep_answer htakes (by rw [Handle.tryTake_taken (htaken.2 hout)]; rfl)
  · refine ⟨h.isReady c.pipeline, by rw [hstep]; rfl, ?_⟩
    rw [Handle.isReady_iff, ← htaken, Bool.not_eq_true, Option.isSome_iff_exists, and_comm]
  · intro result hresult schedule
    exact (path_run schedule c).result?_eq hresult

/-- What a handle has is what its own call was answered with. -/
theorem result?_handle (source : Source) (sink : Sink) (config : Config)
    {schedule : List Operation} {h : Handle}
    (hmem : some h ∈ (run schedule (ofPipeline (.onStream source sink config))).2.handles)
    (result : Result Response) :
    let p := (run schedule (ofPipeline (.onStream source sink config))).2.pipeline
    p.result? h.ticket = some result ↔ (h.call, result) ∈ p.results := by
  have hordered :=
    Pipeline.Path.ordered (path_run schedule (ofPipeline (.onStream source sink config)))
  rcases run_handles hmem with hpushed | ⟨_, hnone, _⟩
  · exact hordered.result?_eq_some_iff hpushed
  · simp [ofPipeline] at hnone

/-! ## Two runs -/

/-- Two runs on a pipeline that differ only in operations on handles are seen alike: every
other step answers alike and leaves the same pipeline, with the same bytes written and held
back, the same calls waiting and the same state.  A handle that is kept in both waits for
the same call and has the same result.  In any run a handle has nothing to hand out until its
call is answered, hands the result out once, and refuses from then on.  If the pipeline began
with nothing, what a handle has is what its own call was answered with, and nothing else. -/
theorem handles_apart (p : Pipeline) (first second : List Operation)
    (hcommon : connectionSteps first = connectionSteps second) :
    let start := ofPipeline p
    let one := (run first start).2
    let other := (run second start).2
    watch first start = watch second start ∧
      one.pipeline = other.pipeline ∧
      (∀ (number : Nat) (h h' : Handle), one.handles[number]? = some (some h) →
        other.handles[number]? = some (some h') →
          h.call = h'.call ∧
            one.pipeline.result? h.ticket = other.pipeline.result? h'.ticket) ∧
      (∀ schedule (number : Nat) (h : Handle),
        (run schedule start).2.handles[number]? = some (some h) →
          HandsOutOnce number h (HandedOut number schedule start) (run schedule start).2) ∧
      ∀ source sink config, p = .onStream source sink config →
        ∀ schedule (number : Nat) (h : Handle),
          (run schedule start).2.handles[number]? = some (some h) → ∀ result,
            (run schedule start).2.pipeline.result? h.ticket = some result ↔
              (h.call, result) ∈ (run schedule start).2.pipeline.results := by
  intro start one other
  rcases (Within.refl start).run first with ⟨hfirst, hone⟩
  rcases (Within.refl start).run second with ⟨hsecond, hother⟩
  rw [← hcommon] at hsecond hother
  have hpipeline : one.pipeline = other.pipeline := hone.pipeline.trans hother.pipeline.symm
  refine ⟨hfirst.trans hsecond.symm, hpipeline, ?_, ?_, ?_⟩
  · intro number h h' hmem hmem'
    rcases hone.handles number h hmem with ⟨kept, hkept, hcall⟩
    rcases hother.handles number h' hmem' with ⟨kept', hkept', hcall'⟩
    have hsame : kept = kept' := by
      rw [hkept] at hkept'
      simpa using hkept'
    have hcalls : h.call = h'.call := by
      rw [hcall, hcall', hsame]
    have htickets : h.ticket = h'.ticket := congrArg Call.ticket hcalls
    exact ⟨hcalls, by rw [hpipeline, htickets]⟩
  · intro schedule number h hmem
    have htells := entryTells_run number schedule p
    rw [hmem] at htells
    exact htells.handsOutOnce hmem
  · rintro source sink config rfl schedule number h hmem result
    exact result?_handle source sink config (List.mem_of_getElem? hmem) result

/-- Two pipelined requests: one user takes the second result twice and gives the first handle
up, the other only waits for the second. -/
theorem handles_apart_dropped :
    let first : List Operation :=
      [.queue ⟨.ping, []⟩, .handle 0 .waitTimeout, .handle 0 .drop, .queue ⟨.dbSize, []⟩,
        .arrive (.data (Bytes.ofText "+PONG\r\n:3\r\n")), .readStep, .readStep,
        .handle 1 .tryTake, .handle 1 .tryTake]
    let second : List Operation :=
      [.queue ⟨.ping, []⟩, .queue ⟨.dbSize, []⟩, .handle 1 .isReady,
        .arrive (.data (Bytes.ofText "+PONG\r\n:3\r\n")), .readStep, .handle 1 .tryTake,
        .readStep]
    let start := ofPipeline (.onStream ⟨[], .waiting⟩ .accepting .default)
    connectionSteps first = connectionSteps second ∧
      watch first start = watch second start := by
  intro first second start
  have hcommon : connectionSteps first = connectionSteps second := by decide
  exact ⟨hcommon, (handles_apart _ first second hcommon).1⟩

end Client

end KeyValueClient
