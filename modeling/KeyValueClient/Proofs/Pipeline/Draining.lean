import KeyValueClient.Proofs.Pipeline.WriteOrder

/-!
# The reader runs to its end

If the stream of replies ends and every call has been written, a reader that keeps
running answers all calls: each turn answers one, or ends the pipeline and so answers
all the others.

Main results:

- Theorem `Pipeline.Flowing.readStep`: a turn of the reader answers the oldest call.
- Theorem `Pipeline.close_calls`: closing a pipeline leaves no call without an answer.
-/

namespace KeyValueClient

namespace Pipeline

/-! ## Turns that answer -/

/-- The reader never waits: every call was written, and the stream of replies ends. -/
structure Flowing (p : Pipeline) : Prop where
  ready : p.state = .ready
  unwritten : p.unwritten = 0
  ends : p.channel.source.Ends

/-- All calls were answered because the pipeline ended. -/
structure Ceased (p : Pipeline) : Prop where
  faulted : p.state.isFaulted = true
  calls : p.calls = []

theorem ceased_failAll (fault : Fault) (p : Pipeline) : Ceased (p.failAll fault) :=
  ⟨isFaulted_failAll fault p, failAll_calls fault p⟩

/-- A turn of the reader answers the oldest call, and if it ends the pipeline it answers
all calls. -/
theorem Flowing.readStep {p : Pipeline} {call : Call} {rest : List Call} (h : Flowing p)
    (hcalls : p.calls = call :: rest) :
    Ceased p.readStep ∨ Flowing p.readStep ∧ p.readStep.calls = rest := by
  have hhead : p.writtenHead? = some (call, rest) := by
    simp [writtenHead?, hcalls, h.unwritten]
  rcases hread : (Response.unread call.command).read p.channel with ⟨result, response, channel⟩
  cases result with
  | error e =>
    have harrived : e ≠ .transport .wouldBlock :=
      Outcome.read_ne_wouldBlock h.ends (Response.error_of_read hread)
    rw [readStep_eq h.ready hhead hread (by simpa using harrived)]
    exact Or.inl (ceased_failAll _ _)
  | ok _ =>
    rw [readStep_eq h.ready hhead hread (by simp)]
    cases hterminal : response.isTerminal with
    | true =>
      simp only [answer, hterminal]
      exact Or.inl (ceased_failAll _ _)
    | false =>
      have hends := Response.ends_of_read h.ends hread hterminal
      simp only [answer, hterminal]
      exact Or.inr ⟨⟨h.ready, h.unwritten, hends⟩, rfl⟩

/-- So many turns answer so many calls. -/
theorem Flowing.repeat_readStep {p : Pipeline} (h : Flowing p) (n : Nat) :
    Ceased (Nat.repeat Pipeline.readStep n p) ∨
      Flowing (Nat.repeat Pipeline.readStep n p) ∧
        (Nat.repeat Pipeline.readStep n p).calls = p.calls.drop n := by
  induction n with
  | zero => exact Or.inr ⟨h, rfl⟩
  | succ n ih =>
    rw [Nat.repeat]
    rcases ih with hceased | ⟨hflowing, hcalls⟩
    · left
      have hsame : (Nat.repeat Pipeline.readStep n p).readStep =
          Nat.repeat Pipeline.readStep n p := by
        rw [Pipeline.readStep, if_pos hceased.faulted]
      rwa [hsame]
    · rcases hrest : p.calls.drop n with _ | ⟨call, rest⟩
      · have hnone : (Nat.repeat Pipeline.readStep n p).writtenHead? = none := by
          simp [writtenHead?, hcalls, hrest]
        rw [readStep_waiting hnone]
        right
        refine ⟨hflowing, ?_⟩
        rw [hcalls, ← List.drop_drop, hrest]
        rfl
      · rcases hflowing.readStep (hcalls.trans hrest) with hceased | ⟨hflowing, hafter⟩
        · exact Or.inl hceased
        · right
          refine ⟨hflowing, ?_⟩
          rw [hafter, ← List.drop_drop, hrest]
          rfl

/-- The reader answers all calls. -/
theorem Flowing.drain_calls {p : Pipeline} (h : Flowing p) : p.drain.calls = [] := by
  rcases h.repeat_readStep p.calls.length with hceased | ⟨_, hcalls⟩
  · exact hceased.calls
  · rw [drain, hcalls, List.drop_length]

/-! ## Closing -/

/-- Without bytes held back, all calls were written. -/
theorem InStep.unwritten_eq_zero {log : List Request} {p : Pipeline} (h : InStep log p)
    (hbuffer : p.buffer = []) : p.unwritten = 0 := by
  have hlength := h.length_log
  have hunwritten := h.unwritten
  have hnothing : log.drop (log.length - p.unwritten) = [] := by
    rw [← Request.wireAll_eq_nil_iff p.encoding, ← h.held, hbuffer]
  rw [List.drop_eq_nil_iff] at hnothing
  omega

/-- A reader that is left alone with a pipeline on which nothing is held back answers
all calls. -/
theorem drain_calls {ch : Channel} {log : List Request} {p : Pipeline} (hledger : Ledger ch p)
    (htracked : Tracked log p) (hends : ch.source.Ends)
    (hbuffer : p.state = .ready → p.buffer = []) : p.drain.calls = [] := by
  cases hledger with
  | running hready results answers =>
    have hunwritten := (htracked.ready hready).unwritten_eq_zero (hbuffer hready)
    have hflowing : Flowing p := ⟨hready, hunwritten, answers.reads.ends hends⟩
    exact hflowing.drain_calls
  | faulted hfault hcalls =>
    rw [drain, hcalls]
    exact hcalls

/-- Closing a pipeline leaves no call without an answer, if the stream of replies ends. -/
theorem close_calls {source : Source} {writes : List (Option WriteEvent)}
    {laterWrites : WriteEvent} {flushes : List (Option TransportError)}
    {laterFlushes : Option TransportError} {config : Config} {j : Journal} {p : Pipeline}
    (path : Path (.onStream source (.scripted writes laterWrites flushes laterFlushes) config)
      j p)
    (hsends : source.MaySend j.arrived)
    (hends : (source.receive j.arrived).Ends) : p.close.2.calls = [] := by
  have hflushed := path.trans (path_flush p)
  rw [Journal.append_empty] at hflushed
  have hstopped := hflushed.snoc (.stop fun _ => flush_buffer p)
  rw [Journal.append_empty] at hstopped
  exact drain_calls (hstopped.ledger hsends)
    (hstopped.tracked (.onStream source writes laterWrites flushes laterFlushes config)) hends
    fun _ => flush_buffer p

end Pipeline

end KeyValueClient
