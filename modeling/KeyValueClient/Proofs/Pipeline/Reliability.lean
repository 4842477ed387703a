import KeyValueClient.Proofs.Pipeline.Operations

/-!
# Pipelines on reliable sinks

On a reliable sink no flush fails, and a ready pipeline takes every valid request.

Main results:

- Theorem `Pipeline.Path.reliable`: a reliable sink stays reliable.
- Theorem `Pipeline.queue_ok`: a ready pipeline takes every valid request.
-/

namespace KeyValueClient

namespace Pipeline

/-! ## Reliable sinks -/

theorem Move.reliable {p q : Pipeline} {j : Journal} (move : Move p j q)
    (h : p.sink.Reliable) : q.sink.Reliable := by
  cases move with
  | send hready hopen hcheck hmode hwrite => exact h.of_transmit hwrite
  | deliver hready hwrite => exact h.of_transmit hwrite
  | sendFails runs hready hopen hcheck hmode hwrite => exact absurd hwrite h.transmit_ne_error
  | deliverFails runs hready hwrite => exact absurd hwrite h.transmit_ne_error
  | _ => exact h

/-- A reliable sink stays reliable. -/
theorem Path.reliable {p q : Pipeline} {j : Journal} (path : Path p j q)
    (h : p.sink.Reliable) : q.sink.Reliable := by
  induction path with
  | refl => exact h
  | snoc _ move ih => exact move.reliable ih

/-- A ready pipeline takes every valid request. -/
theorem queue_ok {p : Pipeline} {request : Request} (hready : p.state = .ready)
    (hopen : p.closing = false) (hcheck : request.check = .ok ()) (h : p.sink.Reliable) :
    (p.queue request).1 = .ok (p.nextCall request) := by
  have haccept : p.checkAccepting = .ok () := checkAccepting_ok_iff.2 ⟨hready, hopen⟩
  have hsubmits : p.submits request = [request] := by
    simp [submits, haccept, encode_eq, hcheck, Except.map]
  rcases queue_cases request p with ⟨_, htook⟩ | ⟨hnothing, _⟩
  · generalize p.queue request = queued at htook ⊢
    cases htook with
    | queued => rfl
    | failed path ticket write =>
      rw [(path.reliable h).not_failed] at write
      contradiction
    | lost path ticket write =>
      rw [(path.reliable h).not_failed] at write
      contradiction
  · rw [hsubmits] at hnothing
    contradiction

/-! ## Pipelines that stay open -/

/-- Taking a request does not close a pipeline. -/
theorem queue_closing {p : Pipeline} {request : Request} {call : Call}
    (h : (p.queue request).1 = .ok call) : (p.queue request).2.closing = p.closing := by
  rcases queue_cases request p with ⟨_, htook⟩ | ⟨_, e, hsame⟩
  · generalize p.queue request = queued at h htook ⊢
    cases htook with
    | queued path ticket closing => exact closing
    | failed => contradiction
    | lost => contradiction
  · rw [hsame]

end Pipeline

end KeyValueClient
