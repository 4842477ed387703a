import KeyValueClient.Proofs.Pipeline.Operations
import Mathlib.Data.List.Nodup

/-!
# The order of the calls

Calls join the queue with consecutive tickets and are answered in that order, so the
ticket of a call is its position among all calls and its position among the results.

Main results:

- Theorem `Pipeline.Path.ordered`: the calls of a pipeline are those that joined it, in
  order, and their tickets count them.
- Theorem `Pipeline.Ordered.result?_eq`: the result of a ticket stands at its position.
- Theorem `Pipeline.Ordered.result?_eq_some_iff`: it is the one that the call was answered
  with.
-/

namespace KeyValueClient

namespace Pipeline

/-! ## Tickets -/

/-- The calls of a pipeline are those that joined it, numbered from zero. -/
structure Ordered (j : Journal) (p : Pipeline) : Prop where
  history : p.history = j.pushed
  nextTicket : p.nextTicket = j.pushed.length
  tickets : j.pushed.map Call.ticket = List.range j.pushed.length

/-- A move lets at most the next call join the queue. -/
theorem Move.pushed {p q : Pipeline} {j : Journal} (move : Move p j q) :
    j.pushed = [] ∧ q.nextTicket = p.nextTicket ∨
      (∃ request, j.pushed = [p.nextCall request]) ∧ q.nextTicket = p.nextTicket + 1 := by
  cases move with
  | hold => exact Or.inr ⟨⟨_, rfl⟩, rfl⟩
  | send => exact Or.inr ⟨⟨_, rfl⟩, rfl⟩
  | _ => exact Or.inl ⟨rfl, rfl⟩

/-- A move adds to the end of the history just the call that joins the queue. -/
theorem Move.history {p q : Pipeline} {j : Journal} (move : Move p j q) :
    q.history = p.history ++ j.pushed := by
  cases move with
  | hold => simp [Pipeline.history, held]
  | send => simp [Pipeline.history]
  | sendFails runs =>
    rw [history_failAll]
    simp [Pipeline.history]
  | deliver => simp [Pipeline.history, Journal.empty]
  | deliverFails runs =>
    rw [history_failAll]
    simp [Pipeline.history, Journal.empty]
  | discard => simp [Pipeline.history, Journal.empty]
  | stop => simp [Pipeline.history, Journal.empty]
  | answer _ hcalls => simp [Pipeline.history, Journal.empty, hcalls]
  | answerLast _ hcalls =>
    rw [history_failAll]
    simp [Pipeline.history, Journal.empty, hcalls]
  | answerError _ hcalls =>
    rw [history_failAll]
    simp [Pipeline.history, Journal.empty, hcalls]
  | arrive event => simp [Pipeline.history, Pipeline.arrive]

theorem Path.history {p q : Pipeline} {j : Journal} (path : Path p j q) :
    q.history = p.history ++ j.pushed := by
  induction path with
  | refl => simp [Journal.empty]
  | snoc _ move ih => rw [move.history, ih, List.append_assoc, Journal.append]

/-- Every move keeps the order. -/
theorem Move.ordered {p q : Pipeline} {j k : Journal} (move : Move p k q)
    (h : Ordered j p) : Ordered (j.append k) q := by
  have hhistory : q.history = (j.append k).pushed := by
    rw [move.history, h.history]
    rfl
  rcases move.pushed with ⟨hnone, hticket⟩ | ⟨⟨request, hone⟩, hticket⟩
  · refine ⟨hhistory, ?_, ?_⟩
    · simp [Journal.append, hnone, hticket, h.nextTicket]
    · simp [Journal.append, hnone, h.tickets]
  · refine ⟨hhistory, ?_, ?_⟩
    · simp [Journal.append, hone, hticket, h.nextTicket]
    · simp [Journal.append, hone, h.tickets, nextCall, h.nextTicket, List.range_succ]

/-- After a path from a new pipeline, the calls are those that joined it, in order. -/
theorem Path.ordered {source : Source} {sink : Sink} {config : Config} {j : Journal}
    {p : Pipeline} (path : Path (.onStream source sink config) j p) : Ordered j p := by
  have hstart : Ordered .empty (.onStream source sink config) := ⟨rfl, rfl, rfl⟩
  have hend := path.preserves (fun h move => move.ordered h) hstart
  rwa [Journal.empty_append] at hend

/-! ## Results by position -/

/-- Looking for a number in a list that is numbered from zero is looking at a position. -/
theorem find?_eq_getElem? {α : Type} {f : α → Nat} {l : List α}
    (h : l.map f = List.range l.length) (k : Nat) : l.find? (fun a => f a == k) = l[k]? := by
  have hf : ∀ i (hi : i < l.length), f l[i] = i := by
    intro i hi
    have hget : (l.map f)[i]? = (List.range l.length)[i]? := by rw [h]
    simpa [hi] using hget
  by_cases hk : k < l.length
  · rw [List.getElem?_eq_getElem hk, List.find?_eq_some_iff_getElem]
    refine ⟨by simp [hf k hk], k, hk, rfl, ?_⟩
    intro i hi
    simpa [hf i (by omega)] using Nat.ne_of_lt hi
  · rw [List.getElem?_eq_none (by omega), List.find?_eq_none]
    intro a ha
    rcases List.getElem_of_mem ha with ⟨i, hi, rfl⟩
    rw [hf i hi]
    simp only [beq_iff_eq]
    omega

namespace Ordered

variable {j : Journal} {p : Pipeline}

/-- The answered calls are the first that joined the queue. -/
theorem answered_isPrefix (h : Ordered j p) : p.results.map Prod.fst <+: j.pushed := by
  rw [← h.history]
  exact List.prefix_append _ _

theorem results_tickets (h : Ordered j p) :
    p.results.map (fun entry => entry.1.ticket) = List.range p.results.length := by
  have hanswered := h.answered_isPrefix.map Call.ticket
  rw [h.tickets, List.map_map] at hanswered
  have hlength := hanswered.length_le
  simp only [List.length_map, List.length_range] at hlength
  have htake := List.prefix_iff_eq_take.1 hanswered
  rw [List.length_map, List.take_range, Nat.min_eq_left hlength] at htake
  exact htake

/-- The result of a ticket stands at its position among the results. -/
theorem result?_eq (h : Ordered j p) (ticket : Nat) :
    p.result? ticket = p.results[ticket]?.map Prod.snd := by
  unfold result?
  rw [find?_eq_getElem? h.results_tickets]

/-- The ticket of a call is its position. -/
theorem getElem?_ticket (h : Ordered j p) {call : Call} (hcall : call ∈ j.pushed) :
    j.pushed[call.ticket]? = some call := by
  rcases List.getElem_of_mem hcall with ⟨i, hi, rfl⟩
  have hget : (j.pushed.map Call.ticket)[i]? = (List.range j.pushed.length)[i]? := by
    rw [h.tickets]
  have hticket : j.pushed[i].ticket = i := by simpa [hi] using hget
  rw [hticket, List.getElem?_eq_getElem hi]

/-- The result of a call is the one that it was answered with. -/
theorem result?_eq_some_iff (h : Ordered j p) {call : Call} (hcall : call ∈ j.pushed)
    {result : Result Response} :
    p.result? call.ticket = some result ↔ (call, result) ∈ p.results := by
  rw [h.result?_eq, Option.map_eq_some_iff]
  constructor
  · rintro ⟨⟨answered, _⟩, hentry, rfl⟩
    -- What was answered at the position of the ticket joined the queue there.
    obtain ⟨rest, hrest⟩ := h.answered_isPrefix
    have hanswered : (p.results.map Prod.fst)[call.ticket]? = some answered := by
      rw [List.getElem?_map, hentry, Option.map_some]
    have hpushed := h.getElem?_ticket hcall
    rw [← hrest, List.getElem?_append_left (List.getElem?_eq_some_iff.1 hanswered).1, hanswered,
      Option.some_inj] at hpushed
    exact hpushed ▸ List.mem_of_getElem? hentry
  · intro hmem
    rcases List.getElem?_of_mem hmem with ⟨k, hentry⟩
    have hticket : (p.results.map fun entry => entry.1.ticket)[k]? = some k := by
      rw [h.results_tickets, List.getElem?_range (List.getElem?_eq_some_iff.1 hentry).1]
    rw [List.getElem?_map, hentry, Option.map_some, Option.some_inj] at hticket
    exact ⟨_, hticket ▸ hentry, rfl⟩

/-- No two calls are the same. -/
theorem nodup_pushed (h : Ordered j p) : j.pushed.Nodup := by
  have hnodup : (j.pushed.map Call.ticket).Nodup := by
    rw [h.tickets]
    exact List.nodup_range
  exact List.Nodup.of_map _ hnodup

end Ordered

end Pipeline

end KeyValueClient
