import KeyValueClient.Reply.Decoding
import Mathlib.Tactic.SplitIfs

/-!
# Composed readings

The decoder touches a channel through two reads only, of a line and of a number of
bytes; all else is sequence, choice and refusal.  What holds of both reads therefore
holds of the whole decoder, as long as it is a property that sequence keeps.  Such
properties are comparisons of a reading on two channels; a property of one run
compares a channel with itself.

Main results:

- Theorem `Reading.Composed.holds`: a comparison that both reads satisfy is satisfied
  by every composed reading.
- Theorems `Reading.composed_header` and `Reading.composed_outcome`: the two stages of
  the decoder are composed readings.
-/

namespace KeyValueClient

namespace Reading

/-! ## Readings made of line reads and exact reads -/

/-- A reading made of the two reads of a channel, refusals and sequence. -/
inductive Composed : {α : Type} → Reading α → Prop
  | done {α : Type} (a : α) : Composed (pure a)
  | refuse {α : Type} (cause : ProtocolError) : Composed (refuse cause : Reading α)
  | line : Composed line
  | exact (n : Nat) : Composed (exact n)
  | bind {α β : Type} {x : Reading α} {f : α → Reading β} (hx : Composed x)
      (hf : ∀ a, Composed (f a)) : Composed (x >>= f)

/-! ## Comparisons -/

/-- The failure of a reading and the channel after it. -/
def failure? {α : Type} : EStateM.Result Error Channel α → Option (Error × Channel)
  | .ok .. => none
  | .error e ch => some (e, ch)

theorem failure?_eq_some {α : Type} {result : EStateM.Result Error Channel α} {e : Error}
    {ch : Channel} : failure? result = some (e, ch) ↔ result = .error e ch := by
  cases result <;> simp [failure?]

/-- A way to compare what a reading does on two channels. -/
structure Comparison where
  /-- The channels agree before the reading, and after it if it succeeds. -/
  Related : Channel → Channel → Prop
  /-- What a failure on the first channel says about the failure on the second. -/
  Failed : Error → Channel → Option (Error × Channel) → Prop
  /-- A refusal is decided without the channel, so both readings refuse. -/
  refused : ∀ {first second : Channel} (cause : ProtocolError), Related first second →
    Failed (.protocol cause) first (some (.protocol cause, second))
  /-- A failure that the second reading need not share says nothing about what the
  second reading goes on to do. -/
  excused : ∀ {e : Error} {first : Channel}, Failed e first none →
    ∀ other, Failed e first other

namespace Comparison

/-- The outcomes of a reading on two channels agree. -/
def Agree {α : Type} (C : Comparison) (r₁ r₂ : EStateM.Result Error Channel α) : Prop :=
  match r₁ with
  | .ok a ch₁ => ∃ ch₂, r₂ = .ok a ch₂ ∧ C.Related ch₁ ch₂
  | .error e ch₁ => C.Failed e ch₁ (failure? r₂)

/-- A reading agrees with itself on every two related channels. -/
def Holds {α : Type} (C : Comparison) (x : Reading α) : Prop :=
  ∀ ch₁ ch₂, C.Related ch₁ ch₂ → C.Agree (x ch₁) (x ch₂)

theorem holds_done {α : Type} (C : Comparison) (a : α) : C.Holds (pure a : Reading α) := by
  intro ch₁ ch₂ hrelated
  exact ⟨ch₂, rfl, hrelated⟩

theorem holds_refuse {α : Type} (C : Comparison) (cause : ProtocolError) :
    C.Holds (refuse cause : Reading α) := by
  intro ch₁ ch₂ hrelated
  exact C.refused cause hrelated

/-- A comparison is kept by sequence. -/
theorem holds_bind {α β : Type} (C : Comparison) {x : Reading α} {f : α → Reading β}
    (hx : C.Holds x) (hf : ∀ a, C.Holds (f a)) : C.Holds (x >>= f) := by
  intro ch₁ ch₂ hrelated
  have hagree := hx ch₁ ch₂ hrelated
  change C.Agree (EStateM.bind x f ch₁) (EStateM.bind x f ch₂)
  unfold EStateM.bind
  cases h₁ : x ch₁ with
  | ok a mid₁ =>
    rw [h₁] at hagree
    rcases hagree with ⟨mid₂, h₂, hmid⟩
    rw [h₂]
    exact hf a mid₁ mid₂ hmid
  | error e after₁ =>
    rw [h₁] at hagree
    -- The second reading may get past this failure only if the failure is excused.
    cases h₂ : x ch₂ with
    | ok a mid₂ =>
      rw [h₂] at hagree
      exact C.excused hagree _
    | error e' after₂ =>
      rw [h₂] at hagree
      exact hagree

end Comparison

/-- A comparison that both reads satisfy is satisfied by every composed reading. -/
theorem Composed.holds {C : Comparison} (hline : C.Holds Reading.line)
    (hexact : ∀ n, C.Holds (Reading.exact n)) {α : Type} {x : Reading α}
    (hx : Composed x) : C.Holds x := by
  induction hx with
  | done a => exact C.holds_done a
  | refuse cause => exact C.holds_refuse cause
  | line => exact hline
  | exact n => exact hexact n
  | bind _ _ ihx ihf => exact C.holds_bind ihx ihf

/-! ## The decoder is composed -/

theorem composed_header : Composed header := by
  refine .bind .line fun bytes => ?_
  cases bytes with
  | nil => exact .refuse _
  | cons first body => exact .done _

theorem composed_text (body : Bytes) : Composed (text body) := by
  unfold text
  split
  · exact .done _
  · exact .refuse _

theorem composed_number (body : Bytes) : Composed (number body) := by
  unfold number
  split
  · exact .done _
  · exact .refuse _

theorem composed_length (limit : Nat) (body : Bytes) : Composed (length limit body) := by
  refine .bind (composed_number body) fun n => ?_
  split
  · split
    · exact .refuse _
    · exact .done _
  · exact .done _
  · exact .refuse _

theorem composed_bulk (body : Bytes) : Composed (bulk body) := by
  refine .bind (composed_length maxBulkLength body) fun length? => ?_
  cases length? with
  | none => exact .done _
  | some n =>
    refine .bind (.exact _) fun data => ?_
    split
    · exact .done _
    · exact .refuse _

theorem composed_bulkValues (count remaining : Nat) :
    Composed (bulkValues count remaining) := by
  induction remaining with
  | zero => exact .done _
  | succ remaining ih =>
    refine .bind composed_header fun (marker, body) => ?_
    dsimp only
    split
    · exact .refuse _
    · exact .bind (composed_bulk body) fun value => .bind ih fun values => .done _

theorem composed_multiBulk (body : Bytes) : Composed (multiBulk body) := by
  refine .bind (composed_length maxListLength body) fun count? => ?_
  cases count? with
  | none => exact .done _
  | some count => exact .bind (composed_bulkValues count count) fun values => .done _

theorem composed_element {nested : Bytes → Reading (Option (List Element))}
    (hnested : ∀ body, Composed (nested body)) : Composed (element nested) := by
  refine .bind composed_header fun (marker, body) => ?_
  cases marker with
  | status => exact .bind (composed_text body) fun s => .done _
  | error => exact .bind (composed_text body) fun s => .done _
  | integer => exact .bind (composed_number body) fun n => .done _
  | bulk => exact .bind (composed_bulk body) fun value => .done _
  | list =>
    refine .bind (hnested body) fun items? => ?_
    cases items? with
    | none => exact .done _
    | some items => exact .done _
  | other byte => exact .refuse _

theorem composed_elements {nested : Bytes → Reading (Option (List Element))}
    (hnested : ∀ body, Composed (nested body)) (count : Nat) :
    Composed (elements nested count) := by
  induction count with
  | zero => exact .done _
  | succ count ih =>
    exact .bind (composed_element hnested) fun item => .bind ih fun items => .done _

theorem composed_aggregate (levels : Nat) (body : Bytes) :
    Composed (aggregate levels body) := by
  induction levels generalizing body with
  | zero => exact .refuse _
  | succ levels ih =>
    refine .bind (composed_length maxListLength body) fun count? => ?_
    cases count? with
    | none => exact .done _
    | some count => exact .bind (composed_elements ih count) fun items => .done _

theorem composed_statusReply (command : Command) (marker : Marker) (body : Bytes) :
    Composed (statusReply command marker body) := by
  unfold statusReply
  split_ifs
  · exact .refuse _
  · exact .done _
  · exact .done _
  · exact .done _

theorem composed_boolean (command : Command) (body : Bytes) :
    Composed (boolean command body) := by
  unfold boolean
  split_ifs
  · exact .done _
  · exact .done _
  · exact .refuse _

theorem composed_payload (command : Command) (marker : Marker) (body : Bytes) :
    Composed (payload command marker body) := by
  unfold payload
  split
  · exact .bind (composed_number body) fun n => .done _
  · exact .bind (composed_boolean command body) fun b => .done _
  · exact .bind (composed_text body) fun s => .done _
  · exact .bind (composed_bulk body) fun value => .done _
  · exact .bind (composed_multiBulk body) fun values => .done _
  · exact .bind (composed_aggregate maxNesting body) fun items => .done _
  · exact .refuse _

/-- What follows the first line of a reply is read by a composed reading. -/
theorem composed_outcome (command : Command) (marker : Marker) (body : Bytes) :
    Composed (outcome command marker body) := by
  unfold outcome
  split_ifs
  · exact .bind (composed_text body) fun s => .done _
  · exact composed_statusReply command marker body
  · exact .done _
  · exact .bind (composed_payload command marker body) fun reply => .done _

end Reading

end KeyValueClient
