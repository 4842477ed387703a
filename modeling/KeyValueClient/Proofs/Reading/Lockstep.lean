import KeyValueClient.Proofs.Reading.Composed
import KeyValueClient.Proofs.Reading.Pulls

/-!
# Comparisons of channels that hold the same bytes

Two channels whose buffers stay equal pull at the same moments.  A comparison of such
channels has to be checked for one pull only; the loops of the two reads, and with
them the whole decoder, then satisfy it.

Main results:

- Theorem `Reading.Comparison.Lockstep.holds`: a comparison that is checked for one
  pull is satisfied by every composed reading.
-/

namespace KeyValueClient

/-! ## Lockstep -/

namespace Reading.Comparison

/-- A failed pull on the first channel is excused, or the second channel fails alike. -/
def FailsAlike (C : Comparison) (e : Error) (ch₁ : Channel) (met : Arrival)
    (ch₂ : Channel) : Prop :=
  C.Failed e ch₁ none ∨
    ∃ rest₂, ch₂.source.pull ch₂.readSize = (met, rest₂) ∧
      C.Failed e ch₁ (some (e, { ch₂ with source := rest₂ }))

/-- A reading that fails with its pull agrees with one that fails with the same pull. -/
theorem FailsAlike.agree {C : Comparison} {α : Type} {e : Error} {ch₁ ch₂ : Channel}
    {met : Arrival} {result : EStateM.Result Error Channel α} (h : C.FailsAlike e ch₁ met ch₂)
    (hresult : ∀ rest₂, ch₂.source.pull ch₂.readSize = (met, rest₂) →
      result = .error e { ch₂ with source := rest₂ }) : C.Agree (.error e ch₁) result := by
  rcases h with hexcused | ⟨rest₂, hpull₂, hfailed⟩
  · exact C.excused hexcused _
  · rw [hresult rest₂ hpull₂]
    exact hfailed

/-- The compared channels hold the same bytes, and one pull keeps the comparison. -/
structure Lockstep (C : Comparison) : Prop where
  buffer_eq : ∀ {ch₁ ch₂}, C.Related ch₁ ch₂ → ch₂.buffer = ch₁.buffer
  lineLimit_eq : ∀ {ch₁ ch₂}, C.Related ch₁ ch₂ → ch₂.lineLimit = ch₁.lineLimit
  refill : ∀ {ch₁ ch₂} (buffer : Bytes), C.Related ch₁ ch₂ →
    C.Related { ch₁ with buffer := buffer } { ch₂ with buffer := buffer }
  pull_bytes : ∀ {ch₁ ch₂ data rest₁}, C.Related ch₁ ch₂ →
    ch₁.source.pull ch₁.readSize = (.bytes data, rest₁) →
      ∃ rest₂, ch₂.source.pull ch₂.readSize = (.bytes data, rest₂) ∧
        C.Related { ch₁ with source := rest₁ } { ch₂ with source := rest₂ }
  pull_ended : ∀ {ch₁ ch₂ rest₁}, C.Related ch₁ ch₂ →
    ch₁.source.pull ch₁.readSize = (.ended, rest₁) → ∀ expected available,
      C.FailsAlike (.endOfStream expected available) { ch₁ with source := rest₁ } .ended ch₂
  pull_failed : ∀ {ch₁ ch₂ cause rest₁}, C.Related ch₁ ch₂ →
    ch₁.source.pull ch₁.readSize = (.failed cause, rest₁) →
      C.FailsAlike (.transport cause) { ch₁ with source := rest₁ } (.failed cause) ch₂

namespace Lockstep

variable {C : Comparison} (h : C.Lockstep)
include h

theorem holds_exact (n : Nat) : C.Holds (Reading.exact n) := by
  intro ch₁ ch₂ hrelated
  change C.Agree (ch₁.readExact n) (ch₂.readExact n)
  induction ch₁ using Channel.pull_induction generalizing ch₂ with
  | step ch₁ ih =>
    have hbuffer := h.buffer_eq hrelated
    by_cases hshort : n ≤ ch₁.buffer.length
    · rw [Channel.readExact_buffered hshort, Channel.readExact_buffered (hbuffer ▸ hshort),
        hbuffer]
      exact ⟨_, rfl, h.refill _ hrelated⟩
    · rcases hpull : ch₁.source.pull ch₁.readSize with ⟨data | _ | cause, rest₁⟩
      · rcases h.pull_bytes hrelated hpull with ⟨rest₂, hpull₂, hrest⟩
        rw [Channel.readExact_pull_bytes hshort hpull,
          Channel.readExact_pull_bytes (hbuffer ▸ hshort) hpull₂, hbuffer]
        exact ih _ _ hpull _ (h.refill _ hrest)
      · rw [Channel.readExact_pull_ended hshort hpull]
        refine (h.pull_ended hrelated hpull n ch₁.buffer.length).agree fun rest₂ hpull₂ => ?_
        rw [Channel.readExact_pull_ended (hbuffer ▸ hshort) hpull₂, hbuffer]
      · rw [Channel.readExact_pull_failed hshort hpull]
        refine (h.pull_failed hrelated hpull).agree fun rest₂ hpull₂ => ?_
        exact Channel.readExact_pull_failed (hbuffer ▸ hshort) hpull₂

theorem agree_takeLine {ch₁ ch₂ : Channel} (hrelated : C.Related ch₁ ch₂) (lf : Nat) :
    C.Agree (ch₁.takeLine lf) (ch₂.takeLine lf) := by
  have hlimit := h.lineLimit_eq hrelated
  have hrest := h.refill (ch₁.buffer.drop (lf + 1)) hrelated
  unfold Channel.takeLine
  rw [h.buffer_eq hrelated, hlimit]
  rw [hlimit] at hrest
  dsimp only
  split_ifs
  · exact C.refused _ hrelated
  · exact C.refused _ hrelated
  · exact ⟨_, rfl, hrest⟩

theorem holds_line : C.Holds Reading.line := by
  intro ch₁ ch₂ hrelated
  change C.Agree ch₁.readLine ch₂.readLine
  induction ch₁ using Channel.pull_induction generalizing ch₂ with
  | step ch₁ ih =>
    have hbuffer := h.buffer_eq hrelated
    have hlimit := h.lineLimit_eq hrelated
    cases hopen : ch₁.buffer.findIdx? (· == Bytes.lf) with
    | some lf =>
      rw [Channel.readLine_buffered hopen, Channel.readLine_buffered (hbuffer ▸ hopen)]
      exact h.agree_takeLine hrelated lf
    | none =>
      have hopen₂ : ch₂.buffer.findIdx? (· == Bytes.lf) = none := hbuffer ▸ hopen
      by_cases hfull : ch₁.lineLimit ≤ ch₁.buffer.length
      · rw [Channel.readLine_full hopen hfull,
          Channel.readLine_full hopen₂ (by rwa [hbuffer, hlimit]), hlimit]
        exact C.refused _ hrelated
      · have hroom₂ : ¬ ch₂.lineLimit ≤ ch₂.buffer.length := by rwa [hbuffer, hlimit]
        rcases hpull : ch₁.source.pull ch₁.readSize with ⟨data | _ | cause, rest₁⟩
        · rcases h.pull_bytes hrelated hpull with ⟨rest₂, hpull₂, hrest⟩
          rw [Channel.readLine_pull_bytes hopen hfull hpull,
            Channel.readLine_pull_bytes hopen₂ hroom₂ hpull₂, hbuffer]
          exact ih _ _ hpull _ (h.refill _ hrest)
        · rw [Channel.readLine_pull_ended hopen hfull hpull]
          refine (h.pull_ended hrelated hpull _ _).agree fun rest₂ hpull₂ => ?_
          rw [Channel.readLine_pull_ended hopen₂ hroom₂ hpull₂, hbuffer]
        · rw [Channel.readLine_pull_failed hopen hfull hpull]
          refine (h.pull_failed hrelated hpull).agree fun rest₂ hpull₂ => ?_
          exact Channel.readLine_pull_failed hopen₂ hroom₂ hpull₂

/-- A comparison that is checked for one pull is satisfied by every composed reading. -/
theorem holds {α : Type} {x : Reading α} (hx : Composed x) : C.Holds x :=
  hx.holds h.holds_line h.holds_exact

end Lockstep

end Reading.Comparison

end KeyValueClient
