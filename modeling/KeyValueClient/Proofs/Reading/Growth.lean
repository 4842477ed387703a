import KeyValueClient.Proofs.Reading.Lockstep
import KeyValueClient.Response

/-!
# Readings of a growing source

While a peer is silent the reader can only wait, and more may still arrive.  A reading
that finished without reaching the silence finishes in the same way when more has
arrived, and leaves the arrivals behind for the next one.

Main results:

- Theorem `Reading.growth_holds`: a composed reading that does not reach the silence is
  not changed by what arrives behind it.
- Theorem `Response.read_followedBy`: neither is the reading of a reply.
-/

namespace KeyValueClient

/-! ## Sources with more behind them -/

namespace Source

/-- A source that goes on as another source where it was silent. -/
def followedBy (s more : Source) : Source :=
  ⟨s.events ++ more.events, more.silence⟩

theorem pullEvents_append {silence silence' : Silence} {most : Nat}
    {events : List SourceEvent} (more : List SourceEvent)
    (hbefore : (pullEvents silence most events).1 ≠ atEnd silence) :
    pullEvents silence' most (events ++ more) =
      ((pullEvents silence most events).1, (pullEvents silence most events).2 ++ more) := by
  induction events with
  | nil => exact absurd rfl hbefore
  | cons event rest ih =>
    match event with
    | .data [] => exact ih hbefore
    | .data (b :: bytes) => rfl
    | .interrupted => exact ih hbefore
    | .failed cause => rfl
    | .ended => rfl

/-- A pull that does not reach the silence is not changed by what stands behind it. -/
theorem pull_followedBy {most : Nat} {s rest : Source} {arrival : Arrival} (more : Source)
    (hpull : s.pull most = (arrival, rest)) (hbefore : arrival ≠ atEnd s.silence) :
    (s.followedBy more).pull most = (arrival, rest.followedBy more) := by
  simp only [pull, Prod.mk.injEq] at hpull
  rcases hpull with ⟨rfl, rfl⟩
  simp only [pull, followedBy]
  rw [pullEvents_append more.events hbefore]

/-- A pull leaves what the peer does after the last event as it was. -/
theorem pull_silence {most : Nat} {s rest : Source} {arrival : Arrival}
    (hpull : s.pull most = (arrival, rest)) : rest.silence = s.silence := by
  simp only [pull, Prod.mk.injEq] at hpull
  rw [← hpull.2]

end Source

/-- A channel whose source goes on as another source. -/
def Channel.followedBy (more : Source) (ch : Channel) : Channel :=
  { ch with source := ch.source.followedBy more }

/-! ## The comparison -/

/-- The error reports that a reading needed more than the source had. -/
def Silence.Reports (silence : Silence) (e : Error) : Prop :=
  match silence with
  | .gone => ∃ expected available, e = .endOfStream expected available
  | .waiting => e = .transport .wouldBlock

namespace Silence

theorem reports_ended {silence : Silence} (hend : Arrival.ended = Source.atEnd silence)
    (expected available : Nat) : silence.Reports (.endOfStream expected available) := by
  cases silence with
  | gone => exact ⟨expected, available, rfl⟩
  | waiting => contradiction

theorem reports_failed {silence : Silence} {cause : TransportError}
    (hend : Arrival.failed cause = Source.atEnd silence) :
    silence.Reports (.transport cause) := by
  cases silence with
  | gone => contradiction
  | waiting =>
    injection hend with hcause
    rw [hcause]
    rfl

theorem bytes_ne_atEnd (silence : Silence) (data : Bytes) :
    Arrival.bytes data ≠ Source.atEnd silence := by
  cases silence <;> simp [Source.atEnd]

end Silence

namespace Reading

/-- A channel is compared with the same channel after more has arrived.  A reading that
reached the silence is excused. -/
def growth (silence : Silence) (more : Source) : Comparison where
  Related ch₁ ch₂ := ch₁.source.silence = silence ∧ ch₂ = ch₁.followedBy more
  Failed e ch₁ other := silence.Reports e ∨
    ch₁.source.silence = silence ∧ other = some (e, ch₁.followedBy more)
  refused := by
    rintro ch₁ _ cause ⟨hsilence, rfl⟩
    exact Or.inr ⟨hsilence, rfl⟩
  excused := by
    rintro e ch₁ (hreports | ⟨_, hnone⟩) other
    · exact Or.inl hreports
    · contradiction

theorem lockstep_growth (silence : Silence) (more : Source) :
    (growth silence more).Lockstep where
  buffer_eq := by
    rintro ch₁ _ ⟨_, rfl⟩
    rfl
  lineLimit_eq := by
    rintro ch₁ _ ⟨_, rfl⟩
    rfl
  refill := by
    rintro ch₁ _ buffer ⟨hsilence, rfl⟩
    exact ⟨hsilence, rfl⟩
  pull_bytes := by
    rintro ch₁ _ data rest₁ ⟨hsilence, rfl⟩ hpull
    have hbefore := Silence.bytes_ne_atEnd ch₁.source.silence data
    exact ⟨_, Source.pull_followedBy more hpull hbefore,
      (Source.pull_silence hpull).trans hsilence, rfl⟩
  pull_ended := by
    rintro ch₁ _ rest₁ ⟨hsilence, rfl⟩ hpull expected available
    by_cases hend : Arrival.ended = Source.atEnd ch₁.source.silence
    · exact Or.inl (Or.inl (Silence.reports_ended (hsilence ▸ hend) _ _))
    · exact Or.inr ⟨_, Source.pull_followedBy more hpull hend,
        Or.inr ⟨(Source.pull_silence hpull).trans hsilence, rfl⟩⟩
  pull_failed := by
    rintro ch₁ _ cause rest₁ ⟨hsilence, rfl⟩ hpull
    by_cases hend : Arrival.failed cause = Source.atEnd ch₁.source.silence
    · exact Or.inl (Or.inl (Silence.reports_failed (hsilence ▸ hend)))
    · exact Or.inr ⟨_, Source.pull_followedBy more hpull hend,
        Or.inr ⟨(Source.pull_silence hpull).trans hsilence, rfl⟩⟩

/-- A composed reading that does not reach the silence is not changed by what arrives
behind it. -/
theorem growth_holds {α : Type} {x : Reading α} (hx : Composed x) (silence : Silence)
    (more : Source) : (growth silence more).Holds x :=
  (lockstep_growth silence more).holds hx

variable {α : Type} {x : Reading α} {ch ch' : Channel} {silence : Silence}

theorem Composed.ok_followedBy (hx : Composed x) (hsilence : ch.source.silence = silence)
    {a : α} (h : x ch = .ok a ch') (more : Source) :
    x (ch.followedBy more) = .ok a (ch'.followedBy more) ∧ ch'.source.silence = silence := by
  have hagree := growth_holds hx silence more ch _ ⟨hsilence, rfl⟩
  rw [h] at hagree
  rcases hagree with ⟨_, hok, hsilence', rfl⟩
  exact ⟨hok, hsilence'⟩

theorem Composed.error_followedBy (hx : Composed x) (hsilence : ch.source.silence = silence)
    {e : Error} (h : x ch = .error e ch') (hmet : ¬ silence.Reports e) (more : Source) :
    x (ch.followedBy more) = .error e (ch'.followedBy more) ∧
      ch'.source.silence = silence := by
  have hagree := growth_holds hx silence more ch _ ⟨hsilence, rfl⟩
  rw [h] at hagree
  rcases hagree with hreports | ⟨hsilence', hfailed⟩
  · exact absurd hreports hmet
  · exact ⟨failure?_eq_some.1 hfailed, hsilence'⟩

end Reading

/-! ## Replies -/

/-- A reply that has arrived is not changed by what arrives behind it. -/
theorem Outcome.read_ok_followedBy {command : Command} {outcome : Outcome}
    {ch ch' : Channel} (hwait : ch.source.silence = .waiting)
    (h : Outcome.read command ch = .ok outcome ch') (more : Source) :
    Outcome.read command (ch.followedBy more) = .ok outcome (ch'.followedBy more) ∧
      ch'.source.silence = .waiting := by
  unfold Outcome.read at h ⊢
  cases hheader : Reading.header ch with
  | ok first mid =>
    rcases first with ⟨marker, body⟩
    rcases Reading.composed_header.ok_followedBy hwait hheader more with ⟨hgrown, hmid⟩
    rw [hheader] at h
    rw [hgrown]
    exact (Reading.composed_outcome command marker body).ok_followedBy hmid h more
  | error e mid =>
    rw [hheader] at h
    dsimp only at h
    split at h
    · rename_i hsilent
      -- A silent close is an end of stream, and the silence of a waiting peer is none.
      have hmet : ¬ Silence.waiting.Reports e := by
        rintro rfl
        exact absurd hsilent (by simp [Error.isSilentClose])
      rcases Reading.composed_header.error_followedBy hwait hheader hmet more with
        ⟨hgrown, hmid⟩
      injection h with houtcome hch
      subst houtcome hch
      rw [hgrown]
      simp [hsilent, hmid]
    · contradiction

/-- Neither is a failure, unless it is that the reply has not arrived. -/
theorem Outcome.read_error_followedBy {command : Command} {e : Error} {ch ch' : Channel}
    (hwait : ch.source.silence = .waiting) (h : Outcome.read command ch = .error e ch')
    (hmet : e ≠ .transport .wouldBlock) (more : Source) :
    Outcome.read command (ch.followedBy more) = .error e (ch'.followedBy more) ∧
      ch'.source.silence = .waiting := by
  unfold Outcome.read at h ⊢
  cases hheader : Reading.header ch with
  | ok first mid =>
    rcases first with ⟨marker, body⟩
    rcases Reading.composed_header.ok_followedBy hwait hheader more with ⟨hgrown, hmid⟩
    rw [hheader] at h
    rw [hgrown]
    exact (Reading.composed_outcome command marker body).error_followedBy hmid h hmet more
  | error e' mid =>
    rw [hheader] at h
    dsimp only at h
    split at h
    · contradiction
    · rename_i hloud
      injection h with herror hch
      subst herror hch
      rcases Reading.composed_header.error_followedBy hwait hheader hmet more with
        ⟨hgrown, hmid⟩
      rw [hgrown]
      simp [hloud, hmid]

/-- The reading of a reply is not changed by what arrives behind it, unless the reply
has not arrived. -/
theorem Response.read_followedBy {r r' : Response} {result : Result Unit}
    {ch ch' : Channel} (hwait : ch.source.silence = .waiting)
    (h : r.read ch = (result, r', ch')) (hmet : result ≠ .error (.transport .wouldBlock))
    (more : Source) :
    r.read (ch.followedBy more) = (result, r', ch'.followedBy more) ∧
      ch'.source.silence = .waiting := by
  unfold Response.read at h ⊢
  cases houtcome : r.outcome? with
  | some outcome =>
    rw [houtcome] at h
    simp only [Prod.mk.injEq] at h
    rcases h with ⟨rfl, rfl, rfl⟩
    exact ⟨rfl, hwait⟩
  | none =>
    rw [houtcome] at h
    cases hread : Outcome.read r.command ch with
    | ok outcome mid =>
      simp only [hread, Prod.mk.injEq] at h
      rcases h with ⟨rfl, rfl, rfl⟩
      rcases Outcome.read_ok_followedBy hwait hread more with ⟨hgrown, hmid⟩
      simp [hgrown, hmid]
    | error e mid =>
      simp only [hread, Prod.mk.injEq] at h
      rcases h with ⟨rfl, rfl, rfl⟩
      have hcause : e ≠ .transport .wouldBlock := fun heq => hmet (by rw [heq])
      rcases Outcome.read_error_followedBy hwait hread hcause more with ⟨hgrown, hmid⟩
      simp [hgrown, hmid]

end KeyValueClient
