import KeyValueClient.Proofs.Reading.Lockstep
import KeyValueClient.Response

/-!
# How readings end

A reading fails only with an error of the stream.  If the stream comes to an end, a
reading never waits for more, and a reply leaves the end of the stream for the next
reading, unless the end itself was the reply.

Main results:

- Theorem `Outcome.read_isStream`: decoding a reply fails only with an error of the
  stream.
- Theorems `Outcome.read_ne_wouldBlock` and `Outcome.read_ok_ends`: on a stream that ends,
  decoding does not wait, and a reply that is not terminal leaves a stream that ends.
-/

namespace KeyValueClient

/-! ## Errors of the stream -/

/-- The error says that the bytes failed to come or broke the protocol. -/
def Error.IsStream (e : Error) : Prop :=
  (∃ cause, e = .transport cause) ∨ (∃ cause, e = .protocol cause) ∨
    ∃ expected available, e = .endOfStream expected available

theorem Error.IsStream.isFatal {e : Error} (h : e.IsStream) : e.isFatal = true := by
  rcases h with ⟨_, rfl⟩ | ⟨_, rfl⟩ | ⟨_, _, rfl⟩ <;> rfl

theorem Error.IsStream.ne_faulted {e : Error} (h : e.IsStream) (fault : Fault) :
    e ≠ .faulted fault := by
  rcases h with ⟨_, rfl⟩ | ⟨_, rfl⟩ | ⟨_, _, rfl⟩ <;> simp

/-! ## Sources that end -/

namespace Source

/-- What the source sends comes to an end: every read meets bytes, a failure or an end of
the stream. -/
structure Ends (s : Source) : Prop where
  not_wait : .failed .wouldBlock ∉ s.events
  gone_or_ended : s.silence = .gone ∨ .ended ∈ s.events

theorem mem_pullEvents_iff {silence : Silence} {most : Nat}
    {events rest : List SourceEvent} {data : Bytes}
    (h : pullEvents silence most events = (.bytes data, rest)) (event : SourceEvent)
    (hnoise : event ≠ .interrupted) (hdata : ∀ bytes, event ≠ .data bytes) :
    event ∈ rest ↔ event ∈ events := by
  fun_induction pullEvents silence most events with
  | case1 => cases silence <;> simp [atEnd] at h
  | case2 tail ih => simpa [hnoise] using ih h
  | case3 => simp at h
  | case4 => simp at h
  | case5 tail ih => simpa [hdata] using ih h
  | case6 b bytes tail =>
    simp only [Prod.mk.injEq] at h
    simp [← h.2, hdata]

theorem pullEvents_wouldBlock {silence : Silence} {most : Nat}
    {events rest : List SourceEvent}
    (h : pullEvents silence most events = (.failed .wouldBlock, rest)) :
    .failed .wouldBlock ∈ events ∨ silence = .waiting ∧ .ended ∉ events := by
  fun_induction pullEvents silence most events with
  | case1 => cases silence <;> simp_all [atEnd]
  | case2 tail ih => simpa using ih h
  | case3 => simp_all
  | case4 => simp at h
  | case5 tail ih => simpa using ih h
  | case6 b bytes tail => simp at h

/-- A pull that delivers bytes does not take the end away. -/
theorem Ends.pull {s rest : Source} {most : Nat} {data : Bytes} (hends : s.Ends)
    (hpull : s.pull most = (.bytes data, rest)) : rest.Ends := by
  simp only [Source.pull, Prod.mk.injEq] at hpull
  rcases hpull with ⟨hdata, rfl⟩
  have hmem := mem_pullEvents_iff (Prod.ext hdata rfl)
  constructor
  · rw [hmem _ (by simp) (by simp)]
    exact hends.not_wait
  · rw [hmem _ (by simp) (by simp)]
    exact hends.gone_or_ended

/-- A pull from a source that ends does not wait. -/
theorem Ends.pull_ne_wouldBlock {s rest : Source} {most : Nat} {cause : TransportError}
    (hends : s.Ends) (hpull : s.pull most = (.failed cause, rest)) : cause ≠ .wouldBlock := by
  rintro rfl
  simp only [Source.pull, Prod.mk.injEq] at hpull
  rcases hpull with ⟨hfailed, rfl⟩
  rcases pullEvents_wouldBlock (Prod.ext hfailed rfl) with hwait | ⟨hwaiting, hnot⟩
  · exact hends.not_wait hwait
  · rcases hends.gone_or_ended with hgone | hended
    · rw [hgone] at hwaiting
      contradiction
    · exact hnot hended

end Source

/-! ## Comparisons of a channel with itself -/

namespace Reading

/-- A channel is compared with itself: success keeps a property of the channel, and
failure has a property of the error. -/
def Comparison.self (Kept : Channel → Prop) (Reported : Error → Prop)
    (hrefused : ∀ cause, Reported (.protocol cause)) : Comparison where
  Related ch₁ ch₂ := ch₂ = ch₁ ∧ Kept ch₁
  Failed e _ _ := Reported e
  refused := fun cause _ => hrefused cause
  excused := fun hreported _ => hreported

/-- A property of channels is kept if filling the buffer and pulling bytes keep it. -/
theorem Comparison.lockstep_self {Kept : Channel → Prop} {Reported : Error → Prop}
    {hrefused : ∀ cause, Reported (.protocol cause)}
    (hrefill : ∀ ch buffer, Kept ch → Kept { ch with buffer := buffer })
    (hbytes : ∀ ch data rest, Kept ch → ch.source.pull ch.readSize = (.bytes data, rest) →
      Kept { ch with source := rest })
    (hended : ∀ expected available, Reported (.endOfStream expected available))
    (hfailed : ∀ ch cause rest, Kept ch → ch.source.pull ch.readSize = (.failed cause, rest) →
      Reported (.transport cause)) :
    (Comparison.self Kept Reported hrefused).Lockstep where
  buffer_eq := by
    rintro ch₁ _ ⟨rfl, _⟩
    rfl
  lineLimit_eq := by
    rintro ch₁ _ ⟨rfl, _⟩
    rfl
  refill := by
    rintro ch₁ _ buffer ⟨rfl, hkept⟩
    exact ⟨rfl, hrefill _ buffer hkept⟩
  pull_bytes := by
    rintro ch₁ _ data rest₁ ⟨rfl, hkept⟩ hpull
    exact ⟨rest₁, hpull, rfl, hbytes _ data rest₁ hkept hpull⟩
  pull_ended := fun _ _ expected available => Or.inl (hended expected available)
  pull_failed := fun hrelated hpull => Or.inl (hfailed _ _ _ hrelated.2 hpull)

variable {α : Type} {x : Reading α} {ch ch' : Channel}

/-- A composed reading fails only with an error of the stream. -/
theorem Composed.isStream (hx : Composed x) {e : Error} (h : x ch = .error e ch') :
    e.IsStream := by
  have hlockstep : (Comparison.self (fun _ => True) Error.IsStream
      (fun cause => Or.inr (Or.inl ⟨cause, rfl⟩))).Lockstep := by
    apply Comparison.lockstep_self
    · exact fun _ _ _ => trivial
    · exact fun _ _ _ _ _ => trivial
    · exact fun expected available => Or.inr (Or.inr ⟨expected, available, rfl⟩)
    · exact fun _ cause _ _ _ => Or.inl ⟨cause, rfl⟩
  have hagree := hlockstep.holds hx ch ch ⟨rfl, trivial⟩
  rw [h] at hagree
  exact hagree

/-- The comparison for streams that end. -/
theorem lockstep_ends :
    (Comparison.self (fun ch => ch.source.Ends) (fun e => e ≠ .transport .wouldBlock)
      (by simp)).Lockstep := by
  apply Comparison.lockstep_self
  · exact fun _ _ hends => hends
  · exact fun _ _ _ hends hpull => hends.pull hpull
  · simp
  · intro ch cause rest hends hpull hwait
    injection hwait with hcause
    exact hends.pull_ne_wouldBlock hpull hcause

/-- A composed reading that succeeds leaves a stream that ends. -/
theorem Composed.ok_ends (hx : Composed x) (hends : ch.source.Ends) {a : α}
    (h : x ch = .ok a ch') : ch'.source.Ends := by
  have hagree := lockstep_ends.holds hx ch ch ⟨rfl, hends⟩
  rw [h] at hagree
  rcases hagree with ⟨_, _, _, hkept⟩
  exact hkept

/-- A composed reading on a stream that ends does not wait. -/
theorem Composed.ne_wouldBlock (hx : Composed x) (hends : ch.source.Ends) {e : Error}
    (h : x ch = .error e ch') : e ≠ .transport .wouldBlock := by
  have hagree := lockstep_ends.holds hx ch ch ⟨rfl, hends⟩
  rw [h] at hagree
  exact hagree

end Reading

/-! ## Replies -/

namespace Outcome

variable {command : Command} {ch ch' : Channel}

/-- Decoding a reply fails only with an error of the stream. -/
theorem read_isStream {e : Error} (h : Outcome.read command ch = .error e ch') :
    e.IsStream := by
  unfold Outcome.read at h
  split at h
  · exact (Reading.composed_outcome _ _ _).isStream h
  · rename_i hheader
    split at h
    · contradiction
    · injection h with herror _
      rw [← herror]
      exact Reading.composed_header.isStream hheader

/-- Decoding a reply on a stream that ends does not wait. -/
theorem read_ne_wouldBlock {e : Error} (hends : ch.source.Ends)
    (h : Outcome.read command ch = .error e ch') : e ≠ .transport .wouldBlock := by
  unfold Outcome.read at h
  split at h
  · rename_i hheader
    have hmid := Reading.composed_header.ok_ends hends hheader
    exact (Reading.composed_outcome _ _ _).ne_wouldBlock hmid h
  · rename_i hheader
    split at h
    · contradiction
    · injection h with herror _
      rw [← herror]
      exact Reading.composed_header.ne_wouldBlock hends hheader

/-- A reply that is not terminal leaves a stream that ends. -/
theorem read_ok_ends {outcome : Outcome} (hends : ch.source.Ends)
    (h : Outcome.read command ch = .ok outcome ch')
    (hstatus : outcome.status.isTerminal = false) : ch'.source.Ends := by
  unfold Outcome.read at h
  split at h
  · rename_i hheader
    have hmid := Reading.composed_header.ok_ends hends hheader
    exact (Reading.composed_outcome _ _ _).ok_ends hmid h
  · split at h
    · injection h with houtcome _
      rw [← houtcome] at hstatus
      contradiction
    · contradiction

end Outcome

end KeyValueClient
