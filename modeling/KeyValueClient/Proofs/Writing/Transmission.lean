import KeyValueClient.Stream.Sink

/-!
# How transmissions end

A transmission that fails has still taken a first part of its bytes, flushes nothing,
and is remembered as a failure.  A reliable sink never fails, however slowly it takes
the bytes.

Main results:

- Theorem `Sink.transmit_error`: what a failed transmission leaves behind.
- Theorem `Sink.Reliable.transmit`: a reliable sink takes everything and stays reliable.
-/

namespace KeyValueClient

namespace Sink

/-! ## Failed transmissions -/

/-- A write takes a first part of its bytes. -/
theorem isPrefix_taken_writeScript (later : WriteEvent) (writes : List (Option WriteEvent))
    (data : Bytes) : (writeScript later writes data).taken <+: data := by
  fun_induction writeScript later writes data with
  | case1 => exact List.prefix_rfl
  | case2 data hdata =>
    unfold writeLater
    split <;> simp
  | case3 writes data hdata ih => exact ih
  | case4 => exact List.prefix_rfl
  | case5 => exact List.nil_prefix
  | case6 => exact List.nil_prefix
  | case7 most writes data hdata written ih =>
    have happend := (List.prefix_append_right_inj (data.take (most + 1))).2 ih
    rwa [List.take_append_drop] at happend

/-- A write takes a first part of its bytes and flushes nothing. -/
theorem writeAll_taken (data : Bytes) (s : Sink) :
    (∃ taken, taken <+: data ∧ (s.writeAll data).2.sent = s.sent ++ taken) ∧
      (s.writeAll data).2.flushed = s.flushed := by
  simp only [writeAll]
  refine ⟨⟨_, isPrefix_taken_writeScript s.laterWrites s.writes data, ?_⟩, ?_⟩
  · split <;> rfl
  · split <;> rfl

theorem writeAll_error {data : Bytes} {s after : Sink} {cause : TransportError}
    (h : s.writeAll data = (.error cause, after)) : after.failed = true := by
  simp only [writeAll] at h
  split at h
  · simp at h
  · injection h with _ hafter
    rw [← hafter]

theorem flush_error {s after : Sink} {cause : TransportError}
    (h : s.flush = (.error cause, after)) :
    after.failed = true ∧ after.sent = s.sent ∧ after.flushed = s.flushed := by
  unfold flush at h
  split at h
  · simp at h
  · injection h with _ hafter
    rw [← hafter]
    exact ⟨rfl, rfl, rfl⟩

/-- A failed transmission has taken a first part of its bytes and flushed nothing, and
the failure is remembered. -/
theorem transmit_error {data : Bytes} {s after : Sink} {cause : TransportError}
    (h : s.transmit data = (.error cause, after)) :
    after.failed = true ∧ (∃ taken, taken <+: data ∧ after.sent = s.sent ++ taken) ∧
      after.flushed = s.flushed := by
  unfold transmit at h
  rcases writeAll_taken data s with ⟨htaken, hflushed⟩
  rcases hwrite : s.writeAll data with ⟨written, mid⟩
  rw [hwrite] at h htaken hflushed
  cases written with
  | ok _ =>
    rcases flush_error h with ⟨hfailed, hsent, hsame⟩
    rw [hsent, hsame]
    exact ⟨hfailed, htaken, hflushed⟩
  | error cause' =>
    injection h with _ hafter
    rw [← hafter]
    exact ⟨writeAll_error hwrite, htaken, hflushed⟩

end Sink

/-! ## Reliable sinks -/

/-- A write that meets this event takes bytes. -/
def WriteEvent.Takes : WriteEvent → Prop
  | .takesAll => True
  | .takes most => 0 < most
  | .failed _ => False

namespace Sink

/-- No write or flush has failed or will fail.  Writes may be interrupted or short. -/
structure Reliable (s : Sink) : Prop where
  writes : ∀ event, some event ∈ s.writes → event.Takes
  laterWrites : s.laterWrites.Takes
  flushes : ∀ cause, some cause ∉ s.flushes
  laterFlushes : s.laterFlushes = none
  not_failed : s.failed = false

/-- A sink that takes everything is reliable. -/
theorem reliable_accepting : accepting.Reliable :=
  ⟨by simp [accepting, scripted], trivial, by simp [accepting, scripted], rfl, rfl⟩

/-- A write uses up events from the front. -/
theorem isSuffix_writes_writeScript (later : WriteEvent) (writes : List (Option WriteEvent))
    (data : Bytes) : (writeScript later writes data).writes <:+ writes := by
  fun_induction writeScript later writes data with
  | case1 => exact List.suffix_rfl
  | case2 data hdata =>
    unfold writeLater
    split <;> exact List.nil_suffix
  | case3 writes data hdata ih => exact ih.trans (List.suffix_cons _ _)
  | case4 => exact List.suffix_cons _ _
  | case5 => exact List.suffix_cons _ _
  | case6 => exact List.suffix_cons _ _
  | case7 most writes data hdata written ih => exact ih.trans (List.suffix_cons _ _)

theorem writeScript_ok {later : WriteEvent} {writes : List (Option WriteEvent)} (data : Bytes)
    (hlater : later.Takes) (hwrites : ∀ event, some event ∈ writes → event.Takes) :
    (writeScript later writes data).result = .ok () := by
  fun_induction writeScript later writes data with
  | case1 => rfl
  | case2 data hdata =>
    unfold writeLater
    split
    · rfl
    · simp [WriteEvent.Takes] at hlater
    · rfl
    · simp [WriteEvent.Takes] at hlater
  | case3 writes data hdata ih => exact ih fun event hevent => hwrites event (by simp [hevent])
  | case4 => rfl
  | case5 cause => exact absurd (hwrites _ List.mem_cons_self) (by simp [WriteEvent.Takes])
  | case6 => exact absurd (hwrites _ List.mem_cons_self) (by simp [WriteEvent.Takes])
  | case7 most writes data hdata written ih =>
    exact ih fun event hevent => hwrites event (by simp [hevent])

theorem Reliable.writeAll {s : Sink} (h : s.Reliable) (data : Bytes) :
    ∃ after, s.writeAll data = (.ok (), after) ∧ after.Reliable := by
  have hok := writeScript_ok data h.laterWrites h.writes
  have hsuffix := isSuffix_writes_writeScript s.laterWrites s.writes data
  simp only [Sink.writeAll, hok]
  exact ⟨_, rfl, fun event hevent => h.writes event (hsuffix.subset hevent), h.laterWrites,
    h.flushes, h.laterFlushes, h.not_failed⟩

theorem Reliable.flush {s : Sink} (h : s.Reliable) :
    ∃ after, s.flush = (.ok (), after) ∧ after.Reliable := by
  have hnext : s.nextFlush = none := by
    unfold nextFlush
    rcases hflushes : s.flushes with _ | ⟨next, rest⟩
    · exact h.laterFlushes
    · rcases next with _ | cause
      · rfl
      · exact absurd (by simp [hflushes]) (h.flushes cause)
  simp only [Sink.flush, hnext]
  exact ⟨_, rfl, h.writes, h.laterWrites,
    fun cause hcause => h.flushes cause (List.mem_of_mem_tail hcause), h.laterFlushes,
    h.not_failed⟩

/-- A reliable sink takes everything and stays reliable. -/
theorem Reliable.transmit {s : Sink} (h : s.Reliable) (data : Bytes) :
    ∃ after, s.transmit data = (.ok (), after) ∧ after.Reliable := by
  rcases h.writeAll data with ⟨written, hwrite, hwritten⟩
  simpa [Sink.transmit, hwrite] using hwritten.flush

theorem Reliable.of_transmit {s after : Sink} {data : Bytes} (h : s.Reliable)
    (hwrite : s.transmit data = (.ok (), after)) : after.Reliable := by
  rcases h.transmit data with ⟨after', hafter, hreliable⟩
  rw [hafter, Prod.mk.injEq] at hwrite
  rwa [← hwrite.2]

theorem Reliable.transmit_ne_error {s after : Sink} {data : Bytes} {cause : TransportError}
    (h : s.Reliable) : s.transmit data ≠ (.error cause, after) := by
  rcases h.transmit data with ⟨after', hafter, _⟩
  rw [hafter]
  simp

end Sink

end KeyValueClient
