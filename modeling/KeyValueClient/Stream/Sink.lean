import KeyValueClient.Error

/-!
# Byte sinks

A sink is the receiving side of the peer, as the sequence of things that writes and
flushes meet.  A write takes some of the bytes, is interrupted and repeated, or
fails; after the scripted writes every write goes alike.  What was taken before a
failure counts as sent.  A sink remembers what it took, how much of that was flushed,
how often it was asked to write or to flush, and whether it ever failed to.

Main results:

- Theorem `Sink.transmit_sent`: a successful transmission adds exactly its bytes to
  what was sent, and everything sent is flushed.
-/

namespace KeyValueClient

/-- What one write meets. -/
inductive WriteEvent where
  | takesAll
  /-- At most so many bytes are taken. -/
  | takes (most : Nat)
  | failed (cause : TransportError)
deriving DecidableEq, Repr

/-- The receiving side of the peer. -/
structure Sink where
  /-- What the next writes meet; `none` is an interruption. -/
  writes : List (Option WriteEvent)
  /-- What every later write meets. -/
  laterWrites : WriteEvent
  /-- What the next flushes meet; `none` is success. -/
  flushes : List (Option TransportError)
  /-- What every later flush meets. -/
  laterFlushes : Option TransportError
  /-- All bytes taken so far. -/
  sent : Bytes
  /-- How many of the sent bytes have been flushed. -/
  flushed : Nat
  /-- How many writes and flushes have been asked for. -/
  attempts : Nat
  /-- A write or a flush has failed. -/
  failed : Bool
deriving DecidableEq, Repr

namespace Sink

/-- A sink on which nothing has happened yet. -/
def scripted (writes : List (Option WriteEvent)) (laterWrites : WriteEvent)
    (flushes : List (Option TransportError)) (laterFlushes : Option TransportError) : Sink :=
  ⟨writes, laterWrites, flushes, laterFlushes, [], 0, 0, false⟩

/-- A sink that takes everything. -/
def accepting : Sink :=
  scripted [] .takesAll [] none

/-- A sink whose first write fails. -/
def refusing (cause : TransportError) : Sink :=
  scripted [] (.failed cause) [] none

/-! ## Writing -/

/-- How a write of a whole byte string went. -/
structure Written where
  result : Except TransportError Unit
  /-- The bytes that were taken. -/
  taken : Bytes
  /-- The events that are left. -/
  writes : List (Option WriteEvent)

/-- Write a byte string when every write goes alike. -/
def writeLater (later : WriteEvent) (data : Bytes) : Written :=
  match later with
  | .takesAll => ⟨.ok (), data, []⟩
  | .takes 0 => ⟨.error .tookNothing, [], []⟩
  | .takes (_ + 1) => ⟨.ok (), data, []⟩
  | .failed cause => ⟨.error cause, [], []⟩

/-- Write a byte string, repeating interrupted writes and going on after short ones,
until all of it is taken or a write fails. -/
def writeScript (later : WriteEvent) : List (Option WriteEvent) → Bytes → Written
  | writes, [] => ⟨.ok (), [], writes⟩
  | [], data => writeLater later data
  | none :: writes, data => writeScript later writes data
  | some .takesAll :: writes, data => ⟨.ok (), data, writes⟩
  | some (.failed cause) :: writes, _ => ⟨.error cause, [], writes⟩
  | some (.takes 0) :: writes, _ => ⟨.error .tookNothing, [], writes⟩
  | some (.takes (most + 1)) :: writes, data =>
    let written := writeScript later writes (data.drop (most + 1))
    { written with taken := data.take (most + 1) ++ written.taken }

/-- Write a whole byte string. -/
def writeAll (data : Bytes) (s : Sink) : Except TransportError Unit × Sink :=
  let written := writeScript s.laterWrites s.writes data
  let s :=
    { s with
      writes := written.writes
      sent := s.sent ++ written.taken
      attempts := s.attempts + 1 }
  match written.result with
  | .ok () => (.ok (), s)
  | .error cause => (.error cause, { s with failed := true })

/-- What the next flush meets. -/
def nextFlush (s : Sink) : Option TransportError :=
  s.flushes.headD s.laterFlushes

/-- Flush what was written. -/
def flush (s : Sink) : Except TransportError Unit × Sink :=
  let after := { s with flushes := s.flushes.tail, attempts := s.attempts + 1 }
  match s.nextFlush with
  | none => (.ok (), { after with flushed := s.sent.length })
  | some cause => (.error cause, { after with failed := true })

/-- Write a whole byte string and flush it. -/
def transmit (data : Bytes) (s : Sink) : Except TransportError Unit × Sink :=
  match s.writeAll data with
  | (.ok (), s) => s.flush
  | (.error cause, s) => (.error cause, s)

/-! ## Laws -/

theorem taken_writeScript {later : WriteEvent} {writes : List (Option WriteEvent)}
    {data : Bytes} (h : (writeScript later writes data).result = .ok ()) :
    (writeScript later writes data).taken = data := by
  fun_induction writeScript later writes data with
  | case1 => rfl
  | case2 data hdata =>
    unfold writeLater at h ⊢
    split <;> simp_all
  | case3 writes data hdata ih => exact ih h
  | case4 => rfl
  | case5 => simp at h
  | case6 => simp at h
  | case7 most writes data hdata written ih =>
    rw [show written.taken = data.drop (most + 1) from ih h]
    exact List.take_append_drop (most + 1) data

/-- A successful write adds exactly the written bytes to what was sent. -/
theorem writeAll_sent {data : Bytes} {s after : Sink} (h : s.writeAll data = (.ok (), after)) :
    after.sent = s.sent ++ data := by
  simp only [writeAll] at h
  split at h
  · rename_i hresult
    injection h with _ h
    rw [← h, taken_writeScript hresult]
  · simp at h

/-- A flush changes nothing that was sent. -/
@[simp]
theorem flush_sent (s : Sink) : s.flush.2.sent = s.sent := by
  unfold flush
  split <;> rfl

/-- A successful transmission adds exactly its bytes to what was sent, and everything
sent is flushed. -/
theorem transmit_sent {data : Bytes} {s after : Sink} (h : s.transmit data = (.ok (), after)) :
    after.sent = s.sent ++ data ∧ after.flushed = after.sent.length := by
  unfold transmit at h
  split at h
  · rename_i written hwritten
    have hsent := writeAll_sent hwritten
    unfold flush at h
    split at h
    · injection h with _ h
      subst h
      exact ⟨hsent, rfl⟩
    · simp at h
  · simp at h

end Sink

end KeyValueClient
