import KeyValueClient.Error

/-!
# Byte sources

A source is what the peer sends, as the sequence of things that reads meet: data in
pieces, interruptions, failures and ends of stream.  After the last of them the
peer has either gone, so that every further read meets the end, or fallen silent,
so that a read would have to wait.

Main results:

- Theorem `Source.weight_pull`: a pull that delivers bytes uses the source up.
- Theorem `Source.length_pull`: a pull that delivers bytes delivers at least one, and no more
  than were asked for.
-/

namespace KeyValueClient

/-- One thing that reads meet. -/
inductive SourceEvent where
  /-- Bytes that arrived together.  An empty piece is never noticed. -/
  | data (bytes : Bytes)
  /-- A read that is interrupted and has to be repeated. -/
  | interrupted
  | failed (cause : TransportError)
  /-- A read that finds the end of the stream. -/
  | ended
deriving DecidableEq, Repr

/-- What the peer does after the last event. -/
inductive Silence where
  /-- The peer has gone: every read finds the end of the stream. -/
  | gone
  /-- More may come: a read would block. -/
  | waiting
deriving DecidableEq, Repr

/-- What a read that is repeated through interruptions gives. -/
inductive Arrival where
  | bytes (data : Bytes)
  | ended
  | failed (cause : TransportError)
deriving DecidableEq, Repr

/-- The sending side of the peer. -/
structure Source where
  events : List SourceEvent
  silence : Silence
deriving DecidableEq, Repr

namespace Source

/-! ## Reading -/

/-- What a read finds behind the last event. -/
def atEnd : Silence → Arrival
  | .gone => .ended
  | .waiting => .failed .wouldBlock

/-- Read at most so many bytes, and at least one, from the events in front. -/
def pullEvents (silence : Silence) (most : Nat) : List SourceEvent → Arrival × List SourceEvent
  | [] => (atEnd silence, [])
  | .interrupted :: rest => pullEvents silence most rest
  | .failed cause :: rest => (.failed cause, rest)
  | .ended :: rest => (.ended, rest)
  | .data [] :: rest => pullEvents silence most rest
  | .data (b :: bytes) :: rest =>
    (.bytes (b :: bytes.take (most - 1)), .data (bytes.drop (most - 1)) :: rest)

/-- Read at most so many bytes, and at least one.  Bytes of a piece that were not
asked for stay in front. -/
def pull (most : Nat) (s : Source) : Arrival × Source :=
  let (arrival, events) := pullEvents s.silence most s.events
  (arrival, { s with events := events })

/-! ## Growing -/

/-- A source that delivers these bytes and then ends. -/
def ofBytes (b : Bytes) : Source :=
  ⟨[.data b], .gone⟩

/-- The source after one more event has arrived. -/
def append (s : Source) (event : SourceEvent) : Source :=
  { s with events := s.events ++ [event] }

/-- The source after the peer has gone. -/
def finish (s : Source) : Source :=
  { s with silence := .gone }

/-! ## Progress -/

/-- The reads an event can still serve. -/
def eventWeight : SourceEvent → Nat
  | .data bytes => bytes.length + 1
  | _ => 1

/-- The reads that some events can still serve. -/
def eventsWeight : List SourceEvent → Nat
  | [] => 0
  | event :: rest => eventWeight event + eventsWeight rest

/-- The reads that the source can still serve. -/
def weight (s : Source) : Nat :=
  eventsWeight s.events

theorem weight_pullEvents {silence : Silence} {most : Nat} {events rest : List SourceEvent}
    {data : Bytes} (h : pullEvents silence most events = (.bytes data, rest)) :
    eventsWeight rest < eventsWeight events := by
  fun_induction pullEvents silence most events with
  | case1 => cases silence <;> simp [atEnd] at h
  | case2 _ ih =>
    have hrest := ih h
    simp only [eventsWeight, eventWeight]
    omega
  | case3 => simp at h
  | case4 => simp at h
  | case5 _ ih =>
    have hrest := ih h
    simp only [eventsWeight, eventWeight]
    omega
  | case6 b bytes tail =>
    simp only [Prod.mk.injEq] at h
    rw [← h.2]
    simp only [eventsWeight, eventWeight, List.length_drop, List.length_cons]
    omega

/-- A pull that delivers bytes uses the source up. -/
theorem weight_pull {most : Nat} {s rest : Source} {data : Bytes}
    (h : s.pull most = (.bytes data, rest)) : rest.weight < s.weight := by
  simp only [pull, Prod.mk.injEq] at h
  obtain ⟨hdata, rfl⟩ := h
  exact weight_pullEvents (Prod.ext hdata rfl)

theorem length_pullEvents {silence : Silence} {most : Nat} {events rest : List SourceEvent}
    {data : Bytes} (h : pullEvents silence most events = (.bytes data, rest)) :
    0 < data.length ∧ data.length ≤ max 1 most := by
  fun_induction pullEvents silence most events with
  | case1 => cases silence <;> simp [atEnd] at h
  | case2 _ ih => exact ih h
  | case3 => simp at h
  | case4 => simp at h
  | case5 _ ih => exact ih h
  | case6 b bytes tail =>
    simp only [Prod.mk.injEq, Arrival.bytes.injEq] at h
    rw [← h.1, List.length_cons, List.length_take]
    omega

/-- A pull that delivers bytes delivers at least one, and no more than were asked for. -/
theorem length_pull {most : Nat} {s rest : Source} {data : Bytes}
    (h : s.pull most = (.bytes data, rest)) : 0 < data.length ∧ data.length ≤ max 1 most := by
  simp only [pull, Prod.mk.injEq] at h
  exact length_pullEvents (Prod.ext h.1 rfl)

end Source

end KeyValueClient
