import KeyValueClient.Stream.Channel

/-!
# Flat streams

What a channel has still to hand out is one sequence of bytes, ends of stream and
failures.  How the bytes were cut into pieces, which reads were interrupted and how
much was received ahead do not show in it.  Reading from the flat stream is the plain
rule that reading from a channel follows.

Main results:

- Theorem `FlatStream.readExact_ok`: a number of bytes is taken off the front.
- Theorem `Channel.flat_fresh`: a new channel has everything still to hand out.
-/

namespace KeyValueClient

/-- One element of a flat stream. -/
inductive FlatItem where
  | byte (b : UInt8)
  | ended
  | failed (cause : TransportError)
deriving DecidableEq, Repr

/-- What is still to be handed out, and what the peer does after it. -/
structure FlatStream where
  items : List FlatItem
  silence : Silence
deriving DecidableEq, Repr

/-! ## Views -/

/-- The elements of one event; interruptions leave no trace. -/
def SourceEvent.flat : SourceEvent → List FlatItem
  | .data bytes => bytes.map .byte
  | .interrupted => []
  | .failed cause => [.failed cause]
  | .ended => [.ended]

/-- Everything a source still sends. -/
def Source.flat (s : Source) : FlatStream :=
  ⟨s.events.flatMap SourceEvent.flat, s.silence⟩

/-- Everything a channel has still to hand out. -/
def Channel.flat (ch : Channel) : FlatStream :=
  { ch.source.flat with items := ch.buffer.map .byte ++ ch.source.flat.items }

namespace FlatStream

/-! ## Reading -/

/-- The bytes before the next end or failure, and what stands from there on. -/
def leading : List FlatItem → Bytes × List FlatItem
  | .byte b :: rest =>
    let (bytes, rest) := leading rest
    (b :: bytes, rest)
  | rest => ([], rest)

/-- The end or failure in front, reported as `short` if it is an end, and what follows
it. -/
def meet (silence : Silence) (short : Error) : List FlatItem → Error × List FlatItem
  | .failed cause :: rest => (.transport cause, rest)
  | .ended :: rest => (short, rest)
  | rest =>
    match silence with
    | .gone => (short, rest)
    | .waiting => (.transport .wouldBlock, rest)

/-- Report the end or failure behind some bytes.  The bytes stay. -/
def cutShort (s : FlatStream) (expected : Nat) : EStateM.Result Error FlatStream Bytes :=
  let (bytes, rest) := leading s.items
  let (e, rest) := meet s.silence (.endOfStream expected bytes.length) rest
  .error e { s with items := bytes.map .byte ++ rest }

/-- The next bytes, exactly so many. -/
def readExact (n : Nat) (s : FlatStream) : EStateM.Result Error FlatStream Bytes :=
  let bytes := (leading s.items).1
  if n ≤ bytes.length then .ok (bytes.take n) { s with items := s.items.drop n }
  else s.cutShort n

/-- The next line without its terminator. -/
def readLine (limit : Nat) (s : FlatStream) : EStateM.Result Error FlatStream Bytes :=
  let bytes := (leading s.items).1
  match bytes.findIdx? (· == Bytes.lf) with
  | some lf =>
    let line := bytes.take lf
    if limit < lf + 1 then .error (.protocol (.lineTooLong limit)) s
    else if line.getLast? ≠ some Bytes.cr then .error (.protocol .bareLineFeed) s
    else .ok line.dropLast { s with items := s.items.drop (lf + 1) }
  | none =>
    if limit ≤ bytes.length then .error (.protocol (.lineTooLong limit)) s
    else s.cutShort (bytes.length + 2)

/-! ## Laws -/

theorem leading_bytes (bytes : Bytes) (rest : List FlatItem) :
    leading (bytes.map .byte ++ rest) = (bytes ++ (leading rest).1, (leading rest).2) := by
  induction bytes with
  | nil => rfl
  | cons b bytes ih => simp [leading, ih]

/-- A number of bytes is taken off the front. -/
theorem readExact_ok (bytes : Bytes) (rest : List FlatItem) (silence : Silence) :
    readExact bytes.length ⟨bytes.map .byte ++ rest, silence⟩ = .ok bytes ⟨rest, silence⟩ := by
  simp [readExact, leading_bytes]

end FlatStream

/-- A new channel has everything still to hand out. -/
theorem Channel.flat_fresh (source : Source) (readSize lineLimit : Nat) :
    (Channel.fresh source readSize lineLimit).flat = source.flat := by
  simp [Channel.flat, Channel.fresh]

end KeyValueClient
