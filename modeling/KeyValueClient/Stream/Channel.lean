import KeyValueClient.Stream.Source

/-!
# Buffered channels

A channel reads a source piece by piece and hands out exactly what is asked for: a
number of bytes, or a line.  What it has received and not handed out stays in its
buffer.  A request that fails takes no byte out of the buffer.

A piece is received into the buffer itself, which is lengthened for it and cut back to
what has arrived.  The search for the end of a line goes on where it stopped when the
last piece arrived.  Neither shows from outside.

Main results:

- Theorem `Channel.fill_eq`: a piece that has arrived stands behind the buffer.
- Theorem `Channel.readLineFrom_eq`: a search that goes on finds what a search from the
  front finds.
- Theorems `Channel.readExact_buffered` and `Channel.readLine_buffered`: what is already
  there is handed out without touching the source.
-/

namespace KeyValueClient

/-- A buffered reader over a source. -/
structure Channel where
  source : Source
  /-- Bytes received and not yet handed out. -/
  buffer : Bytes
  /-- How much one read asks for; a read always asks for something. -/
  readSize : Nat
  /-- The longest line accepted, with its terminator. -/
  lineLimit : Nat
deriving DecidableEq, Repr

/-- A step that reads from a channel. -/
abbrev Reading := EStateM Error Channel

namespace Channel

/-- A channel that has received nothing yet. -/
def fresh (source : Source) (readSize lineLimit : Nat) : Channel :=
  ⟨source, [], readSize, lineLimit⟩

/-- How many bytes have been received and not handed out. -/
def buffered (ch : Channel) : Nat :=
  ch.buffer.length

/-! ## Receiving -/

/-- The byte string with other bytes copied over those from a position on, where there is room
for them. -/
def overwrite (b : Bytes) (start : Nat) (data : Bytes) : Bytes :=
  b.take start ++ data ++ b.drop (start + data.length)

/-- Receive one piece behind what the buffer holds, and say how long it is; nothing is
received at an end of the stream. -/
def fill (ch : Channel) : EStateM.Result Error Channel Nat :=
  let start := ch.buffer.length
  let room := ch.buffer ++ List.replicate (max 1 ch.readSize) 0
  match ch.source.pull ch.readSize with
  | (.bytes data, rest) =>
    let received := (overwrite room start data).take (start + data.length)
    .ok data.length { ch with source := rest, buffer := received }
  | (.ended, rest) => .ok 0 { ch with source := rest, buffer := room.take start }
  | (.failed cause, rest) =>
    .error (.transport cause) { ch with source := rest, buffer := room.take start }

section Fill

variable {ch : Channel} {data : Bytes} {rest : Source} {cause : TransportError}

theorem take_overwrite {b : Bytes} {start : Nat} (hroom : start + data.length ≤ b.length) :
    (overwrite b start data).take (start + data.length) = b.take start ++ data := by
  have hfront : (b.take start ++ data).length = start + data.length := by
    rw [List.length_append, List.length_take]
    omega
  rw [overwrite, List.take_left' hfront]

/-- A piece that has arrived stands behind the buffer. -/
theorem fill_eq (hpull : ch.source.pull ch.readSize = (.bytes data, rest)) :
    ch.fill = .ok data.length { ch with source := rest, buffer := ch.buffer ++ data } := by
  have hlength := (Source.length_pull hpull).2
  have hroom : ch.buffer.length + data.length ≤
      (ch.buffer ++ List.replicate (max 1 ch.readSize) 0).length := by
    rw [List.length_append, List.length_replicate]
    omega
  simp only [fill, hpull, take_overwrite hroom, List.take_left]

theorem fill_ended (hpull : ch.source.pull ch.readSize = (.ended, rest)) :
    ch.fill = .ok 0 { ch with source := rest } := by
  simp only [fill, hpull, List.take_left]

theorem fill_failed (hpull : ch.source.pull ch.readSize = (.failed cause, rest)) :
    ch.fill = .error (.transport cause) { ch with source := rest } := by
  simp only [fill, hpull, List.take_left]

/-- A piece that is received uses the source up. -/
theorem weight_fill {n : Nat} {ch' : Channel} (h : ch.fill = .ok (n + 1) ch') :
    ch'.source.weight < ch.source.weight := by
  rcases hpull : ch.source.pull ch.readSize with ⟨data | _ | cause, rest⟩
  · rw [fill_eq hpull, EStateM.Result.ok.injEq] at h
    rw [← h.2]
    exact Source.weight_pull hpull
  · rw [fill_ended hpull] at h
    cases h
  · rw [fill_failed hpull] at h
    cases h

end Fill

/-! ## Reading a number of bytes -/

/-- Hand out exactly so many bytes. -/
def readExact (n : Nat) (ch : Channel) : EStateM.Result Error Channel Bytes :=
  if n ≤ ch.buffer.length then
    .ok (ch.buffer.take n) { ch with buffer := ch.buffer.drop n }
  else
    match _h : ch.fill with
    | .ok 0 ch => .error (.endOfStream n ch.buffer.length) ch
    | .ok (_ + 1) ch => readExact n ch
    | .error e ch => .error e ch
termination_by ch.source.weight
decreasing_by exact weight_fill _h

/-! ## Reading a line -/

/-- The line that ends at this line feed of the buffer, without its terminator. -/
def takeLine (lf : Nat) (ch : Channel) : EStateM.Result Error Channel Bytes :=
  let line := ch.buffer.take lf
  if ch.lineLimit < lf + 1 then .error (.protocol (.lineTooLong ch.lineLimit)) ch
  else if line.getLast? ≠ some Bytes.cr then .error (.protocol .bareLineFeed) ch
  else .ok line.dropLast { ch with buffer := ch.buffer.drop (lf + 1) }

/-- Hand out the next line without its terminator, which is looked for behind as many bytes
as were searched before.  A stream that ends within a line is short by at least a
terminator. -/
def readLineFrom (scanned : Nat) (ch : Channel) : EStateM.Result Error Channel Bytes :=
  match (ch.buffer.drop scanned).findIdx? (· == Bytes.lf) with
  | some offset => ch.takeLine (scanned + offset)
  | none =>
    let scanned := ch.buffer.length
    if ch.lineLimit ≤ scanned then .error (.protocol (.lineTooLong ch.lineLimit)) ch
    else
      match _h : ch.fill with
      | .ok 0 ch => .error (.endOfStream (scanned + 2) scanned) ch
      | .ok (_ + 1) ch => readLineFrom scanned ch
      | .error e ch => .error e ch
termination_by ch.source.weight
decreasing_by exact weight_fill _h

/-- Hand out the next line without its terminator. -/
def readLine (ch : Channel) : EStateM.Result Error Channel Bytes :=
  ch.readLineFrom 0

/-! ## Laws -/

section Laws

variable {ch : Channel}

/-- What is already there is handed out without touching the source. -/
theorem readExact_buffered {n : Nat} (h : n ≤ ch.buffer.length) :
    ch.readExact n = .ok (ch.buffer.take n) { ch with buffer := ch.buffer.drop n } := by
  rw [readExact, if_pos h]

/-- The first line feed is behind what was searched without finding one. -/
theorem findIdx?_of_scanned {b : Bytes} {scanned : Nat}
    (hopen : (b.take scanned).findIdx? (· == Bytes.lf) = none) :
    b.findIdx? (· == Bytes.lf) =
      ((b.drop scanned).findIdx? (· == Bytes.lf)).map (scanned + ·) := by
  rcases Nat.lt_or_ge scanned b.length with hpart | hall
  · have hlength : (b.take scanned).length = scanned := List.length_take_of_le (Nat.le_of_lt hpart)
    calc b.findIdx? (· == Bytes.lf)
      _ = (b.take scanned ++ b.drop scanned).findIdx? (· == Bytes.lf) := by
        rw [List.take_append_drop]
      _ = ((b.drop scanned).findIdx? (· == Bytes.lf)).map (scanned + ·) := by
        rw [List.findIdx?_append, hopen, Option.none_or, hlength]
        simp only [Nat.add_comm]
  · rw [List.take_of_length_le hall] at hopen
    rw [hopen, List.drop_of_length_le hall]
    rfl

/-- A search that goes on behind bytes without a line feed finds what a search from the front
finds. -/
theorem readLineFrom_eq {scanned : Nat}
    (hopen : (ch.buffer.take scanned).findIdx? (· == Bytes.lf) = none) :
    ch.readLineFrom scanned = ch.readLine := by
  rw [readLine, readLineFrom, readLineFrom, List.drop_zero, findIdx?_of_scanned hopen]
  cases (ch.buffer.drop scanned).findIdx? (· == Bytes.lf) with
  | none => rfl
  | some offset => simp only [Option.map_some, Nat.zero_add]

/-- A line that is already there is handed out without touching the source. -/
theorem readLine_buffered {lf : Nat}
    (hlf : ch.buffer.findIdx? (· == Bytes.lf) = some lf) : ch.readLine = ch.takeLine lf := by
  rw [readLine, readLineFrom, List.drop_zero, hlf]
  simp only [Nat.zero_add]

end Laws

end Channel

end KeyValueClient
