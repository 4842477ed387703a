import KeyValueClient.Proofs.Reading.Pulls
import KeyValueClient.Stream.Flat
import Mathlib.Tactic.SplitIfs

/-!
# Channels follow the flat rules

A channel pulls pieces from its source and keeps what it has not handed out.  On its flat
stream the same request follows the plain rules of `FlatStream.readExact` and
`FlatStream.readLine`: a pull moves bytes from the source to the buffer, which does not
show, or takes one end or failure off the front of the source.

Main results:

- Theorem `Source.pulled_pull`: what a pull takes off the flat stream of a source.
- Theorems `Channel.shows_readExact` and `Channel.shows_readLine`: both reads of a channel
  follow the flat rules.
-/

namespace KeyValueClient

/-! ## Elements by position -/

/-- What stands behind the last event, over and over. -/
def Silence.item : Silence → FlatItem
  | .gone => .ended
  | .waiting => .failed .wouldBlock

/-- The error that an end or a failure is reported as; an end is short of something. -/
def FlatItem.report (short : Error) : FlatItem → Error
  | .failed cause => .transport cause
  | _ => short

namespace FlatStream

/-- The element at a position.  A stream has no last one. -/
def nth (s : FlatStream) (n : Nat) : FlatItem :=
  s.items[n]?.getD s.silence.item

/-- The stream behind so many elements. -/
def drop (n : Nat) (s : FlatStream) : FlatStream :=
  { s with items := s.items.drop n }

/-- The stream with some bytes in front. -/
def after (bytes : Bytes) (s : FlatStream) : FlatStream :=
  { s with items := bytes.map .byte ++ s.items }

section Views

variable (s : FlatStream) (first second bytes : Bytes) (b : UInt8)

@[simp]
theorem after_silence : (s.after bytes).silence = s.silence :=
  rfl

theorem after_after : (s.after second).after first = s.after (first ++ second) := by
  simp [after, List.append_assoc]

@[simp]
theorem drop_after : (s.after bytes).drop bytes.length = s := by
  simp [drop, after]

/-- A read sees the bytes in front and perhaps more. -/
theorem leading_after : (leading (s.after bytes).items).1 = bytes ++ (leading s.items).1 := by
  rw [after, leading_bytes]

end Views

/-- A stream with no byte in front has no leading bytes. -/
theorem leading_of_nth {s : FlatStream} (h : ∀ b, s.nth 0 ≠ .byte b) :
    leading s.items = ([], s.items) := by
  rcases hitems : s.items with _ | ⟨item, rest⟩
  · rfl
  · cases item with
    | byte b => exact absurd (by simp [nth, hitems]) (h b)
    | ended => rfl
    | failed cause => rfl

/-- Every stream is its leading bytes before an end or a failure. -/
theorem exists_eq_after (s : FlatStream) :
    ∃ front : FlatStream, s = front.after (leading s.items).1 ∧ ∀ b, front.nth 0 ≠ .byte b := by
  rcases s with ⟨items, silence⟩
  induction items with
  | nil =>
    refine ⟨⟨[], silence⟩, rfl, ?_⟩
    cases silence <;> simp [nth, Silence.item]
  | cons item rest ih =>
    cases item with
    | byte b =>
      rcases ih with ⟨front, hrest, hfront⟩
      refine ⟨front, ?_, hfront⟩
      simp only [after, mk.injEq] at hrest
      simp only [leading, after, List.map_cons, List.cons_append, mk.injEq]
      exact ⟨congrArg _ hrest.1, hrest.2⟩
    | ended => exact ⟨⟨.ended :: rest, silence⟩, rfl, by simp [nth]⟩
    | failed cause => exact ⟨⟨.failed cause :: rest, silence⟩, rfl, by simp [nth]⟩

/-- The end or failure in front is reported and taken. -/
theorem meet_eq {s : FlatStream} (h : ∀ b, s.nth 0 ≠ .byte b) (short : Error) :
    meet s.silence short s.items = ((s.nth 0).report short, (s.drop 1).items) := by
  rcases s with ⟨_ | ⟨item, rest⟩, silence⟩
  · cases silence <;> rfl
  · cases item with
    | byte b => exact absurd rfl (h b)
    | ended => rfl
    | failed cause => rfl

/-- An end or failure behind some bytes is reported and taken; the bytes stay. -/
theorem cutShort_after {s : FlatStream} (h : ∀ b, s.nth 0 ≠ .byte b) (bytes : Bytes)
    (expected : Nat) :
    (s.after bytes).cutShort expected =
      .error ((s.nth 0).report (.endOfStream expected bytes.length))
        ((s.drop 1).after bytes) := by
  have hleading : leading (s.after bytes).items = (bytes, s.items) := by
    rw [after, leading_bytes, leading_of_nth h, List.append_nil]
  simp only [cutShort, hleading, after_silence, meet_eq h]
  rfl

/-- As many bytes as the limit without a line feed are too long, whatever follows them. -/
theorem readLine_endless {bytes : Bytes} {limit : Nat} (s : FlatStream)
    (hopen : bytes.findIdx? (· == Bytes.lf) = none) (hlong : limit ≤ bytes.length) :
    (s.after bytes).readLine limit =
      .error (.protocol (.lineTooLong limit)) (s.after bytes) := by
  -- The first line feed, if there is one, stands behind the bytes.
  simp only [readLine, leading_after, List.findIdx?_append, hopen, Option.none_or]
  cases hmore : (leading s.items).1.findIdx? (· == Bytes.lf) with
  | none =>
    rw [Option.map_none]
    simp only [List.length_append]
    rw [if_pos (by omega)]
  | some lf =>
    rw [Option.map_some]
    simp only
    rw [if_pos (by omega)]

end FlatStream

/-! ## Pulls -/

namespace Source

open FlatStream

/-- What a pull gives and leaves, seen on the flat stream. -/
inductive Pulled (s : Source) : Arrival × Source → Prop
  /-- Bytes come off the front. -/
  | bytes {data : Bytes} {rest : Source} (front : s.flat = rest.flat.after data) :
      Pulled s (.bytes data, rest)
  /-- The end in front is met. -/
  | ended {rest : Source} (front : s.flat.nth 0 = .ended) (behind : rest.flat = s.flat.drop 1) :
      Pulled s (.ended, rest)
  /-- The failure in front is met. -/
  | failed {cause : TransportError} {rest : Source} (front : s.flat.nth 0 = .failed cause)
      (behind : rest.flat = s.flat.drop 1) : Pulled s (.failed cause, rest)

/-- An event that leaves no trace does not show in what is pulled. -/
theorem Pulled.cons {s : Source} {event : SourceEvent} {pulled : Arrival × Source}
    (h : Pulled s pulled) (hflat : event.flat = []) :
    Pulled ⟨event :: s.events, s.silence⟩ pulled := by
  have hsame : (⟨event :: s.events, s.silence⟩ : Source).flat = s.flat := by
    simp [flat, hflat]
  cases h with
  | bytes front => exact .bytes (hsame.trans front)
  | ended front behind => exact .ended (hsame ▸ front) (hsame ▸ behind)
  | failed front behind => exact .failed (hsame ▸ front) (hsame ▸ behind)

/-- A pull takes bytes off the front of the flat stream, or the end or failure there. -/
theorem pulled_pull (s : Source) (most : Nat) : Pulled s (s.pull most) := by
  rcases s with ⟨events, silence⟩
  induction events with
  | nil =>
    cases silence with
    | gone => exact .ended rfl rfl
    | waiting => exact .failed rfl rfl
  | cons event rest ih =>
    match event with
    | .interrupted => exact ih.cons rfl
    | .data [] => exact ih.cons rfl
    | .failed cause => exact .failed rfl rfl
    | .ended => exact .ended rfl rfl
    | .data (b :: bytes) =>
      refine .bytes ?_
      have hcut : (bytes.take (most - 1)).map FlatItem.byte ++ (bytes.drop (most - 1)).map .byte =
          bytes.map .byte := by
        rw [← List.map_append, List.take_append_drop]
      simp only [flat, SourceEvent.flat, after, List.flatMap_cons, List.map_cons]
      rw [← hcut, List.cons_append, List.cons_append, List.append_assoc]

end Source

/-! ## The two reads -/

namespace Channel

open FlatStream

theorem flat_eq (ch : Channel) : ch.flat = ch.source.flat.after ch.buffer :=
  rfl

/-- What a reading does to a channel, seen on its flat stream. -/
inductive Shows (ch : Channel) {α : Type} :
    EStateM.Result Error Channel α → EStateM.Result Error FlatStream α → Prop
  | ok {a : α} {ch' : Channel} (lineLimit : ch'.lineLimit = ch.lineLimit) :
      Shows ch (.ok a ch') (.ok a ch'.flat)
  | error {e : Error} {ch' : Channel} (lineLimit : ch'.lineLimit = ch.lineLimit) :
      Shows ch (.error e ch') (.error e ch'.flat)

variable {ch : Channel} {data : Bytes} {rest : Source} {cause : TransportError}

/-- Bytes that were pulled do not show. -/
theorem flat_pull_bytes (hpull : ch.source.pull ch.readSize = (.bytes data, rest)) :
    ({ ch with source := rest, buffer := ch.buffer ++ data } : Channel).flat = ch.flat := by
  have hpulled := ch.source.pulled_pull ch.readSize
  rw [hpull] at hpulled
  cases hpulled with
  | bytes front => rw [flat_eq, flat_eq, front, after_after]

/-- The bytes that a flat read sees are those in the buffer and perhaps more. -/
theorem leading_flat (ch : Channel) :
    (leading ch.flat.items).1 = ch.buffer ++ (leading ch.source.flat.items).1 := by
  rw [flat_eq, leading_after]

/-- An end that was pulled stands behind the buffer. -/
theorem flat_pull_ended (hpull : ch.source.pull ch.readSize = (.ended, rest)) :
    (leading ch.flat.items).1 = ch.buffer ∧
      ∀ expected, ch.flat.cutShort expected =
        .error (.endOfStream expected ch.buffer.length) { ch with source := rest }.flat := by
  have hpulled := ch.source.pulled_pull ch.readSize
  rw [hpull] at hpulled
  cases hpulled with
  | ended front behind =>
    have hfront : ∀ b, ch.source.flat.nth 0 ≠ .byte b := by simp [front]
    refine ⟨by rw [leading_flat, leading_of_nth hfront, List.append_nil], fun expected => ?_⟩
    rw [flat_eq, cutShort_after hfront, front, flat_eq, behind]
    rfl

/-- A failure that was pulled stands behind the buffer. -/
theorem flat_pull_failed (hpull : ch.source.pull ch.readSize = (.failed cause, rest)) :
    (leading ch.flat.items).1 = ch.buffer ∧
      ∀ expected, ch.flat.cutShort expected =
        .error (.transport cause) { ch with source := rest }.flat := by
  have hpulled := ch.source.pulled_pull ch.readSize
  rw [hpull] at hpulled
  cases hpulled with
  | failed front behind =>
    have hfront : ∀ b, ch.source.flat.nth 0 ≠ .byte b := by simp [front]
    refine ⟨by rw [leading_flat, leading_of_nth hfront, List.append_nil], fun expected => ?_⟩
    rw [flat_eq, cutShort_after hfront, front, flat_eq, behind]
    rfl

/-- Bytes that are handed out from the buffer come off the front. -/
theorem flat_handOut {n : Nat} (henough : n ≤ ch.buffer.length) :
    ({ ch with buffer := ch.buffer.drop n } : Channel).flat = ch.flat.drop n := by
  simp [Channel.flat, FlatStream.drop, List.drop_append_of_le_length, henough]

/-! ### Showing -/

/-- What shows depends on the channel before by its line limit only. -/
theorem Shows.congr {ch other : Channel} {α : Type} {result : EStateM.Result Error Channel α}
    {flat : EStateM.Result Error FlatStream α} (h : Shows other result flat)
    (hlimit : other.lineLimit = ch.lineLimit) : Shows ch result flat := by
  cases h with
  | ok lineLimit => exact .ok (lineLimit.trans hlimit)
  | error lineLimit => exact .error (lineLimit.trans hlimit)

theorem Shows.of_ok {α : Type} {result : EStateM.Result Error Channel α} {a : α} {s : FlatStream}
    (h : ch.Shows result (.ok a s)) :
    ∃ ch', result = .ok a ch' ∧ ch'.flat = s ∧ ch'.lineLimit = ch.lineLimit := by
  cases h with
  | ok lineLimit => exact ⟨_, rfl, rfl, lineLimit⟩

theorem Shows.of_error {α : Type} {result : EStateM.Result Error Channel α} {e : Error}
    {s : FlatStream} (h : ch.Shows result (.error e s)) :
    ∃ ch', result = .error e ch' ∧ ch'.flat = s ∧ ch'.lineLimit = ch.lineLimit := by
  cases h with
  | error lineLimit => exact ⟨_, rfl, rfl, lineLimit⟩

theorem Shows.ok_flat {α : Type} {a : α} {ch' : Channel}
    {flat : EStateM.Result Error FlatStream α} (h : ch.Shows (.ok a ch') flat) :
    flat = .ok a ch'.flat ∧ ch'.lineLimit = ch.lineLimit := by
  cases h with
  | ok lineLimit => exact ⟨rfl, lineLimit⟩

theorem Shows.error_flat {α : Type} {e : Error} {ch' : Channel}
    {flat : EStateM.Result Error FlatStream α} (h : ch.Shows (.error e ch') flat) :
    flat = .error e ch'.flat := by
  cases h with
  | error lineLimit => rfl

theorem Shows.of_flat {α : Type} {a : α} {ch' : Channel} {s : FlatStream}
    (hflat : ch'.flat = s) (hlimit : ch'.lineLimit = ch.lineLimit) :
    Shows ch (.ok a ch') (.ok a s) := by
  rw [← hflat]
  exact .ok hlimit

/-- Reading a number of bytes from a channel follows the flat rule. -/
theorem shows_readExact (n : Nat) (ch : Channel) :
    ch.Shows (ch.readExact n) (ch.flat.readExact n) := by
  induction ch using Channel.pull_induction with
  | step ch ih =>
    by_cases hshort : n ≤ ch.buffer.length
    · have hall : n ≤ (leading ch.flat.items).1.length := by
        rw [leading_flat, List.length_append]
        omega
      have hfront : (leading ch.flat.items).1.take n = ch.buffer.take n := by
        rw [leading_flat, List.take_append_of_le_length hshort]
      rw [readExact_buffered hshort, FlatStream.readExact, if_pos hall, hfront]
      exact .of_flat (flat_handOut hshort) rfl
    · rcases hpull : ch.source.pull ch.readSize with ⟨data | _ | cause, rest⟩
      · have hrest := ih _ _ hpull
        rw [flat_pull_bytes hpull] at hrest
        rw [readExact_pull_bytes hshort hpull]
        exact hrest.congr rfl
      · rcases flat_pull_ended hpull with ⟨hleading, hcut⟩
        rw [readExact_pull_ended hshort hpull, FlatStream.readExact, hleading, if_neg hshort,
          hcut]
        exact .error rfl
      · rcases flat_pull_failed hpull with ⟨hleading, hcut⟩
        rw [readExact_pull_failed hshort hpull, FlatStream.readExact, hleading, if_neg hshort,
          hcut]
        exact .error rfl

/-- A line that ends in the buffer is handed out by the flat rule. -/
theorem shows_takeLine {lf : Nat} (hlf : ch.buffer.findIdx? (· == Bytes.lf) = some lf) :
    ch.Shows (ch.takeLine lf) (ch.flat.readLine ch.lineLimit) := by
  have hbound : lf < ch.buffer.length := (List.findIdx?_eq_some_iff_getElem.1 hlf).1
  have hfound : (leading ch.flat.items).1.findIdx? (· == Bytes.lf) = some lf := by
    rw [leading_flat, List.findIdx?_append, hlf]
    rfl
  have hfront : (leading ch.flat.items).1.take lf = ch.buffer.take lf := by
    rw [leading_flat, List.take_append_of_le_length (by omega)]
  have hrest : ({ ch with buffer := ch.buffer.drop (lf + 1) } : Channel).flat =
      ch.flat.drop (lf + 1) := flat_handOut (by omega)
  simp only [FlatStream.readLine, hfound, hfront, Channel.takeLine]
  split_ifs
  · exact .error rfl
  · exact .error rfl
  · exact .of_flat hrest rfl

/-- Reading a line from a channel follows the flat rule. -/
theorem shows_readLine (ch : Channel) :
    ch.Shows ch.readLine (ch.flat.readLine ch.lineLimit) := by
  induction ch using Channel.pull_induction with
  | step ch ih =>
    cases hopen : ch.buffer.findIdx? (· == Bytes.lf) with
    | some lf =>
      rw [readLine_buffered hopen]
      exact shows_takeLine hopen
    | none =>
      by_cases hfull : ch.lineLimit ≤ ch.buffer.length
      · rw [readLine_full hopen hfull, flat_eq, readLine_endless ch.source.flat hopen hfull,
          ← flat_eq]
        exact .error rfl
      · rcases hpull : ch.source.pull ch.readSize with ⟨data | _ | cause, rest⟩
        · have hrest := ih _ _ hpull
          rw [flat_pull_bytes hpull] at hrest
          rw [readLine_pull_bytes hopen hfull hpull]
          exact hrest.congr rfl
        · rcases flat_pull_ended hpull with ⟨hleading, hcut⟩
          rw [readLine_pull_ended hopen hfull hpull]
          simp only [FlatStream.readLine, hleading, hopen]
          rw [if_neg hfull, hcut]
          exact .error rfl
        · rcases flat_pull_failed hpull with ⟨hleading, hcut⟩
          rw [readLine_pull_failed hopen hfull hpull]
          simp only [FlatStream.readLine, hleading, hopen]
          rw [if_neg hfull, hcut]
          exact .error rfl

end Channel

end KeyValueClient
