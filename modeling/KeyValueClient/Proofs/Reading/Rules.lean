import KeyValueClient.Proofs.Reading.Flattened

/-!
# The rules of reading

What stands before the next end or failure of a stream decides what the two reads of a
channel do, and that end or failure decides the rest.  The rules are said on the bytes
themselves, with the parts into which they fall, and not on how they are looked through.
What a read hands out comes off the front; a read that fails leaves every byte, and takes
the end or failure only if it reports it.

Main results:

- Theorems `FlatStream.readExact_iff` and `FlatStream.readLine_iff`: flat reads follow the
  rules.
- Theorem `Channel.reads_byRule`: so do the reads of a channel, in every state.
-/

namespace KeyValueClient

namespace FlatStream

/-! ## Reads that the bytes in front decide -/

section Decided

variable {limit n : Nat} {line bytes taken left : Bytes} (s : FlatStream)

/-- Bytes without a line feed have no first one. -/
theorem findIdx?_open (hopen : Bytes.lf ∉ line) : line.findIdx? (· == Bytes.lf) = none := by
  rw [List.findIdx?_eq_none_iff]
  intro b hb
  rw [beq_eq_false_iff_ne]
  intro hlf
  exact hopen (hlf ▸ hb)

/-- The first line feed is the one behind the line. -/
theorem findIdx?_line (hopen : Bytes.lf ∉ line) (rest : Bytes) :
    (line ++ Bytes.lf :: rest).findIdx? (· == Bytes.lf) = some line.length := by
  rw [List.findIdx?_append, findIdx?_open hopen]
  simp [List.findIdx?_cons]

/-- Bytes are handed out if there are enough. -/
theorem readExact_handed (split : bytes = taken ++ left) (enough : taken.length = n) :
    (s.after bytes).readExact n = .ok taken (s.after left) := by
  rw [split, ← after_after, ← enough]
  exact readExact_ok taken (s.after left).items s.silence

/-- The bytes before a line feed are judged, whatever follows. -/
theorem readLine_ended (split : bytes = line ++ Bytes.lf :: left) (hopen : Bytes.lf ∉ line) :
    (s.after bytes).readLine limit =
      if limit < line.length + 1 then .error (.protocol (.lineTooLong limit)) (s.after bytes)
      else if line.getLast? ≠ some Bytes.cr then
        .error (.protocol .bareLineFeed) (s.after bytes)
      else .ok line.dropLast (s.after left) := by
  have hleading : (leading (s.after bytes).items).1 =
      line ++ Bytes.lf :: (left ++ (leading s.items).1) := by
    rw [leading_after, split, List.append_assoc, List.cons_append]
  have hrest : (s.after bytes).drop (line.length + 1) = s.after left := by
    have hwhole : line.length + 1 = (line ++ [Bytes.lf]).length := by simp
    have hsplit : bytes = (line ++ [Bytes.lf]) ++ left := by simp [split]
    rw [hwhole, hsplit, ← after_after, drop_after]
  rw [← hrest]
  simp only [readLine, hleading, findIdx?_line hopen, List.take_left]
  rfl

/-- A line is handed out that fits and is ended well. -/
theorem readLine_handed (split : bytes = line ++ Bytes.crlf ++ left) (hopen : Bytes.lf ∉ line)
    (hfits : line.length + 2 ≤ limit) :
    (s.after bytes).readLine limit = .ok line (s.after left) := by
  have hended : bytes = (line ++ [Bytes.cr]) ++ Bytes.lf :: left := by
    rw [split]
    simp [Bytes.crlf]
  have hfirst : Bytes.lf ∉ line ++ [Bytes.cr] := by
    rw [List.mem_append, List.mem_singleton, not_or]
    exact ⟨hopen, by decide⟩
  have hlength : (line ++ [Bytes.cr]).length = line.length + 1 := by simp
  rw [readLine_ended s hended hfirst, hlength, if_neg (by omega), List.getLast?_concat,
    if_neg (by simp), List.dropLast_concat]

/-- A line is refused that is longer than the limit with its line feed. -/
theorem readLine_tooLong (split : bytes = line ++ Bytes.lf :: left) (hopen : Bytes.lf ∉ line)
    (hlong : limit < line.length + 1) :
    (s.after bytes).readLine limit =
      .error (.protocol (.lineTooLong limit)) (s.after bytes) := by
  rw [readLine_ended s split hopen, if_pos hlong]

/-- A line is refused that has no carriage return before its line feed. -/
theorem readLine_bare (split : bytes = line ++ Bytes.lf :: left) (hopen : Bytes.lf ∉ line)
    (hfits : line.length + 1 ≤ limit) (hbare : line.getLast? ≠ some Bytes.cr) :
    (s.after bytes).readLine limit =
      .error (.protocol .bareLineFeed) (s.after bytes) := by
  rw [readLine_ended s split hopen, if_neg (by omega), if_pos hbare]

end Decided

/-! ## The rules -/

/-- What reading `n` bytes comes to if `bytes` stand before the next end or failure, which
is in front of `front`. -/
inductive ExactRule (n : Nat) (front : FlatStream) (bytes : Bytes) :
    EStateM.Result Error FlatStream Bytes → Prop
  /-- There are enough bytes, and the first of them are handed out. -/
  | handed {taken left : Bytes} (split : bytes = taken ++ left) (enough : taken.length = n) :
      ExactRule n front bytes (.ok taken (front.after left))
  /-- The end or failure is reported. -/
  | short (short : bytes.length < n) :
      ExactRule n front bytes
        (.error ((front.nth 0).report (.endOfStream n bytes.length))
          ((front.drop 1).after bytes))

/-- What reading a line comes to if `bytes` stand before the next end or failure, which is
in front of `front`. -/
inductive LineRule (limit : Nat) (front : FlatStream) (bytes : Bytes) :
    EStateM.Result Error FlatStream Bytes → Prop
  /-- The first line feed ends a line that fits, and its carriage return is there. -/
  | handed {line left : Bytes} (split : bytes = line ++ Bytes.crlf ++ left)
      (first : Bytes.lf ∉ line) (fits : line.length + 2 ≤ limit) :
      LineRule limit front bytes (.ok line (front.after left))
  /-- The first line feed stands behind the limit. -/
  | tooLong {line left : Bytes} (split : bytes = line ++ Bytes.lf :: left)
      (first : Bytes.lf ∉ line) (long : limit < line.length + 1) :
      LineRule limit front bytes
        (.error (.protocol (.lineTooLong limit)) (front.after bytes))
  /-- The first line feed has no carriage return before it. -/
  | bare {line left : Bytes} (split : bytes = line ++ Bytes.lf :: left)
      (first : Bytes.lf ∉ line) (fits : line.length + 1 ≤ limit)
      (bare : line.getLast? ≠ some Bytes.cr) :
      LineRule limit front bytes (.error (.protocol .bareLineFeed) (front.after bytes))
  /-- There is no line feed, and already as many bytes as a line may have. -/
  | endless (unended : Bytes.lf ∉ bytes) (long : limit ≤ bytes.length) :
      LineRule limit front bytes
        (.error (.protocol (.lineTooLong limit)) (front.after bytes))
  /-- There is no line feed, and the end or failure is reported. -/
  | short (unended : Bytes.lf ∉ bytes) (short : bytes.length < limit) :
      LineRule limit front bytes
        (.error ((front.nth 0).report (.endOfStream (bytes.length + 2) bytes.length))
          ((front.drop 1).after bytes))

section Rules

variable {front : FlatStream} {bytes : Bytes} {outcome : EStateM.Result Error FlatStream Bytes}

/-- Some case of the rule for a number of bytes always applies. -/
theorem exists_exactRule (n : Nat) (front : FlatStream) (bytes : Bytes) :
    ∃ outcome, ExactRule n front bytes outcome := by
  by_cases henough : n ≤ bytes.length
  · have hsplit : bytes = bytes.take n ++ bytes.drop n := (List.take_append_drop n bytes).symm
    exact ⟨_, .handed hsplit (List.length_take_of_le henough)⟩
  · exact ⟨_, .short (by omega)⟩

/-- Some case of the rule for a line always applies. -/
theorem exists_lineRule (limit : Nat) (front : FlatStream) (bytes : Bytes) :
    ∃ outcome, LineRule limit front bytes outcome := by
  by_cases hlf : Bytes.lf ∈ bytes
  · rcases List.eq_append_cons_of_mem hlf with ⟨line, left, hsplit, hfirst⟩
    by_cases hlong : limit < line.length + 1
    · exact ⟨_, .tooLong hsplit hfirst hlong⟩
    · by_cases hcr : line.getLast? = some Bytes.cr
      · rcases List.getLast?_eq_some_iff.1 hcr with ⟨body, rfl⟩
        have hbody : Bytes.lf ∉ body := fun hmem => hfirst (List.mem_append_left _ hmem)
        have hwhole : bytes = body ++ Bytes.crlf ++ left := by
          rw [hsplit]
          simp [Bytes.crlf]
        have hfits : body.length + 2 ≤ limit := by
          simp only [List.length_append, List.length_singleton] at hlong
          omega
        exact ⟨_, .handed hwhole hbody hfits⟩
      · exact ⟨_, .bare hsplit hfirst (by omega) hcr⟩
  · by_cases hlong : limit ≤ bytes.length
    · exact ⟨_, .endless hlf hlong⟩
    · exact ⟨_, .short hlf (by omega)⟩

variable (hfront : ∀ b, front.nth 0 ≠ .byte b)
include hfront

theorem ExactRule.readExact {n : Nat} (h : ExactRule n front bytes outcome) :
    (front.after bytes).readExact n = outcome := by
  cases h with
  | handed split enough => exact readExact_handed front split enough
  | short short =>
    have hleading : (leading (front.after bytes).items).1 = bytes := by
      rw [leading_after, leading_of_nth hfront, List.append_nil]
    unfold FlatStream.readExact
    rw [hleading, if_neg (by omega), cutShort_after hfront]

theorem LineRule.readLine {limit : Nat} (h : LineRule limit front bytes outcome) :
    (front.after bytes).readLine limit = outcome := by
  cases h with
  | handed split first fits => exact readLine_handed front split first fits
  | tooLong split first long => exact readLine_tooLong front split first long
  | bare split first fits bare => exact readLine_bare front split first fits bare
  | endless unended long => exact readLine_endless front (findIdx?_open unended) long
  | short unended short =>
    have hleading : (leading (front.after bytes).items).1 = bytes := by
      rw [leading_after, leading_of_nth hfront, List.append_nil]
    simp only [FlatStream.readLine, hleading, findIdx?_open unended]
    rw [if_neg (by omega), cutShort_after hfront]

/-- Reading a number of bytes follows its rule. -/
theorem readExact_iff {n : Nat} :
    (front.after bytes).readExact n = outcome ↔ ExactRule n front bytes outcome := by
  constructor
  · intro hread
    rcases exists_exactRule n front bytes with ⟨outcome', hrule⟩
    rw [hrule.readExact hfront] at hread
    exact hread ▸ hrule
  · exact ExactRule.readExact hfront

/-- Reading a line follows its rule. -/
theorem readLine_iff {limit : Nat} :
    (front.after bytes).readLine limit = outcome ↔ LineRule limit front bytes outcome := by
  constructor
  · intro hread
    rcases exists_lineRule limit front bytes with ⟨outcome', hrule⟩
    rw [hrule.readLine hfront] at hread
    exact hread ▸ hrule
  · exact LineRule.readLine hfront

end Rules

end FlatStream

/-! ## Channels -/

namespace Channel

open FlatStream (ExactRule LineRule)

/-- A reading shows as one outcome on the flat stream. -/
theorem Shows.unique {ch : Channel} {α : Type} {result : EStateM.Result Error Channel α}
    {first second : EStateM.Result Error FlatStream α} (h : ch.Shows result first)
    (h' : ch.Shows result second) : second = first := by
  cases h with
  | ok => exact h'.ok_flat.1
  | error => exact h'.error_flat

/-- What shows of a reading that follows a flat one is the outcome of the flat one. -/
theorem Shows.iff_eq {ch : Channel} {α : Type} {result : EStateM.Result Error Channel α}
    {flat outcome : EStateM.Result Error FlatStream α} (h : ch.Shows result flat) :
    ch.Shows result outcome ↔ flat = outcome := by
  constructor
  · intro h'
    exact (h.unique h').symm
  · intro hsame
    exact hsame ▸ h

/-- In every state a channel has some bytes still to hand out before the next end or
failure, in its buffer or in its source, cut in any way and between any interruptions.
Both reads follow the rules for these bytes and that end or failure. -/
theorem reads_byRule (ch : Channel) :
    ∃ (bytes : Bytes) (front : FlatStream),
      ch.flat = front.after bytes ∧ (∀ b, front.nth 0 ≠ .byte b) ∧
        (∀ n outcome, ch.Shows (ch.readExact n) outcome ↔ ExactRule n front bytes outcome) ∧
        ∀ outcome, ch.Shows ch.readLine outcome ↔ LineRule ch.lineLimit front bytes outcome := by
  rcases ch.flat.exists_eq_after with ⟨front, hview, hfront⟩
  refine ⟨_, front, hview, hfront, ?_, ?_⟩
  · intro n outcome
    rw [(ch.shows_readExact n).iff_eq, ← FlatStream.readExact_iff hfront, ← hview]
  · intro outcome
    rw [ch.shows_readLine.iff_eq, ← FlatStream.readLine_iff hfront, ← hview]

end Channel

end KeyValueClient
