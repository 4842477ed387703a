import KeyValueClient.Proofs.Reading.Consumption
import KeyValueClient.Proofs.Reading.Fragmentation

/-!
# Cut replies

The bytes of a reply decide what is read, and what stands behind them does not.  A stream
that ends or fails behind some bytes is compared with a stream that goes on behind the same
bytes.  Either a reading needs more than these bytes, and then it reports the end or failure
of the first stream; or it comes to the same result on both, and has taken the same bytes.
A reply that is cut anywhere is therefore never taken for a reply.

Main results:

- Theorem `Reading.cut_holds`: a composed reading falls short, or does not see the cut.
- Theorem `Outcome.read_cut`: nor does decoding a reply, but for the silent close.
- Theorem `Outcome.read_final`: what decoding says of some bytes stays said when more
  follows, and a reply that is cut is short of its end.
-/

namespace KeyValueClient

/-- Under this line limit the channel has some bytes to hand out, and then a stream. -/
structure Channel.HandsOut (lineLimit : Nat) (bytes : Bytes) (behind : FlatStream)
    (ch : Channel) : Prop where
  lineLimit : ch.lineLimit = lineLimit
  flat : ch.flat = behind.after bytes

/-- Bytes can be counted to what stands behind others. -/
theorem Channel.HandsOut.split {lineLimit : Nat} {first second : Bytes} {behind : FlatStream}
    {ch : Channel} (h : ch.HandsOut lineLimit (first ++ second) behind) :
    ch.HandsOut lineLimit first (behind.after second) := by
  refine ⟨h.lineLimit, ?_⟩
  rw [FlatStream.after_after]
  exact h.flat

namespace FlatStream

/-- A stream has nothing but bytes in front of its first end or failure. -/
theorem eq_nil_of_nth_after {bytes : Bytes} {s : FlatStream}
    (h : ∀ b, (s.after bytes).nth 0 ≠ .byte b) : bytes = [] := by
  by_contra hsome
  have hlength : 0 < bytes.length := List.length_pos_iff.2 hsome
  exact h _ (nth_after_lt s bytes 0 hlength)

/-- Bytes that stand in front make a stream longer. -/
theorem eq_nil_of_after_eq {bytes : Bytes} {s : FlatStream} (h : s.after bytes = s) :
    bytes = [] := by
  have hlength := congrArg (fun t : FlatStream => t.items.length) h
  simp only [after, List.length_append, List.length_map] at hlength
  exact List.length_eq_zero_iff.1 (by omega)

end FlatStream

/-! ## The comparison -/

namespace Reading

open FlatStream (exists_exactRule exists_lineRule)

/-- Both channels have the same last part of some bytes to hand out.  Behind it the first
hands out one stream and the second another. -/
structure Aligned (whole : Bytes) (front more : FlatStream) (ch₁ ch₂ : Channel) : Prop where
  lineLimit : ch₁.lineLimit = ch₂.lineLimit
  flat : ∃ taken left, whole = taken ++ left ∧ ch₁.flat = front.after left ∧
    ch₂.flat = more.after left

/-- Channels are compared that are aligned.  A reading that reports what is in front of the
first stream is excused, and it has asked for more bytes than there were. -/
def cut (whole : Bytes) (front more : FlatStream) : Comparison where
  Related := Aligned whole front more
  Failed e ch₁ other :=
    (∃ expected available, available < expected ∧
      e = (front.nth 0).report (.endOfStream expected available)) ∨
    ∃ cause ch₂, e = .protocol cause ∧ other = some (e, ch₂) ∧
      Aligned whole front more ch₁ ch₂
  refused := fun cause haligned => Or.inr ⟨cause, _, rfl, rfl, haligned⟩
  excused := by
    intro e ch₁ hfailed other
    rcases hfailed with hshort | ⟨_, _, _, hnone, _⟩
    · exact Or.inl hshort
    · contradiction

section Agreement

variable {α : Type} {whole taken left : Bytes} {front more : FlatStream} {ch₁ ch₂ : Channel}
  {r₁ r₂ : EStateM.Result Error Channel α}

/-- Readings that hand out the same and leave the same bytes agree. -/
theorem cut_agree_ok {a : α} (hlimit : ch₁.lineLimit = ch₂.lineLimit)
    (hwhole : whole = taken ++ left) (h₁ : ch₁.Shows r₁ (.ok a (front.after left)))
    (h₂ : ch₂.Shows r₂ (.ok a (more.after left))) : (cut whole front more).Agree r₁ r₂ := by
  rcases h₁.of_ok with ⟨after₁, rfl, hflat₁, hlimit₁⟩
  rcases h₂.of_ok with ⟨after₂, rfl, hflat₂, hlimit₂⟩
  have hsame : after₁.lineLimit = after₂.lineLimit := by rw [hlimit₁, hlimit, hlimit₂]
  exact ⟨after₂, rfl, hsame, taken, left, hwhole, hflat₁, hflat₂⟩

/-- Readings that refuse the same bytes for the same cause agree. -/
theorem cut_agree_refused {cause : ProtocolError} (hlimit : ch₁.lineLimit = ch₂.lineLimit)
    (hwhole : whole = taken ++ left)
    (h₁ : ch₁.Shows r₁ (.error (.protocol cause) (front.after left)))
    (h₂ : ch₂.Shows r₂ (.error (.protocol cause) (more.after left))) :
    (cut whole front more).Agree r₁ r₂ := by
  rcases h₁.of_error with ⟨after₁, rfl, hflat₁, hlimit₁⟩
  rcases h₂.of_error with ⟨after₂, rfl, hflat₂, hlimit₂⟩
  have hsame : after₁.lineLimit = after₂.lineLimit := by rw [hlimit₁, hlimit, hlimit₂]
  exact Or.inr ⟨cause, after₂, rfl, rfl, hsame, taken, left, hwhole, hflat₁, hflat₂⟩

/-- A reading that falls short on the first channel agrees with anything. -/
theorem cut_agree_short {expected available : Nat} {s : FlatStream}
    (hshort : available < expected)
    (h₁ : ch₁.Shows r₁ (.error ((front.nth 0).report (.endOfStream expected available)) s)) :
    (cut whole front more).Agree r₁ r₂ := by
  rcases h₁.of_error with ⟨after₁, rfl, _, _⟩
  exact Or.inl ⟨expected, available, hshort, rfl⟩

end Agreement

section Cut

variable {front : FlatStream} (hfront : ∀ b, front.nth 0 ≠ .byte b) (whole : Bytes)
  (more : FlatStream)
include hfront

theorem cut_holds_exact (n : Nat) : (cut whole front more).Holds (exact n) := by
  intro ch₁ ch₂ haligned
  rcases haligned.flat with ⟨before, bytes, hwhole, h₁, h₂⟩
  have hfirst := ch₁.shows_readExact n
  have hsecond := ch₂.shows_readExact n
  rcases exists_exactRule n front bytes with ⟨outcome, hrule⟩
  rw [h₁, hrule.readExact hfront] at hfirst
  rw [h₂] at hsecond
  cases hrule with
  | @handed taken left split enough =>
    rw [FlatStream.readExact_handed more split enough] at hsecond
    have hparts : whole = (before ++ taken) ++ left := by
      rw [hwhole, split, List.append_assoc]
    exact cut_agree_ok haligned.lineLimit hparts hfirst hsecond
  | short short => exact cut_agree_short short hfirst

theorem cut_holds_line : (cut whole front more).Holds line := by
  intro ch₁ ch₂ haligned
  rcases haligned.flat with ⟨before, bytes, hwhole, h₁, h₂⟩
  have hfirst := ch₁.shows_readLine
  have hsecond := ch₂.shows_readLine
  rcases exists_lineRule ch₁.lineLimit front bytes with ⟨outcome, hrule⟩
  rw [h₁, hrule.readLine hfront] at hfirst
  rw [h₂, ← haligned.lineLimit] at hsecond
  cases hrule with
  | @handed body left split first fits =>
    rw [FlatStream.readLine_handed more split first fits] at hsecond
    have hparts : whole = (before ++ (body ++ Bytes.crlf)) ++ left := by
      rw [hwhole, split]
      simp only [List.append_assoc]
    exact cut_agree_ok haligned.lineLimit hparts hfirst hsecond
  | tooLong split first long =>
    rw [FlatStream.readLine_tooLong more split first long] at hsecond
    exact cut_agree_refused haligned.lineLimit hwhole hfirst hsecond
  | bare split first fits bare =>
    rw [FlatStream.readLine_bare more split first fits bare] at hsecond
    exact cut_agree_refused haligned.lineLimit hwhole hfirst hsecond
  | endless unended long =>
    rw [FlatStream.readLine_endless more (FlatStream.findIdx?_open unended) long] at hsecond
    exact cut_agree_refused haligned.lineLimit hwhole hfirst hsecond
  | short unended short => exact cut_agree_short (by omega) hfirst

/-- A composed reading falls short of the bytes in front of a cut, or does not see the
cut. -/
theorem cut_holds {α : Type} {x : Reading α} (hx : Composed x) :
    (cut whole front more).Holds x :=
  hx.holds (cut_holds_line hfront whole more) (cut_holds_exact hfront whole more)

end Cut

end Reading

/-! ## Replies -/

namespace Outcome

/-- More bytes were needed than there were before the end of the stream. -/
def FallsShort (result : EStateM.Result Error Channel Outcome) : Prop :=
  ∃ expected available ch', result = .error (.endOfStream expected available) ch' ∧
    available < expected

/-- There were no bytes at all before the end of the stream, and the command is one after
which the server may close without an answer. -/
def ClosesSilently (command : Command) (bytes : Bytes)
    (result : EStateM.Result Error Channel Outcome) : Prop :=
  bytes = [] ∧ command.isTerminal = true ∧ ∃ ch', result = .ok .terminal ch'

/-- The same reply, or the same breach of the protocol, was found in some bytes, and as many
of them were taken.  Different streams stand behind them. -/
inductive SameVerdict (bytes : Bytes) (front more : FlatStream) :
    EStateM.Result Error Channel Outcome → EStateM.Result Error Channel Outcome → Prop
  | reply {taken left : Bytes} {o : Outcome} {ch₁ ch₂ : Channel} (split : bytes = taken ++ left)
      (first : ch₁.flat = front.after left) (second : ch₂.flat = more.after left) :
      SameVerdict bytes front more (.ok o ch₁) (.ok o ch₂)
  | refusal {taken left : Bytes} {cause : ProtocolError} {ch₁ ch₂ : Channel}
      (split : bytes = taken ++ left) (first : ch₁.flat = front.after left)
      (second : ch₂.flat = more.after left) :
      SameVerdict bytes front more (.error (.protocol cause) ch₁) (.error (.protocol cause) ch₂)

section Verdicts

variable {lineLimit : Nat} {bytes : Bytes} {front more : FlatStream}
  {ch₁ ch₂ : Channel} {r₁ r₂ : EStateM.Result Error Channel Outcome}

/-- Outcomes that agree are the same verdict, or the first falls short. -/
theorem sameVerdict_of_agree (h : (Reading.cut bytes front more).Agree r₁ r₂) :
    (∃ expected available ch', available < expected ∧
        r₁ = .error ((front.nth 0).report (.endOfStream expected available)) ch') ∨
      SameVerdict bytes front more r₁ r₂ := by
  cases r₁ with
  | ok o after₁ =>
    rcases h with ⟨after₂, rfl, haligned⟩
    rcases haligned.flat with ⟨taken, left, hsplit, hfirst, hsecond⟩
    exact Or.inr (.reply hsplit hfirst hsecond)
  | error e after₁ =>
    rcases h with ⟨expected, available, hshort, rfl⟩ | ⟨cause, after₂, rfl, hother, haligned⟩
    · exact Or.inl ⟨expected, available, after₁, hshort, rfl⟩
    · rcases haligned.flat with ⟨taken, left, hsplit, hfirst, hsecond⟩
      rw [Reading.failure?_eq_some.1 hother]
      exact Or.inr (.refusal hsplit hfirst hsecond)

/-- Decoding a reply falls short of the bytes in front of a cut, or does not see the cut,
unless it takes a silent close for an answer. -/
theorem read_cut (command : Command) (hfront : ∀ b, front.nth 0 ≠ .byte b)
    (h₁ : ch₁.HandsOut lineLimit bytes front) (h₂ : ch₂.HandsOut lineLimit bytes more) :
    (∃ expected available ch', available < expected ∧ Outcome.read command ch₁ =
        .error ((front.nth 0).report (.endOfStream expected available)) ch') ∨
      (front.nth 0 = .ended ∧ ClosesSilently command bytes (Outcome.read command ch₁)) ∨
      SameVerdict bytes front more (Outcome.read command ch₁) (Outcome.read command ch₂) := by
  have haligned : Reading.Aligned bytes front more ch₁ ch₂ :=
    ⟨h₁.lineLimit.trans h₂.lineLimit.symm, [], bytes, rfl, h₁.flat, h₂.flat⟩
  have hheader := Reading.cut_holds hfront bytes more Reading.composed_header ch₁ ch₂ haligned
  cases hfirst : Reading.header ch₁ with
  | ok first mid₁ =>
    rw [hfirst] at hheader
    rcases hheader with ⟨mid₂, hsecond, hmid⟩
    have hcomposed := Reading.composed_outcome command first.1 first.2
    have hagree := Reading.cut_holds hfront bytes more hcomposed mid₁ mid₂ hmid
    simp only [Outcome.read, hfirst, hsecond]
    exact (sameVerdict_of_agree hagree).imp_right Or.inr
  | error e mid₁ =>
    by_cases hclose : e.isSilentClose command = true
    · -- The header met the end in front of everything, so there were no bytes.
      rcases Error.isSilentClose_iff.1 hclose with ⟨n, rfl, hterminal⟩
      have hended := (Reading.header_silent hfirst).1
      rw [h₁.flat] at hended
      have hnone : bytes = [] := by
        apply FlatStream.eq_nil_of_nth_after (s := front)
        simp [hended]
      subst hnone
      exact Or.inr (Or.inl ⟨hended, rfl, hterminal, mid₁,
        Outcome.read_silent_close hterminal hfirst⟩)
    · rw [Bool.not_eq_true] at hclose
      rw [hfirst] at hheader
      rw [Outcome.read_error hclose hfirst]
      rcases hheader with ⟨expected, available, hshort, rfl⟩ |
        ⟨cause, mid₂, rfl, hsecond, hmid⟩
      · exact Or.inl ⟨expected, available, mid₁, hshort, rfl⟩
      · rcases hmid.flat with ⟨taken, left, hsplit, hflat₁, hflat₂⟩
        have hread := Outcome.read_error hclose (Reading.failure?_eq_some.1 hsecond)
        rw [hread]
        exact Or.inr (Or.inr (.refusal hsplit hflat₁ hflat₂))

/-- A reply that takes all of a longer byte string is not found in the shorter one. -/
theorem SameVerdict.eq_nil_of_whole {more : Bytes} {behind : FlatStream} {o : Outcome}
    (h : SameVerdict bytes front (behind.after more) r₁ (.ok o ch₂)) (hwhole : ch₂.flat = behind) :
    more = [] := by
  cases h with
  | @reply taken left _ _ _ split first second =>
    rw [hwhole, FlatStream.after_after] at second
    exact (List.append_eq_nil_iff.1 (FlatStream.eq_nil_of_after_eq second.symm)).2

end Verdicts

/-- What decoding says of some bytes at the end of a stream is final: it falls short of them,
takes the close for the answer to a terminal command, or says the same and takes the same
bytes whatever follows.  So a reply that is cut is never a reply: decoding falls short of it,
or reports the failure that cuts it. -/
theorem read_final (command : Command) (lineLimit : Nat) :
    (∀ (bytes more : Bytes) (ending behind : FlatStream) (ended longer : Channel),
      ending.nth 0 = .ended → ended.HandsOut lineLimit bytes ending →
      longer.HandsOut lineLimit (bytes ++ more) behind →
        FallsShort (Outcome.read command ended) ∨
        ClosesSilently command bytes (Outcome.read command ended) ∨
        SameVerdict bytes ending (behind.after more) (Outcome.read command ended)
          (Outcome.read command longer)) ∧
    ∀ (bytes more : Bytes) (front behind : FlatStream) (cut whole after : Channel) (o : Outcome),
      more ≠ [] → whole.HandsOut lineLimit (bytes ++ more) behind →
      Outcome.read command whole = .ok o after → after.flat = behind →
      cut.HandsOut lineLimit bytes front →
        (front.nth 0 = .ended → FallsShort (Outcome.read command cut) ∨
          ClosesSilently command bytes (Outcome.read command cut)) ∧
        ∀ cause, front.nth 0 = .failed cause →
          ∃ ch', Outcome.read command cut = .error (.transport cause) ch' := by
  constructor
  · intro bytes more ending behind ended longer hended hfirst hsecond
    have hfront : ∀ b, ending.nth 0 ≠ .byte b := by simp [hended]
    rcases read_cut command hfront hfirst hsecond.split with
      ⟨expected, available, ch', hshort, hread⟩ | ⟨-, hsilent⟩ | hsame
    · rw [hended] at hread
      exact Or.inl ⟨expected, available, ch', hread, hshort⟩
    · exact Or.inr (Or.inl hsilent)
    · exact Or.inr (Or.inr hsame)
  · intro bytes more front behind cut whole after o hmore hwhole hread hall hcut
    have hverdict (hfront : ∀ b, front.nth 0 ≠ .byte b) :=
      read_cut command hfront hcut hwhole.split
    -- The whole reply takes more bytes than the cut one has.
    rw [hread] at hverdict
    constructor
    · intro hended
      rcases hverdict (by simp [hended]) with
        ⟨expected, available, ch', hshort, hfails⟩ | ⟨-, hsilent⟩ | hsame
      · rw [hended] at hfails
        exact Or.inl ⟨expected, available, ch', hfails, hshort⟩
      · exact Or.inr hsilent
      · exact absurd (hsame.eq_nil_of_whole hall) hmore
    · intro cause hfailed
      rcases hverdict (by simp [hfailed]) with
        ⟨expected, available, ch', -, hfails⟩ | ⟨hended, -⟩ | hsame
      · rw [hfailed] at hfails
        exact ⟨ch', hfails⟩
      · rw [hfailed] at hended
        contradiction
      · exact absurd (hsame.eq_nil_of_whole hall) hmore

/-- A bulk value that the end of the stream or a failure cuts within its payload, next to the
whole one with another reply behind it. -/
theorem read_final_cutPayload :
    let part := Bytes.ofText "$5\r\nhel"
    let rest := Bytes.ofText "lo\r\n"
    let next : Source := ⟨[.data (Bytes.ofText ":1\r\n")], .gone⟩
    let whole : Channel := .fresh ⟨.data part :: .data rest :: next.events, .gone⟩ 4 64
    let ended : Channel := .fresh ⟨[.data part], .gone⟩ 64 64
    let failed : Channel := .fresh ⟨[.data part, .failed (.reported "reset")], .gone⟩ 4 64
    (FallsShort (Outcome.read .get ended) ∨
        ClosesSilently .get part (Outcome.read .get ended) ∨
        SameVerdict part ⟨[], .gone⟩ (next.flat.after rest) (Outcome.read .get ended)
          (Outcome.read .get whole)) ∧
      (FallsShort (Outcome.read .get ended) ∨
        ClosesSilently .get part (Outcome.read .get ended)) ∧
      ∃ ch', Outcome.read .get failed = .error (.transport (.reported "reset")) ch' := by
  have hread :
      Outcome.read .get (.fresh ⟨[.data (Bytes.ofText "$5\r\nhel"), .data (Bytes.ofText "lo\r\n"),
          .data (Bytes.ofText ":1\r\n")], .gone⟩ 4 64) =
        .ok (.ok (.bulk (some (Bytes.ofText "hello"))))
          (.fresh ⟨[.data [], .data (Bytes.ofText ":1\r\n")], .gone⟩ 4 64) := by
    with_unfolding_all rfl
  intro part rest next whole ended failed
  have hwhole : whole.HandsOut 64 (part ++ rest) next.flat := ⟨rfl, by decide⟩
  have hended : ended.HandsOut 64 part ⟨[], .gone⟩ := ⟨rfl, by decide⟩
  have hfailed : failed.HandsOut 64 part ⟨[.failed (.reported "reset")], .gone⟩ :=
    ⟨rfl, by decide⟩
  have hmore : rest ≠ [] := by decide
  rcases read_final .get 64 with ⟨hfinal, hcut⟩
  refine ⟨hfinal part rest _ _ ended whole rfl hended hwhole, ?_, ?_⟩
  · exact (hcut part rest _ _ ended whole _ _ hmore hwhole hread (by decide) hended).1 rfl
  · exact (hcut part rest _ _ failed whole _ _ hmore hwhole hread (by decide) hfailed).2 _ rfl

end Outcome

end KeyValueClient
