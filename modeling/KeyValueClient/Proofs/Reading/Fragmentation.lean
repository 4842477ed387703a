import KeyValueClient.Proofs.Reading.Composed
import KeyValueClient.Proofs.Reading.Flattened
import Mathlib.Tactic.ByContra

/-!
# Decoding and fragmentation

Two sources that deliver the same elements at the same positions may cut their bytes into
pieces in different ways, and may be interrupted at different moments.  Channels over them
hold different buffers at the same time.  No reading tells them apart, because both reads
follow the flat rules, and the flat rules see the elements only.

Main results:

- Theorems `FlatStream.alike_readExact` and `FlatStream.alike_readLine`: flat reads of
  streams with the same elements are alike.
- Theorem `Reading.uncut_holds`: so are composed readings of channels over them.
- Theorem `Outcome.readEach_eq_of_nth_eq`: successive replies do not depend on
  fragmentation.
-/

namespace KeyValueClient

namespace FlatStream

/-! ## Streams with the same elements -/

/-- The streams have the same element at every position. -/
def Same (s t : FlatStream) : Prop :=
  ∀ n, s.nth n = t.nth n

section Positions

variable (s : FlatStream) (bytes : Bytes) (k n : Nat)

theorem nth_drop : (s.drop k).nth n = s.nth (k + n) := by
  simp [drop, nth, List.getElem?_drop]

theorem nth_after_lt (h : n < bytes.length) : (s.after bytes).nth n = .byte bytes[n] := by
  simp [after, nth, List.getElem?_append_left, h]

theorem nth_after_add : (s.after bytes).nth (bytes.length + n) = s.nth n := by
  rw [← nth_drop, drop_after]

end Positions

namespace Same

variable {s t : FlatStream}

theorem symm (h : Same s t) : Same t s :=
  fun n => (h n).symm

theorem drop (h : Same s t) (k : Nat) : Same (s.drop k) (t.drop k) := by
  intro n
  rw [nth_drop, nth_drop, h]

theorem after (h : Same s t) (bytes : Bytes) : Same (s.after bytes) (t.after bytes) := by
  intro n
  by_cases hn : n < bytes.length
  · rw [nth_after_lt _ _ _ hn, nth_after_lt _ _ _ hn]
  · have hsplit : n = bytes.length + (n - bytes.length) := by omega
    rw [hsplit, nth_after_add, nth_after_add, h]

/-- The bytes before the first end or failure are as many on both sides. -/
theorem length_le {first second : Bytes} (h : Same (s.after first) (t.after second))
    (hs : ∀ b, s.nth 0 ≠ .byte b) : second.length ≤ first.length := by
  by_contra hlonger
  have hfirst := nth_after_add s first 0
  have hsecond := nth_after_lt t second first.length (by omega)
  have hbyte := (hfirst.symm.trans (h first.length)).trans hsecond
  exact hs _ hbyte

/-- Streams with the same elements have the same leading bytes. -/
theorem cut {first second : Bytes} (h : Same (s.after first) (t.after second))
    (hs : ∀ b, s.nth 0 ≠ .byte b) (ht : ∀ b, t.nth 0 ≠ .byte b) :
    first = second ∧ Same s t := by
  have hlength : first.length = second.length :=
    Nat.le_antisymm (h.symm.length_le ht) (h.length_le hs)
  have hbytes : first = second := by
    apply List.ext_getElem hlength
    intro n hfirst hsecond
    have hnth := h n
    rw [nth_after_lt _ _ _ hfirst, nth_after_lt _ _ _ hsecond] at hnth
    exact FlatItem.byte.inj hnth
  subst hbytes
  refine ⟨rfl, fun n => ?_⟩
  have hnth := h (first.length + n)
  rwa [nth_after_add, nth_after_add] at hnth

end Same

/-! ## Flat reads -/

/-- The outcomes of two flat reads agree, and what they leave has the same elements. -/
def Alike {α : Type} : EStateM.Result Error FlatStream α → EStateM.Result Error FlatStream α → Prop
  | .ok a s, .ok b t => a = b ∧ Same s t
  | .error e s, .error e' t => e = e' ∧ Same s t
  | _, _ => False

section Reads

variable {s t : FlatStream} (h : Same s t)
include h

theorem leading_eq_of_same : (leading s.items).1 = (leading t.items).1 := by
  rcases exists_eq_after s with ⟨front, hs, hfront⟩
  rcases exists_eq_after t with ⟨front', ht, hfront'⟩
  rw [hs, ht] at h
  exact (h.cut hfront hfront').1

theorem alike_cutShort (expected : Nat) : Alike (s.cutShort expected) (t.cutShort expected) := by
  rcases exists_eq_after s with ⟨front, hs, hfront⟩
  rcases exists_eq_after t with ⟨front', ht, hfront'⟩
  rw [hs, ht] at h
  rcases h.cut hfront hfront' with ⟨hbytes, hsame⟩
  rw [hs, ht, hbytes, cutShort_after hfront, cutShort_after hfront', hsame 0]
  exact ⟨rfl, (hsame.drop 1).after _⟩

/-- Reading a number of bytes depends on the elements only. -/
theorem alike_readExact (n : Nat) : Alike (s.readExact n) (t.readExact n) := by
  unfold readExact
  rw [leading_eq_of_same h]
  dsimp only
  split_ifs
  · exact ⟨rfl, h.drop n⟩
  · exact alike_cutShort h n

/-- Reading a line depends on the elements only. -/
theorem alike_readLine (limit : Nat) : Alike (s.readLine limit) (t.readLine limit) := by
  unfold readLine
  rw [leading_eq_of_same h]
  dsimp only
  split
  · split_ifs
    · exact ⟨rfl, h⟩
    · exact ⟨rfl, h⟩
    · exact ⟨rfl, h.drop _⟩
  · split_ifs
    · exact ⟨rfl, h⟩
    · exact alike_cutShort h _

end Reads

end FlatStream

/-! ## Readings -/

namespace Reading

open FlatStream

/-- Channels are compared that hand out the same elements under the same line limit. -/
def uncut : Comparison where
  Related ch₁ ch₂ := Same ch₁.flat ch₂.flat ∧ ch₁.lineLimit = ch₂.lineLimit
  Failed e ch₁ other :=
    ∃ ch₂, other = some (e, ch₂) ∧ Same ch₁.flat ch₂.flat ∧ ch₁.lineLimit = ch₂.lineLimit
  refused := fun _ hrelated => ⟨_, rfl, hrelated⟩
  excused := by
    rintro e ch₁ ⟨ch₂, hnone, _⟩
    contradiction

/-- Readings that show alike agree. -/
theorem uncut_agree {α : Type} {ch₁ ch₂ : Channel} {r₁ r₂ : EStateM.Result Error Channel α}
    {flat₁ flat₂ : EStateM.Result Error FlatStream α}
    (hlimit : ch₁.lineLimit = ch₂.lineLimit) (h₁ : ch₁.Shows r₁ flat₁)
    (h₂ : ch₂.Shows r₂ flat₂) (halike : Alike flat₁ flat₂) : uncut.Agree r₁ r₂ := by
  cases h₁ with
  | ok hlimit₁ =>
    cases h₂ with
    | ok hlimit₂ =>
      rcases halike with ⟨rfl, hsame⟩
      exact ⟨_, rfl, hsame, hlimit₁.trans (hlimit.trans hlimit₂.symm)⟩
    | error hlimit₂ => contradiction
  | error hlimit₁ =>
    cases h₂ with
    | ok hlimit₂ => contradiction
    | error hlimit₂ =>
      rcases halike with ⟨rfl, hsame⟩
      exact ⟨_, rfl, hsame, hlimit₁.trans (hlimit.trans hlimit₂.symm)⟩

theorem uncut_holds_exact (n : Nat) : uncut.Holds (exact n) := by
  rintro ch₁ ch₂ ⟨hsame, hlimit⟩
  exact uncut_agree hlimit (ch₁.shows_readExact n) (ch₂.shows_readExact n)
    (alike_readExact hsame n)

theorem uncut_holds_line : uncut.Holds line := by
  rintro ch₁ ch₂ ⟨hsame, hlimit⟩
  have halike := alike_readLine hsame ch₁.lineLimit
  have hshows := ch₂.shows_readLine
  rw [← hlimit] at hshows
  exact uncut_agree hlimit ch₁.shows_readLine hshows halike

/-- Composed readings do not tell channels apart that hand out the same elements. -/
theorem uncut_holds {α : Type} {x : Reading α} (hx : Composed x) : uncut.Holds x :=
  hx.holds uncut_holds_line uncut_holds_exact

end Reading

/-! ## Replies -/

namespace Outcome

/-- Decoding a reply does not tell channels apart that hand out the same elements. -/
theorem uncut_agree_read {ch₁ ch₂ : Channel} (h : Reading.uncut.Related ch₁ ch₂)
    (command : Command) :
    Reading.uncut.Agree (Outcome.read command ch₁) (Outcome.read command ch₂) := by
  have hheader := Reading.uncut_holds Reading.composed_header ch₁ ch₂ h
  unfold Outcome.read
  cases hfirst : Reading.header ch₁ with
  | ok first mid₁ =>
    rw [hfirst] at hheader
    rcases hheader with ⟨mid₂, hsecond, hmid⟩
    rw [hsecond]
    exact Reading.uncut_holds (Reading.composed_outcome command first.1 first.2) _ _ hmid
  | error e mid₁ =>
    rw [hfirst] at hheader
    rcases hheader with ⟨mid₂, hsecond, hmid⟩
    rw [Reading.failure?_eq_some.1 hsecond]
    dsimp only
    split_ifs
    · exact ⟨_, rfl, hmid⟩
    · exact ⟨_, rfl, hmid⟩

/-- Neither do successive replies, errors among them. -/
theorem readEach_uncut {ch₁ ch₂ : Channel} (h : Reading.uncut.Related ch₁ ch₂)
    (commands : List Command) :
    (Outcome.readEach commands ch₁).1 = (Outcome.readEach commands ch₂).1 := by
  induction commands generalizing ch₁ ch₂ with
  | nil => rfl
  | cons command rest ih =>
    have hagree := uncut_agree_read h command
    unfold Outcome.readEach
    cases hfirst : Outcome.read command ch₁ with
    | ok outcome after₁ =>
      rw [hfirst] at hagree
      rcases hagree with ⟨after₂, hsecond, hafter⟩
      rw [hsecond]
      dsimp only
      rw [ih hafter]
    | error e after₁ =>
      rw [hfirst] at hagree
      rcases hagree with ⟨after₂, hsecond, hafter⟩
      rw [Reading.failure?_eq_some.1 hsecond]
      dsimp only
      rw [ih hafter]

/-- Successive replies do not depend on fragmentation.  If two sources deliver the same
bytes, ends and failures at the same positions, then the replies to any commands, errors
among them, are the same on a channel over either source, however much one read asks
for. -/
theorem readEach_eq_of_nth_eq (first second : Source) (firstSize secondSize lineLimit : Nat)
    (commands : List Command) (hsame : ∀ n, first.flat.nth n = second.flat.nth n) :
    (Outcome.readEach commands (.fresh first firstSize lineLimit)).1 =
      (Outcome.readEach commands (.fresh second secondSize lineLimit)).1 := by
  have hrelated : Reading.uncut.Related (.fresh first firstSize lineLimit)
      (.fresh second secondSize lineLimit) := by
    refine ⟨?_, rfl⟩
    rw [Channel.flat_fresh, Channel.flat_fresh]
    exact hsame
  exact readEach_uncut hrelated commands

/-- A bulk value that a failure cuts before its last byte, and the replies behind it, cut into
pieces in two ways. -/
theorem readEach_eq_of_nth_eq_cutPayload :
    let first : Source :=
      ⟨[.data (Bytes.ofText "$5\r\nhel"), .interrupted, .data (Bytes.ofText "lo\r"),
        .failed (.reported "reset"), .data (Bytes.ofText "\n:12\r\n")], .gone⟩
    let second : Source :=
      ⟨[.interrupted, .data (Bytes.ofText "$"), .data (Bytes.ofText "5\r\nhello\r"),
        .failed (.reported "reset"), .data (Bytes.ofText "\n:1"), .interrupted,
        .data (Bytes.ofText "2\r\n")], .gone⟩
    (∀ n, first.flat.nth n = second.flat.nth n) ∧
      (Outcome.readEach [.get, .incr, .incr, .incr] (.fresh first 64 1024)).1 =
        (Outcome.readEach [.get, .incr, .incr, .incr] (.fresh second 0 1024)).1 := by
  intro first second
  have hflat : first.flat = second.flat := by decide
  have hsame : ∀ n, first.flat.nth n = second.flat.nth n := by
    intro n
    rw [hflat]
  exact ⟨hsame, readEach_eq_of_nth_eq first second 64 0 1024 [.get, .incr, .incr, .incr] hsame⟩

end Outcome

end KeyValueClient
