import KeyValueClient.Decimal.Slots
import KeyValueClient.Proofs.Decimal.Reading

/-!
# What the slots hold

Each number that is entered changes its own slot only, and every number up to the limit has
no more digits than a slot has room for.  So the table can be built, and then each slot holds
the digits of its number.

Main results:

- Theorem `SlotTable.fill_eq`: the digits stand at the end of a slot.
- Theorem `SlotTable.Entered.enter`: one more number can be entered.
- Theorem `SlotTable.Entered.get?`: the digits of a number that was entered are found.
- Theorem `SlotTable.exists_build`: the table of all numbers can be built, and it holds the
  digits that the table in rows holds.
-/

namespace KeyValueClient.Decimal.SlotTable

/-! ## Parts of byte strings -/

section Parts

variable {b part : Bytes} {start stop first last : Nat}

theorem slice?_eq_some (hstart : start ≤ stop) (hstop : stop ≤ b.length) :
    slice? b start stop = some ((b.take stop).drop start) :=
  if_pos ⟨hstart, hstop⟩

theorem length_splice (hpart : start + part.length = stop) (hstop : stop ≤ b.length) :
    (splice b start stop part).length = b.length := by
  simp only [splice, List.length_append, List.length_take, List.length_drop]
  omega

/-- The end of the part that was put in is found where it was put. -/
theorem slice?_splice (hpart : start + part.length = stop) (hstop : stop ≤ b.length)
    (hfirst : start ≤ first) (hlast : first ≤ stop) :
    slice? (splice b start stop part) first stop = some (part.drop (first - start)) := by
  have hfront : (b.take start).length = start := by
    rw [List.length_take]
    omega
  have htake : (splice b start stop part).take stop = b.take start ++ part := by
    rw [splice, List.take_left' (by rw [List.length_append, hfront, hpart])]
  rw [slice?_eq_some hlast (by rw [length_splice hpart hstop]; exact hstop), htake,
    List.drop_append, List.drop_eq_nil_of_le (by omega), List.nil_append, hfront]

/-- What stands in front of the part or behind it is still there. -/
theorem slice?_splice_of_disjoint (hpart : start + part.length = stop) (hstop : stop ≤ b.length)
    (h : last ≤ start ∨ stop ≤ first) :
    slice? (splice b start stop part) first last = slice? b first last := by
  have hfront : (b.take start).length = start := by
    rw [List.length_take]
    omega
  unfold slice?
  rw [length_splice hpart hstop]
  split_ifs with hbounds
  · congr 1
    rcases h with h | h
    · rw [splice, List.append_assoc, List.take_append_of_le_length (by omega), List.take_take,
        Nat.min_eq_left h]
    · have hhead : (b.take start ++ part).length = stop := by
        rw [List.length_append, hfront, hpart]
      rw [splice, List.drop_take, List.drop_take, List.drop_append,
        List.drop_eq_nil_of_le (by omega), List.nil_append, List.drop_drop, hhead]
      congr 2
      omega
  · rfl

end Parts

/-! ## One slot -/

/-- The digits stand at the end of the room that a slot has for them, and are counted. -/
theorem fill_eq {room n : Nat} {slot : Bytes} (hwidth : room ≤ slotWidth)
    (hslot : room ≤ slot.length) (h : (ofNat n).length ≤ room) :
    fill room n slot =
      some (slot.take (room - (ofNat n).length) ++ ofNat n ++ slot.drop room,
        slotWidth - room + (ofNat n).length) := by
  induction room generalizing n slot with
  | zero => exact absurd (List.length_eq_zero_iff.1 (Nat.le_zero.1 h)) (ofNat_ne_nil n)
  | succ room ih =>
    have hset : slot.set room (digit (n % 10)) =
        slot.take room ++ digit (n % 10) :: slot.drop (room + 1) := by
      rw [List.set_eq_take_append_cons_drop, if_pos (by omega)]
    have hfront : (slot.take room).length = room := by
      rw [List.length_take]
      omega
    by_cases hn : n < 10
    · have hlast : n % 10 = n := Nat.mod_eq_of_lt hn
      rw [fill, if_pos (by omega), hset, ofNat_of_lt hn, hlast]
      simp
      omega
    · have hdigits : (ofNat n).length = (ofNat (n / 10)).length + 1 := by
        rw [ofNat_of_le (by omega), List.length_append, List.length_singleton]
      rw [fill, if_neg (by omega), hset,
        ih (by omega) (by rw [List.length_append, hfront]; omega) (by omega),
        List.take_append_of_le_length (by omega), List.take_take, List.drop_left' hfront,
        ofNat_of_le (n := n) (by omega)]
      simp
      omega

/-- A number whose digits fit a slot leaves the rest of it in front of them. -/
theorem fill_slot {n : Nat} {slot : Bytes} (hslot : slot.length = slotWidth)
    (h : (ofNat n).length ≤ slotWidth) :
    ∃ kept, kept.length + (ofNat n).length = slotWidth ∧
      fill slotWidth n slot = some (kept ++ ofNat n, (ofNat n).length) := by
  refine ⟨slot.take (slotWidth - (ofNat n).length), ?_, ?_⟩
  · rw [List.length_take]
    omega
  · rw [fill_eq (Nat.le_refl _) (Nat.le_of_eq hslot.symm) h,
      List.drop_of_length_le (Nat.le_of_eq hslot), List.append_nil, Nat.sub_self, Nat.zero_add]

/-- A slot has room for every number up to the limit. -/
theorem length_ofNat_le_slotWidth {n : Nat} (h : n ≤ DigitTable.limit) :
    (ofNat n).length ≤ slotWidth := by
  have hbelow : n < 10 ^ slotWidth := by
    simp only [DigitTable.limit] at h
    simp only [slotWidth]
    omega
  exact length_ofNat_le (by decide) hbelow

/-! ## Tables -/

/-- The table has so many slots, and the digits of the first numbers stand in theirs. -/
structure Entered (t : SlotTable) (count entered : Nat) : Prop where
  digits : t.digits.length = count * slotWidth
  lengths : t.lengths.length = count
  counted : ∀ n < entered, t.lengths[n]? = some (UInt8.ofNat (ofNat n).length)
  written : ∀ n < entered,
    slice? t.digits ((n + 1) * slotWidth - (ofNat n).length) ((n + 1) * slotWidth) = some (ofNat n)

namespace Entered

theorem blank (count : Nat) : Entered (blank count) count 0 where
  digits := List.length_replicate
  lengths := List.length_replicate
  counted := by simp
  written := by simp

variable {t : SlotTable} {count n : Nat}

/-- One more number can be entered, if there is a slot for it and it has no more digits than
a slot has room for. -/
theorem enter (h : Entered t count n) (hcount : n < count) (hlimit : n ≤ DigitTable.limit) :
    ∃ t', t.enter n = some t' ∧ Entered t' count (n + 1) := by
  have hroom := length_ofNat_le_slotWidth hlimit
  have hstop : (n + 1) * slotWidth ≤ t.digits.length := by
    rw [h.digits]
    exact Nat.mul_le_mul_right slotWidth hcount
  have hwidth : n * slotWidth + slotWidth = (n + 1) * slotWidth := (Nat.succ_mul n slotWidth).symm
  have hslot : slice? t.digits (n * slotWidth) ((n + 1) * slotWidth) = some _ :=
    slice?_eq_some (by omega) hstop
  have hlength : ((t.digits.take ((n + 1) * slotWidth)).drop (n * slotWidth)).length =
      slotWidth := by
    rw [List.length_drop, List.length_take]
    omega
  obtain ⟨kept, hkept, hfill⟩ := fill_slot hlength hroom
  have hpart : n * slotWidth + (kept ++ ofNat n).length = (n + 1) * slotWidth := by
    rw [List.length_append]
    omega
  refine ⟨⟨splice t.digits (n * slotWidth) ((n + 1) * slotWidth) (kept ++ ofNat n),
    t.lengths.set n (UInt8.ofNat (ofNat n).length)⟩, ?_, ?_, ?_, ?_, ?_⟩
  · simp only [SlotTable.enter, hslot, hfill, Option.bind_eq_bind, Option.bind_some]
    exact if_pos (h.lengths.symm ▸ hcount)
  · rw [length_splice hpart hstop]
    exact h.digits
  · rw [List.length_set]
    exact h.lengths
  · intro m hm
    by_cases hlast : m = n
    · subst hlast
      exact List.getElem?_set_self (h.lengths.symm ▸ hcount)
    · rw [List.getElem?_set_ne (Ne.symm hlast)]
      exact h.counted m (by omega)
  · intro m hm
    by_cases hlast : m = n
    · subst hlast
      rw [slice?_splice hpart hstop (by omega) (Nat.sub_le _ _), List.drop_left' (by omega)]
    · have hbefore : (m + 1) * slotWidth ≤ n * slotWidth := Nat.mul_le_mul_right _ (by omega)
      rw [slice?_splice_of_disjoint hpart hstop (.inl hbefore)]
      exact h.written m (by omega)

/-- So all numbers up to the limit can be entered one after the other. -/
theorem run (hcount : n ≤ count) (hlimit : n ≤ DigitTable.limit + 1) :
    ∃ t, (List.range n).foldlM SlotTable.enter (SlotTable.blank count) = some t ∧
      Entered t count n := by
  induction n with
  | zero => exact ⟨_, rfl, blank count⟩
  | succ n ih =>
    obtain ⟨t, hrun, hentered⟩ := ih (by omega) (by omega)
    obtain ⟨t', henter, hnext⟩ := hentered.enter (by omega) (by omega)
    refine ⟨t', ?_, hnext⟩
    rw [List.range_succ, List.foldlM_append, hrun]
    simpa using henter

/-- The digits of a number that was entered are found. -/
theorem get? (h : Entered t count n) (hlimit : n ≤ DigitTable.limit + 1) {m : Nat} (hm : m < n) :
    t.get? m = some (ofNat m) := by
  have hroom : (ofNat m).length ≤ slotWidth := length_ofNat_le_slotWidth (by omega)
  have hcounted : (UInt8.ofNat (ofNat m).length).toNat = (ofNat m).length := by
    rw [UInt8.toNat_ofNat']
    simp only [slotWidth] at hroom
    omega
  have hstop : (ofNat m).length ≤ (m + 1) * slotWidth :=
    Nat.le_trans hroom (Nat.le_mul_of_pos_left _ (Nat.succ_pos m))
  simp only [SlotTable.get?, h.counted m hm, Option.bind_eq_bind, Option.bind_some, hcounted]
  rw [if_pos hstop]
  exact h.written m hm

end Entered

/-- The table of all numbers up to the limit can be built, and it holds the digits that the
table in rows holds. -/
theorem exists_build :
    ∃ t, build = some t ∧ ∀ n ≤ DigitTable.limit, t.get? n = DigitTable.shared.lookup? n := by
  obtain ⟨t, hbuild, hentered⟩ := Entered.run (n := DigitTable.limit + 1) (Nat.le_refl _)
    (Nat.le_refl _)
  refine ⟨t, hbuild, ?_⟩
  intro n hn
  rw [DigitTable.lookup?_shared, if_pos hn]
  exact hentered.get? (Nat.le_refl _) (Nat.lt_succ_of_le hn)

end KeyValueClient.Decimal.SlotTable
