import KeyValueClient.Decimal.Basic

/-!
# The digit table

Small numbers are written so often that their digits are kept in a table.  The table
has rows of equal length; the row and the place within the row are the quotient and
the remainder of the number.  A slot holds the last digits of its number, as many as
it has, cut out of its five decimal places.

Main results:

- Theorem `DigitTable.lookup?_shared`: the table holds the digits of every number up
  to its limit, and of no other.
-/

namespace KeyValueClient.Decimal

/-- The digits of the first numbers, in rows. -/
structure DigitTable where
  rows : Array (Array Bytes)

namespace DigitTable

/-! ## Slots -/

/-- How many digits a number of at most five digits has. -/
def width (n : Nat) : Nat :=
  if n < 10 then 1 else if n < 100 then 2 else if n < 1000 then 3 else if n < 10000 then 4 else 5

/-- The digits at the five lowest decimal places. -/
def places (n : Nat) : Bytes :=
  [n / 10000, n / 1000, n / 100, n / 10, n].map fun q => digit (q % 10)

/-- The digits of a number of at most five digits. -/
def slot (n : Nat) : Bytes :=
  (places n).drop (5 - width n)

/-! ## Rows -/

/-- The length of a row, and the number of rows. -/
def side : Nat := 256

/-- The row that begins with a number. -/
def row (first : Nat) : Array Bytes :=
  ((List.range side).map fun place => slot (first + place)).toArray

/-- The table used for writing numbers. -/
def shared : DigitTable where
  rows := ((List.range side).map fun i => row (i * side)).toArray

/-- The digits of a number, if it has a slot. -/
def lookup? (table : DigitTable) (n : Nat) : Option Bytes :=
  table.rows[n / side]?.bind fun row => row[n % side]?

/-- The largest number with a slot in the shared table. -/
def limit : Nat := 65535

/-! ## What the table holds -/

theorem slot_eq {n : Nat} (h : n < 100000) : slot n = ofNat n := by
  unfold slot places width
  split
  · have hones : n % 10 = n := by omega
    simp [ofNat_of_lt, *]
  split
  · rw [ofNat_of_le (by omega), ofNat_of_lt (by omega)]
    have htens : n / 10 % 10 = n / 10 := by omega
    simp [htens]
  have hhundreds : n / 100 % 10 = n / 10 / 10 % 10 := by omega
  split
  · rw [ofNat_of_le (by omega), ofNat_of_le (by omega), ofNat_of_lt (by omega)]
    have hfirst : n / 10 / 10 % 10 = n / 10 / 10 := by omega
    simp [hhundreds, hfirst]
  have hthousands : n / 1000 % 10 = n / 10 / 10 / 10 % 10 := by omega
  split
  · rw [ofNat_of_le (by omega), ofNat_of_le (by omega), ofNat_of_le (by omega),
      ofNat_of_lt (by omega)]
    have hfirst : n / 10 / 10 / 10 % 10 = n / 10 / 10 / 10 := by omega
    simp [hhundreds, hthousands, hfirst]
  · rw [ofNat_of_le (by omega), ofNat_of_le (by omega), ofNat_of_le (by omega),
      ofNat_of_le (by omega), ofNat_of_lt (by omega)]
    have hfirst : n / 10000 % 10 = n / 10 / 10 / 10 / 10 := by omega
    simp [hhundreds, hthousands, hfirst]

theorem row_getElem? (first : Nat) {place : Nat} (h : place < side) :
    (row first)[place]? = some (slot (first + place)) := by
  simp [row, h]

theorem rows_getElem? (i : Nat) :
    shared.rows[i]? = if i < side then some (row (i * side)) else none := by
  by_cases h : i < side <;> simp [shared, h]

/-- The table holds the digits of every number up to its limit, and of no other. -/
theorem lookup?_shared (n : Nat) :
    shared.lookup? n = if n ≤ limit then some (ofNat n) else none := by
  have hplace : n % side < side := Nat.mod_lt n (by decide)
  have hsplit : n / side * side + n % side = n := Nat.div_add_mod' n side
  rw [lookup?, rows_getElem?]
  by_cases h : n ≤ limit
  · have hrow : n / side < side := by
      simp only [limit] at h
      simp only [side]
      omega
    rw [if_pos hrow, if_pos h, Option.bind_some, row_getElem? _ hplace, hsplit,
      slot_eq (by simp only [limit] at h; omega)]
  · have hrow : ¬ n / side < side := by
      simp only [limit] at h
      simp only [side]
      omega
    rw [if_neg hrow, if_neg h, Option.bind_none]

end DigitTable

end KeyValueClient.Decimal
