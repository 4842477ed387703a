import KeyValueClient.Stream.Channel

/-!
# Reads, one pull at a time

What the two reads of a channel do is said by the first pull that they need: the bytes that
come are put behind the buffer and the read starts again, an end or a failure stops it.  A
read of a line starts again behind what it has searched, and finds the same line.

Main results:

- Theorem `Channel.pull_induction`: what every pull brings nearer holds of every channel.
- Theorems `Channel.readExact_pull_bytes` and `Channel.readLine_pull_bytes`: a read that goes
  on after a pull is a read of what is there then.
-/

namespace KeyValueClient

namespace Channel

/-- What holds of a channel as soon as it holds after a pull that delivers bytes holds of every
channel. -/
@[elab_as_elim]
theorem pull_induction {motive : Channel → Prop}
    (step : ∀ ch : Channel, (∀ data rest, ch.source.pull ch.readSize = (.bytes data, rest) →
      motive { ch with source := rest, buffer := ch.buffer ++ data }) → motive ch)
    (ch : Channel) : motive ch :=
  step ch fun _ _ hpull =>
    have _hless := Source.weight_pull hpull
    pull_induction step _
termination_by ch.source.weight

variable {ch : Channel} {n : Nat} {data : Bytes} {rest : Source} {cause : TransportError}

/-! ## Reading a number of bytes -/

section Exact

variable (hshort : ¬ n ≤ ch.buffer.length)
include hshort

theorem readExact_pull_bytes (hpull : ch.source.pull ch.readSize = (.bytes data, rest)) :
    ch.readExact n =
      readExact n { ch with source := rest, buffer := ch.buffer ++ data } := by
  obtain ⟨m, hm⟩ := Nat.exists_eq_add_of_lt (Source.length_pull hpull).1
  rw [readExact, if_neg hshort, fill_eq hpull, hm, Nat.zero_add]

theorem readExact_pull_ended (hpull : ch.source.pull ch.readSize = (.ended, rest)) :
    ch.readExact n = .error (.endOfStream n ch.buffer.length) { ch with source := rest } := by
  rw [readExact, if_neg hshort, fill_ended hpull]

theorem readExact_pull_failed (hpull : ch.source.pull ch.readSize = (.failed cause, rest)) :
    ch.readExact n = .error (.transport cause) { ch with source := rest } := by
  rw [readExact, if_neg hshort, fill_failed hpull]

end Exact

/-! ## Reading a line -/

section Line

variable (hopen : ch.buffer.findIdx? (· == Bytes.lf) = none)
include hopen

theorem readLine_full (hfull : ch.lineLimit ≤ ch.buffer.length) :
    ch.readLine = .error (.protocol (.lineTooLong ch.lineLimit)) ch := by
  rw [readLine, readLineFrom, List.drop_zero, hopen]
  simp only [if_pos hfull]

variable (hroom : ¬ ch.lineLimit ≤ ch.buffer.length)
include hroom

theorem readLine_pull_bytes (hpull : ch.source.pull ch.readSize = (.bytes data, rest)) :
    ch.readLine = readLine { ch with source := rest, buffer := ch.buffer ++ data } := by
  obtain ⟨m, hm⟩ := Nat.exists_eq_add_of_lt (Source.length_pull hpull).1
  -- The bytes before the ones that have come were searched already.
  have hsearched : ((ch.buffer ++ data).take ch.buffer.length).findIdx? (· == Bytes.lf) =
      none := by
    rw [List.take_left, hopen]
  rw [readLine, readLineFrom, List.drop_zero, hopen]
  simp only [if_neg hroom]
  rw [fill_eq hpull, hm, Nat.zero_add]
  exact readLineFrom_eq hsearched

theorem readLine_pull_ended (hpull : ch.source.pull ch.readSize = (.ended, rest)) :
    ch.readLine =
      .error (.endOfStream (ch.buffer.length + 2) ch.buffer.length)
        { ch with source := rest } := by
  rw [readLine, readLineFrom, List.drop_zero, hopen]
  simp only [if_neg hroom]
  rw [fill_ended hpull]

theorem readLine_pull_failed (hpull : ch.source.pull ch.readSize = (.failed cause, rest)) :
    ch.readLine = .error (.transport cause) { ch with source := rest } := by
  rw [readLine, readLineFrom, List.drop_zero, hopen]
  simp only [if_neg hroom]
  rw [fill_failed hpull]

end Line

end Channel

end KeyValueClient
