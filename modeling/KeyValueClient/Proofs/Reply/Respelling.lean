import KeyValueClient.Proofs.Decimal.Reading
import KeyValueClient.Reply.Limits
import KeyValueClient.Reply.Spelling
import Mathlib.Tactic.SplitIfs

/-!
# Canonical replies

A spelling of a reply becomes its wire form when every number, length and count on its
lines is put into canonical form, and `OK` in the place of the words of a status without a
payload.  This rewriting runs over the bytes, line by line, and knows of the reply only
whether its status line has words to replace; a payload is skipped by the length declared
before it.

Main results:

- Theorem `respell_line`: one line is rewritten at a time.
- Theorem `Element.respell_append`: a spelling of an element becomes its wire form.
- Theorem `Outcome.respell_of_spelling`: so does a spelling of a whole reply.
-/

namespace KeyValueClient

/-! ## Rewriting -/

/-- What becomes of the body of a line. -/
def Marker.respellBody (words : Bytes → Bytes) : Marker → Bytes → Bytes
  | .status, body => words body
  | .integer, body | .bulk, body | .list, body => Decimal.ofInt (Decimal.spelled body)
  | .error, body | .other _, body => body

/-- How many bytes of payload and terminator stand behind a line. -/
def Marker.payloadLength : Marker → Bytes → Nat
  | .bulk, body =>
    match Decimal.spelled body with
    | .ofNat n => n + 2
    | .negSucc _ => 0
  | _, _ => 0

/-- Rewrite every line and leave the payloads; `words` is what becomes of the text of a
status line. -/
def respell (words : Bytes → Bytes) : Bytes → Bytes
  | [] => []
  | first :: rest =>
    let marker := Marker.ofByte first
    let line := rest.takeWhile (· ≠ Bytes.lf)
    let body := line.dropLast
    let behind := rest.drop (line.length + 1)
    let skipped := marker.payloadLength body
    Wire.line marker (marker.respellBody words body) ++ behind.take skipped ++
      respell words (behind.drop skipped)
termination_by b => b.length
decreasing_by
  simp only [List.length_drop, List.length_cons]
  omega

/-- What becomes of the text of a status line of this reply. -/
def Outcome.words (o : Outcome) : Bytes → Bytes :=
  match o.status, o.reply with
  | .terminal, _ | .success, .none => fun _ => Bytes.ofText "OK"
  | _, _ => id

/-- Rewrite a spelling of this reply. -/
def Outcome.respell (o : Outcome) : Bytes → Bytes :=
  KeyValueClient.respell o.words

/-! ## Lines -/

section Lines

variable {words : Bytes → Bytes} {limit : Nat}

/-- One line is rewritten at a time, with the payload behind it. -/
theorem respell_line {marker : Marker} (hknown : ∀ byte, marker ≠ .other byte) {body : Bytes}
    (hlf : Bytes.lf ∉ body) (rest : Bytes) :
    respell words (Wire.line marker body ++ rest) =
      Wire.line marker (marker.respellBody words body) ++
        rest.take (marker.payloadLength body) ++
          respell words (rest.drop (marker.payloadLength body)) := by
  have hline : (body ++ Bytes.crlf ++ rest).takeWhile (· ≠ Bytes.lf) = body ++ [Bytes.cr] := by
    rw [List.append_assoc, List.takeWhile_append_of_pos]
    · rfl
    · intro b hb
      simp only [ne_eq, decide_eq_true_eq]
      rintro rfl
      exact hlf hb
  have hbehind : (body ++ Bytes.crlf ++ rest).drop ((body ++ [Bytes.cr]).length + 1) = rest := by
    have hlength : (body ++ [Bytes.cr]).length + 1 = (body ++ Bytes.crlf).length := by
      simp [Bytes.crlf]
    rw [hlength, List.drop_left]
  have hfront : Wire.line marker body ++ rest = marker.toByte :: (body ++ Bytes.crlf ++ rest) :=
    rfl
  rw [hfront, KeyValueClient.respell]
  simp only [hline, hbehind, List.dropLast_concat, Marker.ofByte_toByte hknown]

/-- A line without a payload is rewritten by itself. -/
theorem respell_bare {marker : Marker} (hknown : ∀ byte, marker ≠ .other byte) {body : Bytes}
    (hlf : Bytes.lf ∉ body) (hbare : marker.payloadLength body = 0) (rest : Bytes) :
    respell words (Wire.line marker body ++ rest) =
      Wire.line marker (marker.respellBody words body) ++ respell words rest := by
  rw [respell_line hknown hlf, hbare, List.take_zero, List.drop_zero, List.append_nil]

/-- The line of a number, a count or the length of nil is put into canonical form. -/
theorem respell_digits {marker : Marker} {digits : Bytes} {n : Int}
    (hdigits : Decimal.Spells digits n)
    (hmarker : marker = .integer ∨ marker = .list ∨ marker = .bulk ∧ n = -1) (rest : Bytes) :
    respell words (Wire.line marker digits ++ rest) =
      Wire.line marker (Decimal.ofInt n) ++ respell words rest := by
  rcases hmarker with rfl | rfl | ⟨rfl, rfl⟩
  · rw [respell_bare (by simp) hdigits.lf_not_mem rfl, Marker.respellBody, hdigits.spelled_eq]
  · rw [respell_bare (by simp) hdigits.lf_not_mem rfl, Marker.respellBody, hdigits.spelled_eq]
  · have hbare : Marker.payloadLength .bulk digits = 0 := by
      rw [Marker.payloadLength, hdigits.spelled_eq]
      rfl
    rw [respell_bare (by simp) hdigits.lf_not_mem hbare, Marker.respellBody, hdigits.spelled_eq]

theorem respell_text {s : String} (hfits : TextFits limit s) (rest : Bytes) :
    respell id (Wire.line .status (Bytes.ofText s) ++ rest) =
      Wire.line .status (Bytes.ofText s) ++ respell id rest :=
  respell_bare (by simp) hfits.lf_not_mem rfl rest

theorem respell_error {s : String} (hfits : TextFits limit s) (rest : Bytes) :
    respell words (Wire.line .error (Bytes.ofText s) ++ rest) =
      Wire.line .error (Bytes.ofText s) ++ respell words rest :=
  respell_bare (by simp) hfits.lf_not_mem rfl rest

/-! ## Bulk values -/

/-- A spelling of a bulk value becomes its wire form. -/
theorem respell_bulk {value : Option Bytes} {b : Bytes} (h : BulkSpelling value b)
    (rest : Bytes) : respell words (b ++ rest) = wireBulk value ++ respell words rest := by
  cases h with
  | nil hlength => exact respell_digits hlength (Or.inr (Or.inr ⟨rfl, rfl⟩)) rest
  | @value data length hlength =>
    have hskipped : Marker.payloadLength .bulk length = (data ++ Bytes.crlf).length := by
      rw [Marker.payloadLength, hlength.spelled_eq]
      simp [Bytes.crlf]
    rw [List.append_assoc, List.append_assoc, ← List.append_assoc data,
      respell_line (by simp) hlength.lf_not_mem, hskipped, List.take_left, List.drop_left,
      Marker.respellBody, hlength.spelled_eq]
    simp [wireBulk, Wire.bulk, List.append_assoc]

theorem respell_bulks {values : List (Option Bytes)} {b : Bytes} (h : BulksSpelling values b)
    (rest : Bytes) :
    respell words (b ++ rest) = values.flatMap wireBulk ++ respell words rest := by
  induction h with
  | nil => rfl
  | cons hvalue hrest ih =>
    rw [List.append_assoc, respell_bulk hvalue, ih, List.flatMap_cons, List.append_assoc]

/-! ## Elements -/

mutual

/-- A spelling of an element becomes its wire form. -/
theorem Element.respell_append {e : Element} {b : Bytes} (h : e.Spelling b)
    (hfits : e.Fits limit) (rest : Bytes) :
    respell id (b ++ rest) = e.wire ++ respell id rest := by
  cases e with
  | text s =>
    cases h
    exact respell_text hfits rest
  | error s =>
    cases h
    exact respell_error hfits rest
  | number n =>
    cases h with
    | number hdigits => exact respell_digits hdigits (Or.inl rfl) rest
  | bulk value =>
    cases h with
    | bulk hvalue => exact respell_bulk hvalue rest
  | nilList =>
    cases h with
    | nilList hcount => exact respell_digits hcount (Or.inr (Or.inl rfl)) rest
  | list items =>
    cases h with
    | list hcount hitems =>
      rw [List.append_assoc, respell_digits hcount (Or.inr (Or.inl rfl)),
        Element.respell_appendAll hitems hfits.2, Element.wire, List.append_assoc]

theorem Element.respell_appendAll {items : List Element} {b : Bytes}
    (h : Element.ListSpelling items b) (hfit : Element.AllFit limit items) (rest : Bytes) :
    respell id (b ++ rest) = Element.wireAll items ++ respell id rest := by
  cases items with
  | nil =>
    cases h
    rfl
  | cons item items =>
    cases h with
    | cons hitem hrest =>
      rw [List.append_assoc, Element.respell_append hitem hfit.1,
        Element.respell_appendAll hrest hfit.2, Element.wireAll, List.append_assoc]

end

end Lines

/-! ## Replies -/

/-- The digit of a boolean is in canonical form. -/
theorem respell_boolean {words : Bytes → Bytes} (b : Bool) (rest : Bytes) :
    respell words ((Reply.boolean b).wire ++ rest) =
      (Reply.boolean b).wire ++ respell words rest := by
  have hdigits : Bytes.ofText (if b then "1" else "0") = Decimal.ofInt (if b then 1 else 0) := by
    cases b <;> decide +kernel
  rw [Reply.wire, hdigits]
  exact respell_digits (Decimal.spells_ofInt _) (Or.inl rfl) rest

/-- What is rewritten in front of anything is rewritten alone. -/
theorem respell_eq_of_append {words : Bytes → Bytes} {b b' : Bytes}
    (h : ∀ rest, respell words (b ++ rest) = b' ++ respell words rest) :
    respell words b = b' := by
  have halone := h []
  rwa [List.append_nil, respell, List.append_nil] at halone

/-- A spelling of a payload becomes its wire form. -/
theorem Reply.respell_of_spelling {reply : Reply} {limit : Nat} {b : Bytes}
    (h : reply.Spelling b) (hfits : reply.Fits limit) :
    (Outcome.ok reply).respell b = reply.wire := by
  refine respell_eq_of_append fun rest => ?_
  cases h with
  | status hlf => exact respell_bare (by simp) hlf rfl rest
  | queued => exact respell_bare (by simp) (by decide) rfl rest
  | number hdigits => exact respell_digits hdigits (Or.inl rfl) rest
  | boolean b => exact respell_boolean b rest
  | text s => exact respell_text hfits.1 rest
  | bulk hvalue => exact respell_bulk hvalue rest
  | nilMultiBulk hcount => exact respell_digits hcount (Or.inr (Or.inl rfl)) rest
  | multiBulk hcount hvalues =>
    rw [List.append_assoc, respell_digits hcount (Or.inr (Or.inl rfl)), respell_bulks hvalues,
      Reply.wire, List.append_assoc]
  | nilAggregate hcount => exact respell_digits hcount (Or.inr (Or.inl rfl)) rest
  | aggregate hitems => exact Element.respell_append hitems hfits.1 rest

/-- A spelling of a whole reply becomes its wire form. -/
theorem Outcome.respell_of_spelling {o : Outcome} {limit : Nat} {b : Bytes} (h : o.Spelling b)
    (hfits : o.Fits limit) : o.respell b = o.wire := by
  cases h with
  | error message => exact respell_eq_of_append fun rest => respell_error hfits rest
  | terminal hlf =>
    exact respell_eq_of_append fun rest => respell_bare (by simp) hlf rfl rest
  | ok hreply => exact Reply.respell_of_spelling hreply hfits

end KeyValueClient
