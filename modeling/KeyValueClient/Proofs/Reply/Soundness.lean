import KeyValueClient.Proofs.Reading.Consumption
import KeyValueClient.Proofs.Reply.Respelling
import KeyValueClient.Reply.Typing

/-!
# Only replies are read

Whatever is read as a reply to a command was taken from bytes that spell just this reply,
and the reply is one that the command can have and within the limits.  Without a byte there
is a reply only when the stream ends behind a command that ends the connection.

Main results:

- Theorems `Reading.yields_bulk`, `Reading.yields_multiBulk` and `Reading.yields_aggregate`:
  payloads have their declared length, lists their declared count, and no more nesting than
  there are levels left.
- Theorem `Outcome.answers_of_read`: a reply is one that the command can have.
- Theorem `Outcome.read_sound`: what a reply was read from.
-/

namespace KeyValueClient

/-- The canonical form of what stands on a line fits on the line. -/
theorem FitsLine.ofInt {room : Nat} {body : Bytes} {n : Int} (h : FitsLine room body)
    (hspells : Decimal.Spells body n) : FitsLine room (Decimal.ofInt n) :=
  Nat.le_trans (Nat.add_le_add_right (Decimal.length_ofInt_le hspells) 3) h

/-- A list as an element. -/
def Element.ofList : Option (List Element) → Element
  | none => .nilList
  | some items => .list items

/-- A list is spelled alike as an element and as a payload. -/
theorem Reply.Spelling.ofList {items : Option (List Element)} {b : Bytes}
    (h : (Element.ofList items).Spelling b) : (Reply.aggregate items).Spelling b := by
  cases items with
  | none =>
    cases h with
    | nilList hcount => exact .nilAggregate hcount
  | some items => exact .aggregate h

namespace Reading

-- Lines are read within the limit; what is read off them fits any room beyond it.
variable {limit room : Nat} {body : Bytes}

/-! ## Bodies -/

theorem yields_text (limit : Nat) (body : Bytes) :
    Yields limit (text body) fun s b => b = [] ∧ Bytes.ofText s = body := by
  unfold text
  split
  · rename_i s hs
    exact yields_pure ⟨rfl, Bytes.ofText_of_toText? hs⟩
  · exact yields_refuse _

theorem yields_number (limit : Nat) (body : Bytes) :
    Yields limit (number body) fun n b =>
      b = [] ∧ Decimal.Spells body n ∧ Decimal.Word.bits64.InRange n := by
  unfold number
  split
  · rename_i n hn
    exact yields_pure ⟨rfl, (Decimal.readWord_ok_iff.1 hn).spells, Decimal.readWord_inRange hn⟩
  · exact yields_refuse _

/-- What a length declares. -/
def Declares (most : Nat) (body : Bytes) : Option Nat → Prop
  | none => Decimal.Spells body (-1)
  | some n => n ≤ most ∧ Decimal.Spells body n

theorem yields_length (limit most : Nat) (body : Bytes) :
    Yields limit (length most body) fun count b => b = [] ∧ Declares most body count := by
  refine (yields_number limit body).bind_bare ?_
  rintro n ⟨hspells, -⟩
  match n with
  | .ofNat n =>
    dsimp only
    split_ifs with hlong
    · exact yields_refuse _
    · exact yields_pure ⟨rfl, by omega, hspells⟩
  | .negSucc 0 => exact yields_pure ⟨rfl, hspells⟩
  | .negSucc (n + 1) => exact yields_refuse _

/-! ## Bulk values -/

/-- A payload has its declared length and is terminated. -/
theorem yields_bulk (limit : Nat) (hfits : FitsLine room body) :
    Yields limit (bulk body) fun value tail =>
      BulkSpelling value (Wire.line .bulk body ++ tail) ∧ BulkFits room value := by
  refine (yields_length limit maxBulkLength body).bind_bare ?_
  intro count hcount
  cases count with
  | none =>
    refine yields_pure ⟨?_, hfits.ofInt hcount⟩
    rw [List.append_nil]
    exact .nil hcount
  | some n =>
    rcases hcount with ⟨hmost, hspells⟩
    refine (yields_exact limit (n + 2)).bind ?_
    rintro data b ⟨rfl, hlength⟩
    split_ifs with hend
    · have htake : (b.take n).length = n := List.length_take_of_le (by omega)
      have hspells : Decimal.Spells body (b.take n).length := by rwa [htake]
      have hvalue := BulkSpelling.value hspells
      rw [← hend, List.append_assoc, List.take_append_drop] at hvalue
      refine yields_pure ⟨?_, by rwa [htake], hfits.ofInt hspells⟩
      rwa [List.append_nil]
    · exact yields_refuse _

/-- Every header is a line that fits. -/
theorem yields_opening (hroom : limit ≤ room) :
    Yields limit header fun first b =>
      b = Wire.line first.1 first.2 ∧ Bytes.lf ∉ first.2 ∧ FitsLine room first.2 :=
  (yields_header limit).mono fun _ _ h => ⟨h.1, h.2.1, Nat.le_trans h.2.2 hroom⟩

/-- As many bulk values are read as there were left to read. -/
theorem yields_bulkValues (hroom : limit ≤ room) (count remaining : Nat) :
    Yields limit (bulkValues count remaining) fun values b =>
      BulksSpelling values b ∧ values.length = remaining ∧
        ∀ value ∈ values, BulkFits room value := by
  induction remaining with
  | zero => exact yields_pure ⟨.nil, rfl, by simp⟩
  | succ remaining ih =>
    refine (yields_opening hroom).bind ?_
    rintro ⟨marker, body⟩ opening ⟨rfl, -, hfits⟩
    dsimp only
    by_cases hmarker : marker = .bulk
    · subst hmarker
      rw [if_neg (not_not.2 rfl)]
      refine (yields_bulk limit hfits).bind ?_
      rintro value tail ⟨hvalue, hvalueFits⟩
      refine ih.map ?_
      rintro values more ⟨hvalues, hlength, hvaluesFit⟩
      refine ⟨?_, by simp [hlength], by simpa using ⟨hvalueFits, hvaluesFit⟩⟩
      rw [← List.append_assoc]
      exact .cons hvalue hvalues
    · rw [if_pos hmarker]
      exact yields_refuse _

/-- A list of bulk values has its declared count. -/
theorem yields_multiBulk (hroom : limit ≤ room) (hfits : FitsLine room body) :
    Yields limit (multiBulk body) fun values tail =>
      (Reply.multiBulk values).Spelling (Wire.line .list body ++ tail) ∧
        (Reply.multiBulk values).Fits room := by
  refine (yields_length limit maxListLength body).bind_bare ?_
  intro count hcount
  cases count with
  | none =>
    refine yields_pure ⟨?_, hfits.ofInt hcount⟩
    rw [List.append_nil]
    exact .nilMultiBulk hcount
  | some n =>
    rcases hcount with ⟨hmost, hspells⟩
    refine (yields_bulkValues hroom n n).map ?_
    rintro values more ⟨hvalues, rfl, hvaluesFit⟩
    exact ⟨.multiBulk hspells hvalues, ⟨hmost, hfits.ofInt hspells⟩, hvaluesFit⟩

/-! ## Aggregates -/

/-- An element is read from one of its spellings, if a list in its place is. -/
theorem yields_element (hroom : limit ≤ room) {levels : Nat}
    {nested : Bytes → Reading (Option (List Element))}
    (hnested : ∀ body, FitsLine room body → Yields limit (nested body) fun items tail =>
      (Element.ofList items).Spelling (Wire.line .list body ++ tail) ∧
        (Element.ofList items).Fits room ∧ (Element.ofList items).depth ≤ levels) :
    Yields limit (element nested) fun item b =>
      item.Spelling b ∧ item.Fits room ∧ item.depth ≤ levels := by
  refine (yields_opening hroom).bind ?_
  rintro ⟨marker, body⟩ opening ⟨rfl, hlf, hfits⟩
  cases marker with
  | status =>
    refine (yields_text limit body).map ?_
    rintro s b ⟨rfl, rfl⟩
    rw [List.append_nil]
    exact ⟨.text s, ⟨hlf, hfits⟩, Nat.zero_le _⟩
  | error =>
    refine (yields_text limit body).map ?_
    rintro s b ⟨rfl, rfl⟩
    rw [List.append_nil]
    exact ⟨.error s, ⟨hlf, hfits⟩, Nat.zero_le _⟩
  | integer =>
    refine (yields_number limit body).map ?_
    rintro n b ⟨rfl, hspells, hrange⟩
    rw [List.append_nil]
    exact ⟨.number hspells, ⟨hrange, hfits.ofInt hspells⟩, Nat.zero_le _⟩
  | bulk =>
    refine (yields_bulk limit hfits).map ?_
    rintro value tail ⟨hvalue, hvalueFits⟩
    exact ⟨.bulk hvalue, hvalueFits, Nat.zero_le _⟩
  | list =>
    refine (hnested body hfits).bind ?_
    intro items tail hitems
    rw [← List.append_nil tail] at hitems
    cases items with
    | none => exact yields_pure hitems
    | some items => exact yields_pure hitems
  | other byte => exact yields_refuse _

/-- As many elements are read as were wanted. -/
theorem yields_elements {levels : Nat} {nested : Bytes → Reading (Option (List Element))}
    (hitem : Yields limit (element nested) fun item b =>
      item.Spelling b ∧ item.Fits room ∧ item.depth ≤ levels) (count : Nat) :
    Yields limit (elements nested count) fun items b =>
      Element.ListSpelling items b ∧ items.length = count ∧ Element.AllFit room items ∧
        Element.depthOfAll items ≤ levels := by
  induction count with
  | zero => exact yields_pure ⟨.nil, rfl, trivial, Nat.zero_le _⟩
  | succ count ih =>
    refine hitem.bind ?_
    rintro item b ⟨hspelling, hfits, hdepth⟩
    refine ih.map ?_
    rintro items more ⟨hspellings, hlength, hallFit, hdepths⟩
    exact ⟨.cons hspelling hspellings, congrArg (· + 1) hlength, ⟨hfits, hallFit⟩,
      Nat.max_le.2 ⟨hdepth, hdepths⟩⟩

/-- A list has its declared count and is not nested more deeply than there are levels
left. -/
theorem yields_aggregate (hroom : limit ≤ room) (levels : Nat) (hfits : FitsLine room body) :
    Yields limit (aggregate levels body) fun items tail =>
      (Element.ofList items).Spelling (Wire.line .list body ++ tail) ∧
        (Element.ofList items).Fits room ∧ (Element.ofList items).depth ≤ levels := by
  induction levels generalizing body with
  | zero => exact yields_refuse _
  | succ levels ih =>
    refine (yields_length limit maxListLength body).bind_bare ?_
    intro count hcount
    cases count with
    | none =>
      refine yields_pure ⟨?_, hfits.ofInt hcount, Nat.succ_le_succ (Nat.zero_le _)⟩
      rw [List.append_nil]
      exact .nilList hcount
    | some n =>
      rcases hcount with ⟨hmost, hspells⟩
      have hitem := yields_element hroom fun body hbody => ih hbody
      refine (yields_elements hitem n).map ?_
      rintro items more ⟨hspelling, rfl, hallFit, hdepth⟩
      refine ⟨.list hspells hspelling, ⟨⟨hmost, hfits.ofInt hspells⟩, hallFit⟩, ?_⟩
      rw [Element.ofList, Element.depth_list]
      exact Nat.succ_le_succ hdepth

/-! ## Replies -/

/-- Only two bodies are read as a boolean. -/
theorem yields_boolean (limit : Nat) (command : Command) (body : Bytes) :
    Yields limit (boolean command body) fun b tail =>
      tail = [] ∧ Bytes.ofText (if b then "1" else "0") = body := by
  unfold boolean
  split_ifs with hzero hone
  · exact yields_pure ⟨rfl, hzero.symm⟩
  · exact yields_pure ⟨rfl, hone.symm⟩
  · exact yields_refuse _

/-- A payload is of the shape that the command calls for. -/
theorem yields_payload (hroom : limit ≤ room) {command : Command} {marker : Marker}
    (hlf : Bytes.lf ∉ body) (hfits : FitsLine room body)
    (hqueued : ¬(marker = .status ∧ body = queuedBody)) :
    Yields limit (payload command marker body) fun reply tail =>
      reply.HasShape command.replyShape ∧ reply.Spelling (Wire.line marker body ++ tail) ∧
        reply.Fits room := by
  unfold payload
  split
  · rename_i hshape
    refine (yields_number limit body).map ?_
    rintro n b ⟨rfl, hspells, hrange⟩
    rw [hshape, List.append_nil]
    exact ⟨.number n, .number hspells, hrange, hfits.ofInt hspells⟩
  · rename_i hshape
    refine (yields_boolean limit command body).map ?_
    rintro b tail ⟨rfl, rfl⟩
    rw [hshape, List.append_nil]
    exact ⟨.boolean b, .boolean b, hfits⟩
  · rename_i hshape
    refine (yields_text limit body).map ?_
    rintro s tail ⟨rfl, rfl⟩
    rw [hshape, List.append_nil]
    exact ⟨.text s, .text s, ⟨hlf, hfits⟩, fun hsame => hqueued ⟨rfl, hsame⟩⟩
  · rename_i hshape
    refine (yields_bulk limit hfits).map ?_
    rintro value tail ⟨hvalue, hvalueFits⟩
    rw [hshape]
    exact ⟨.bulk value, .bulk hvalue, hvalueFits⟩
  · rename_i hshape
    refine (yields_multiBulk hroom hfits).map ?_
    rintro values tail ⟨hvalues, hvaluesFit⟩
    rw [hshape]
    exact ⟨.multiBulk values, hvalues, hvaluesFit⟩
  · rename_i hshape
    refine (yields_aggregate hroom maxNesting hfits).map ?_
    rintro items tail ⟨hspelling, hitemsFit, hdepth⟩
    rw [hshape]
    refine ⟨.aggregate items, .ofList hspelling, ?_⟩
    cases items with
    | none => exact hitemsFit
    | some items => exact ⟨hitemsFit, hdepth⟩
  · exact yields_refuse _

/-- A status line is read with any words. -/
theorem yields_statusReply {command : Command} {marker : Marker}
    (hshape : command.replyShape = .status) (hlf : Bytes.lf ∉ body) (hfits : FitsLine room body)
    (hok : FitsLine room (Bytes.ofText "OK")) :
    Yields limit (statusReply command marker body) fun o tail =>
      o.Answers command ∧ o.Fits room ∧ o.Spelling (Wire.line marker body ++ tail) := by
  unfold statusReply
  by_cases hmarker : marker = .status
  · subst hmarker
    rw [if_neg (not_not.2 rfl)]
    split_ifs with hterminal hqueued
    · refine yields_pure ⟨.terminal hterminal, hok, ?_⟩
      rw [List.append_nil]
      exact .terminal hlf
    · subst hqueued
      refine yields_pure ⟨.queued (by simpa using hterminal), hfits, ?_⟩
      rw [List.append_nil]
      exact .ok .queued
    · have hstatus : Reply.none.HasShape command.replyShape := by
        rw [hshape]
        exact .status
      refine yields_pure ⟨.payload (by simpa using hterminal) hstatus, hok, ?_⟩
      rw [List.append_nil]
      exact .ok (.status hlf hqueued)
  · rw [if_pos hmarker]
    exact yields_refuse _

/-- A reply is one that the command can have. -/
theorem yields_outcome (hroom : limit ≤ room) {command : Command} {marker : Marker}
    (hlf : Bytes.lf ∉ body) (hfits : FitsLine room body)
    (hok : FitsLine room (Bytes.ofText "OK")) :
    Yields limit (outcome command marker body) fun o tail =>
      o.Answers command ∧ o.Fits room ∧ o.Spelling (Wire.line marker body ++ tail) := by
  have hopen : command.replyShape ≠ .status → command.isTerminal = false := by
    intro hshape
    by_contra hterminal
    exact hshape (Command.replyShape_of_isTerminal (by simpa using hterminal))
  unfold outcome
  split_ifs with herror hshape hqueued
  · subst herror
    refine (yields_text limit body).map ?_
    rintro s tail ⟨rfl, rfl⟩
    rw [List.append_nil]
    exact ⟨.error s, ⟨hlf, hfits⟩, .error s⟩
  · exact yields_statusReply hshape hlf hfits hok
  · rcases hqueued with ⟨rfl, rfl⟩
    refine yields_pure ⟨.queued (hopen hshape), hfits, ?_⟩
    rw [List.append_nil]
    exact .ok .queued
  · refine (yields_payload hroom hlf hfits hqueued).map ?_
    rintro reply tail ⟨htyped, hspelling, hreplyFits⟩
    exact ⟨.payload (hopen hshape) htyped, hreplyFits, .ok hspelling⟩

/-- A header and what it calls for are read from a spelling of a reply. -/
theorem yields_reply (command : Command) (limit : Nat) :
    Yields limit (header >>= fun first => outcome command first.1 first.2) fun o b =>
      b ≠ [] ∧ o.Answers command ∧ o.Fits (max limit 5) ∧ o.Spelling b := by
  refine (yields_opening (Nat.le_max_left limit 5)).bind ?_
  rintro ⟨marker, body⟩ opening ⟨rfl, hlf, hfits⟩
  refine (yields_outcome (Nat.le_max_left limit 5) hlf hfits (Nat.le_max_right limit 5)).mono ?_
  intro o tail hreply
  exact ⟨by simp [Wire.line], hreply⟩

end Reading

/-! ## Whole replies -/

namespace Outcome

/-- What is read as a reply to a command is one that the command can have. -/
theorem answers_of_read {command : Command} {o : Outcome} {ch ch' : Channel}
    (h : Outcome.read command ch = .ok o ch') : o.Answers command := by
  rcases Outcome.read_ok_iff.1 h with hread | ⟨n, hheader, hterminal, rfl⟩
  · rcases Reading.yields_reply command ch.lineLimit ch ch' o rfl hread with
      ⟨b, -, -, -, hanswers, -⟩
    exact hanswers
  · exact .terminal hterminal

/-- A reply that does not end the connection leaves the line limit as it was. -/
theorem lineLimit_of_read {command : Command} {o : Outcome} {ch ch' : Channel}
    (h : Outcome.read command ch = .ok o ch') (hstays : o.status.isTerminal = false) :
    ch'.lineLimit = ch.lineLimit := by
  rcases Outcome.read_ok_iff.1 h with hread | ⟨n, hheader, hterminal, rfl⟩
  · rcases Reading.yields_reply command ch.lineLimit ch ch' o rfl hread with ⟨b, -, hlimit, -⟩
    exact hlimit
  · contradiction

/-- A reply that consists of a status line, and is no error line, takes that line from the
stream. -/
theorem statusLine_of_read {command : Command} {o : Outcome} {ch ch' : Channel}
    (h : Outcome.read command ch = .ok o ch') (hgranted : o.status.isError = false)
    (hshape : command.replyShape = .status) (hopen : command.isTerminal = false) :
    ∃ words, Bytes.lf ∉ words ∧ ch.flat = ch'.flat.after (Wire.line .status words) := by
  rcases Outcome.read_ok_iff.1 h with hread | ⟨n, hheader, hterminal, rfl⟩
  · rcases Reading.yields_reply command ch.lineLimit ch ch' o rfl hread with
      ⟨b, hflat, -, -, hanswers, -, hspelling⟩
    cases hanswers with
    | error => contradiction
    | terminal hterminal =>
      rw [hopen] at hterminal
      contradiction
    | queued =>
      cases hspelling with
      | ok hreply =>
        cases hreply
        exact ⟨_, by decide, hflat⟩
    | payload _ hpayload =>
      rw [hshape] at hpayload
      cases hpayload
      cases hspelling with
      | ok hreply =>
        cases hreply with
        | status hlf => exact ⟨_, hlf, hflat⟩
  · rw [hopen] at hterminal
    contradiction

/-- What is read as a reply is one that the command can have, and was read from a spelling of
it, unless the stream ended behind a command that ends the connection.  The line limit is
raised to what the canonical status line needs. -/
theorem read_sound {command : Command} {o : Outcome} {ch ch' : Channel}
    (h : Outcome.read command ch = .ok o ch') :
    (∃ b, b ≠ [] ∧ ch.flat = ch'.flat.after b ∧ o.Answers command ∧
        o.Fits (max ch.lineLimit 5) ∧ o.Spelling b ∧ o.respell b = o.wire) ∨
      command.isTerminal = true ∧ o = .terminal ∧ ch.flat.nth 0 = .ended ∧
        ch'.flat = ch.flat.drop 1 := by
  rcases Outcome.read_ok_iff.1 h with hread | ⟨n, hheader, hterminal, rfl⟩
  · left
    rcases Reading.yields_reply command ch.lineLimit ch ch' o rfl hread with
      ⟨b, hflat, -, hnonempty, hanswers, hfits, hspelling⟩
    exact ⟨b, hnonempty, hflat, hanswers, hfits, hspelling, respell_of_spelling hspelling hfits⟩
  · right
    exact ⟨hterminal, rfl, Reading.header_silent hheader⟩

/-- A count with a plus sign, a negative zero, a length with leading zeros, and a payload that
holds a terminator. -/
theorem read_sound_lenient :
    let o : Outcome :=
      .ok (.aggregate (some [.number 0, .bulk (some (Bytes.ofText "a\r\n")), .text "QUEUED"]))
    let source : Source :=
      ⟨[.data (Bytes.ofText "*+03\r\n:-0\r"), .interrupted,
        .data (Bytes.ofText "\n$003\r\na\r\n\r\n+QUEUED\r\n:1"),
        .failed (.reported "reset")], .gone⟩
    let ch := Channel.fresh source 64 64
    let ch' : Channel :=
      ⟨⟨[.data [], .failed (.reported "reset")], .gone⟩, Bytes.ofText ":1", 64, 64⟩
    Outcome.read .exec ch = .ok o ch' ∧
      ((∃ b, b ≠ [] ∧ ch.flat = ch'.flat.after b ∧ o.Answers .exec ∧
          o.Fits (max ch.lineLimit 5) ∧ o.Spelling b ∧ o.respell b = o.wire) ∨
        Command.exec.isTerminal = true ∧ o = .terminal ∧ ch.flat.nth 0 = .ended ∧
          ch'.flat = ch.flat.drop 1) := by
  have hread :
      Outcome.read .exec (.fresh ⟨[.data (Bytes.ofText "*+03\r\n:-0\r"), .interrupted,
          .data (Bytes.ofText "\n$003\r\na\r\n\r\n+QUEUED\r\n:1"),
          .failed (.reported "reset")], .gone⟩ 64 64) =
        .ok (.ok (.aggregate (some
            [.number 0, .bulk (some (Bytes.ofText "a\r\n")), .text "QUEUED"])))
          ⟨⟨[.data [], .failed (.reported "reset")], .gone⟩, Bytes.ofText ":1", 64, 64⟩ := by
    with_unfolding_all rfl
  exact ⟨hread, read_sound hread⟩

end Outcome

end KeyValueClient
