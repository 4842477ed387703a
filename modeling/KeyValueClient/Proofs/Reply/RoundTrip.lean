import KeyValueClient.Proofs.Decimal.Reading
import KeyValueClient.Proofs.Reading.Consumption
import KeyValueClient.Reply.Typing

/-!
# Replies read back

A reply that a command can have and that fits the limits is read back from its wire form,
however the bytes are cut into pieces and whatever follows them, and nothing of what
follows is taken.

Main results:

- Theorem `Reading.headed_aggregate`: nested lists are read back, by induction on the
  levels that are left.
- Theorem `Outcome.read_wire`: a reply is read back.
-/

namespace KeyValueClient

/-! ## Nesting -/

/-- An element of a list does not nest deeper than the deepest. -/
theorem Element.depth_le_depthOfAll {item : Element} {items : List Element} (h : item ∈ items) :
    item.depth ≤ Element.depthOfAll items := by
  induction items with
  | nil => contradiction
  | cons head rest ih =>
    rw [Element.depthOfAll]
    rcases List.mem_cons.1 h with rfl | h
    · exact Nat.le_max_left _ _
    · exact Nat.le_trans (ih h) (Nat.le_max_right _ _)

namespace Reading

variable {α β : Type} {limit : Nat}

/-! ## Bodies -/

theorem text_ofText (s : String) : text (Bytes.ofText s) = pure s := by
  simp [text, Bytes.toText?_ofText]

theorem number_ofInt {n : Int} (h : Decimal.Word.bits64.InRange n) :
    number (Decimal.ofInt n) = pure n := by
  simp [number, Decimal.readInt64_ofInt h]

/-- A length within its limit is read back. -/
theorem length_ofInt {count most : Nat} (hcount : count ≤ most) (hmost : most < 2 ^ 63) :
    length most (Decimal.ofInt count) = pure (some count) := by
  have hrange : Decimal.Word.bits64.InRange count := by
    simp only [Decimal.Word.InRange, Decimal.Word.least, Decimal.Word.greatest]
    omega
  rw [length, number_ofInt hrange, pure_bind]
  exact if_neg (by omega)

theorem length_nilBody (most : Nat) : length most nilBody = pure none := by
  rw [length, nilBody, number_ofInt (by decide), pure_bind]
  rfl

/-! ## A line and what stands behind it -/

/-- The bytes are a line with this marker, and what stands behind it is accepted by the
reading that its body calls for. -/
def Headed (limit : Nat) (marker : Marker) (read : Bytes → Reading α) (b : Bytes) (a : α) :
    Prop :=
  ∃ body tail, b = Wire.line marker body ++ tail ∧ Bytes.lf ∉ body ∧ FitsLine limit body ∧
    Accepts limit (read body) tail a

/-- A header, the reading that it calls for and further readings accept the line with what
stands behind it. -/
theorem Headed.accepts_append {marker : Marker} {read : Bytes → Reading α} {b more : Bytes}
    {a : α} {c : β} {next : Marker × Bytes → Reading β} (h : Headed limit marker read b a)
    (hknown : ∀ byte, marker ≠ .other byte)
    (hnext : ∀ body tail, Accepts limit (read body) tail a →
      Accepts limit (next (marker, body)) (tail ++ more) c) :
    Accepts limit (header >>= next) (b ++ more) c := by
  rcases h with ⟨body, tail, rfl, hlf, hfits, hread⟩
  rw [List.append_assoc]
  exact (accepts_header hknown hlf hfits).bind (hnext body tail hread)

/-- A header and the reading that it calls for accept the line with what stands behind
it. -/
theorem Headed.accepts {marker : Marker} {read : Bytes → Reading α} {b : Bytes} {a : α} {c : β}
    {next : Marker × Bytes → Reading β} (h : Headed limit marker read b a)
    (hknown : ∀ byte, marker ≠ .other byte)
    (hnext : ∀ body tail, Accepts limit (read body) tail a →
      Accepts limit (next (marker, body)) tail c) : Accepts limit (header >>= next) b c := by
  have happend : Accepts limit (header >>= next) (b ++ []) c := by
    refine h.accepts_append hknown fun body tail hread => ?_
    rw [List.append_nil]
    exact hnext body tail hread
  rwa [List.append_nil] at happend

/-- What is made of a result takes no more bytes. -/
theorem Headed.map {marker : Marker} {read : Bytes → Reading α} {read' : Bytes → Reading β}
    {b : Bytes} {a : α} (h : Headed limit marker read b a) (g : α → β)
    (hread : ∀ body, read' body = read body >>= fun a => pure (g a)) :
    Headed limit marker read' b (g a) := by
  rcases h with ⟨body, tail, hb, hlf, hfits, haccepts⟩
  refine ⟨body, tail, hb, hlf, hfits, ?_⟩
  rw [hread]
  exact haccepts.map g

/-- Nothing stands behind a line whose body says it all. -/
theorem headed_line {marker : Marker} {read : Bytes → Reading α} {body : Bytes} {a : α}
    (hlf : Bytes.lf ∉ body) (hfits : FitsLine limit body) (hread : read body = pure a) :
    Headed limit marker read (Wire.line marker body) a := by
  refine ⟨body, [], (List.append_nil _).symm, hlf, hfits, ?_⟩
  rw [hread]
  exact accepts_pure limit a

theorem headed_text {marker : Marker} {s : String} (h : TextFits limit s) :
    Headed limit marker text (Wire.line marker (Bytes.ofText s)) s :=
  headed_line h.lf_not_mem h.fitsLine (text_ofText s)

theorem headed_number {marker : Marker} {n : Int} (h : NumberFits limit n) :
    Headed limit marker number (Wire.line marker (Decimal.ofInt n)) n :=
  headed_line (Decimal.lf_not_mem_ofInt n) h.fitsLine (number_ofInt h.inRange)

/-! ## Bulk values -/

/-- A payload is accepted behind its length. -/
theorem accepts_payload {data : Bytes} (h : data.length ≤ maxBulkLength) :
    Accepts limit (bulk (Decimal.ofInt data.length)) (data ++ Bytes.crlf) (some data) := by
  have hexact : Accepts limit (exact (data.length + 2)) (data ++ Bytes.crlf)
      (data ++ Bytes.crlf) := accepts_exact (by simp [Bytes.crlf])
  rw [bulk, length_ofInt h (by decide), pure_bind]
  refine hexact.bind_nil ?_
  rw [if_pos List.drop_left, List.take_left]
  exact accepts_pure limit (some data)

theorem headed_bulk {value : Option Bytes} (h : BulkFits limit value) :
    Headed limit .bulk bulk (wireBulk value) value := by
  cases value with
  | none =>
    refine headed_line (Decimal.lf_not_mem_ofInt _) h ?_
    rw [bulk, length_nilBody]
    rfl
  | some data =>
    refine ⟨_, data ++ Bytes.crlf, ?_, Decimal.lf_not_mem_ofInt _, h.2, accepts_payload h.1⟩
    simp [wireBulk, Wire.bulk, List.append_assoc]

/-- So many bulk values are accepted, one after the other. -/
theorem accepts_bulkValues {values : List (Option Bytes)} (count : Nat)
    (h : ∀ value ∈ values, BulkFits limit value) :
    Accepts limit (bulkValues count values.length) (values.flatMap wireBulk) values := by
  induction values with
  | nil => exact accepts_pure limit []
  | cons value rest ih =>
    have hvalue := headed_bulk (h value List.mem_cons_self)
    have hrest := ih fun other hother => h other (List.mem_cons_of_mem _ hother)
    refine hvalue.accepts_append (by simp) fun body tail hread => ?_
    exact hread.bind (hrest.map (value :: ·))

theorem headed_nilMultiBulk (hfits : FitsLine limit nilBody) :
    Headed limit .list multiBulk (Wire.line .list nilBody) none := by
  refine headed_line (Decimal.lf_not_mem_ofInt _) hfits ?_
  rw [multiBulk, length_nilBody]
  rfl

theorem headed_multiBulk {values : List (Option Bytes)} (hcount : CountFits limit values.length)
    (hvalues : ∀ value ∈ values, BulkFits limit value) :
    Headed limit .list multiBulk
      (Wire.line .list (Decimal.ofInt values.length) ++ values.flatMap wireBulk)
      (some values) := by
  refine ⟨_, _, rfl, Decimal.lf_not_mem_ofInt _, hcount.2, ?_⟩
  rw [multiBulk, length_ofInt hcount.1 (by decide), pure_bind]
  exact (accepts_bulkValues values.length hvalues).map some

/-! ## Aggregates -/

/-- An element is accepted, if a list in its place is. -/
theorem accepts_element {nested : Bytes → Reading (Option (List Element))} {item : Element}
    (hfits : item.Fits limit)
    (hnil : item = .nilList → Headed limit .list nested item.wire none)
    (hlist : ∀ items, item = .list items → Headed limit .list nested item.wire (some items)) :
    Accepts limit (element nested) item.wire item := by
  cases item with
  | text s =>
    exact (headed_text hfits).accepts (by simp) fun _ _ hread => hread.map Element.text
  | error s =>
    exact (headed_text hfits).accepts (by simp) fun _ _ hread => hread.map Element.error
  | number n =>
    exact (headed_number hfits).accepts (by simp) fun _ _ hread => hread.map Element.number
  | bulk value =>
    exact (headed_bulk hfits).accepts (by simp) fun _ _ hread => hread.map Element.bulk
  | nilList =>
    refine (hnil rfl).accepts (by simp) fun body tail hread => ?_
    exact hread.bind_nil (accepts_pure limit Element.nilList)
  | list items =>
    refine (hlist items rfl).accepts (by simp) fun body tail hread => ?_
    exact hread.bind_nil (accepts_pure limit (Element.list items))

/-- So many elements are accepted, one after the other. -/
theorem accepts_elements {nested : Bytes → Reading (Option (List Element))} {items : List Element}
    (h : ∀ item ∈ items, Accepts limit (element nested) item.wire item) :
    Accepts limit (elements nested items.length) (Element.wireAll items) items := by
  induction items with
  | nil => exact accepts_pure limit []
  | cons item rest ih =>
    have hrest := ih fun other hother => h other (List.mem_cons_of_mem _ hother)
    exact (h item List.mem_cons_self).bind (hrest.map (item :: ·))

/-- The nil list is accepted wherever a list may stand. -/
theorem headed_nilList {levels : Nat} (hlevels : 0 < levels) (hfits : FitsLine limit nilBody) :
    Headed limit .list (aggregate levels) (Wire.line .list nilBody) none := by
  refine headed_line (Decimal.lf_not_mem_ofInt _) hfits ?_
  cases levels with
  | zero => contradiction
  | succ levels =>
    rw [aggregate, length_nilBody]
    rfl

/-- A list is accepted if it is not nested more deeply than there are levels left. -/
theorem headed_aggregate {levels : Nat} {items : List Element}
    (hfits : (Element.list items).Fits limit) (hdepth : (Element.list items).depth ≤ levels) :
    Headed limit .list (aggregate levels) (Element.list items).wire (some items) := by
  induction levels generalizing items with
  | zero => simp [Element.depth] at hdepth
  | succ levels ih =>
    rw [Element.depth_list, Nat.succ_le_succ_iff] at hdepth
    rcases hfits with ⟨hcount, hall⟩
    rw [Element.allFit_iff] at hall
    have hitem : ∀ item ∈ items, Accepts limit (element (aggregate levels)) item.wire item := by
      intro item hmem
      have hlevels := Nat.le_trans (Element.depth_le_depthOfAll hmem) hdepth
      have hfits := hall item hmem
      refine accepts_element hfits ?_ ?_
      · rintro rfl
        exact headed_nilList hlevels hfits
      · rintro inner rfl
        exact ih hfits hlevels
    refine ⟨_, _, rfl, Decimal.lf_not_mem_ofInt _, hcount.2, ?_⟩
    rw [aggregate, length_ofInt hcount.1 (by decide), pure_bind]
    exact (accepts_elements hitem).map some

/-! ## Replies -/

/-- A payload that does not stand on a status line is what the rest of the reply makes
of it. -/
theorem outcome_eq_payload {command : Command} {marker : Marker} (herror : marker ≠ .error)
    (hstatus : marker ≠ .status) (hshape : command.replyShape ≠ .status) (body : Bytes) :
    outcome command marker body =
      payload command marker body >>= fun reply => pure (.ok reply) := by
  rw [outcome, if_neg herror, if_neg hshape, if_neg fun h => hstatus h.1]

theorem outcome_status {command : Command} (hopen : command.isTerminal = false)
    (hshape : command.replyShape = .status) {words : Bytes} (hwords : words ≠ queuedBody) :
    outcome command .status words = pure (.ok .none) := by
  rw [outcome, if_neg (by simp), if_pos hshape, statusReply, if_neg (by simp),
    if_neg (by simp [hopen]), if_neg hwords]

theorem outcome_queued {command : Command} (hopen : command.isTerminal = false) :
    outcome command .status queuedBody = pure (.ok .queued) := by
  rw [outcome, if_neg (by simp)]
  split_ifs
  · rw [statusReply, if_neg (by simp), if_neg (by simp [hopen]), if_pos rfl]
  · rfl
  · simp_all

theorem outcome_terminal {command : Command} (hterminal : command.isTerminal = true)
    (words : Bytes) : outcome command .status words = pure .terminal := by
  rw [outcome, if_neg (by simp), if_pos (Command.replyShape_of_isTerminal hterminal),
    statusReply, if_neg (by simp), if_pos hterminal]

theorem outcome_text {command : Command} (hshape : command.replyShape = .value .text) {s : String}
    (hs : Bytes.ofText s ≠ queuedBody) :
    outcome command .status (Bytes.ofText s) = pure (.ok (.text s)) := by
  rw [outcome, if_neg (by simp), if_neg (by simp [hshape]), if_neg (by simp [hs])]
  simp [payload, hshape, text_ofText]

theorem boolean_ofText (command : Command) (b : Bool) :
    boolean command (Bytes.ofText (if b then "1" else "0")) = pure b := by
  cases b <;> rfl

/-- The payload of a command that does not answer with a status line is accepted. -/
theorem headed_payload {command : Command} {reply : Reply}
    (hshape : reply.HasShape command.replyShape) (hother : command.replyShape ≠ .status)
    (hfits : reply.Fits limit) :
    ∃ marker, (∀ byte, marker ≠ .other byte) ∧
      Headed limit marker (outcome command marker) reply.wire (.ok reply) := by
  generalize hreply : command.replyShape = shape at hshape hother
  have hbody : ∀ {marker : Marker}, marker ≠ .error → marker ≠ .status →
      Headed limit marker (payload command marker) reply.wire reply →
      Headed limit marker (outcome command marker) reply.wire (.ok reply) :=
    fun herror hstatus hread =>
      hread.map Outcome.ok (outcome_eq_payload herror hstatus (by rwa [hreply]))
  cases hshape with
  | status => exact absurd rfl hother
  | text s =>
    exact ⟨.status, by simp, headed_line hfits.1.lf_not_mem hfits.1.fitsLine
      (outcome_text hreply hfits.2)⟩
  | number n =>
    refine ⟨.integer, by simp, hbody (by simp) (by simp) ?_⟩
    exact (headed_number hfits).map Reply.number fun _ => by simp [payload, hreply]
  | boolean b =>
    refine ⟨.integer, by simp, hbody (by simp) (by simp) ?_⟩
    have hline : Headed limit .integer (boolean command) (Reply.boolean b).wire b :=
      headed_line (by cases b <;> decide) hfits (boolean_ofText command b)
    exact hline.map Reply.boolean fun _ => by simp [payload, hreply]
  | bulk value =>
    refine ⟨.bulk, by simp, hbody (by simp) (by simp) ?_⟩
    exact (headed_bulk hfits).map Reply.bulk fun _ => by simp [payload, hreply]
  | multiBulk values =>
    refine ⟨.list, by simp, hbody (by simp) (by simp) ?_⟩
    have hread : Headed limit .list multiBulk (Reply.multiBulk values).wire values := by
      cases values with
      | none => exact headed_nilMultiBulk hfits
      | some values => exact headed_multiBulk hfits.1 hfits.2
    exact hread.map Reply.multiBulk fun _ => by simp [payload, hreply]
  | aggregate items =>
    refine ⟨.list, by simp, hbody (by simp) (by simp) ?_⟩
    have hread : Headed limit .list (aggregate maxNesting) (Reply.aggregate items).wire
        items := by
      cases items with
      | none => exact headed_nilList (by decide) hfits
      | some items => exact headed_aggregate hfits.1 hfits.2
    exact hread.map Reply.aggregate fun _ => by simp [payload, hreply]

/-- A reply that a command can have is accepted. -/
theorem headed_outcome {command : Command} {o : Outcome} (hanswers : o.Answers command)
    (hfits : o.Fits limit) :
    ∃ marker, (∀ byte, marker ≠ .other byte) ∧
      Headed limit marker (outcome command marker) o.wire o := by
  cases hanswers with
  | error message =>
    exact ⟨.error, by simp, (headed_text hfits).map Outcome.error fun _ => if_pos rfl⟩
  | terminal hterminal =>
    exact ⟨.status, by simp,
      headed_line (by decide) hfits (outcome_terminal hterminal _)⟩
  | queued hopen =>
    exact ⟨.status, by simp, headed_line (by decide) hfits (outcome_queued hopen)⟩
  | payload hopen hshape =>
    by_cases hstatus : command.replyShape = .status
    · rw [hstatus] at hshape
      cases hshape
      exact ⟨.status, by simp,
        headed_line (by decide) hfits (outcome_status hopen hstatus (by decide))⟩
    · exact headed_payload hshape hstatus hfits

end Reading

/-- A reply that a command can have and that fits the limits is read back from its wire form.
What follows it is left. -/
theorem Outcome.read_wire {command : Command} {o : Outcome} (hanswers : o.Answers command)
    (ch : Channel) (rest : FlatStream) (hfits : o.Fits ch.lineLimit)
    (hflat : ch.flat = rest.after o.wire) :
    ∃ ch', Outcome.read command ch = .ok o ch' ∧ ch'.flat = rest := by
  rcases Reading.headed_outcome hanswers hfits with ⟨marker, hknown, hheaded⟩
  have haccepts : Reading.Accepts ch.lineLimit
      (Reading.header >>= fun first => Reading.outcome command first.1 first.2) o.wire o :=
    hheaded.accepts hknown fun _ _ hread => hread
  rcases haccepts ch rest rfl hflat with ⟨ch', hread, hrest, -⟩
  exact ⟨ch', Outcome.read_ok_iff.2 (Or.inl hread), hrest⟩

/-- Nested lists with nil and empty members and with a payload that looks like a header, in
pieces, between an interruption and the start of a reply that a failure cuts. -/
theorem Outcome.read_wire_nested :
    let o : Outcome := .ok (.aggregate (some [.text "QUEUED", .error "ERR",
      .list [.bulk none, .bulk (some []), .nilList, .list [],
        .bulk (some (Bytes.ofText "*1\r\n")), .number (-7)]]))
    let rest : Source :=
      ⟨[.data (Bytes.ofText ":4"), .failed (.reported "reset"),
        .data (Bytes.ofText "\r\n")], .gone⟩
    let source : Source :=
      ⟨[.data (Bytes.ofText "*3\r\n+QUEUED\r"), .interrupted,
        .data (Bytes.ofText
          "\n-ERR\r\n*6\r\n$-1\r\n$0\r\n\r\n*-1\r\n*0\r\n$4\r\n*1\r\n\r\n:-7\r\n:4"),
        .failed (.reported "reset"), .data (Bytes.ofText "\r\n")], .gone⟩
    let ch := Channel.fresh source 5 64
    (o.Answers .exec ∧ o.Fits ch.lineLimit ∧ ch.flat = rest.flat.after o.wire) ∧
      ∃ ch', Outcome.read .exec ch = .ok o ch' ∧ ch'.flat = rest.flat := by
  intro o rest source ch
  have hanswers : o.Answers .exec := .payload rfl (.aggregate _)
  have hfits : o.Fits ch.lineLimit := by decide +kernel
  have hflat : ch.flat = rest.flat.after o.wire := by decide +kernel
  exact ⟨⟨hanswers, hfits, hflat⟩, Outcome.read_wire hanswers ch rest.flat hfits hflat⟩

end KeyValueClient
