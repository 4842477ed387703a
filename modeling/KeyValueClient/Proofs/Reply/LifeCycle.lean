import KeyValueClient.Proofs.Reply.Accessors
import KeyValueClient.Response.Fields

/-!
# The life cycle of a response

A response can be read, looked at and emptied again and again.  What it shows is the reply
that the latest successful reading since the last reset decoded, if there is one, so no
reply outlives a reset and no refused or failed reading leaves a trace.

Main results:

- Theorem `Response.Reader.went`: what one call can do.
- Theorem `Response.outcome?_run_iff`: what a response holds is told by the calls made so far.
- Theorem `Response.Fields.answers_eq`: no answer tells the fields that a response is kept in
  from the response.
- Theorem `Response.decodes_run`: the readings that are not refused decode the replies of the
  channel, one after the other.
- Theorem `Response.run_lifeCycle`: the law of every sequence of calls.
-/

namespace KeyValueClient

/-! ## Accessors by what they want -/

namespace Accessor

/-- How a complaint names what an accessor wants. -/
def wanted : Accessor → String
  | number => "a number"
  | boolean => "a boolean"
  | text => "a string"
  | bulk => "a bulk value"
  | multiBulk => "a multi-bulk list"
  | aggregate => "an aggregate"

/-- The payloads that an accessor wants. -/
def view : Accessor → Reply → Option Reply
  | number, .number n => some (.number n)
  | boolean, .boolean b => some (.boolean b)
  | text, .text s => some (.text s)
  | bulk, .bulk value => some (.bulk value)
  | multiBulk, .multiBulk values => some (.multiBulk values)
  | aggregate, .aggregate items => some (.aggregate items)
  | _, _ => none

/-- An accessor picks the payloads that it wants. -/
theorem get_eq_payload (accessor : Accessor) (r : Response) :
    accessor.get r = r.payload accessor.wanted accessor.view := by
  rcases r with ⟨command, _ | ⟨status, reply⟩⟩
  · cases accessor <;> rfl
  · cases accessor <;> cases reply <;> rfl

/-- The complaint of an accessor is about the payload that it was asked for. -/
theorem get_mismatch {accessor : Accessor} {o : Outcome} (h : ¬o.reply.HasShape accessor.shape)
    (command : Command) :
    accessor.get ⟨command, some o⟩ = .error (Response.mismatch command o accessor.wanted) := by
  rcases o with ⟨status, reply⟩
  cases accessor <;> cases reply <;> first | exact absurd (by constructor) h | rfl

end Accessor

namespace Response

/-! ## Calls -/

/-- What can be called on a response. -/
inductive Operation where
  | read
  | reset
  | isRead
  | isError
  | status
  | reply
  /-- Give up a copy of the response for its payload. -/
  | intoReply
  | payload (accessor : Accessor)
deriving DecidableEq, Repr

/-- What a call answers. -/
inductive Answer where
  | done (result : Result Unit)
  /-- The call has no answer. -/
  | silent
  | flag (b : Bool)
  | status (result : Result Status)
  | reply (result : Result Reply)

/-- A response and the channel that it is read from. -/
structure Reader where
  response : Response
  channel : Channel

/-- One call. -/
def Reader.call (operation : Operation) (u : Reader) : Answer × Reader :=
  match operation with
  | .read =>
    let (result, response, channel) := u.response.read u.channel
    (.done result, ⟨response, channel⟩)
  | .reset => (.silent, { u with response := u.response.reset })
  | .isRead => (.flag u.response.isRead, u)
  | .isError => (.flag u.response.isError, u)
  | .status => (.status u.response.status, u)
  | .reply => (.reply u.response.reply, u)
  | .intoReply => (.reply u.response.intoReply, u)
  | .payload accessor => (.reply (accessor.get u.response), u)

/-! ## Histories -/

/-- A call that was made. -/
structure Event where
  operation : Operation
  /-- What the call found. -/
  before : Reader
  answer : Answer
  /-- What the call left. -/
  after : Reader

/-- A call that is made now. -/
def Reader.event (u : Reader) (operation : Operation) : Event :=
  ⟨operation, u, (u.call operation).1, (u.call operation).2⟩

/-- A whole run: the calls in order, and what they leave. -/
def run : List Operation → Reader → List Event × Reader
  | [], u => ([], u)
  | operation :: rest, u =>
    let e := u.event operation
    let (events, u) := run rest e.after
    (e :: events, u)

namespace Event

/-- The call was a reading that succeeded. -/
def succeeded (e : Event) : Bool :=
  match e.answer with
  | .done (.ok ()) => true
  | _ => false

/-- The result of a reading that was not refused. -/
def attempt? (e : Event) : Option (Result Unit) :=
  match e.answer with
  | .done result => if e.before.response.isRead then none else some result
  | _ => none

/-- The call was a reading that succeeded, and this is the reply that it decoded. -/
def Decoded (e : Event) (o : Outcome) : Prop :=
  e.succeeded = true ∧
    ∃ rest, Outcome.read e.before.response.command e.before.channel = .ok o rest

end Event

/-! ## What a call does -/

/-- The ways a call can go. -/
inductive Event.Went : Event → Prop
  /-- A response that holds a reply takes no other. -/
  | refused {u : Reader} (held : u.response.isRead = true) :
    Went ⟨.read, u, .done (.error (.state (.alreadyRead u.response.command))), u⟩
  /-- There was no reply to decode. -/
  | failed {u : Reader} {cause : Error} {channel : Channel} (empty : u.response.isRead = false)
    (read : Outcome.read u.response.command u.channel = .error cause channel) :
    Went ⟨.read, u, .done (.error cause), ⟨u.response, channel⟩⟩
  | decoded {u : Reader} {o : Outcome} {channel : Channel} (empty : u.response.isRead = false)
    (read : Outcome.read u.response.command u.channel = .ok o channel) :
    Went ⟨.read, u, .done (.ok ()), ⟨⟨u.response.command, some o⟩, channel⟩⟩
  | emptied {u : Reader} :
    Went ⟨.reset, u, .silent, ⟨unread u.response.command, u.channel⟩⟩
  /-- The response was only looked at. -/
  | looked {operation : Operation} {u : Reader} {answer : Answer} (reads : operation ≠ .read)
    (resets : operation ≠ .reset) (answers : ∀ result, answer ≠ .done result) :
    Went ⟨operation, u, answer, u⟩

/-- Every call goes one of these ways. -/
theorem Reader.went (u : Reader) (operation : Operation) : (u.event operation).Went := by
  cases operation with
  | read =>
    rcases u with ⟨⟨command, _ | held⟩, channel⟩
    · cases hread : Outcome.read command channel with
      | ok o rest =>
        simp only [Reader.event, Reader.call, Response.read, hread]
        exact .decoded rfl hread
      | error cause rest =>
        simp only [Reader.event, Reader.call, Response.read, hread]
        exact .failed rfl hread
    · exact .refused rfl
  | reset => exact .emptied
  | isRead | isError | status | reply | intoReply | payload =>
    refine .looked ?_ ?_ ?_ <;> simp [Reader.call]

namespace Event

variable {e : Event} {o : Outcome}

theorem succeeded_eq_false (answers : ∀ result, e.answer ≠ .done result) :
    e.succeeded = false := by
  unfold succeeded
  split
  · rename_i hanswer
    exact absurd hanswer (answers _)
  · rfl

theorem attempt?_eq_none (answers : ∀ result, e.answer ≠ .done result) : e.attempt? = none := by
  unfold attempt?
  split
  · rename_i hanswer
    exact absurd hanswer (answers _)
  · rfl

/-- A response belongs to its command throughout. -/
theorem Went.command (h : e.Went) : e.after.response.command = e.before.response.command := by
  cases h <;> rfl

/-- A response holds the reply that a call decoded, or the one that it held before a call that
neither emptied it nor read another. -/
theorem Went.outcome? (h : e.Went) :
    e.after.response.outcome? = some o ↔
      e.Decoded o ∨
        (e.operation ≠ .reset ∧ e.succeeded = false) ∧ e.before.response.outcome? = some o := by
  cases h with
  | refused held => simp [Decoded, succeeded]
  | failed empty read => simp [Decoded, succeeded]
  | decoded empty read => simp [Decoded, succeeded, read]
  | emptied => simp [Decoded, succeeded, unread]
  | @looked operation u answer reads resets answers =>
    have hnone : succeeded ⟨operation, u, answer, u⟩ = false := succeeded_eq_false answers
    simp [Decoded, hnone, resets]

/-- A response is read if a call read it, or if it was before a call that did not empty it. -/
theorem Went.isRead (h : e.Went) :
    e.after.response.isRead = true ↔
      e.succeeded = true ∨ e.operation ≠ .reset ∧ e.before.response.isRead = true := by
  cases h with
  | refused held => simp [held]
  | failed empty read => simp [succeeded, empty]
  | decoded empty read => simp [succeeded, Response.isRead]
  | emptied => simp [succeeded, unread, Response.isRead]
  | @looked operation u answer reads resets answers =>
    have hnone : succeeded ⟨operation, u, answer, u⟩ = false := succeeded_eq_false answers
    simp [hnone, resets]

end Event

/-! ## Looking back -/

/-- Some element has the one property, and all behind it have the other. -/
def Since {α : Type} (p q : α → Prop) (l : List α) : Prop :=
  ∃ earlier x later, l = earlier ++ x :: later ∧ p x ∧ ∀ y ∈ later, q y

/-- The last element decides, or it only has to have the other property. -/
theorem since_concat {α : Type} {p q : α → Prop} {l : List α} {a : α} :
    Since p q (l ++ [a]) ↔ p a ∨ q a ∧ Since p q l := by
  constructor
  · rintro ⟨earlier, x, later, hl, hx, hlater⟩
    rcases List.eq_nil_or_concat later with rfl | ⟨later, last, rfl⟩
    · have hsame := List.append_inj_right' hl rfl
      cases hsame
      exact .inl hx
    · rw [List.concat_eq_append, ← List.cons_append, ← List.append_assoc] at hl
      have hfront := List.append_inj_left' hl rfl
      cases List.append_inj_right' hl rfl
      refine .inr ⟨hlater a (by simp), earlier, x, later, hfront, hx, ?_⟩
      intro y hy
      exact hlater y (by simp [hy])
  · rintro (ha | ⟨ha, earlier, x, later, rfl, hx, hlater⟩)
    · exact ⟨l, a, [], rfl, ha, by simp⟩
    · refine ⟨earlier, x, later ++ [a], by simp, hx, ?_⟩
      intro y hy
      rcases List.mem_append.1 hy with hold | hnew
      · exact hlater y hold
      · rwa [List.mem_singleton.1 hnew]

theorem not_since_nil {α : Type} {p q : α → Prop} : ¬Since p q [] := by
  rintro ⟨earlier, x, later, hl, -⟩
  simp at hl

/-- Some reading has succeeded since the last reset. -/
def ReadSinceReset (events : List Event) : Prop :=
  Since (fun e => e.succeeded = true) (fun e => e.operation ≠ .reset) events

/-- The reply was decoded by the latest successful reading, and there was no reset after it. -/
def Latest (events : List Event) (o : Outcome) : Prop :=
  Since (fun e => e.Decoded o) (fun e => e.operation ≠ .reset ∧ e.succeeded = false) events

/-! ## What a response holds -/

@[simp]
theorem length_run (operations : List Operation) (u : Reader) :
    (run operations u).1.length = operations.length := by
  induction operations generalizing u with
  | nil => rfl
  | cons operation rest ih => simp [run, ih]

theorem run_concat (operations : List Operation) (operation : Operation) (u : Reader) :
    run (operations ++ [operation]) u =
      ((run operations u).1 ++ [(run operations u).2.event operation],
        ((run operations u).2.event operation).after) := by
  induction operations generalizing u with
  | nil => rfl
  | cons first rest ih => simp [run, ih]

/-- A call finds what the calls before it leave. -/
theorem run_split {operations : List Operation} {u : Reader} {earlier later : List Event}
    {e : Event} (h : (run operations u).1 = earlier ++ e :: later) :
    ∃ first operation, run first u = (earlier, e.before) ∧ e = e.before.event operation := by
  induction operations generalizing u earlier with
  | nil => simp [run] at h
  | cons operation rest ih =>
    cases earlier with
    | nil =>
      obtain ⟨rfl, -⟩ := List.cons.inj h
      exact ⟨[], operation, rfl, rfl⟩
    | cons first earlier =>
      obtain ⟨rfl, hrest⟩ := List.cons.inj h
      obtain ⟨between, last, hrun, hlast⟩ := ih hrest
      exact ⟨operation :: between, last, by simp [run, hrun], hlast⟩

/-- Every call of a run went one of the ways. -/
theorem went_of_mem {operations : List Operation} {u : Reader} {e : Event}
    (h : e ∈ (run operations u).1) : e.Went := by
  obtain ⟨earlier, later, hsplit⟩ := List.append_of_mem h
  obtain ⟨first, operation, -, hevent⟩ := run_split hsplit
  rw [hevent]
  exact e.before.went operation

section New

variable (command : Command) (ch : Channel) (operations : List Operation)

/-- A response belongs to its command through every run. -/
theorem command_run :
    (run operations ⟨unread command, ch⟩).2.response.command = command := by
  induction operations using List.reverseRecOn with
  | nil => rfl
  | append_singleton operations operation ih =>
    have hwent := (run operations ⟨unread command, ch⟩).2.went operation
    rw [run_concat, hwent.command]
    exact ih

/-- A response is read just if some reading has succeeded since the last reset. -/
theorem isRead_run_iff :
    (run operations ⟨unread command, ch⟩).2.response.isRead = true ↔
      ReadSinceReset (run operations ⟨unread command, ch⟩).1 := by
  induction operations using List.reverseRecOn with
  | nil => simp [run, unread, isRead, ReadSinceReset, not_since_nil]
  | append_singleton operations operation ih =>
    -- The last call settles it, or leaves it to the calls before.
    have hwent := (run operations ⟨unread command, ch⟩).2.went operation
    rw [run_concat, ReadSinceReset, since_concat, hwent.isRead]
    exact or_congr_right (and_congr_right' ih)

/-- A response holds just the reply that the latest successful reading decoded, unless a reset
followed. -/
theorem outcome?_run_iff (o : Outcome) :
    (run operations ⟨unread command, ch⟩).2.response.outcome? = some o ↔
      Latest (run operations ⟨unread command, ch⟩).1 o := by
  induction operations using List.reverseRecOn with
  | nil => simp [run, unread, Latest, not_since_nil]
  | append_singleton operations operation ih =>
    have hwent := (run operations ⟨unread command, ch⟩).2.went operation
    rw [run_concat, Latest, since_concat, hwent.outcome?]
    exact or_congr_right (and_congr_right' ih)

end New

/-! ## What is kept in fields -/

namespace Fields

/-- One call on a response that is kept in fields. -/
def call (operation : Operation) (f : Fields) (ch : Channel) : Answer × Fields × Channel :=
  match operation with
  | .read =>
    let (result, f, ch) := f.read ch
    (.done result, f, ch)
  | .reset => (.silent, f.reset, ch)
  | .isRead => (.flag f.isRead, f, ch)
  | .isError => (.flag f.isError, f, ch)
  | .status => (.status f.shownStatus, f, ch)
  | .reply => (.reply f.shownReply, f, ch)
  | .intoReply => (.reply f.shownReply, f, ch)
  | .payload accessor => (.reply (f.payload accessor.wanted accessor.view), f, ch)

/-- The answers to some calls on a response that is kept in fields. -/
def answers : List Operation → Fields → Channel → List Answer
  | [], _, _ => []
  | operation :: rest, f, ch =>
    let (answer, f, ch) := f.call operation ch
    answer :: answers rest f ch

/-- A call makes no difference between the response and its fields. -/
theorem call_toResponse (operation : Operation) (f : Fields) (ch : Channel) :
    Reader.call operation ⟨f.toResponse, ch⟩ =
      ((f.call operation ch).1,
        ⟨(f.call operation ch).2.1.toResponse, (f.call operation ch).2.2⟩) := by
  cases operation with
  | read => simp [Reader.call, call, read_toResponse]
  | payload accessor => simp [Reader.call, call, Accessor.get_eq_payload]
  | reset => rfl
  | _ => simp [Reader.call, call]

/-- The answers make no difference between the response and its fields. -/
theorem answers_eq (operations : List Operation) (f : Fields) (ch : Channel) :
    answers operations f ch = (run operations ⟨f.toResponse, ch⟩).1.map Event.answer := by
  induction operations generalizing f ch with
  | nil => rfl
  | cons operation rest ih => simp [answers, run, Reader.event, call_toResponse, ih]

end Fields

/-! ## What is taken from the channel -/

/-- Replies that are decoded one after the other give just these results, and lead from one
channel to another. -/
structure Decodes (command : Command) (ch : Channel) (results : List (Result Unit))
    (ch' : Channel) : Prop where
  results_eq : (Outcome.readEach (List.replicate results.length command) ch).1.map
    (Except.map fun _ => ()) = results
  channel_eq : (Outcome.readEach (List.replicate results.length command) ch).2 = ch'

namespace Decodes

variable {command : Command} {ch mid ch' : Channel} {first second results : List (Result Unit)}

theorem nil : Decodes command ch [] ch :=
  ⟨rfl, rfl⟩

theorem append (h : Decodes command ch first mid) (h' : Decodes command mid second ch') :
    Decodes command ch (first ++ second) ch' := by
  have hreplies : Outcome.readEach (List.replicate (first ++ second).length command) ch =
      ((Outcome.readEach (List.replicate first.length command) ch).1 ++
          (Outcome.readEach (List.replicate second.length command) mid).1, ch') := by
    rw [List.length_append, ← List.replicate_append_replicate, Outcome.readEach_append,
      h.channel_eq, h'.channel_eq]
  constructor
  · rw [hreplies, List.map_append, h.results_eq, h'.results_eq]
  · rw [hreplies]

/-- As many replies are decoded as there are results that are no failure. -/
theorem countP_isOk (h : Decodes command ch results ch') :
    (Outcome.readEach (List.replicate results.length command) ch).1.countP Except.isOk =
      results.countP Except.isOk := by
  conv_rhs => rw [← h.results_eq, List.countP_map]
  refine List.countP_congr fun result _ => ?_
  cases result <;> rfl

end Decodes

/-- The results of the readings that were not refused. -/
def attempts (events : List Event) : List (Result Unit) :=
  events.filterMap Event.attempt?

namespace Event.Went

variable {e : Event}

/-- A call takes a reply from the channel if it is a reading that is not refused, and takes
nothing otherwise. -/
theorem decodes {command : Command} (h : e.Went)
    (hcommand : e.before.response.command = command) :
    Decodes command e.before.channel (attempts [e]) e.after.channel := by
  subst hcommand
  cases h with
  | @refused u held =>
    have hnone :
        attempt? ⟨.read, u, .done (.error (.state (.alreadyRead u.response.command))), u⟩ = none :=
      if_pos held
    rw [attempts, List.filterMap_cons_none hnone]
    exact .nil
  | failed empty read =>
    constructor <;> simp [attempts, attempt?, empty, Outcome.readEach, read, Except.map]
  | decoded empty read =>
    constructor <;> simp [attempts, attempt?, empty, Outcome.readEach, read, Except.map]
  | emptied => exact .nil
  | looked reads resets answers =>
    rw [attempts, List.filterMap_cons_none (attempt?_eq_none answers)]
    exact .nil

/-- The readings that succeed are not refused and have a result that is no failure. -/
theorem isOk_attempt? (h : e.Went) :
    (e.attempt?.map Except.isOk).getD false = e.succeeded := by
  cases h with
  | refused held => simp [attempt?, succeeded, held]
  | failed empty read => simp [attempt?, succeeded, empty, Except.isOk, Except.toBool]
  | decoded empty read => simp [attempt?, succeeded, empty, Except.isOk, Except.toBool]
  | emptied => rfl
  | looked reads resets answers => rw [attempt?_eq_none answers, succeeded_eq_false answers]; rfl

end Event.Went

/-- The readings that are not refused take the replies from the channel one after the other,
and no other call takes anything. -/
theorem decodes_run (command : Command) (ch : Channel) (operations : List Operation) :
    Decodes command ch (attempts (run operations ⟨unread command, ch⟩).1)
      (run operations ⟨unread command, ch⟩).2.channel := by
  induction operations using List.reverseRecOn with
  | nil => exact .nil
  | append_singleton operations operation ih =>
    have hlast := ((run operations ⟨unread command, ch⟩).2.went operation).decodes
      (command_run command ch operations)
    rw [run_concat, attempts, List.filterMap_append]
    exact ih.append hlast

/-- In a run as many readings succeed as were not refused and found a reply. -/
theorem countP_attempts (operations : List Operation) (u : Reader) :
    (attempts (run operations u).1).countP Except.isOk =
      (run operations u).1.countP Event.succeeded := by
  rw [attempts, List.countP_filterMap]
  refine List.countP_congr fun e he => ?_
  rw [(went_of_mem he).isOk_attempt?]

/-! ## What a response shows -/

/-- A response shows this reply, whichever way it is looked at. -/
structure Shows (r : Response) (o : Outcome) : Prop where
  status : r.status = .ok o.status
  reply : r.reply = .ok o.reply
  intoReply : r.intoReply = .ok o.reply
  hands : ∀ accessor : Accessor, o.reply.HasShape accessor.shape → accessor.get r = .ok o.reply
  /-- The complaint about a payload of another shape is about this reply. -/
  complains : ∀ accessor : Accessor, ¬o.reply.HasShape accessor.shape →
    accessor.get r = .error (mismatch r.command o accessor.wanted)

/-- A response shows nothing, whichever way it is looked at. -/
structure ShowsNothing (r : Response) : Prop where
  status : r.status = .error (.state (.notRead r.command))
  reply : r.reply = .error (.state (.notRead r.command))
  intoReply : r.intoReply = .error (.state (.notRead r.command))
  accessors : ∀ accessor : Accessor, accessor.get r = .error (.state (.notRead r.command))

theorem shows_of_outcome? {r : Response} {o : Outcome} (h : r.outcome? = some o) :
    r.Shows o := by
  rcases r with ⟨command, held⟩
  subst h
  exact ⟨rfl, rfl, rfl, fun _ hshape => Accessor.get_ok hshape command,
    fun _ hshape => Accessor.get_mismatch hshape command⟩

theorem showsNothing_of_not_isRead {r : Response} (h : ¬r.isRead = true) : r.ShowsNothing := by
  rcases r with ⟨command, _ | held⟩
  · refine ⟨rfl, rfl, rfl, ?_⟩
    intro accessor
    cases accessor <;> rfl
  · exact absurd rfl h

/-- A response is an error just if it shows the status of an error line. -/
theorem isError_iff (r : Response) :
    r.isError = true ↔ r.isRead = true ∧ ∃ message, r.status = .ok (.error message) := by
  rcases r with ⟨command, _ | ⟨status, reply⟩⟩
  · simp [isError, isRead]
  · cases status <;> simp [isError, isRead, Response.status, outcome, Except.map, Status.isError]

/-! ## The law -/

/-- What a sequence of calls on a new response adds up to: the calls and what they leave. -/
structure LifeCycle (command : Command) (ch : Channel) (events : List Event) (u : Reader) :
    Prop where
  sameCommand : u.response.command = command
  isRead : u.response.isRead = true ↔ ReadSinceReset events
  nothing : ¬ReadSinceReset events → u.response.ShowsNothing
  held : ReadSinceReset events → ∃ o, Latest events o
  latest : ∀ o, Latest events o → u.response.Shows o
  isError : u.response.isError = true ↔
    ReadSinceReset events ∧ ∃ message, u.response.status = .ok (.error message)
  /-- The replies of the channel are decoded one after the other. -/
  decodes : Decodes command ch (attempts events) u.channel
  /-- As many are decoded as readings succeeded. -/
  count : (Outcome.readEach (List.replicate (attempts events).length command) ch).1.countP
    Except.isOk = events.countP Event.succeeded

/-- What one call may do. -/
structure Event.Lawful (e : Event) : Prop where
  /-- A reading of a response that is read does nothing. -/
  refused : e.operation = .read → e.before.response.isRead = true →
    e.answer = .done (.error (.state (.alreadyRead e.before.response.command))) ∧
      e.after = e.before
  /-- A reading that fails leaves the response as it was, so an unread one stays unread. -/
  failed : ∀ cause, e.answer = .done (.error cause) → e.after.response = e.before.response
  /-- Only an unread response can be read. -/
  succeeded : e.answer = .done (.ok ()) → e.operation = .read ∧
    e.before.response.isRead = false ∧ e.after.response.isRead = true
  reset : e.operation = .reset →
    e.after = ⟨unread e.before.response.command, e.before.channel⟩
  /-- A response that is looked at stays the same. -/
  looked : e.operation ≠ .read → e.operation ≠ .reset → e.after = e.before

theorem Event.Went.lawful {e : Event} (h : e.Went) : e.Lawful := by
  cases h with
  | refused held => exact ⟨by simp, by simp, by simp, by simp, by simp⟩
  | failed empty read => exact ⟨by simp [empty], by simp, by simp, by simp, by simp⟩
  | decoded empty read =>
    exact ⟨by simp [empty], by simp, fun _ => ⟨rfl, empty, rfl⟩, by simp, by simp⟩
  | emptied => exact ⟨by simp, by simp, by simp, by simp, by simp⟩
  | looked reads resets answers =>
    exact ⟨by simp [reads], by simp, by simp [answers], by simp [resets], by simp⟩

/-- Every sequence of calls on a new response has its life cycle. -/
theorem lifeCycle (command : Command) (ch : Channel) (operations : List Operation) :
    LifeCycle command ch (run operations ⟨unread command, ch⟩).1
      (run operations ⟨unread command, ch⟩).2 where
  sameCommand := command_run command ch operations
  isRead := isRead_run_iff command ch operations
  nothing hnone := by
    rw [← isRead_run_iff] at hnone
    exact showsNothing_of_not_isRead hnone
  held hread := by
    rw [← isRead_run_iff] at hread
    obtain ⟨o, ho⟩ := Option.isSome_iff_exists.1 hread
    exact ⟨o, (outcome?_run_iff command ch operations o).1 ho⟩
  latest o ho := shows_of_outcome? ((outcome?_run_iff command ch operations o).2 ho)
  isError := by rw [← isRead_run_iff, isError_iff]
  decodes := decodes_run command ch operations
  count := by rw [(decodes_run command ch operations).countP_isOk, countP_attempts]

/-- **The life cycle of a response.**  Whatever is called on a new response, it shows after
every call just what the latest successful reading since the last reset decoded, and nothing if
there was none; a reading of a response that is read changes nothing and takes nothing from the
channel; and the readings that succeed are as many as the replies that the channel gives.  What
is kept in the fields of a response meanwhile shows in no answer. -/
theorem run_lifeCycle (command : Command) (ch : Channel) (operations : List Operation) :
    let (events, u) := run operations ⟨unread command, ch⟩
    LifeCycle command ch events u ∧
      Fields.answers operations (.unread command) ch = events.map Event.answer ∧
      ∀ earlier e later, events = earlier ++ e :: later →
        LifeCycle command ch earlier e.before ∧ e = e.before.event e.operation ∧ e.Lawful := by
  refine ⟨lifeCycle command ch operations, Fields.answers_eq operations (.unread command) ch, ?_⟩
  intro earlier e later hsplit
  obtain ⟨first, operation, hfirst, hevent⟩ := run_split hsplit
  have hbefore := lifeCycle command ch first
  rw [hfirst] at hbefore
  have hwent : e.Went := went_of_mem (by rw [hsplit]; simp)
  refine ⟨hbefore, ?_, hwent.lawful⟩
  rw [hevent]
  rfl

/-- A response that is read three times, emptied and read again. -/
theorem run_lifeCycle_reused :
    let source : Source := ⟨[.data (Bytes.ofText "?\r\n:7\r\n-ERR\r\n")], .gone⟩
    let ch := Channel.fresh source 64 64
    let operations : List Operation :=
      [.read, .read, .read, .payload .number, .reset, .status, .read]
    let (events, u) := run operations ⟨unread .incr, ch⟩
    events.map Event.answer =
        [.done (.error (.protocol (.unexpectedMarker .incr 63))), .done (.ok ()),
          .done (.error (.state (.alreadyRead .incr))), .reply (.ok (.number 7)), .silent,
          .status (.error (.state (.notRead .incr))), .done (.ok ())] ∧
      LifeCycle .incr ch events u ∧
      ∃ refused, events[2]? = some refused ∧ LifeCycle .incr ch (events.take 2) refused.before ∧
        refused.Lawful := by
  have hanswers : (run [.read, .read, .read, .payload .number, .reset, .status, .read]
        ⟨unread .incr, .fresh ⟨[.data (Bytes.ofText "?\r\n:7\r\n-ERR\r\n")], .gone⟩ 64 64⟩).1.map
          Event.answer =
      [.done (.error (.protocol (.unexpectedMarker .incr 63))), .done (.ok ()),
        .done (.error (.state (.alreadyRead .incr))), .reply (.ok (.number 7)), .silent,
        .status (.error (.state (.notRead .incr))), .done (.ok ())] := by
    with_unfolding_all rfl
  intro source ch operations
  obtain ⟨hwhole, -, hsteps⟩ := run_lifeCycle .incr ch operations
  have hlength : 2 < (run operations ⟨unread .incr, ch⟩).1.length := by simp [operations]
  have hsplit := List.take_append_drop 2 (run operations ⟨unread .incr, ch⟩).1
  rw [List.drop_eq_getElem_cons hlength] at hsplit
  obtain ⟨hbefore, -, hlawful⟩ := hsteps _ _ _ hsplit.symm
  refine ⟨hanswers, hwhole, _, ?_, hbefore, hlawful⟩
  exact List.getElem?_eq_getElem hlength

end Response

end KeyValueClient
