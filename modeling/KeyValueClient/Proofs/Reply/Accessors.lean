import KeyValueClient.Proofs.Reading.Sequence
import KeyValueClient.Proofs.Reply.Soundness

/-!
# Typed responses

A response that was read has one of four standings: the server refused the command, or
closes the connection, or queued the command, or answered it with a payload.  The payload
is handed out by the accessor for the shape of the command, and only when there is one.

Main results:

- Theorem `Reading.element_kind`: which marker gives which kind of element.
- Theorems `Accessor.get_ok` and `Accessor.get_error`: an accessor hands out the payloads of
  its shape and refuses all others.
- Theorems `Outcome.standing_eq` and `Outcome.Answers.standing`: a reply that a command can
  have puts it in one standing.
- Theorem `Response.read_typed`: a response is well typed for its command.
-/

namespace KeyValueClient

/-! ## Kinds of payloads -/

/-- The published names of the payloads, at the top of a reply or inside an aggregate. -/
inductive ReplyKind where
  | none
  | queued
  | number
  | boolean
  | text
  | error
  | bulk
  | multiBulk
  | aggregate
deriving DecidableEq, Repr

/-- The kinds that can stand inside an aggregate. -/
def ReplyKind.nests : ReplyKind → Bool
  | text | error | number | bulk | aggregate => true
  | none | queued | boolean | multiBulk => false

mutual

/-- The kinds of an element and of everything nested in it. -/
def Element.kinds : Element → List ReplyKind
  | .text _ => [.text]
  | .error _ => [.error]
  | .number _ => [.number]
  | .bulk _ => [.bulk]
  | .nilList => [.aggregate]
  | .list items => .aggregate :: Element.kindsOfAll items

/-- The kinds of some elements and of everything nested in them. -/
def Element.kindsOfAll : List Element → List ReplyKind
  | [] => []
  | item :: rest => item.kinds ++ Element.kindsOfAll rest

end

mutual

/-- At every depth of an element stands what can be nested. -/
theorem Element.nests_of_mem_kinds {kind : ReplyKind} (item : Element)
    (h : kind ∈ item.kinds) : kind.nests = true := by
  cases item with
  | list items =>
    rcases List.mem_cons.1 h with rfl | hnested
    · rfl
    · exact Element.nests_of_mem_kindsOfAll items hnested
  | _ =>
    rw [List.mem_singleton.1 h]
    rfl

/-- At every depth of some elements stands what can be nested. -/
theorem Element.nests_of_mem_kindsOfAll {kind : ReplyKind} (items : List Element)
    (h : kind ∈ Element.kindsOfAll items) : kind.nests = true := by
  cases items with
  | nil => simp [Element.kindsOfAll] at h
  | cons item rest =>
    rcases List.mem_append.1 h with hfirst | hrest
    · exact Element.nests_of_mem_kinds item hfirst
    · exact Element.nests_of_mem_kindsOfAll rest hrest

end

/-! ## Kinds of elements by their markers -/

/-- The kind of an element itself. -/
def Element.kind : Element → ReplyKind
  | .text _ => .text
  | .error _ => .error
  | .number _ => .number
  | .bulk _ => .bulk
  | .nilList | .list _ => .aggregate

/-- The kind of element that a marker announces. -/
def Marker.kind? : Marker → Option ReplyKind
  | .status => some .text
  | .error => some .error
  | .integer => some .number
  | .bulk => some .bulk
  | .list => some .aggregate
  | .other _ => none

namespace Reading

/-- Two readings in a row succeed if both of them do. -/
theorem exists_of_bind_ok {α β : Type} {x : Reading α} {f : α → Reading β} {b : β}
    {ch ch' : Channel} (h : (x >>= f) ch = .ok b ch') :
    ∃ a mid, x ch = .ok a mid ∧ f a mid = .ok b ch' := by
  change EStateM.bind x f ch = .ok b ch' at h
  unfold EStateM.bind at h
  split at h
  · exact ⟨_, _, by assumption, h⟩
  · contradiction

/-- An element is of the kind that the marker of its first line announces. -/
theorem element_kind {nested : Bytes → Reading (Option (List Element))} {ch ch' : Channel}
    {item : Element} (h : element nested ch = .ok item ch') :
    ∃ marker body rest, header ch = .ok (marker, body) rest ∧ marker.kind? = some item.kind := by
  obtain ⟨⟨marker, body⟩, rest, hheader, h⟩ := exists_of_bind_ok h
  refine ⟨marker, body, rest, hheader, ?_⟩
  cases marker with
  | status | error | integer | bulk =>
    obtain ⟨a, mid, -, h⟩ := exists_of_bind_ok h
    cases h
    rfl
  | list =>
    obtain ⟨items, mid, -, h⟩ := exists_of_bind_ok h
    -- A list is a list whether it is nil or not.
    cases items <;> cases h <;> rfl
  | other byte => contradiction

end Reading

/-! ## Accessors -/

/-- The ways to ask a response for its payload. -/
inductive Accessor where
  | number
  | boolean
  | text
  | bulk
  | multiBulk
  | aggregate
deriving DecidableEq, Repr

namespace Accessor

/-- The shape whose payloads an accessor hands out. -/
def shape : Accessor → ReplyShape
  | number => .value .number
  | boolean => .value .boolean
  | text => .value .text
  | bulk => .bulk
  | multiBulk => .multiBulk
  | aggregate => .aggregate

/-- What an accessor gives, put back as a payload. -/
def get (accessor : Accessor) (r : Response) : Result Reply :=
  match accessor with
  | number => r.number.map .number
  | boolean => r.boolean.map .boolean
  | text => r.text.map .text
  | bulk => r.bulk.map .bulk
  | multiBulk => r.multiBulk.map .multiBulk
  | aggregate => r.aggregate.map .aggregate

/-- An accessor hands out a payload of its shape. -/
theorem get_ok {accessor : Accessor} {o : Outcome} (h : o.reply.HasShape accessor.shape)
    (command : Command) : accessor.get ⟨command, some o⟩ = .ok o.reply := by
  rcases o with ⟨status, reply⟩
  cases accessor <;> cases h <;> rfl

/-- Every complaint about a payload is one about the use of the response. -/
theorem mismatch_state (command : Command) (o : Outcome) (wanted : String) :
    ∃ cause, Response.mismatch command o wanted = .state cause := by
  unfold Response.mismatch
  split
  · exact ⟨_, rfl⟩
  · exact ⟨_, rfl⟩

/-- An accessor refuses a payload that is not of its shape. -/
theorem get_error {accessor : Accessor} {o : Outcome} (h : ¬o.reply.HasShape accessor.shape)
    (command : Command) : ∃ cause, accessor.get ⟨command, some o⟩ = .error (.state cause) := by
  rcases o with ⟨status, reply⟩
  -- Every accessor meets every payload: it is of the shape, or there is a complaint about it.
  cases accessor <;> cases reply <;>
    first
    | exact absurd (by constructor) h
    | exact (mismatch_state command _ _).imp fun _ hcause => congrArg Except.error hcause

end Accessor

/-! ## Standings -/

/-- How a command stands after its reply. -/
inductive Standing where
  /-- The server answered with an error line. -/
  | refused
  /-- The server accepted the command and closes the connection. -/
  | closing
  /-- The command waits in a transaction. -/
  | queued
  /-- The command was answered with the payload that it calls for. -/
  | answered
deriving DecidableEq, Repr

/-- The status and the payload of a response put its command in this standing. -/
def Standing.Of (r : Response) : Standing → Prop
  | .refused => (∃ message, r.status = .ok (.error message)) ∧ r.reply = .ok .none
  | .closing =>
    r.status = .ok .terminal ∧ (r.command = .quit ∨ r.command = .shutdown) ∧ r.reply = .ok .none
  | .queued => r.status = .ok .success ∧ r.reply = .ok .queued
  | .answered =>
    r.status = .ok .success ∧ ∃ reply, r.reply = .ok reply ∧ reply.HasShape r.command.replyShape

/-- Only two commands end the connection. -/
theorem Command.isTerminal_iff (command : Command) :
    command.isTerminal = true ↔ command = .quit ∨ command = .shutdown := by
  cases command <;> simp [Command.isTerminal]

namespace Outcome

/-- The standing that a reply puts its command in. -/
def standing (o : Outcome) : Standing :=
  match o.status, o.reply with
  | .error _, _ => .refused
  | .terminal, _ => .closing
  | .success, .queued => .queued
  | .success, _ => .answered

variable {command : Command} {o : Outcome}

/-- No reply puts a command in a second standing. -/
theorem standing_eq {standing : Standing} (h : standing.Of ⟨command, some o⟩) :
    standing = o.standing := by
  rcases o with ⟨status, reply⟩
  cases standing with
  | refused =>
    rcases h with ⟨⟨message, hstatus⟩, -⟩
    cases hstatus
    rfl
  | closing =>
    rcases h with ⟨hstatus, -⟩
    cases hstatus
    rfl
  | queued =>
    rcases h with ⟨hstatus, hreply⟩
    cases hstatus
    cases hreply
    rfl
  | answered =>
    rcases h with ⟨hstatus, payload, hreply, hshape⟩
    cases hstatus
    cases hreply
    generalize Command.replyShape _ = shape at hshape
    cases hshape <;> rfl

namespace Answers

/-- A reply that a command can have puts it in the standing that the reply stands for. -/
theorem standing (h : o.Answers command) : o.standing.Of ⟨command, some o⟩ := by
  cases h with
  | error message => exact ⟨⟨message, rfl⟩, rfl⟩
  | terminal hterminal => exact ⟨rfl, command.isTerminal_iff.1 hterminal, rfl⟩
  | queued hopen => exact ⟨rfl, rfl⟩
  | @payload reply hopen hshape =>
    have hanswered : Standing.answered.Of ⟨command, some (.ok reply)⟩ := ⟨rfl, reply, rfl, hshape⟩
    rwa [standing_eq hanswered] at hanswered

/-- A payload that an accessor hands out is the answer to the command. -/
theorem answered {accessor : Accessor} (h : o.Answers command)
    (hshape : o.reply.HasShape accessor.shape) :
    accessor.shape = command.replyShape ∧ Standing.answered.Of ⟨command, some o⟩ := by
  cases h with
  | payload hopen hown => exact ⟨hshape.unique hown, rfl, _, rfl, hown⟩
  | _ => cases accessor <;> cases hshape

end Answers

end Outcome

/-! ## Responses -/

namespace Response

/-- A response is well typed for its command. -/
structure Typed (r : Response) : Prop where
  /-- The command is in just one of the four standings. -/
  standing : ∃! standing : Standing, standing.Of r
  /-- An aggregate holds at every depth only what can be nested. -/
  nests : ∀ items, r.reply = .ok (.aggregate (some items)) →
    ∀ kind ∈ Element.kindsOfAll items, kind.nests = true
  /-- The accessor for the shape of the command hands out the payload that answers it. -/
  hands : ∀ accessor : Accessor, accessor.shape = r.command.replyShape →
    Standing.answered.Of r → accessor.get r = r.reply
  /-- Without such a payload, and for any other shape, there is none to hand out. -/
  refuses : ∀ accessor : Accessor,
    ¬(accessor.shape = r.command.replyShape ∧ Standing.answered.Of r) →
      ∃ cause, accessor.get r = .error (.state cause)

/-- A response with a reply that its command can have is well typed. -/
theorem typed_of_answers {command : Command} {o : Outcome} (h : o.Answers command) :
    Typed ⟨command, some o⟩ where
  standing := ⟨o.standing, h.standing, fun _ hother => Outcome.standing_eq hother⟩
  nests items _ _ := Element.nests_of_mem_kindsOfAll items
  hands accessor hshape hanswered := by
    rcases hanswered with ⟨-, reply, hreply, hown⟩
    cases hreply
    exact Accessor.get_ok (hshape ▸ hown) command
  refuses accessor hnone :=
    Accessor.get_error (fun hshape => hnone (h.answered hshape)) command

/-- A response that was read belongs to the command it was made for and is well typed.  However
deeply the lists of an aggregate are nested, each element that is read is of the kind that the
marker of its line announces. -/
theorem read_typed {r r' : Response} {ch ch' : Channel} (h : r.read ch = (.ok (), r', ch')) :
    r'.command = r.command ∧ r'.Typed ∧
      ∀ (levels : Nat) (before after : Channel) (item : Element),
        Reading.element (Reading.aggregate levels) before = .ok item after →
          ∃ marker body rest, Reading.header before = .ok (marker, body) rest ∧
            marker.kind? = some item.kind := by
  rcases r with ⟨command, _ | held⟩
  · rcases outcome_of_read h with ⟨o, hread, rfl⟩
    exact ⟨rfl, typed_of_answers (Outcome.answers_of_read hread),
      fun _ _ _ _ hitem => Reading.element_kind hitem⟩
  · rw [read_again rfl] at h
    cases h

/-- A transaction whose reply nests a nil list beside an error, cut by the pieces it arrives
in. -/
theorem read_typed_nested :
    let source : Source :=
      ⟨[.data (Bytes.ofText "*1\r\n*2\r"), .interrupted,
        .data (Bytes.ofText "\n-ERR\r\n*-1\r\n:1")], .gone⟩
    let ch := Channel.fresh source 64 64
    let ch' : Channel := ⟨⟨[.data []], .gone⟩, Bytes.ofText ":1", 64, 64⟩
    let items : List Element := [.list [.error "ERR", .nilList]]
    let r' : Response := ⟨.exec, some (.ok (.aggregate (some items)))⟩
    (unread .exec).read ch = (.ok (), r', ch') ∧ r'.command = .exec ∧ r'.Typed := by
  have hread :
      (unread .exec).read (.fresh ⟨[.data (Bytes.ofText "*1\r\n*2\r"), .interrupted,
          .data (Bytes.ofText "\n-ERR\r\n*-1\r\n:1")], .gone⟩ 64 64) =
        (.ok (), ⟨.exec, some (.ok (.aggregate (some [.list [.error "ERR", .nilList]])))⟩,
          ⟨⟨[.data []], .gone⟩, Bytes.ofText ":1", 64, 64⟩) := by
    with_unfolding_all rfl
  obtain ⟨hcommand, htyped, -⟩ := read_typed hread
  exact ⟨hread, hcommand, htyped⟩

end Response

end KeyValueClient
