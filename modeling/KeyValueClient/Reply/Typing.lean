import KeyValueClient.Command.Basic
import KeyValueClient.Reply.Basic

/-!
# Typing of replies

The shape of a command fixes the form of its payload.  Beside a payload of that form,
a command may be answered with an error line or be queued in a transaction; a command
that ends the connection is answered with an error line or its acknowledgement.

Main results:

- Theorem `Command.replyShape_of_isTerminal`: a command that ends the connection has no
  payload.
- Theorem `Reply.HasShape.unique`: a payload has the form of one shape.
-/

namespace KeyValueClient

/-! ## Commands -/

/-- A command that ends the connection is answered with a status line. -/
theorem Command.replyShape_of_isTerminal {command : Command} (h : command.isTerminal = true) :
    command.replyShape = .status := by
  cases command with
  | quit => rfl
  | shutdown => rfl
  | _ => contradiction

/-! ## Payloads -/

/-- The payload has the form that a shape calls for. -/
inductive Reply.HasShape : Reply → ReplyShape → Prop where
  | status : HasShape .none .status
  | number (n : Int) : HasShape (.number n) (.value .number)
  | boolean (b : Bool) : HasShape (.boolean b) (.value .boolean)
  | text (s : String) : HasShape (.text s) (.value .text)
  | bulk (value : Option Bytes) : HasShape (.bulk value) .bulk
  | multiBulk (values : Option (List (Option Bytes))) : HasShape (.multiBulk values) .multiBulk
  | aggregate (items : Option (List Element)) : HasShape (.aggregate items) .aggregate

/-- A payload has the form of one shape. -/
theorem Reply.HasShape.unique {reply : Reply} {first second : ReplyShape}
    (hfirst : reply.HasShape first) (hsecond : reply.HasShape second) : first = second := by
  cases hfirst <;> cases hsecond <;> rfl

/-! ## Whole replies -/

/-- The reply is one that the command can have. -/
inductive Outcome.Answers (command : Command) : Outcome → Prop where
  | error (message : String) : Answers command (.error message)
  | terminal (hterminal : command.isTerminal = true) : Answers command .terminal
  | queued (hopen : command.isTerminal = false) : Answers command (.ok .queued)
  | payload {reply : Reply} (hopen : command.isTerminal = false)
      (hshape : reply.HasShape command.replyShape) : Answers command (.ok reply)

/-- A command that does not end the connection is not answered with its end. -/
theorem Outcome.Answers.isTerminal_eq_false {command : Command} {o : Outcome}
    (h : o.Answers command) (hopen : command.isTerminal = false) :
    o.status.isTerminal = false := by
  cases h with
  | terminal hterminal =>
    rw [hopen] at hterminal
    contradiction
  | _ => rfl

end KeyValueClient
