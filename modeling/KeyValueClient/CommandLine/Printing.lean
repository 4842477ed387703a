import KeyValueClient.Reply.Basic
import KeyValueClient.Text.Lossy

/-!
# Printing replies

A reply is printed line by line.  Lists number their elements, and a list inside a
list is indented under its number.

Main results:

- Theorem `CommandLine.printReply_ne_nil`: every reply prints at least one line.
-/

namespace KeyValueClient.CommandLine

/-- Some spaces. -/
def pad (indent : Nat) : String :=
  String.ofList (List.replicate indent ' ')

/-- A bulk value between double quotes, shown as text; nil in parentheses. -/
def printBulk : Option Bytes → String
  | some value => "\"" ++ Text.lossy value ++ "\""
  | none => "(nil)"

/-- The numbered lines of a list of bulk values. -/
def printValues (first : Nat) : List (Option Bytes) → List String
  | [] => []
  | value :: rest => (s!"{first}) " ++ printBulk value) :: printValues (first + 1) rest

mutual

/-- The lines of an element of an aggregate. -/
def printElement (indent : Nat) : Element → List String
  | .text s => [pad indent ++ s]
  | .error s => [pad indent ++ "(error) " ++ s]
  | .number n => [pad indent ++ s!"(integer) {n}"]
  | .bulk value => [pad indent ++ printBulk value]
  | .nilList => [pad indent ++ "(nil)"]
  | .list [] => [pad indent ++ "(empty list)"]
  | .list (item :: rest) => printElements indent 1 (item :: rest)

/-- The numbered and indented lines of some elements. -/
def printElements (indent first : Nat) : List Element → List String
  | [] => []
  | item :: rest =>
    (pad indent ++ s!"{first})") :: printElement (indent + 3) item
      ++ printElements indent (first + 1) rest

end

/-- The lines of a reply. -/
def printReply : Reply → List String
  | .none => ["OK"]
  | .queued => ["QUEUED"]
  | .number n => [s!"(integer) {n}"]
  | .boolean b => [s!"(boolean) {b}"]
  | .text s => [s]
  | .bulk value => [printBulk value]
  | .multiBulk none => ["(nil)"]
  | .multiBulk (some []) => ["(empty list)"]
  | .multiBulk (some values) => printValues 1 values
  | .aggregate none => ["(nil)"]
  | .aggregate (some items) => printElement 0 (.list items)

/-- Every reply prints at least one line. -/
theorem printReply_ne_nil (reply : Reply) : printReply reply ≠ [] := by
  unfold printReply
  split
  case h_9 values hvalues =>
    cases values with
    | nil => exact absurd rfl hvalues
    | cons value rest => simp [printValues]
  case h_11 items =>
    cases items <;> simp [printElement, printElements]
  all_goals simp

end KeyValueClient.CommandLine
