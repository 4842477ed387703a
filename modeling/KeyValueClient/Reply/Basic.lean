import KeyValueClient.Text.Quoted

/-!
# Replies

A reply is what the server answered to one command.  The elements of an aggregate
reply have a type of their own, because fewer forms can occur there: no element is
a queued acknowledgement, a boolean or a bare status.  Nil is kept apart from empty
at every level.

Main results:

- Theorem `Element.depth_list`: a list nests one level deeper than its elements.
-/

namespace KeyValueClient

/-! ## Elements of an aggregate -/

/-- An element of an aggregate reply. -/
inductive Element where
  /-- A status line. -/
  | text (s : String)
  /-- An error line. -/
  | error (s : String)
  | number (n : Int)
  /-- A bulk value; `none` is nil. -/
  | bulk (value : Option Bytes)
  | nilList
  | list (items : List Element)
deriving Repr

mutual

/-- How many lists are nested in an element. -/
def Element.depth : Element → Nat
  | .nilList => 1
  | .list items => Element.depthOfAll items + 1
  | _ => 0

/-- The deepest nesting among some elements. -/
def Element.depthOfAll : List Element → Nat
  | [] => 0
  | item :: rest => max item.depth (Element.depthOfAll rest)

end

/-- A list nests one level deeper than its elements. -/
theorem Element.depth_list (items : List Element) :
    (Element.list items).depth = Element.depthOfAll items + 1 := by
  simp [Element.depth]

/-! ## Replies -/

/-- The payload of a reply. -/
inductive Reply where
  /-- A status line, which has no payload. -/
  | none
  /-- The command was accepted into a transaction. -/
  | queued
  | number (n : Int)
  | boolean (b : Bool)
  | text (s : String)
  /-- A bulk value; `none` is nil. -/
  | bulk (value : Option Bytes)
  /-- A list of bulk values; `none` is the nil list. -/
  | multiBulk (values : Option (List (Option Bytes)))
  /-- A list of elements of any kind; `none` is the nil list. -/
  | aggregate (items : Option (List Element))
deriving Repr

/-- How the server took a command. -/
inductive Status where
  | success
  /-- The server answered with an error line. -/
  | error (message : String)
  /-- The server accepted the command and closes the connection. -/
  | terminal
deriving DecidableEq, Repr

namespace Status

/-- The server answered with an error line. -/
def isError : Status → Bool
  | error _ => true
  | _ => false

/-- The server closes the connection. -/
def isTerminal : Status → Bool
  | terminal => true
  | _ => false

/-- The text of an error line. -/
def message? : Status → Option String
  | error message => some message
  | _ => none

/-- The published name of a status. -/
def name : Status → String
  | success => "Success"
  | error _ => "Error"
  | terminal => "Terminal"

end Status

/-- A decoded reply: its status and its payload. -/
structure Outcome where
  status : Status
  reply : Reply
deriving Repr

namespace Outcome

/-- A successful reply with a payload. -/
def ok (reply : Reply) : Outcome :=
  ⟨.success, reply⟩

/-- An error line. -/
def error (message : String) : Outcome :=
  ⟨.error message, .none⟩

/-- The acknowledgement of a terminal command. -/
def terminal : Outcome :=
  ⟨.terminal, .none⟩

end Outcome

/-! ## Descriptions

A message that complains about a reply shows it in a constructor-like form. -/

/-- Some items between brackets, with commas between them. -/
def describeList (items : List String) : String :=
  "[" ++ ", ".intercalate items ++ "]"

/-- An optional value, marked as present or absent. -/
def describeOption {α : Type} (describe : α → String) : Option α → String
  | .none => "None"
  | .some a => "Some(" ++ describe a ++ ")"

mutual

/-- The description of an element. -/
def Element.describe : Element → String
  | .text s => "Text(" ++ Text.quote s ++ ")"
  | .error s => "Error(" ++ Text.quote s ++ ")"
  | .number n => s!"Number({n})"
  | .bulk value => "Bulk(" ++ describeOption Text.quoteBytes value ++ ")"
  | .nilList => "Aggregate(None)"
  | .list items => "Aggregate(Some(" ++ describeList (Element.describeAll items) ++ "))"

/-- The descriptions of some elements. -/
def Element.describeAll : List Element → List String
  | [] => []
  | item :: rest => item.describe :: Element.describeAll rest

end

/-- The description of a reply. -/
def Reply.describe : Reply → String
  | .none => "None"
  | .queued => "Queued"
  | .number n => s!"Number({n})"
  | .boolean b => s!"Boolean({b})"
  | .text s => "Text(" ++ Text.quote s ++ ")"
  | .bulk value => "Bulk(" ++ describeOption Text.quoteBytes value ++ ")"
  | .multiBulk values =>
    "MultiBulk("
      ++ describeOption (fun vs => describeList (vs.map (describeOption Text.quoteBytes))) values
      ++ ")"
  | .aggregate items =>
    "Aggregate(" ++ describeOption (fun es => describeList (Element.describeAll es)) items ++ ")"

end KeyValueClient
