/-!
# Shapes of requests and replies

Every command fixes how its arguments are laid out and what its reply looks like.  What a
request shape asks for stands in three tables: how many arguments there are, which of them
are checked as tokens, and whether the last one travels as a value.  Nothing in the tables
makes them agree, so that they do is proved.

Main results:

- Theorem `RequestShape.arity_eq_none_iff`: which shapes are open-ended.
- Theorem `RequestShape.positions_checks`: with a fixed number of arguments, those that are
  checked as tokens are all but the value.
-/

namespace KeyValueClient

/-! ## Requests -/

/-- What a token has to be. -/
inductive TokenKind where
  | key
  /-- The spelling of a signed integer. -/
  | number
  /-- The spelling of a score. -/
  | score
deriving DecidableEq, Repr

/-- The argument layouts of the protocol. -/
inductive RequestShape where
  | bare
  | number
  | key
  | value
  | keyKey
  | keyNumber
  | keyNumberNumber
  | keyValue
  | keyNumberValue
  | keyScoreValue
  | keyKeyValue
  /-- One key or more. -/
  | keys
  /-- One key with its value, or more of them. -/
  | pairs
deriving DecidableEq, Repr

namespace RequestShape

/-- The exact number of arguments, unless the shape is open-ended. -/
def arity : RequestShape → Option Nat
  | bare => some 0
  | number | key | value => some 1
  | keyKey | keyNumber | keyValue => some 2
  | keyNumberNumber | keyNumberValue | keyScoreValue | keyKeyValue => some 3
  | keys | pairs => none

/-- The last argument travels as a bulk value behind its length. -/
def carriesValue : RequestShape → Bool
  | value | keyValue | keyNumberValue | keyScoreValue | keyKeyValue => true
  | _ => false

/-- The positions at which tokens are checked, in order.  The arguments of an open-ended shape
are checked as a whole. -/
def checks : RequestShape → List (Nat × TokenKind)
  | bare | value => []
  | number => [(0, .number)]
  | key | keyValue => [(0, .key)]
  | keyKey | keyKeyValue => [(0, .key), (1, .key)]
  | keyNumber | keyNumberValue => [(0, .key), (1, .number)]
  | keyNumberNumber => [(0, .key), (1, .number), (2, .number)]
  | keyScoreValue => [(0, .key), (1, .score)]
  | keys | pairs => []

/-- The published name of a shape. -/
def name : RequestShape → String
  | bare => "NoArg"
  | number => "Num"
  | key => "Key"
  | value => "Value"
  | keyKey => "KeyKey"
  | keyNumber => "KeyNum"
  | keyNumberNumber => "KeyNumNum"
  | keyValue => "KeyValue"
  | keyNumberValue => "KeyNumValue"
  | keyScoreValue => "KeyScoreValue"
  | keyKeyValue => "KeyKeyValue"
  | keys => "MultiKey"
  | pairs => "BulkSet"

variable {shape : RequestShape}

/-- The shapes of keys and of pairs are the open-ended ones. -/
theorem arity_eq_none_iff : shape.arity = none ↔ shape = keys ∨ shape = pairs := by
  cases shape <;> simp [arity]

/-- With a fixed number of arguments, those that are checked as tokens are all but the
value. -/
theorem positions_checks {count : Nat} (h : shape.arity = some count) :
    shape.checks.map Prod.fst = List.range (count - shape.carriesValue.toNat) := by
  cases shape <;> cases h <;> rfl

end RequestShape

/-! ## Replies -/

/-- The scalar a value reply holds. -/
inductive ValueKind where
  | number
  | boolean
  | text
deriving DecidableEq, Repr

/-- What a reply looks like when the command succeeds. -/
inductive ReplyShape where
  /-- One status line. -/
  | status
  /-- One line that holds a scalar. -/
  | value (kind : ValueKind)
  /-- A bulk value, or nil. -/
  | bulk
  /-- A list of bulk values, or nil. -/
  | multiBulk
  /-- A list of replies of any kind, or nil. -/
  | aggregate
deriving DecidableEq, Repr

/-- The published name of a scalar kind. -/
def ValueKind.name : ValueKind → String
  | number => "Number"
  | boolean => "Boolean"
  | text => "String"

/-- The published name of a reply shape. -/
def ReplyShape.name : ReplyShape → String
  | status => "Status"
  | value kind => "Value(" ++ kind.name ++ ")"
  | bulk => "Bulk"
  | multiBulk => "MultiBulk"
  | aggregate => "Aggregate"

end KeyValueClient
