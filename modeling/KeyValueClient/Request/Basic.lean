import KeyValueClient.Error

/-!
# Requests and their arguments

A request is a command with its arguments.  Before it is written, the number of
arguments is checked against the command's shape and every key, number and score is
checked token by token.  Values are unrestricted, because they travel behind their
length.

Main results:

- Theorem `Request.checkKey_ok_iff`: a key is accepted exactly when it is not empty
  and holds no delimiter.
- Theorem `Request.check_error`: a refused request is refused with an argument error.
-/

namespace KeyValueClient

/-- A command with its arguments. -/
structure Request where
  command : Command
  arguments : List Bytes
deriving DecidableEq, Repr

namespace Request

/-! ## Tokens -/

/-- The byte ends a token or a line. -/
def isDelimiter (b : UInt8) : Bool :=
  b == Bytes.space || b == Bytes.cr || b == Bytes.lf

/-- Check that a key can travel inline. -/
def checkKey (command : Command) (key : Bytes) : Except ArgumentError Unit :=
  if key.isEmpty then .error (.emptyKey command)
  else match key.zipIdx.find? fun entry => isDelimiter entry.1 with
    | some (byte, offset) => .error (.delimiter command byte offset)
    | none => .ok ()

/-- Check that a token is what it has to be. -/
def checkToken (command : Command) : TokenKind → Bytes → Except ArgumentError Unit
  | .key, token => checkKey command token
  | .number, token =>
    match Decimal.readInt64 token with
    | .ok _ => .ok ()
    | .error cause => .error (.badNumber command cause)
  | .score, token =>
    match Decimal.checkScore token with
    | .ok () => .ok ()
    | .error cause => .error (.badScore command cause)

/-- Check some keys, from the first to the last. -/
def checkKeys (command : Command) : List Bytes → Except ArgumentError Unit
  | [] => .ok ()
  | key :: rest => do
    checkKey command key
    checkKeys command rest

/-- The arguments at even positions. -/
def everySecond : List Bytes → List Bytes
  | [] => []
  | [last] => [last]
  | first :: _ :: rest => first :: everySecond rest

/-! ## Whole requests -/

section Checks

variable (r : Request)

/-- Check that there are as many arguments as the shape of the command fixes. -/
def checkCount : Except ArgumentError Unit :=
  let count := r.arguments.length
  match r.command.requestShape.arity with
  | none => .ok ()
  | some expected =>
    if count ≠ expected then .error (.wrongCount r.command expected count) else .ok ()

/-- Check the arguments at some positions, one after the other.  Their number is checked before,
so that there is one at every position. -/
def checkPositions : List (Nat × TokenKind) → Except ArgumentError Unit
  | [] => .ok ()
  | (position, kind) :: rest => do
    checkToken r.command kind (r.arguments.getD position [])
    checkPositions rest

/-- Check every token that the shape of the command asks for. -/
def checkTokens : Except ArgumentError Unit :=
  let count := r.arguments.length
  match r.command.requestShape with
  | .keys =>
    if count = 0 then .error (.noKeys r.command) else checkKeys r.command r.arguments
  | .pairs =>
    if count = 0 ∨ count % 2 ≠ 0 then .error (.unpaired r.command count)
    else checkKeys r.command (everySecond r.arguments)
  | shape => r.checkPositions shape.checks

/-- Check the arguments of a request against the shape of its command. -/
def checkArguments : Except ArgumentError Unit := do
  r.checkCount
  r.checkTokens

end Checks

/-- Check that a request may be sent. -/
def check (r : Request) : Result Unit :=
  match r.checkArguments with
  | .ok () => .ok ()
  | .error cause => .error (.argument cause)

/-! ## Laws -/

/-- A key is accepted exactly when it is not empty and holds no delimiter. -/
theorem checkKey_ok_iff (command : Command) (key : Bytes) :
    checkKey command key = .ok () ↔ key ≠ [] ∧ ∀ b ∈ key, isDelimiter b = false := by
  unfold checkKey
  split
  · rename_i hempty
    simp [List.isEmpty_iff.1 hempty]
  · rename_i hempty
    have hne : key ≠ [] := fun h => hempty (by simp [h])
    split
    · rename_i byte offset hfind
      have hmem := List.mem_of_find?_eq_some hfind
      have hdelim := List.find?_some hfind
      have hbyte : byte ∈ key := List.fst_mem_of_mem_zipIdx hmem
      simp only [reduceCtorEq, false_iff, not_and]
      intro _ hall
      simp [hall byte hbyte] at hdelim
    · rename_i hfind
      simp only [true_iff]
      refine ⟨hne, fun b hb => ?_⟩
      obtain ⟨i, hi, rfl⟩ := List.getElem_of_mem hb
      have hentry : (key[i], i) ∈ key.zipIdx := by
        simp [List.mk_mem_zipIdx_iff_getElem?, hi]
      simpa using List.find?_eq_none.1 hfind _ hentry

/-- A refused request is refused with an argument error. -/
theorem check_error {r : Request} {e : Error} (h : r.check = .error e) :
    ∃ cause, e = .argument cause := by
  unfold check at h
  split at h
  · contradiction
  · rename_i cause _
    injection h with h
    exact ⟨cause, h.symm⟩

end Request

end KeyValueClient
