import KeyValueClient.Pipeline.Basic

/-!
# Handles

A handle waits for the result of one call and hands it out once.  It looks at the
results of the pipeline and changes nothing there, so dropping it does not cancel
the call.

Main results:

- Theorem `Handle.tryTake_taken`: a result that was taken is not handed out again.
- Theorem `Handle.isReady_iff`: a handle is ready between the answer and the taking.
-/

namespace KeyValueClient

/-- The right to the result of a call. -/
structure Handle where
  ticket : Nat
  command : Command
  /-- The result has been handed out. -/
  taken : Bool
deriving DecidableEq, Repr

namespace Handle

/-- The handle of a call that was just queued. -/
def ofCall (call : Call) : Handle :=
  ⟨call.ticket, call.command, false⟩

/-- The result is there and has not been taken. -/
def isReady (h : Handle) (p : Pipeline) : Bool :=
  !h.taken && (p.result? h.ticket).isSome

/-- The complaint about a handle whose result was taken. -/
def alreadyTaken (h : Handle) : Error :=
  .state (.alreadyTaken h.command)

/-- Take the result if it is there; `none` if it is not. -/
def tryTake (h : Handle) (p : Pipeline) : Option (Result Response) × Handle :=
  if h.taken then (some (.error h.alreadyTaken), h)
  else match p.result? h.ticket with
    | some result => (some result, { h with taken := true })
    | none => (none, h)

/-- Take the result, and time out if it is not there. -/
def waitTimeout (h : Handle) (p : Pipeline) : Result Response × Handle :=
  match h.tryTake p with
  | (some result, h) => (result, h)
  | (none, h) => (.error .timeout, h)

/-- Give the handle up for its result; `none` if that would block. -/
def wait (h : Handle) (p : Pipeline) : Option (Result Response) :=
  (h.tryTake p).1

/-- A result that was taken is not handed out again. -/
theorem tryTake_taken {h : Handle} (htaken : h.taken = true) (p : Pipeline) :
    h.tryTake p = (some (.error h.alreadyTaken), h) := by
  simp [tryTake, htaken]

/-- A handle is ready between the answer and the taking. -/
theorem isReady_iff (h : Handle) (p : Pipeline) :
    h.isReady p = true ↔ h.taken = false ∧ ∃ result, p.result? h.ticket = some result := by
  simp [isReady, Option.isSome_iff_exists]

end Handle

end KeyValueClient
