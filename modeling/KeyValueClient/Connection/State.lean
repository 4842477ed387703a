import KeyValueClient.Error

/-!
# The state of a connection

A connection is ready until its first fault and faulted ever after.
-/

namespace KeyValueClient

/-- Whether a connection still serves requests. -/
inductive ConnectionState where
  | ready
  | faulted (fault : Fault)
deriving DecidableEq, Repr

namespace ConnectionState

/-- Pass if ready, and report the fault otherwise. -/
def check : ConnectionState → Result Unit
  | ready => .ok ()
  | faulted fault => .error (.faulted fault)

/-- The connection serves no more requests. -/
def isFaulted : ConnectionState → Bool
  | ready => false
  | faulted _ => true

/-- The state after a fault: the first one is kept. -/
def fail (fault : Fault) : ConnectionState → ConnectionState
  | ready => faulted fault
  | faulted first => faulted first

end ConnectionState

end KeyValueClient
