import KeyValueClient.Request.Wire
import KeyValueClient.Stream.Channel

/-!
# Configuration

How a connection encodes requests, reads replies and puts pipelined requests on the
wire.

Main results:

- Theorem `Config.check_default`: the default configuration is valid.
- Theorem `Config.check_ok_iff`: what a valid configuration has to satisfy.
-/

namespace KeyValueClient

/-- When a pipeline writes the requests queued on it. -/
inductive WriteMode where
  /-- Each as soon as it is queued. -/
  | immediate
  /-- Together, when the pipeline is flushed. -/
  | chunked
deriving DecidableEq, Repr

/-- The configuration of a connection. -/
structure Config where
  encoding : Encoding
  /-- How many bytes one read asks for. -/
  readSize : Nat
  /-- The longest reply line accepted, with its terminator. -/
  lineLimit : Nat
  writeMode : WriteMode
  /-- A chunked pipeline flushes by itself once it holds this many bytes. -/
  flushThreshold : Option Nat
  /-- Milliseconds; zero waits forever. -/
  readTimeout : Nat
  /-- Milliseconds; zero waits forever. -/
  writeTimeout : Nat
  /-- Send small segments at once. -/
  noDelay : Bool
deriving DecidableEq, Repr

namespace Config

/-- The configuration used when nothing is said. -/
def default : Config where
  encoding := .shaped
  readSize := 8 * 1024
  lineLimit := 64 * 1024
  writeMode := .immediate
  flushThreshold := none
  readTimeout := 0
  writeTimeout := 5000
  noDelay := true

/-- The shortest line limit: a marker and a terminator must fit. -/
def leastLineLimit : Nat := 3

/-- Check that a connection could work with a configuration. -/
def check (c : Config) : Result Unit :=
  if c.readSize = 0 then .error (.config .emptyReads)
  else if c.lineLimit < leastLineLimit then .error (.config (.shortLines c.lineLimit))
  else if c.flushThreshold = some 0 then .error (.config .emptyThreshold)
  else .ok ()

/-- A channel over a source with the limits of the configuration. -/
def channel (c : Config) (source : Source) : Channel :=
  .fresh source c.readSize c.lineLimit

/-- The default configuration is valid. -/
theorem check_default : default.check = .ok () :=
  rfl

/-- What a valid configuration has to satisfy. -/
theorem check_ok_iff (c : Config) :
    c.check = .ok () ↔
      0 < c.readSize ∧ leastLineLimit ≤ c.lineLimit ∧ c.flushThreshold ≠ some 0 := by
  unfold check
  split
  · simp [*]
  · split
    · simp only [reduceCtorEq, false_iff]
      omega
    · split
      · simp [*]
      · simp only [true_iff]
        exact ⟨by omega, by omega, by assumption⟩

end Config

end KeyValueClient
