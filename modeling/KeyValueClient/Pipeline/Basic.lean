import KeyValueClient.Config
import KeyValueClient.Connection.State
import KeyValueClient.Response
import KeyValueClient.Stream.Sink

/-!
# Pipelines

On a pipeline many requests are under way at once.  The wire carries no identifiers,
so the order of the calls is the only link between a request and its reply: calls
join the queue in the order in which their bytes are written, and the reader answers
them from the front.  A chunked pipeline holds back the bytes of its latest calls
until it is flushed, and its reader never waits for the reply to a call that is still
held back.

Main results:

- Theorem `Pipeline.queue_faulted`: a faulted pipeline refuses every request.
- Theorem `Pipeline.failAll_calls`: a fault leaves no call waiting.
- Theorem `Pipeline.readStep_waiting`: bytes are read only for a call that was written.
-/

namespace KeyValueClient

/-- A call that waits for its reply. -/
structure Call where
  /-- The number of the call, counted from the first. -/
  ticket : Nat
  command : Command
deriving DecidableEq, Repr

/-- A connection with many requests under way. -/
structure Pipeline where
  channel : Channel
  sink : Sink
  encoding : Encoding
  writeMode : WriteMode
  flushThreshold : Option Nat
  /-- Bytes of calls that are held back. -/
  buffer : Bytes
  /-- Calls that wait for their reply, the oldest first. -/
  calls : List Call
  /-- How many of the latest calls are held back. -/
  unwritten : Nat
  state : ConnectionState
  /-- The caller asked for no more requests to be taken. -/
  closing : Bool
  /-- How often the fault hook has run. -/
  hookRuns : Nat
  /-- The ticket of the next call. -/
  nextTicket : Nat
  /-- The answered calls with their results, in the order of the answers. -/
  results : List (Call × Result Response)

namespace Pipeline

/-- A pipeline over an established stream. -/
def onStream (source : Source) (sink : Sink) (config : Config) : Pipeline where
  channel := config.channel source
  sink := sink
  encoding := config.encoding
  writeMode := config.writeMode
  flushThreshold := config.flushThreshold
  buffer := []
  calls := []
  unwritten := 0
  state := .ready
  closing := false
  hookRuns := 0
  nextTicket := 0
  results := []

/-- How many calls wait for their reply. -/
def pending (p : Pipeline) : Nat :=
  p.calls.length

/-- How many bytes are held back. -/
def buffered (p : Pipeline) : Nat :=
  p.buffer.length

/-- The result of a call, once it was answered. -/
def result? (p : Pipeline) (ticket : Nat) : Option (Result Response) :=
  (p.results.find? fun entry => entry.1.ticket == ticket).map fun entry => entry.2

/-- All calls that ever joined the queue, in order. -/
def history (p : Pipeline) : List Call :=
  (p.results.map fun entry => entry.1) ++ p.calls

/-! ## Answering calls -/

/-- Answer a call. -/
def resolve (call : Call) (result : Result Response) (p : Pipeline) : Pipeline :=
  { p with results := p.results ++ [(call, result)] }

/-- End the pipeline: keep the fault, unless there was one before, and answer every
waiting call with it. -/
def failAll (fault : Fault) (p : Pipeline) : Pipeline :=
  { p with
    state := p.state.fail fault
    calls := []
    unwritten := 0
    results := p.results ++ p.calls.map fun call => (call, .error (.faulted fault)) }

/-! ## Writing -/

/-- Pass if requests are still taken. -/
def checkAccepting (p : Pipeline) : Result Unit :=
  match p.state with
  | .faulted fault => .error (.faulted fault)
  | .ready => if p.closing then .error (.faulted .closedByCaller) else .ok ()

/-- Let a call join the queue. -/
def register (command : Command) (written : Bool) (p : Pipeline) : Result Call × Pipeline :=
  match p.checkAccepting with
  | .error e => (.error e, p)
  | .ok () =>
    let call := ⟨p.nextTicket, command⟩
    (.ok call,
      { p with
        calls := p.calls ++ [call]
        unwritten := if written then p.unwritten else p.unwritten + 1
        nextTicket := p.nextTicket + 1 })

/-- Write the bytes that are held back.  They are gone from the buffer even if the
write fails. -/
def writeBuffer (p : Pipeline) : Except TransportError Unit × Pipeline :=
  let (written, sink) := p.sink.transmit p.buffer
  (written, { p with sink := sink, buffer := [] })

/-- End the pipeline because a write failed, and run the fault hook. -/
def writerFault (cause : TransportError) (p : Pipeline) : Pipeline :=
  let p := p.failAll (.ofError (.transport cause))
  { p with hookRuns := p.hookRuns + 1 }

/-- Write everything that is held back. -/
def flush (p : Pipeline) : Result Unit × Pipeline :=
  if p.buffer.isEmpty then (.ok (), p)
  else match p.checkAccepting with
    | .error e => (.error e, { p with buffer := [] })
    | .ok () =>
      match p.writeBuffer with
      | (.error cause, p) => (.error (.transport cause), p.writerFault cause)
      | (.ok (), p) => (.ok (), { p with unwritten := 0 })

/-- The bytes held back have reached the threshold. -/
def reachedThreshold (p : Pipeline) : Bool :=
  p.flushThreshold.any fun threshold => threshold ≤ p.buffer.length

/-- Write the encoded request at once and let its call join the queue. -/
def queueWritten (command : Command) (p : Pipeline) : Result Call × Pipeline :=
  match p.writeBuffer with
  | (.error cause, p) => (.error (.transport cause), p.writerFault cause)
  | (.ok (), p) => p.register command true

/-- Let the call of the encoded request join the queue, and flush at the threshold. -/
def queueBuffered (command : Command) (p : Pipeline) : Result Call × Pipeline :=
  match p.register command false with
  | (.error e, p) => (.error e, p)
  | (.ok call, p) =>
    if p.reachedThreshold then
      match p.flush with
      | (.error e, p) => (.error e, p)
      | (.ok (), p) => (.ok call, p)
    else (.ok call, p)

/-- Queue a request.  No reply is waited for. -/
def queue (request : Request) (p : Pipeline) : Result Call × Pipeline :=
  match p.checkAccepting with
  | .error e => (.error e, p)
  | .ok () =>
    match request.appendTo p.buffer p.encoding with
    | (.error e, buffer) => (.error e, { p with buffer := buffer })
    | (.ok (), buffer) =>
      let p := { p with buffer := buffer }
      match p.writeMode with
      | .immediate => p.queueWritten request.command
      | .chunked => p.queueBuffered request.command

/-! ## Reading -/

/-- The oldest call, if its request was written, and the calls behind it. -/
def writtenHead? (p : Pipeline) : Option (Call × List Call) :=
  match p.calls with
  | [] => none
  | call :: rest => if p.unwritten < p.calls.length then some (call, rest) else none

/-- Answer the oldest call with the outcome of reading its reply. -/
def answer (call : Call) (rest : List Call) (outcome : Result Unit) (response : Response)
    (p : Pipeline) : Pipeline :=
  let p := { p with calls := rest }
  match outcome with
  | .ok () =>
    let p := p.resolve call (.ok response)
    if response.isTerminal then p.failAll (.closedBy call.command.name) else p
  | .error e =>
    let p := p.resolve call (.error e)
    p.failAll (.ofError e)

/-- One turn of the reader: decode the reply to the oldest call and answer it.  The
reader does nothing when the pipeline is faulted, when no written call waits, and when
the reply has not fully arrived. -/
def readStep (p : Pipeline) : Pipeline :=
  if p.state.isFaulted then p
  else match p.writtenHead? with
    | none => p
    | some (call, rest) =>
      match (Response.unread call.command).read p.channel with
      | (.error (.transport .wouldBlock), _, _) => p
      | (outcome, response, channel) =>
        answer call rest outcome response { p with channel := channel }

/-- Let the reader run until it has to wait or has stopped.  A turn that does anything
answers a call, so as many turns as there are calls suffice. -/
def drain (p : Pipeline) : Pipeline :=
  Nat.repeat readStep p.calls.length p

/-! ## Calls of the user -/

/-- Queue a request, flush, and wait for its reply. -/
def service (request : Request) (p : Pipeline) : Result Response × Pipeline :=
  match p.queue request with
  | (.error e, p) => (.error e, p)
  | (.ok call, p) =>
    match p.flush with
    | (.error e, p) => (.error e, p)
    | (.ok (), p) =>
      let p := p.drain
      ((p.result? call.ticket).getD (.error (.transport .wouldBlock)), p)

/-- Take no more requests, flush, and wait until the reader has answered the calls. -/
def close (p : Pipeline) : Result Unit × Pipeline :=
  let (flushed, p) := p.flush
  (flushed, drain { p with closing := true })

/-- Give the pipeline up: write what is held back and take no more requests.  The
reader goes on with the calls that were written. -/
def abandon (p : Pipeline) : Pipeline :=
  let p :=
    if p.buffer.isEmpty || p.state.isFaulted then p
    else match p.writeBuffer with
      | (.ok (), p) => { p with unwritten := 0 }
      | (.error cause, p) => p.failAll (.ofError (.transport cause))
  { p with closing := true }

/-! ## The peer -/

/-- One more event has arrived from the peer. -/
def arrive (event : SourceEvent) (p : Pipeline) : Pipeline :=
  { p with channel := { p.channel with source := p.channel.source.append event } }

/-- The peer has gone. -/
def peerGone (p : Pipeline) : Pipeline :=
  { p with channel := { p.channel with source := p.channel.source.finish } }

/-! ## Laws -/

/-- A fault leaves no call waiting. -/
@[simp]
theorem failAll_calls (fault : Fault) (p : Pipeline) : (p.failAll fault).calls = [] :=
  rfl

/-- A fault forgets no call. -/
@[simp]
theorem history_failAll (fault : Fault) (p : Pipeline) :
    (p.failAll fault).history = p.history := by
  simp [history, failAll, Function.comp_def]

/-- A faulted pipeline refuses every request. -/
theorem queue_faulted {p : Pipeline} {fault : Fault} (h : p.state = .faulted fault)
    (request : Request) : p.queue request = (.error (.faulted fault), p) := by
  simp [queue, checkAccepting, h]

/-- Bytes are read only for a call that was written. -/
theorem readStep_waiting {p : Pipeline} (h : p.writtenHead? = none) : p.readStep = p := by
  simp [readStep, h]

end Pipeline

end KeyValueClient
