import KeyValueClient.Config
import KeyValueClient.Connection.State
import KeyValueClient.Response
import KeyValueClient.Stream.Sink

/-!
# Blocking connections

One request at a time: encode it, write it, decode its reply.  A refused request
touches nothing.  The first stream error ends the connection, and so does the reply
to a terminal command.

Main results:

- Theorem `BlockingConnection.serviceInto_faulted`: a faulted connection only reports
  its fault.
- Theorem `BlockingConnection.serviceInto_refused`: a refused request changes nothing.
-/

namespace KeyValueClient

/-- A connection on which each call waits for its reply. -/
structure BlockingConnection where
  channel : Channel
  sink : Sink
  encoding : Encoding
  state : ConnectionState
  /-- How the peer is called in messages. -/
  peer : String
deriving DecidableEq, Repr

namespace BlockingConnection

/-- A connection over an established stream. -/
def onStream (source : Source) (sink : Sink) (config : Config) : BlockingConnection :=
  ⟨config.channel source, sink, config.encoding, .ready, "unknown"⟩

/-- End the connection because of an error, if it is one of the stream. -/
def fail (e : Error) (c : BlockingConnection) : BlockingConnection :=
  if e.isFatal then { c with state := c.state.fail (.ofError e) } else c

/-- End the connection if the response says that the server closes it. -/
def settle (r : Response) (c : BlockingConnection) : BlockingConnection :=
  if r.isTerminal then { c with state := .faulted (.closedBy r.command.name) } else c

/-- Write a request and decode its reply into a response. -/
def exchange (bytes : Bytes) (r : Response) (c : BlockingConnection) :
    Result Unit × Response × BlockingConnection :=
  match c.sink.transmit bytes with
  | (.error cause, sink) =>
    let e := Error.transport cause
    (.error e, r, fail e { c with sink := sink })
  | (.ok (), sink) =>
    let c := { c with sink := sink }
    match r.read c.channel with
    | (.error e, r, channel) => (.error e, r, fail e { c with channel := channel })
    | (.ok (), r, channel) => (.ok (), r, settle r { c with channel := channel })

/-- Send a request for the command of a response and decode the reply into it.  The
response must be unread. -/
def serviceInto (r : Response) (arguments : List Bytes) (c : BlockingConnection) :
    Result Unit × Response × BlockingConnection :=
  match c.state with
  | .faulted fault => (.error (.faulted fault), r, c)
  | .ready =>
    if r.isRead then (.error (.state (.holdsReply r.command)), r, c)
    else match Request.encode c.encoding ⟨r.command, arguments⟩ with
      | .error e => (.error e, r, c)
      | .ok bytes => exchange bytes r c

/-- Send a request and wait for its reply. -/
def service (request : Request) (c : BlockingConnection) :
    Result Response × BlockingConnection :=
  match serviceInto (.unread request.command) request.arguments c with
  | (.ok (), r, c) => (.ok r, c)
  | (.error e, _, c) => (.error e, c)

/-! ## Laws -/

/-- A faulted connection only reports its fault. -/
theorem serviceInto_faulted {c : BlockingConnection} {fault : Fault}
    (h : c.state = .faulted fault) (r : Response) (arguments : List Bytes) :
    c.serviceInto r arguments = (.error (.faulted fault), r, c) := by
  simp [serviceInto, h]

/-- A refused request changes nothing. -/
theorem serviceInto_refused {c : BlockingConnection} {r : Response} {arguments : List Bytes}
    {e : Error} (hready : c.state = .ready) (hunread : r.isRead = false)
    (h : Request.encode c.encoding ⟨r.command, arguments⟩ = .error e) :
    c.serviceInto r arguments = (.error e, r, c) := by
  simp [serviceInto, hready, hunread, h]

end BlockingConnection

end KeyValueClient
