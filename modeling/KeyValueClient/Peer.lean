import KeyValueClient.Pipeline.Basic
import KeyValueClient.Session

/-!
# Connecting to a peer

A peer sends some bytes, ends its side, and takes whatever the client writes, unless
it has hung up already.  Connecting checks the configuration, opens the stream and
sets the session up.  A connection whose setup fails is returned with the failure, so
that what was sent on it is known.

Main results:

- Theorem `BlockingConnection.connect_badConfig`: with a bad configuration nothing is
  sent.
-/

namespace KeyValueClient

/-- The other end of a stream. -/
structure Peer where
  /-- What the peer sends before it ends its side. -/
  sends : Bytes
  /-- The peer has hung up before the client writes. -/
  gone : Bool
deriving DecidableEq, Repr

namespace Peer

/-- What the client reads. -/
def source (peer : Peer) : Source :=
  .ofBytes peer.sends

/-- The failure of a write to a peer that has hung up. -/
def hungUp : TransportError :=
  .reported "Broken pipe (os error 32)"

/-- What the client writes to. -/
def sink (peer : Peer) : Sink :=
  if peer.gone then .refusing hungUp else .accepting

end Peer

/-- Set the session up over a stream that has been opened, for requests made one at a
time. -/
def BlockingConnection.connectOver (d : Destination) (source : Source) (sink : Sink) :
    Result Unit × BlockingConnection :=
  let connection := { onStream source sink d.config with peer := d.address }
  match d.config.check with
  | .error e => (.error e, connection)
  | .ok () => Session.setUp service d.setupRequests connection

/-- Connect and set the session up, for requests made one at a time. -/
def BlockingConnection.connect (d : Destination) (peer : Peer) :
    Result Unit × BlockingConnection :=
  connectOver d peer.source peer.sink

/-- Set the session up over a stream that has been opened, for requests in a pipeline. -/
def Pipeline.connectOver (d : Destination) (source : Source) (sink : Sink) :
    Result Unit × Pipeline :=
  let pipeline := onStream source sink d.config
  match d.config.check with
  | .error e => (.error e, pipeline)
  | .ok () => Session.setUp service d.setupRequests pipeline

/-- Connect and set the session up, for requests in a pipeline. -/
def Pipeline.connect (d : Destination) (peer : Peer) : Result Unit × Pipeline :=
  connectOver d peer.source peer.sink

/-- With a bad configuration nothing is sent. -/
theorem BlockingConnection.connect_badConfig {d : Destination} {e : Error}
    (h : d.config.check = .error e) (peer : Peer) :
    (connect d peer).1 = .error e ∧ (connect d peer).2.sink.sent = [] := by
  unfold connect connectOver Peer.sink
  simp only [h, onStream, true_and]
  split <;> rfl

end KeyValueClient
