import KeyValueClient.Pipeline.Run

/-!
# Moves of a pipeline

Every operation of a user and every turn of the reader is a sequence of moves.  A move
says with all its guards what happens to the pipeline at once: a request is held back,
sent, or lost with the connection; the buffer is delivered, lost or given up; a reply
answers the oldest call; an event arrives; no more requests are taken.  A law of all
runs is proved once for each move.

A journal keeps what a sequence of moves took in: the requests that were encoded, the
calls that joined the queue, and the events that arrived.

Main results:

- Theorem `Pipeline.Path.preserves`: what every move preserves, every path preserves.
-/

namespace KeyValueClient

/-! ## Journals -/

/-- What a sequence of moves took in, in order. -/
structure Journal where
  /-- The requests that were checked and encoded. -/
  submitted : List Request
  /-- The calls that joined the queue. -/
  pushed : List Call
  /-- The events that arrived from the peer. -/
  arrived : List SourceEvent

namespace Journal

/-- The journal of no move. -/
def empty : Journal :=
  ⟨[], [], []⟩

/-- One journal after another. -/
def append (first second : Journal) : Journal :=
  ⟨first.submitted ++ second.submitted, first.pushed ++ second.pushed,
    first.arrived ++ second.arrived⟩

@[simp]
theorem append_empty (j : Journal) : j.append empty = j := by
  simp [append, empty]

@[simp]
theorem empty_append (j : Journal) : empty.append j = j := by
  simp [append, empty]

theorem append_assoc (i j k : Journal) :
    (i.append j).append k = i.append (j.append k) := by
  simp [append]

end Journal

namespace Pipeline

/-! ## What a request adds -/

/-- The call that the next accepted request makes. -/
def nextCall (request : Request) (p : Pipeline) : Call :=
  ⟨p.nextTicket, request.command⟩

/-- The pipeline once it holds a request back. -/
def held (request : Request) (p : Pipeline) : Pipeline :=
  { p with
    buffer := p.buffer ++ request.wire p.encoding
    calls := p.calls ++ [p.nextCall request]
    unwritten := p.unwritten + 1
    nextTicket := p.nextTicket + 1 }

/-- The request, if queueing it gets as far as its bytes. -/
def submits (request : Request) (p : Pipeline) : List Request :=
  match p.checkAccepting, request.encode p.encoding with
  | .ok (), .ok _ => [request]
  | _, _ => []

/-- The call of the request, if queueing it gets as far as a ticket. -/
def pushes (request : Request) (p : Pipeline) : List Call :=
  if (p.queue request).2.nextTicket = p.nextTicket then [] else [p.nextCall request]

/-! ## Moves -/

/-- One thing that happens to a pipeline, with what it takes in. -/
inductive Move : Pipeline → Journal → Pipeline → Prop
  /-- A chunked pipeline takes a request and holds its bytes back. -/
  | hold {p : Pipeline} {request : Request} (hready : p.state = .ready)
      (hopen : p.closing = false) (hcheck : request.check = .ok ())
      (hmode : p.writeMode = .chunked) :
      Move p ⟨[request], [p.nextCall request], []⟩ (p.held request)
  /-- An immediate pipeline takes a request and writes it. -/
  | send {p : Pipeline} {request : Request} {sink : Sink} (hready : p.state = .ready)
      (hopen : p.closing = false) (hcheck : request.check = .ok ())
      (hmode : p.writeMode = .immediate)
      (hwrite : p.sink.transmit (p.buffer ++ request.wire p.encoding) = (.ok (), sink)) :
      Move p ⟨[request], [p.nextCall request], []⟩
        { p with
          sink := sink
          buffer := []
          calls := p.calls ++ [p.nextCall request]
          nextTicket := p.nextTicket + 1 }
  /-- An immediate pipeline takes a request and fails to write it. -/
  | sendFails {p : Pipeline} {request : Request} {sink : Sink} {cause : TransportError}
      (runs : Nat) (hready : p.state = .ready) (hopen : p.closing = false)
      (hcheck : request.check = .ok ()) (hmode : p.writeMode = .immediate)
      (hwrite : p.sink.transmit (p.buffer ++ request.wire p.encoding) = (.error cause, sink)) :
      Move p ⟨[request], [], []⟩
        (failAll (.ofError (.transport cause))
          { p with sink := sink, buffer := [], hookRuns := runs })
  /-- What is held back is written. -/
  | deliver {p : Pipeline} {sink : Sink} (hready : p.state = .ready)
      (hwrite : p.sink.transmit p.buffer = (.ok (), sink)) :
      Move p .empty { p with sink := sink, buffer := [], unwritten := 0 }
  /-- What is held back cannot be written. -/
  | deliverFails {p : Pipeline} {sink : Sink} {cause : TransportError} (runs : Nat)
      (hready : p.state = .ready) (hwrite : p.sink.transmit p.buffer = (.error cause, sink)) :
      Move p .empty
        (failAll (.ofError (.transport cause))
          { p with sink := sink, buffer := [], hookRuns := runs })
  /-- What is held back is given up, because no more requests are taken. -/
  | discard {p : Pipeline} (hclosed : p.state = .ready → p.closing = true) :
      Move p .empty { p with buffer := [] }
  /-- No more requests are taken. -/
  | stop {p : Pipeline} (hnothing : p.state = .ready → p.buffer = []) :
      Move p .empty { p with closing := true }
  /-- The oldest call is answered with its reply. -/
  | answer {p : Pipeline} {call : Call} {rest : List Call} {response : Response}
      {channel : Channel} (hready : p.state = .ready) (hcalls : p.calls = call :: rest)
      (hwritten : p.unwritten ≤ rest.length)
      (hread : (Response.unread call.command).read p.channel = (.ok (), response, channel))
      (hstays : response.isTerminal = false) :
      Move p .empty
        { p with
          channel := channel
          calls := rest
          results := p.results ++ [(call, .ok response)] }
  /-- The oldest call is answered with a reply that ends the connection. -/
  | answerLast {p : Pipeline} {call : Call} {rest : List Call} {response : Response}
      {channel : Channel} (hready : p.state = .ready) (hcalls : p.calls = call :: rest)
      (hwritten : p.unwritten ≤ rest.length)
      (hread : (Response.unread call.command).read p.channel = (.ok (), response, channel))
      (hterminal : response.isTerminal = true) :
      Move p .empty
        (failAll (.closedBy call.command.name)
          { p with
            channel := channel
            calls := rest
            results := p.results ++ [(call, .ok response)] })
  /-- The oldest call is answered with the failure to read its reply. -/
  | answerError {p : Pipeline} {call : Call} {rest : List Call} {response : Response}
      {channel : Channel} {e : Error} (hready : p.state = .ready)
      (hcalls : p.calls = call :: rest) (hwritten : p.unwritten ≤ rest.length)
      (hread : (Response.unread call.command).read p.channel = (.error e, response, channel))
      (harrived : e ≠ .transport .wouldBlock) :
      Move p .empty
        (failAll (.ofError e)
          { p with
            channel := channel
            calls := rest
            results := p.results ++ [(call, .error e)] })
  /-- An event arrives. -/
  | arrive {p : Pipeline} (event : SourceEvent) : Move p ⟨[], [], [event]⟩ (p.arrive event)

/-! ## Paths -/

/-- Some moves, one after the other, with all that they take in. -/
inductive Path : Pipeline → Journal → Pipeline → Prop
  | refl (p : Pipeline) : Path p .empty p
  | snoc {p q r : Pipeline} {j k : Journal} (path : Path p j q) (move : Move q k r) :
      Path p (j.append k) r

theorem Path.single {p q : Pipeline} {j : Journal} (move : Move p j q) : Path p j q := by
  have h := Path.snoc (.refl p) move
  rwa [Journal.empty_append] at h

theorem Path.trans {p q r : Pipeline} {j k : Journal} (first : Path p j q)
    (second : Path q k r) : Path p (j.append k) r := by
  induction second with
  | refl => rwa [Journal.append_empty]
  | snoc _ move ih =>
    rw [← Journal.append_assoc]
    exact .snoc ih move

/-- What every move preserves, every path preserves. -/
theorem Path.preserves {Inv : Journal → Pipeline → Prop}
    (hmove : ∀ {j k p q}, Inv j p → Move p k q → Inv (j.append k) q)
    {j k : Journal} {p q : Pipeline} (path : Path p k q) (h : Inv j p) :
    Inv (j.append k) q := by
  induction path with
  | refl => rwa [Journal.append_empty]
  | snoc _ move ih =>
    rw [← Journal.append_assoc]
    exact hmove ih move

end Pipeline

end KeyValueClient
