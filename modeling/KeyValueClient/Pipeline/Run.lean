import KeyValueClient.Pipeline.Handle

/-!
# Runs of a pipeline

A run is what a user does with a pipeline and the handles it was given, while events
arrive from the peer and the reader takes its turns.  The turns stand between the
operations of the user in any order, so a list of operations is a schedule.

Main results:

- Theorem `Client.run_append`: a run can be cut anywhere.
- Theorem `Client.step_handle_pipeline`: operations on handles leave the pipeline as
  it was.
-/

namespace KeyValueClient

/-- What is done with a handle. -/
inductive HandleOperation where
  | command
  | isReady
  | tryTake
  | waitTimeout
  | wait
  | drop
deriving DecidableEq, Repr

/-- One step of a run. -/
inductive Operation where
  | queue (request : Request)
  | flush
  | service (request : Request)
  | close
  /-- An operation on the handle of this number. -/
  | handle (number : Nat) (operation : HandleOperation)
  /-- An event arrives from the peer. -/
  | arrive (event : SourceEvent)
  /-- The reader takes one turn. -/
  | readStep
  /-- The reader runs until it has to wait or has stopped. -/
  | drain
deriving DecidableEq, Repr

/-- What a step answers. -/
inductive Answer where
  /-- The number of the handle that was given out. -/
  | handle (result : Result Nat)
  | done (result : Result Unit)
  | response (result : Result Response)
  | command (command : Command)
  | ready (isReady : Bool)
  /-- There is no result yet. -/
  | nothing
  /-- There is no result yet, and waiting for it would block. -/
  | blocked
  /-- There is no such handle. -/
  | noHandle
  /-- The step has no answer. -/
  | silent

/-- A user of a pipeline: the pipeline, and the handles given out, by number; a
handle that was given up is gone. -/
structure Client where
  pipeline : Pipeline
  handles : List (Option Handle)

namespace Client

/-- The user of a new pipeline. -/
def ofPipeline (pipeline : Pipeline) : Client :=
  ⟨pipeline, []⟩

/-! ## Handles -/

/-- The answer to an operation on a handle, and the handle after it. -/
def handleStep (operation : HandleOperation) (h : Handle) (p : Pipeline) :
    Answer × Option Handle :=
  match operation with
  | .command => (.command h.command, some h)
  | .isReady => (.ready (h.isReady p), some h)
  | .tryTake =>
    match h.tryTake p with
    | (some result, h) => (.response result, some h)
    | (none, h) => (.nothing, some h)
  | .waitTimeout =>
    let (result, h) := h.waitTimeout p
    (.response result, some h)
  | .wait =>
    match h.wait p with
    | some result => (.response result, none)
    | none => (.blocked, some h)
  | .drop => (.silent, none)

/-- Do something with the handle of a number. -/
def withHandle (number : Nat) (operation : HandleOperation) (c : Client) : Answer × Client :=
  match c.handles[number]? with
  | some (some h) =>
    let (answer, h) := handleStep operation h c.pipeline
    (answer, { c with handles := c.handles.set number h })
  | _ => (.noHandle, c)

/-! ## Steps and runs -/

/-- One step of a run. -/
def step (operation : Operation) (c : Client) : Answer × Client :=
  match operation with
  | .queue request =>
    match c.pipeline.queue request with
    | (.error e, p) => (.handle (.error e), { c with pipeline := p })
    | (.ok call, p) =>
      (.handle (.ok c.handles.length), ⟨p, c.handles ++ [some (.ofCall call)]⟩)
  | .flush =>
    let (result, p) := c.pipeline.flush
    (.done result, { c with pipeline := p })
  | .service request =>
    let (result, p) := c.pipeline.service request
    (.response result, { c with pipeline := p })
  | .close =>
    let (result, p) := c.pipeline.close
    (.done result, { c with pipeline := p })
  | .handle number operation => c.withHandle number operation
  | .arrive event => (.silent, { c with pipeline := c.pipeline.arrive event })
  | .readStep => (.silent, { c with pipeline := c.pipeline.readStep })
  | .drain => (.silent, { c with pipeline := c.pipeline.drain })

/-- A whole run: the answers in order, and the user after it. -/
def run : List Operation → Client → List Answer × Client
  | [], c => ([], c)
  | operation :: rest, c =>
    let (answer, c) := c.step operation
    let (answers, c) := run rest c
    (answer :: answers, c)

/-- The end of a run: the user gives the pipeline up, the peer goes, and the reader
runs to its end. -/
def finish (c : Client) : Client :=
  { c with pipeline := c.pipeline.abandon.peerGone.drain }

/-! ## Laws -/

/-- A run can be cut anywhere. -/
theorem run_append (first second : List Operation) (c : Client) :
    run (first ++ second) c =
      ((run first c).1 ++ (run second (run first c).2).1, (run second (run first c).2).2) := by
  induction first generalizing c with
  | nil => rfl
  | cons operation rest ih => simp [run, ih]

/-- Operations on handles leave the pipeline as it was. -/
theorem step_handle_pipeline (number : Nat) (operation : HandleOperation) (c : Client) :
    (c.step (.handle number operation)).2.pipeline = c.pipeline := by
  simp only [step, withHandle]
  split <;> rfl

end Client

end KeyValueClient
