import KeyValueClient.Proofs.Connection.Outcomes
import KeyValueClient.Proofs.Pipeline.Serving

/-!
# The same service on every connection

Requests that are made one after the other are answered alike on a blocking connection and
on a pipeline, whether it writes at once or in chunks, and with any threshold: with the same
results, the same bytes on the wire during each call, and the same state after it.  This
holds for requests that fail their checks and for writes that are short, interrupted or fail.

Main results:

- Theorem `Mirrors.service`: two connections that mirror each other answer a request alike
  and still mirror each other.
- Theorem `Pipeline.observeAll_eq`: so do whole runs of requests.
-/

namespace KeyValueClient

/-! ## What is seen of a call -/

/-- What its caller and the peer see of a call. -/
structure Observation where
  result : Result Response
  /-- The bytes that the peer took during the call. -/
  taken : Bytes
  /-- The state of the connection after the call. -/
  state : ConnectionState

namespace Session

/-- What is seen of requests that are made one after the other, whatever comes of them. -/
def observeAll {σ : Type} (service : Request → σ → Result Response × σ) (sink : σ → Sink)
    (state : σ → ConnectionState) : List Request → σ → List Observation
  | [], _ => []
  | request :: rest, connection =>
    let (result, after) := service request connection
    let taken := (sink after).sent.drop (sink connection).sent.length
    ⟨result, taken, state after⟩ :: observeAll service sink state rest after

end Session

/-- What is seen of some requests on a blocking connection. -/
def BlockingConnection.observeAll (requests : List Request) (c : BlockingConnection) :
    List Observation :=
  Session.observeAll service sink state requests c

/-- What is seen of some requests on a pipeline that serves one at a time. -/
def Pipeline.observeAll (requests : List Request) (p : Pipeline) : List Observation :=
  Session.observeAll service sink state requests p

/-! ## Two connections side by side -/

/-- A blocking connection and a pipeline that have served the same requests. -/
structure Mirrors (c : BlockingConnection) (p : Pipeline) : Prop where
  sink : p.sink = c.sink
  encoding : p.encoding = c.encoding
  state : p.state = c.state
  ordered : ∃ j, Pipeline.Ordered j p
  -- A faulted connection is never read again, so the stream matters only while it is ready.
  idle : c.state = .ready → p.Idle
  channel : c.state = .ready → p.channel = c.channel
  ends : c.state = .ready → c.channel.source.Ends

namespace Mirrors

variable {c : BlockingConnection} {p : Pipeline}

/-- New connections over the same stream mirror each other. -/
theorem onStream {source : Source} (hends : source.Ends) (sink : Sink) (config : Config)
    (mode : WriteMode) (threshold : Option Nat) :
    Mirrors (.onStream source sink config)
      (.onStream source sink { config with writeMode := mode, flushThreshold := threshold }) :=
  ⟨rfl, rfl, rfl, ⟨.empty, rfl, rfl, rfl⟩, fun _ => ⟨rfl, rfl, rfl, rfl, rfl⟩, fun _ => rfl,
    fun _ => hends⟩

/-- Connections with the same fault mirror each other. -/
theorem of_faulted {fault : Fault} (hsink : p.sink = c.sink) (hencoding : p.encoding = c.encoding)
    (hordered : ∃ j, Pipeline.Ordered j p) (hc : c.state = .faulted fault)
    (hp : p.state = .faulted fault) : Mirrors c p := by
  have hnever : ∀ {P : Prop}, c.state = .ready → P := by
    intro P hready
    rw [hc] at hready
    contradiction
  exact ⟨hsink, hencoding, hp.trans hc.symm, hordered, hnever, hnever, hnever⟩

/-- A request that is written is answered alike. -/
theorem service_sent (h : Mirrors c p) {request : Request} {sink : Sink}
    (hready : c.state = .ready) (hcheck : request.check = .ok ())
    (hwrite : c.sink.transmit (request.wire c.encoding) = (.ok (), sink)) :
    (p.service request).1 = (c.service request).1 ∧
      Mirrors (c.service request).2 (p.service request).2 := by
  have hidle := h.idle hready
  rcases h.ordered with ⟨j, hordered⟩
  have hafter := hordered.service request
  have hblocking := BlockingConnection.service_written hready hcheck hwrite
  rcases hread : (Response.unread request.command).read c.channel with ⟨result, response, channel⟩
  have harrived : result ≠ .error (.transport .wouldBlock) := by
    rintro rfl
    exact Outcome.read_ne_wouldBlock (h.ends hready) (Response.error_of_read hread) rfl
  rw [← h.sink, ← h.encoding] at hwrite
  have hpipeline := hidle.service_sent hordered hcheck hwrite
    (by rw [h.channel hready]; exact hread) harrived
  rw [hread] at hblocking
  rw [hpipeline] at hafter ⊢
  rw [hblocking]
  have hp : p.state = .ready := hidle.ready
  cases result with
  | ok _ =>
    refine ⟨rfl, ?_⟩
    have hcommand := Response.command_of_read hread
    simp only [Pipeline.answer, BlockingConnection.settle, hcommand] at hafter ⊢
    cases hterminal : response.isTerminal with
    | true =>
      simp only [hterminal] at hafter
      refine .of_faulted rfl h.encoding hafter rfl ?_
      simp [Pipeline.failAll, Pipeline.resolve, Pipeline.sent, hp, ConnectionState.fail,
        Pipeline.nextCall]
    | false =>
      simp only [hterminal] at hafter
      have hends := Response.ends_of_read (h.ends hready) hread hterminal
      have hopen : (Pipeline.sent request sink p).closing = false := hidle.opened
      exact ⟨rfl, h.encoding, h.state, hafter, fun _ => ⟨hp, hopen, rfl, rfl, rfl⟩,
        fun _ => rfl, fun _ => hends⟩
  | error e =>
    refine ⟨rfl, ?_⟩
    have hfatal := (Response.isStream_of_read hread).isFatal
    dsimp only
    rw [BlockingConnection.fail_ready hfatal (by exact hready)]
    refine .of_faulted rfl h.encoding hafter rfl ?_
    simp [Pipeline.answer, Pipeline.failAll, Pipeline.resolve, Pipeline.sent, hp,
      ConnectionState.fail]

/-- Both answer a request alike and mirror each other afterwards. -/
theorem service (h : Mirrors c p) (request : Request) :
    (p.service request).1 = (c.service request).1 ∧
      Mirrors (c.service request).2 (p.service request).2 := by
  cases hstate : c.state with
  | faulted fault =>
    have hpipeline : p.service request = (.error (.faulted fault), p) := by
      rw [Pipeline.service, Pipeline.queue_faulted (h.state.trans hstate)]
    rw [hpipeline, BlockingConnection.service_faulted hstate]
    exact ⟨rfl, h⟩
  | ready =>
    cases hcheck : request.check with
    | error e =>
      rw [(h.idle hstate).service_refused hcheck,
        BlockingConnection.service_refused hstate hcheck]
      exact ⟨rfl, h⟩
    | ok _ =>
      rcases hwrite : c.sink.transmit (request.wire c.encoding) with ⟨written, sink⟩
      cases written with
      | ok _ => exact h.service_sent hstate hcheck hwrite
      | error cause =>
        have hblocking := BlockingConnection.service_lost hstate hcheck hwrite
        rw [← h.sink, ← h.encoding] at hwrite
        rcases (h.idle hstate).service_lost hcheck hwrite with
          ⟨q, hpipeline, hsink, hencoding, hfault⟩
        rcases h.ordered with ⟨j, hordered⟩
        have hafter := hordered.service request
        rw [hpipeline] at hafter ⊢
        rw [hblocking]
        exact ⟨rfl, .of_faulted hsink (hencoding.trans h.encoding) hafter rfl hfault⟩

end Mirrors

/-! ## Runs of requests -/

/-- Connections that mirror each other are seen alike. -/
theorem Mirrors.observeAll {c : BlockingConnection} {p : Pipeline} (h : Mirrors c p)
    (requests : List Request) : p.observeAll requests = c.observeAll requests := by
  induction requests generalizing c p with
  | nil => rfl
  | cons request rest ih =>
    rcases h.service request with ⟨hresult, hafter⟩
    have hrest := ih hafter
    simp only [Pipeline.observeAll, BlockingConnection.observeAll] at hrest
    simp only [Pipeline.observeAll, BlockingConnection.observeAll, Session.observeAll, hrest,
      hresult, h.sink, hafter.sink, hafter.state]

/-- On a stream that ends, requests made one after the other are seen alike on a blocking
connection and on a pipeline, whatever its write mode and its threshold, and whatever becomes
of the writes. -/
theorem Pipeline.observeAll_eq (source : Source) (hends : source.Ends) (sink : Sink)
    (config : Config) (mode : WriteMode) (threshold : Option Nat) (requests : List Request) :
    Pipeline.observeAll requests
        (.onStream source sink
          { config with writeMode := mode, flushThreshold := threshold }) =
      BlockingConnection.observeAll requests (.onStream source sink config) :=
  (Mirrors.onStream hends sink config mode threshold).observeAll requests

/-- A writer that is interrupted and takes two bytes first, a request without its argument, a
flush that fails, and a request behind it, on a pipeline with a threshold. -/
theorem Pipeline.observeAll_eq_failedFlush :
    let source : Source :=
      ⟨[.data (Bytes.ofText "+PONG\r\n:"), .interrupted, .data (Bytes.ofText "3\r\n")], .gone⟩
    let sink : Sink :=
      .scripted [none, some (.takes 2), none] .takesAll
        [none, none, some (.reported "broken")] none
    let requests : List Request :=
      [⟨.ping, []⟩, ⟨.get, []⟩, ⟨.dbSize, []⟩, ⟨.ping, []⟩, ⟨.ping, []⟩]
    let config : Config := { Config.default with writeMode := .chunked, flushThreshold := some 7 }
    source.Ends ∧
      Pipeline.observeAll requests (.onStream source sink config) =
        BlockingConnection.observeAll requests (.onStream source sink .default) := by
  intro source sink requests config
  have hends : source.Ends := ⟨by decide, by decide⟩
  exact ⟨hends, Pipeline.observeAll_eq source hends sink .default .chunked (some 7) requests⟩

end KeyValueClient
