import KeyValueClient.Proofs.Pipeline.Moves
import KeyValueClient.Proofs.Reading.Sequence
import KeyValueClient.Proofs.Writing.Transmission
import Mathlib.Tactic.ByContra

/-!
# The ledger of a pipeline

The results of a pipeline are the replies of its channel, read one after the other for
the calls at the front of the queue.  Once the pipeline is faulted they end: with a
reply that closed the connection, with the error that the reader met, or because a
write failed; and all other calls are answered with the fault.

Main results:

- Theorem `Pipeline.Move.ledger`: every move keeps the ledger.
- Theorem `Pipeline.Ledger.arrive`: so does an arrival, with respect to the channel on
  which it has arrived.
-/

namespace KeyValueClient

namespace Source

/-- A source after some more events have arrived. -/
def receive (events : List SourceEvent) (s : Source) : Source :=
  { s with events := s.events ++ events }

/-- These events may still arrive: a peer that has gone sends nothing more. -/
def MaySend (s : Source) (events : List SourceEvent) : Prop :=
  s.silence = .gone → events = []

end Source

namespace Pipeline

open Response (Reads)

/-! ## Entries -/

/-- The results of calls that were answered with responses. -/
def answeredEntries (answered : List (Call × Response)) : List (Call × Result Response) :=
  answered.map fun entry => (entry.1, .ok entry.2)

/-- The results of calls that a fault failed. -/
def failedEntries (fault : Fault) (failed : List Call) : List (Call × Result Response) :=
  failed.map fun call => (call, .error (.faulted fault))

/-- The result is not the report of a fault. -/
def IsOriginal (result : Result Response) : Prop :=
  ∀ fault, result ≠ .error (.faulted fault)

/-- An original result stands before those that a fault failed. -/
theorem lt_of_isOriginal {read : List (Call × Result Response)} {fault : Fault}
    {failed : List Call} {k : Nat} {entry : Call × Result Response}
    (hentry : (read ++ failedEntries fault failed)[k]? = some entry)
    (horiginal : IsOriginal entry.2) : k < read.length := by
  by_contra hbehind
  rw [List.getElem?_append_right (by omega)] at hentry
  rcases List.mem_map.1 (List.mem_of_getElem? hentry) with ⟨call, _, rfl⟩
  exact horiginal fault rfl

/-- The answers are the replies on a channel, in order, each read for its own call. -/
structure Answers (ch : Channel) (answered : List (Call × Response)) (ch' : Channel) :
    Prop where
  reads : Reads ch (answered.map Prod.snd) ch'
  own : ∀ entry ∈ answered, entry.2.command = entry.1.command

theorem Answers.nil (ch : Channel) : Answers ch [] ch :=
  ⟨.nil, by simp⟩

theorem Answers.snoc {ch mid ch' : Channel} {answered : List (Call × Response)} {call : Call}
    {response : Response} (before : Answers ch answered mid)
    (hread : (Response.unread call.command).read mid = (.ok (), response, ch'))
    (hstays : response.isTerminal = false) :
    Answers ch (answered ++ [(call, response)]) ch' := by
  constructor
  · rw [List.map_append]
    exact .snoc before.reads hread hstays
  · intro entry hentry
    rcases List.mem_append.1 hentry with hentry | hentry
    · exact before.own entry hentry
    · rw [List.mem_singleton.1 hentry]
      exact Response.command_of_read hread

/-! ## Ledgers -/

/-- How the reading of replies came to its end, with the fault it left behind. -/
inductive Ended (ch : Channel) (sink : Sink) (fault : Fault) :
    List (Call × Result Response) → Prop
  /-- A write failed. -/
  | lost {answered : List (Call × Response)} {ch' : Channel}
      (answers : Answers ch answered ch') (failed : sink.failed = true) :
      Ended ch sink fault (answeredEntries answered)
  /-- A reply closed the connection. -/
  | closed {answered : List (Call × Response)} {mid ch' : Channel} {call : Call}
      {response : Response} (answers : Answers ch answered mid)
      (read : (Response.unread call.command).read mid = (.ok (), response, ch'))
      (terminal : response.isTerminal = true) (cause : fault = .closedBy call.command.name) :
      Ended ch sink fault (answeredEntries (answered ++ [(call, response)]))
  /-- A reply could not be read. -/
  | broken {answered : List (Call × Response)} {mid ch' : Channel} {call : Call}
      {response : Response} {e : Error} (answers : Answers ch answered mid)
      (read : (Response.unread call.command).read mid = (.error e, response, ch'))
      (arrived : e ≠ .transport .wouldBlock) (cause : fault = .ofError e) :
      Ended ch sink fault (answeredEntries answered ++ [(call, .error e)])

/-- The results of a pipeline are the replies on a channel, up to the fault if there is
one. -/
inductive Ledger (ch : Channel) (p : Pipeline) : Prop
  | running {answered : List (Call × Response)} (state : p.state = .ready)
      (results : p.results = answeredEntries answered)
      (answers : Answers ch answered p.channel)
  | faulted {fault : Fault} {read : List (Call × Result Response)} {failed : List Call}
      (state : p.state = .faulted fault) (calls : p.calls = []) (unwritten : p.unwritten = 0)
      (results : p.results = read ++ failedEntries fault failed)
      (ended : Ended ch p.sink fault read)

namespace Ledger

variable {ch : Channel} {p : Pipeline}

/-- A new pipeline has answered nothing. -/
theorem onStream (source : Source) (sink : Sink) (config : Config) :
    Ledger (config.channel source) (.onStream source sink config) :=
  .running rfl rfl (.nil _)

/-- While it is ready, a pipeline has only answered calls with replies. -/
theorem answers_of_ready (h : Ledger ch p) (hready : p.state = .ready) :
    ∃ answered, p.results = answeredEntries answered ∧ Answers ch answered p.channel := by
  cases h with
  | running state results answers => exact ⟨_, results, answers⟩
  | faulted state =>
    rw [hready] at state
    contradiction

/-- A faulted pipeline has no call left, and its results end with the fault. -/
theorem ended_of_faulted {fault : Fault} (h : Ledger ch p) (hfault : p.state = .faulted fault) :
    p.calls = [] ∧ ∃ read failed, p.results = read ++ failedEntries fault failed ∧
      Ended ch p.sink fault read := by
  cases h with
  | running state =>
    rw [hfault] at state
    contradiction
  | @faulted fault' read failed state calls unwritten results ended =>
    have hsame : fault' = fault := ConnectionState.faulted.inj (state.symm.trans hfault)
    subst hsame
    exact ⟨calls, read, failed, results, ended⟩

/-- A ledger speaks of the state, the queue, the results and where the reader stands. -/
theorem congr {q : Pipeline} (h : Ledger ch p) (hstate : q.state = p.state)
    (hcalls : q.calls = p.calls) (hunwritten : q.unwritten = p.unwritten)
    (hresults : q.results = p.results) (hchannel : q.channel = p.channel)
    (hsink : q.sink = p.sink) : Ledger ch q := by
  cases h with
  | running state results answers =>
    exact .running (hstate.trans state) (hresults.trans results) (hchannel ▸ answers)
  | faulted state calls unwritten results ended =>
    exact .faulted (hstate.trans state) (hcalls.trans calls) (hunwritten.trans unwritten)
      (hresults.trans results) (hsink ▸ ended)

end Ledger

/-- A pipeline that was ready and failed all its calls has the ledger of its end. -/
theorem ledger_failAll {ch : Channel} {p : Pipeline} {fault : Fault}
    {read : List (Call × Result Response)} (hready : p.state = .ready)
    (hresults : p.results = read) (hended : Ended ch p.sink fault read) :
    Ledger ch (p.failAll fault) := by
  have hstate : (p.failAll fault).state = .faulted fault := by
    simp [failAll, hready, ConnectionState.fail]
  have hresults' : (p.failAll fault).results = read ++ failedEntries fault p.calls := by
    simp [failAll, hresults, failedEntries]
  exact .faulted hstate rfl rfl hresults' hended

/-- Every move keeps the ledger, unless something arrives. -/
theorem Move.ledger {ch : Channel} {p q : Pipeline} {j : Journal} (move : Move p j q)
    (hquiet : j.arrived = []) (h : Ledger ch p) : Ledger ch q := by
  cases move with
  | hold hready =>
    rcases h.answers_of_ready hready with ⟨answered, hresults, hanswers⟩
    exact .running hready hresults hanswers
  | send hready =>
    rcases h.answers_of_ready hready with ⟨answered, hresults, hanswers⟩
    exact .running hready hresults hanswers
  | sendFails runs hready _ _ _ hwrite =>
    rcases h.answers_of_ready hready with ⟨answered, hresults, hanswers⟩
    exact ledger_failAll hready hresults (.lost hanswers (Sink.transmit_error hwrite).1)
  | deliver hready =>
    rcases h.answers_of_ready hready with ⟨answered, hresults, hanswers⟩
    exact .running hready hresults hanswers
  | deliverFails runs hready hwrite =>
    rcases h.answers_of_ready hready with ⟨answered, hresults, hanswers⟩
    exact ledger_failAll hready hresults (.lost hanswers (Sink.transmit_error hwrite).1)
  | discard => exact h.congr rfl rfl rfl rfl rfl rfl
  | stop => exact h.congr rfl rfl rfl rfl rfl rfl
  | answer hready _ _ hread hstays =>
    rcases h.answers_of_ready hready with ⟨answered, hresults, hanswers⟩
    refine .running hready ?_ (hanswers.snoc hread hstays)
    simp [hresults, answeredEntries]
  | answerLast hready _ _ hread hterminal =>
    rcases h.answers_of_ready hready with ⟨answered, hresults, hanswers⟩
    refine ledger_failAll hready ?_ (.closed hanswers hread hterminal rfl)
    simp [hresults, answeredEntries]
  | answerError hready _ _ hread harrived =>
    rcases h.answers_of_ready hready with ⟨answered, hresults, hanswers⟩
    refine ledger_failAll hready ?_ (.broken hanswers hread harrived rfl)
    simp [hresults]
  | arrive event => simp at hquiet

/-! ## Arrivals -/

theorem Answers.followedBy {ch ch' : Channel} {answered : List (Call × Response)}
    (h : Answers ch answered ch') (hwait : ch.source.silence = .waiting) (more : Source) :
    Answers (ch.followedBy more) answered (ch'.followedBy more) ∧
      ch'.source.silence = .waiting := by
  rcases h.reads.followedBy hwait more with ⟨hreads, hsilence⟩
  exact ⟨⟨hreads, h.own⟩, hsilence⟩

/-- What ended the reading stays what it is when more arrives. -/
theorem Ended.followedBy {ch : Channel} {sink : Sink} {fault : Fault}
    {read : List (Call × Result Response)} (h : Ended ch sink fault read)
    (hwait : ch.source.silence = .waiting) (more : Source) :
    Ended (ch.followedBy more) sink fault read := by
  cases h with
  | lost answers failed => exact .lost (answers.followedBy hwait more).1 failed
  | closed answers read terminal cause =>
    rcases answers.followedBy hwait more with ⟨hanswers, hmid⟩
    have hread := (Response.read_followedBy hmid read (by simp) more).1
    exact .closed hanswers hread terminal cause
  | broken answers read arrived cause =>
    rcases answers.followedBy hwait more with ⟨hanswers, hmid⟩
    have hread := (Response.read_followedBy hmid read (by simpa using arrived) more).1
    exact .broken hanswers hread arrived cause

/-- An arrival keeps the ledger, with respect to the channel on which it has arrived. -/
theorem Ledger.arrive {ch : Channel} {p : Pipeline} (h : Ledger ch p)
    (hwait : ch.source.silence = .waiting) (event : SourceEvent) :
    Ledger (ch.followedBy ⟨[event], .waiting⟩) (p.arrive event) := by
  cases h with
  | running state results answers =>
    rcases answers.followedBy hwait ⟨[event], .waiting⟩ with ⟨hanswers, hsilence⟩
    refine .running state results ?_
    have hchannel : (p.arrive event).channel = p.channel.followedBy ⟨[event], .waiting⟩ := by
      simp [Pipeline.arrive, Channel.followedBy, Source.append, Source.followedBy, hsilence]
    rwa [hchannel]
  | faulted state calls unwritten results ended =>
    exact .faulted state calls unwritten results (ended.followedBy hwait _)

/-! ## Whole paths -/

theorem channel_receive_append {source : Source} {config : Config}
    (hwait : source.silence = .waiting) (before : List SourceEvent) (event : SourceEvent) :
    config.channel (source.receive (before ++ [event])) =
      (config.channel (source.receive before)).followedBy ⟨[event], .waiting⟩ := by
  simp [Config.channel, Channel.fresh, Channel.followedBy, Source.receive, Source.followedBy,
    hwait]

/-- After a path from a new pipeline, the results are the replies on all that has
arrived. -/
theorem Path.ledger {source : Source} {sink : Sink} {config : Config} {j : Journal}
    {p : Pipeline} (path : Path (.onStream source sink config) j p)
    (hsends : source.MaySend j.arrived) :
    Ledger (config.channel (source.receive j.arrived)) p := by
  let Inv : Journal → Pipeline → Prop := fun j p =>
    source.MaySend j.arrived → Ledger (config.channel (source.receive j.arrived)) p
  have hmove : ∀ {j k p q}, Inv j p → Move p k q → Inv (j.append k) q := by
    intro j k p q hinv move hquiet
    have hboth : source.silence = .gone → j.arrived = [] ∧ k.arrived = [] := by
      simpa [Source.MaySend, Journal.append] using hquiet
    have hledger := hinv fun hsilence => (hboth hsilence).1
    by_cases harrived : k.arrived = []
    · simpa [Journal.append, harrived] using move.ledger harrived hledger
    · cases move with
      | arrive event =>
        have hwait : source.silence = .waiting := by
          cases hsilence : source.silence with
          | gone => exact absurd (hboth hsilence).2 harrived
          | waiting => rfl
        simp only [Journal.append]
        rw [channel_receive_append hwait]
        exact hledger.arrive hwait event
      | _ => exact absurd rfl harrived
  have hstart : Inv .empty (.onStream source sink config) := by
    intro _
    simpa [Journal.empty, Source.receive] using Ledger.onStream source sink config
  have hend := path.preserves hmove hstart
  rw [Journal.empty_append] at hend
  exact hend hsends

end Pipeline

end KeyValueClient
