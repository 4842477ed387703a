import KeyValueClient.Proofs.Pipeline.Ledger
import KeyValueClient.Proofs.Pipeline.Order

/-!
# Replies reach their own calls

Whatever a user does, in whatever order the reader takes its turns, calls are answered
in the order in which they joined the queue, and the call at a position is answered
with the reply at that position of the stream, read for the command of that call.  No
reply is left out, used twice or read for another call, also when handles were given
up.

Main results:

- Theorem `Pipeline.Ledger.replies`: the results of a pipeline are the replies read one
  after the other, and then the fault.
- Theorem `Client.run_inOrder`: every run answers its calls in order, each with its own
  reply.
-/

namespace KeyValueClient

namespace Pipeline

/-! ## Results grow -/

theorem results_failAll (fault : Fault) (p : Pipeline) :
    (p.failAll fault).results = p.results ++ failedEntries fault p.calls :=
  rfl

/-- A move takes back no result. -/
theorem Move.results {p q : Pipeline} {j : Journal} (move : Move p j q) :
    p.results <+: q.results := by
  cases move with
  | sendFails runs => exact List.prefix_append _ _
  | deliverFails runs => exact List.prefix_append _ _
  | answer => exact List.prefix_append _ _
  | answerLast =>
    rw [results_failAll, List.append_assoc]
    exact List.prefix_append _ _
  | answerError =>
    rw [results_failAll, List.append_assoc]
    exact List.prefix_append _ _
  | _ => exact List.prefix_rfl

theorem Path.results {p q : Pipeline} {j : Journal} (path : Path p j q) :
    p.results <+: q.results := by
  induction path with
  | refl => exact List.prefix_rfl
  | snoc _ move ih => exact ih.trans move.results

/-- The oldest call is answered first, with what was read for it. -/
theorem results_answer (call : Call) (rest : List Call) (outcome : Result Unit)
    (response : Response) (p : Pipeline) :
    ∃ more, (answer call rest outcome response p).results =
      p.results ++ (call, outcome.map fun _ => response) :: more := by
  cases outcome with
  | ok _ =>
    simp only [answer]
    split
    · rw [results_failAll]
      exact ⟨_, List.append_assoc _ _ _⟩
    · exact ⟨[], rfl⟩
  | error e =>
    simp only [answer]
    rw [results_failAll]
    exact ⟨_, List.append_assoc _ _ _⟩

/-- A turn of the reader answers the oldest call with its reply, once the call is written
and the reply has arrived. -/
theorem results_readStep {p : Pipeline} {call : Call} {rest : List Call}
    (hready : p.state = .ready) (hhead : p.writtenHead? = some (call, rest))
    (harrived : (Response.readOne call.command p.channel).1 ≠ .error (.transport .wouldBlock)) :
    ∃ more, p.readStep.results =
      p.results ++ (call, (Response.readOne call.command p.channel).1) :: more := by
  rcases hread : (Response.unread call.command).read p.channel with ⟨outcome, response, channel⟩
  have hcame : outcome ≠ .error (.transport .wouldBlock) := by
    rintro rfl
    rw [Response.readOne_error hread] at harrived
    exact harrived rfl
  have hone : (Response.readOne call.command p.channel).1 = outcome.map fun _ => response := by
    simp [Response.readOne, hread]
  rw [readStep_eq hready hhead hread hcame, hone]
  exact results_answer call rest outcome response { p with channel := channel }

/-! ## Results are replies -/

/-- The commands of the calls of some results. -/
def commandsOf (results : List (Call × Result Response)) : List Command :=
  results.map fun entry => entry.1.command

theorem commandsOf_answeredEntries {ch ch' : Channel} {answered : List (Call × Response)}
    (h : Answers ch answered ch') :
    commandsOf (answeredEntries answered) = (answered.map Prod.snd).map Response.command := by
  simp only [commandsOf, answeredEntries, List.map_map]
  apply List.map_congr_left
  intro entry hentry
  exact (h.own entry hentry).symm

theorem readEach_answeredEntries {ch ch' : Channel} {answered : List (Call × Response)}
    (h : Answers ch answered ch') :
    Response.readEach (commandsOf (answeredEntries answered)) ch =
      ((answeredEntries answered).map Prod.snd, ch') := by
  rw [commandsOf_answeredEntries h, h.reads.readEach]
  simp [answeredEntries]

/-- One more reading after some answers gives one more result. -/
theorem readEach_snoc {ch mid ch' : Channel} {answered : List (Call × Response)} {call : Call}
    {result : Result Response} (h : Answers ch answered mid)
    (hread : Response.readOne call.command mid = (result, ch')) :
    (Response.readEach (commandsOf (answeredEntries answered ++ [(call, result)])) ch).1 =
      (answeredEntries answered ++ [(call, result)]).map Prod.snd := by
  have happend : commandsOf (answeredEntries answered ++ [(call, result)]) =
      commandsOf (answeredEntries answered) ++ [call.command] := by
    simp [commandsOf]
  rw [happend, Response.readEach_append, readEach_answeredEntries h]
  simp [Response.readEach, hread]

theorem exists_of_mem_answeredEntries {answered : List (Call × Response)}
    {entry : Call × Result Response} (h : entry ∈ answeredEntries answered) :
    ∃ response, entry.2 = .ok response := by
  rcases List.mem_map.1 h with ⟨answer, _, rfl⟩
  exact ⟨answer.2, rfl⟩

/-- The results that were read are the replies, one after the other; all but the last
of them are responses. -/
theorem Ended.replies {ch : Channel} {sink : Sink} {fault : Fault}
    {read : List (Call × Result Response)} (h : Ended ch sink fault read) :
    (Response.readEach (commandsOf read) ch).1 = read.map Prod.snd ∧
      ∀ entry ∈ read.dropLast, ∃ response, entry.2 = .ok response := by
  cases h with
  | lost answers failed =>
    constructor
    · rw [readEach_answeredEntries answers]
    · intro entry hentry
      exact exists_of_mem_answeredEntries (List.dropLast_subset _ hentry)
  | closed answers read terminal cause =>
    constructor
    · simpa [answeredEntries] using readEach_snoc answers (Response.readOne_ok read)
    · intro entry hentry
      exact exists_of_mem_answeredEntries (List.dropLast_subset _ hentry)
  | broken answers read arrived cause =>
    constructor
    · exact readEach_snoc answers (Response.readOne_error read)
    · intro entry hentry
      rw [List.dropLast_concat] at hentry
      exact exists_of_mem_answeredEntries hentry

/-- The results of a pipeline are the replies read one after the other, and then the
fault. -/
theorem Ledger.replies {ch : Channel} {p : Pipeline} (h : Ledger ch p) :
    ∃ read failed fault, p.results = read ++ failedEntries fault failed ∧
      (Response.readEach (commandsOf read) ch).1 = read.map Prod.snd ∧
      ∀ entry ∈ read.dropLast, ∃ response, entry.2 = .ok response := by
  cases h with
  | @running answered state results answers =>
    refine ⟨answeredEntries answered, [], .closedByCaller, ?_, ?_, ?_⟩
    · simp [results, failedEntries]
    · rw [readEach_answeredEntries answers]
    · intro entry hentry
      exact exists_of_mem_answeredEntries (List.dropLast_subset _ hentry)
  | faulted state calls unwritten results ended =>
    rcases ended.replies with ⟨hread, hresponses⟩
    exact ⟨_, _, _, results, hread, hresponses⟩

/-- A result other than the fault is the reply at its position, and the results before
it are responses. -/
theorem Ledger.reply_of_result {ch : Channel} {p : Pipeline} (h : Ledger ch p)
    {calls : List Call} (hanswered : p.results.map Prod.fst <+: calls) {k : Nat}
    {entry : Call × Result Response} (hentry : p.results[k]? = some entry)
    (horiginal : IsOriginal entry.2) :
    (Response.readEach (calls.map Call.command) ch).1[k]? = some entry.2 ∧
      ∀ i < k, ∃ response,
        (Response.readEach (calls.map Call.command) ch).1[i]? = some (.ok response) := by
  rcases h.replies with ⟨read, failed, fault, hresults, hread, hresponses⟩
  rcases hanswered with ⟨later, rfl⟩
  have hcommands : (p.results.map Prod.fst ++ later).map Call.command =
      commandsOf read ++ (failed ++ later).map Call.command := by
    simp [hresults, commandsOf, failedEntries, Function.comp_def]
  have hreplies : ∀ i < read.length,
      (Response.readEach ((p.results.map Prod.fst ++ later).map Call.command) ch).1[i]? =
        (read.map Prod.snd)[i]? := by
    intro i hi
    rw [hcommands, Response.readEach_append, hread]
    exact List.getElem?_append_left (by simpa using hi)
  rw [hresults] at hentry
  have hk : k < read.length := lt_of_isOriginal hentry horiginal
  rw [List.getElem?_append_left hk] at hentry
  constructor
  · rw [hreplies k hk]
    simp [hentry]
  · intro i hi
    have hi' : i < read.length := by omega
    have hmem : read[i] ∈ read.dropLast := by
      rw [List.mem_iff_getElem]
      exact ⟨i, by simp; omega, by simp⟩
    rcases hresponses _ hmem with ⟨response, hresponse⟩
    refine ⟨response, ?_⟩
    rw [hreplies i (by omega)]
    simp [List.getElem?_eq_getElem hi', hresponse]

end Pipeline

/-! ## Handles -/

/-- The call that a handle waits for. -/
def Handle.call (h : Handle) : Call :=
  ⟨h.ticket, h.command⟩

/-- Waiting leaves the handle as an attempt to take its result does. -/
theorem Handle.waitTimeout_handle (h : Handle) (p : Pipeline) :
    (h.waitTimeout p).2 = (h.tryTake p).2 := by
  unfold Handle.waitTimeout
  split <;> simp [*]

namespace Client

open Pipeline (IsOriginal)

/-- An operation on a handle leaves it a handle of the same call. -/
theorem handleStep_call {operation : HandleOperation} {h h' : Handle} {p : Pipeline}
    (hstep : (handleStep operation h p).2 = some h') : h'.call = h.call := by
  have htake : (h.tryTake p).2.call = h.call := by
    unfold Handle.tryTake
    split
    · rfl
    · split <;> rfl
  cases operation with
  | command | isReady =>
    injection hstep with hsame
    rw [← hsame]
  | tryTake =>
    simp only [handleStep] at hstep
    rcases htaken : h.tryTake p with ⟨result?, after⟩
    rw [htaken] at hstep htake
    cases result? <;> injection hstep with hsame <;> rw [← hsame, htake]
  | waitTimeout =>
    have hsame : (h.waitTimeout p).2 = h' := Option.some.inj hstep
    rw [← hsame, Handle.waitTimeout_handle, htake]
  | wait =>
    simp only [handleStep] at hstep
    split at hstep
    · contradiction
    · injection hstep with hsame
      rw [← hsame]
  | drop => contradiction

/-- After a step, a handle waits for a call that joined the queue in the step, or is a
handle from before. -/
theorem step_handles {operation : Operation} {c : Client} {h : Handle}
    (hmem : some h ∈ (c.step operation).2.handles) :
    h.call ∈ (c.stepJournal operation).pushed ∨
      ∃ h', some h' ∈ c.handles ∧ h.call = h'.call := by
  cases operation with
  | queue request =>
    simp only [step] at hmem
    rcases hqueued : c.pipeline.queue request with ⟨queued, p⟩
    rw [hqueued] at hmem
    cases queued with
    | error e => exact Or.inr ⟨h, hmem, rfl⟩
    | ok call =>
      have hpushes := Pipeline.pushes_of_queue (p := c.pipeline) (by rw [hqueued])
      rcases List.mem_append.1 hmem with hold | hnew
      · exact Or.inr ⟨h, hold, rfl⟩
      · left
        simp only [List.mem_singleton, Option.some.injEq] at hnew
        simp [stepJournal, hpushes, hnew, Handle.ofCall, Handle.call]
  | handle number operation =>
    simp only [step, withHandle] at hmem
    split at hmem
    · rename_i before hbefore
      rcases hstep : handleStep operation before c.pipeline with ⟨answer, after⟩
      rw [hstep] at hmem
      rcases List.mem_or_eq_of_mem_set hmem with hold | hset
      · exact Or.inr ⟨h, hold, rfl⟩
      · have hsame : (handleStep operation before c.pipeline).2 = some h := by
          rw [hstep, ← hset]
        exact Or.inr ⟨before, List.mem_of_getElem? hbefore, handleStep_call hsame⟩
    · exact Or.inr ⟨h, hmem, rfl⟩
  | _ => exact Or.inr ⟨h, hmem, rfl⟩

/-- Handles wait for calls that joined the queue during the run. -/
theorem run_handles {schedule : List Operation} {c : Client} {h : Handle}
    (hmem : some h ∈ (run schedule c).2.handles) :
    h.call ∈ (journal schedule c).pushed ∨
      ∃ h', some h' ∈ c.handles ∧ h.call = h'.call := by
  induction schedule generalizing c with
  | nil => exact Or.inr ⟨h, hmem, rfl⟩
  | cons operation rest ih =>
    rcases ih hmem with hrest | ⟨h', hmem', hcall⟩
    · exact Or.inl (List.mem_append.2 (Or.inr hrest))
    · rcases step_handles hmem' with hnow | ⟨h'', hmem'', hcall'⟩
      · exact Or.inl (List.mem_append.2 (Or.inl (hcall ▸ hnow)))
      · exact Or.inr ⟨h'', hmem'', hcall.trans hcall'⟩

/-! ## Runs -/

/-- The calls of a client are answered in order, each with its own reply. -/
structure InOrder (calls : List Call) (replies : List (Result Response)) (c : Client) :
    Prop where
  /-- Calls are numbered in the order in which they joined the queue. -/
  tickets : calls.map Call.ticket = List.range calls.length
  /-- A handle waits for the call at the position of its ticket. -/
  handles : ∀ h, some h ∈ c.handles → calls[h.ticket]? = some h.call
  /-- The calls that were answered are the first ones, in order. -/
  answered : c.pipeline.results.map Prod.fst <+: calls
  /-- A result other than the fault is the reply at the position of its call. -/
  reply : ∀ k result, c.pipeline.result? k = some result → IsOriginal result →
    replies[k]? = some result
  /-- All replies before it were read successfully. -/
  before : ∀ k result, c.pipeline.result? k = some result → IsOriginal result →
    ∀ i < k, ∃ response, replies[i]? = some (.ok response)
  /-- The next turn of the reader answers the oldest call, once it is written and its
  reply has arrived. -/
  turn : ∀ call rest, c.pipeline.state = .ready →
    c.pipeline.writtenHead? = some (call, rest) →
      (Response.readOne call.command c.pipeline.channel).1 ≠ .error (.transport .wouldBlock) →
        ∃ more, c.pipeline.readStep.results =
          c.pipeline.results ++
            (call, (Response.readOne call.command c.pipeline.channel).1) :: more

/-- Every run answers its calls in the order in which they joined the queue.  A call that
is not answered with a fault has the result of its own reading among successive readings
of all that the peer sends, each for the command of the call at its position.  What was
answered stays as it is. -/
theorem run_inOrder (source : Source) (sink : Sink) (config : Config)
    (schedule : List Operation) (hsends : source.MaySend (arrivals schedule)) :
    let start := ofPipeline (.onStream source sink config)
    let calls := (journal schedule start).pushed
    let channel := config.channel (source.receive (arrivals schedule))
    InOrder calls (Response.readEach (calls.map Call.command) channel).1
        (run schedule start).2 ∧
      ∀ first second, schedule = first ++ second →
        (run first start).2.pipeline.results <+: (run schedule start).2.pipeline.results := by
  intro start calls channel
  have hpath := path_run schedule start
  have hordered : Pipeline.Ordered (journal schedule start) (run schedule start).2.pipeline :=
    Pipeline.Path.ordered hpath
  have hledger : Pipeline.Ledger channel (run schedule start).2.pipeline := by
    have h := Pipeline.Path.ledger hpath (by rwa [journal_arrived])
    rwa [journal_arrived] at h
  have hreply : ∀ k result, (run schedule start).2.pipeline.result? k = some result →
      IsOriginal result →
        (Response.readEach (calls.map Call.command) channel).1[k]? = some result ∧
          ∀ i < k, ∃ response,
            (Response.readEach (calls.map Call.command) channel).1[i]? = some (.ok response) := by
    intro k result hresult horiginal
    rw [hordered.result?_eq, Option.map_eq_some_iff] at hresult
    rcases hresult with ⟨entry, hentry, rfl⟩
    exact hledger.reply_of_result hordered.answered_isPrefix hentry horiginal
  refine ⟨⟨hordered.tickets, ?_, hordered.answered_isPrefix, ?_, ?_, ?_⟩, ?_⟩
  · intro h hmem
    rcases run_handles hmem with hpushed | ⟨_, hnone, _⟩
    · exact hordered.getElem?_ticket hpushed
    · simp [start, ofPipeline] at hnone
  · exact fun k result hresult horiginal => (hreply k result hresult horiginal).1
  · exact fun k result hresult horiginal => (hreply k result hresult horiginal).2
  · intro call rest hready hhead harrived
    exact Pipeline.results_readStep hready hhead harrived
  · rintro first second rfl
    rw [run_append]
    exact (path_run second (run first start).2).results

/-- Two requests whose replies arrive together, the handle of the first given up. -/
theorem run_inOrder_droppedHandle :
    let source : Source := ⟨[], .waiting⟩
    let schedule : List Operation :=
      [.queue ⟨.ping, []⟩, .queue ⟨.dbSize, []⟩, .handle 0 .drop,
        .arrive (.data (Bytes.ofText "+PONG\r\n:3\r\n")), .readStep, .readStep]
    let start := ofPipeline (.onStream source .accepting .default)
    let calls := (journal schedule start).pushed
    let channel := Config.default.channel (source.receive (arrivals schedule))
    source.MaySend (arrivals schedule) ∧
      InOrder calls (Response.readEach (calls.map Call.command) channel).1
        (run schedule start).2 := by
  intro source schedule start calls channel
  have hsends : source.MaySend (arrivals schedule) := by
    intro hsilence
    contradiction
  exact ⟨hsends, (run_inOrder source .accepting .default schedule hsends).1⟩

end Client

end KeyValueClient
