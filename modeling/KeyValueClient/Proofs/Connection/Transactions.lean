import KeyValueClient.Proofs.Pipeline.Equivalence
import KeyValueClient.Proofs.Reply.RoundTrip
import KeyValueClient.Proofs.Reply.Soundness

/-!
# Transactions

Between the command that opens a transaction and the one that ends it the server answers
every command with the same line, whatever the shape of the command.  The line stands for one
reply like any other, so it takes nothing from the replies behind it and leaves the connection
ready.  To a command that ends the connection, however, it is the acknowledgement of the end.

Main results:

- Theorem `Outcome.read_acknowledgement`: what the line is read as.
- Theorem `Response.Transaction.reads`: the replies of a transaction are read one after the
  other.
- Theorem `Pipeline.Ended.behind`: a pipeline ends only behind the replies that can be read.
- Theorem `acknowledgements_inPlace_iff`: acknowledgements take no place but their own, so that
  in a transaction every call is answered with its own reply, just if none of the commands ends
  the connection.
-/

namespace KeyValueClient

/-! ## Acknowledgements -/

/-- The line that acknowledges a command inside a transaction. -/
def acknowledgement : Bytes :=
  Bytes.ofText "+QUEUED\r\n"

theorem acknowledgement_eq : acknowledgement = Wire.line .status Reading.queuedBody := by
  decide

/-- So many acknowledgements in a row. -/
def acknowledgements (n : Nat) : Bytes :=
  (List.replicate n acknowledgement).flatten

theorem acknowledgements_succ (n : Nat) :
    acknowledgements (n + 1) = acknowledgement ++ acknowledgements n := by
  simp [acknowledgements, List.replicate_succ]

/-- What an acknowledgement is read as: a command that ends the connection takes every status
line for the acknowledgement of the end. -/
def Outcome.acknowledged (command : Command) : Outcome :=
  if command.isTerminal then .terminal else .ok .queued

/-- A response that holds an acknowledgement. -/
def Response.acknowledged (command : Command) : Response :=
  ⟨command, some (.acknowledged command)⟩

/-- A response to a command that waits in a transaction. -/
def Response.queued (command : Command) : Response :=
  ⟨command, some (.ok .queued)⟩

theorem Response.acknowledged_eq_queued {command : Command} (h : command.isTerminal = false) :
    acknowledged command = queued command := by
  simp [acknowledged, Outcome.acknowledged, queued, h]

theorem Reading.outcome_acknowledged (command : Command) :
    outcome command .status queuedBody = pure (.acknowledged command) := by
  cases hterminal : command.isTerminal with
  | true => simpa [Outcome.acknowledged, hterminal] using outcome_terminal hterminal queuedBody
  | false => simpa [Outcome.acknowledged, hterminal] using outcome_queued hterminal

section Read

variable {command : Command} {ch : Channel} {rest : FlatStream}

/-- An acknowledgement is read after every command, however it was cut, and just its line is
taken. -/
theorem Outcome.read_acknowledgement (command : Command)
    (hroom : acknowledgement.length ≤ ch.lineLimit) (hflat : ch.flat = rest.after acknowledgement) :
    ∃ ch', Outcome.read command ch = .ok (.acknowledged command) ch' ∧ ch'.flat = rest ∧
      ch'.lineLimit = ch.lineLimit := by
  rw [acknowledgement_eq, ← fitsLine_iff] at hroom
  rw [acknowledgement_eq] at hflat
  have hline : Reading.Headed ch.lineLimit .status (Reading.outcome command .status)
      (Wire.line .status Reading.queuedBody) (.acknowledged command) :=
    Reading.headed_line (by decide) hroom (Reading.outcome_acknowledged command)
  have haccepts : Reading.Accepts ch.lineLimit
      (Reading.header >>= fun first => Reading.outcome command first.1 first.2)
      (Wire.line .status Reading.queuedBody) (.acknowledged command) :=
    hline.accepts (by simp) fun _ _ hread => hread
  rcases haccepts ch rest rfl hflat with ⟨ch', hread, hrest, hlimit⟩
  exact ⟨ch', Outcome.read_ok_iff.2 (Or.inl hread), hrest, hlimit⟩

theorem Response.read_acknowledgement (command : Command)
    (hroom : acknowledgement.length ≤ ch.lineLimit) (hflat : ch.flat = rest.after acknowledgement) :
    ∃ ch', (unread command).read ch = (.ok (), acknowledged command, ch') ∧ ch'.flat = rest ∧
      ch'.lineLimit = ch.lineLimit := by
  rcases Outcome.read_acknowledgement command hroom hflat with ⟨ch', hread, hrest, hlimit⟩
  refine ⟨ch', ?_, hrest, hlimit⟩
  simp [Response.read, unread, acknowledged, hread]

end Read

/-! ## One call -/

/-- A blocking connection that is answered with an acknowledgement stays ready. -/
theorem BlockingConnection.service_acknowledged {c : BlockingConnection} {request : Request}
    {sink : Sink} {rest : FlatStream} (hopen : request.command.isTerminal = false)
    (hready : c.state = .ready) (hcheck : request.check = .ok ())
    (hwrite : c.sink.transmit (request.wire c.encoding) = (.ok (), sink))
    (hroom : acknowledgement.length ≤ c.channel.lineLimit)
    (hflat : c.channel.flat = rest.after acknowledgement) :
    ∃ channel, channel.flat = rest ∧
      c.service request =
        (.ok (.queued request.command), { c with sink := sink, channel := channel }) := by
  rcases Response.read_acknowledgement request.command hroom hflat with ⟨channel, hread, hrest, -⟩
  rw [Response.acknowledged_eq_queued hopen] at hread
  have hservice := service_written hready hcheck hwrite
  rw [hread] at hservice
  exact ⟨channel, hrest, hservice⟩

/-- A pipeline whose oldest call is answered with an acknowledgement stays ready with the calls
behind it. -/
theorem Pipeline.readStep_acknowledged {p : Pipeline} {call : Call} {behind : List Call}
    {rest : FlatStream} (hopen : call.command.isTerminal = false) (hready : p.state = .ready)
    (hhead : p.writtenHead? = some (call, behind))
    (hroom : acknowledgement.length ≤ p.channel.lineLimit)
    (hflat : p.channel.flat = rest.after acknowledgement) :
    ∃ channel, channel.flat = rest ∧
      p.readStep =
        { p with
          channel := channel
          calls := behind
          results := p.results ++ [(call, .ok (.queued call.command))] } := by
  rcases Response.read_acknowledgement call.command hroom hflat with ⟨channel, hread, hrest, -⟩
  rw [Response.acknowledged_eq_queued hopen] at hread
  exact ⟨channel, hrest, readStep_eq hready hhead hread (by simp)⟩

/-! ## Transactions -/

namespace Response

/-- In front on a channel stand some replies, up to the one that opens a transaction, then the
acknowledgements of the commands in it, and then other things. -/
structure Transaction (ch : Channel) (opening : List Response) (block : List Command)
    (rest : FlatStream) : Prop where
  room : acknowledgement.length ≤ ch.lineLimit
  opened : ∃ mid, Reads ch opening mid ∧ mid.flat = rest.after (acknowledgements block.length)

/-- What the calls are answered up to the one that ends a transaction. -/
def transactionResults (opening : List Response) (block : List Command)
    (last : Result Response) : List (Result Response) :=
  (opening ++ block.map queued).map .ok ++ [last]

namespace Reads

variable {ch ch' : Channel} {responses : List Response}

/-- Replies leave the line limit as it was. -/
theorem lineLimit (h : Reads ch responses ch') : ch'.lineLimit = ch.lineLimit := by
  induction h with
  | nil => rfl
  | snoc before read stays ih =>
    rcases outcome_of_read read with ⟨o, hread, rfl⟩
    rw [Outcome.lineLimit_of_read hread stays, ih]

/-- None of the responses ends the connection. -/
theorem isTerminal_eq_false (h : Reads ch responses ch') :
    ∀ response ∈ responses, response.isTerminal = false := by
  induction h with
  | nil => simp
  | snoc before read stays ih =>
    intro response hmem
    rcases List.mem_append.1 hmem with hbefore | hlast
    · exact ih response hbefore
    · rwa [List.mem_singleton.1 hlast]

/-- Acknowledgements are read behind other replies. -/
theorem acknowledged {mid : Channel} {rest : FlatStream} {block : List Command}
    (h : Reads ch responses mid) (hstays : ∀ command ∈ block, command.isTerminal = false)
    (hroom : acknowledgement.length ≤ ch.lineLimit)
    (hflat : mid.flat = rest.after (acknowledgements block.length)) :
    ∃ ch', Reads ch (responses ++ block.map queued) ch' ∧ ch'.flat = rest := by
  induction block generalizing responses mid with
  | nil => exact ⟨mid, by simpa using h, hflat⟩
  | cons command block ih =>
    rw [List.length_cons, acknowledgements_succ, ← FlatStream.after_after] at hflat
    rw [← h.lineLimit] at hroom
    rcases read_acknowledgement command hroom hflat with ⟨next, hread, hnext, hlimit⟩
    have hterminal := hstays command List.mem_cons_self
    rw [acknowledged_eq_queued hterminal] at hread
    have hone := h.snoc hread rfl
    rw [h.lineLimit] at hroom
    have hrest : ∀ command ∈ block, command.isTerminal = false := by
      intro command hmem
      exact hstays command (List.mem_cons_of_mem _ hmem)
    rcases ih hone hrest hnext with ⟨ch', hreads, hflat'⟩
    rw [List.append_assoc] at hreads
    exact ⟨ch', hreads, hflat'⟩

end Reads

variable {ch : Channel} {opening : List Response} {block : List Command} {rest : FlatStream}

/-- The replies of a transaction are read one after the other, if none of its commands ends the
connection. -/
theorem Transaction.reads (h : Transaction ch opening block rest)
    (hstays : ∀ command ∈ block, command.isTerminal = false) :
    ∃ ch', Reads ch (opening ++ block.map queued) ch' ∧ ch'.flat = rest := by
  rcases h.opened with ⟨mid, hopened, hflat⟩
  exact hopened.acknowledged hstays h.room hflat

/-- The replies to the first commands are the first replies. -/
theorem readEach_isPrefix {first second : List Command} (h : first <+: second) (ch : Channel) :
    (readEach first ch).1 <+: (readEach second ch).1 := by
  rcases h with ⟨more, rfl⟩
  rw [readEach_append]
  exact List.prefix_append _ _

/-- So the readings of the replies are the results of the transaction. -/
theorem readEach_transaction {ch' : Channel} {commands : List Command} {last : Command}
    (h : Reads ch (opening ++ block.map queued) ch')
    (hcommands : commands = opening.map command ++ block ++ [last]) :
    (readEach commands ch).1 = transactionResults opening block (readOne last ch').1 := by
  have hqueued : opening.map command ++ block = (opening ++ block.map queued).map command := by
    simp [queued, Function.comp_def]
  rw [hcommands, hqueued, readEach_append, h.readEach]
  rfl

end Response

/-! ## Transactions on a blocking connection -/

theorem Session.serviceAll_append {σ : Type} (service : Request → σ → Result Response × σ)
    (first second : List Request) (connection : σ) :
    serviceAll service (first ++ second) connection =
      ((serviceAll service first connection).1 ++
          (serviceAll service second (serviceAll service first connection).2).1,
        (serviceAll service second (serviceAll service first connection).2).2) := by
  induction first generalizing connection with
  | nil => rfl
  | cons request rest ih => simp [serviceAll, ih]

namespace BlockingConnection

open Response (Reads Transaction readOne transactionResults)

variable {c : BlockingConnection}

/-- On a sink that does not fail, a valid request is answered with its reply. -/
theorem service_reliable {request : Request} (hready : c.state = .ready)
    (hreliable : c.sink.Reliable) (hcheck : request.check = .ok ()) :
    let reply := readOne request.command c.channel
    (c.service request).1 = reply.1 ∧ (c.service request).2.channel = reply.2 ∧
      (c.service request).2.sink.Reliable ∧
      ∀ response, reply.1 = .ok response → response.isTerminal = false →
        (c.service request).2.state = .ready := by
  rcases hreliable.transmit (request.wire c.encoding) with ⟨sink, hwrite, hsink⟩
  rw [service_written hready hcheck hwrite]
  rcases hread : (Response.unread request.command).read c.channel with ⟨result, response, channel⟩
  cases result with
  | ok _ =>
    rw [Response.readOne_ok hread]
    refine ⟨rfl, ?_, ?_, ?_⟩
    · simp only [settle]
      split <;> rfl
    · simp only [settle]
      split <;> exact hsink
    · intro response' hsame hstays
      cases hsame
      simpa [settle, hstays] using hready
  | error e =>
    rw [Response.readOne_error hread]
    refine ⟨rfl, ?_, ?_, ?_⟩
    · simp only [fail]
      split <;> rfl
    · simp only [fail]
      split <;> exact hsink
    · intro response' hsame
      cases hsame

/-- Requests whose replies can be read leave the connection ready behind the replies. -/
theorem serviceAll_reads {responses : List Response} {channel : Channel}
    {requests : List Request} (h : Reads c.channel responses channel) (hready : c.state = .ready)
    (hreliable : c.sink.Reliable) (hvalid : ∀ request ∈ requests, request.check = .ok ())
    (hcommands : requests.map Request.command = responses.map Response.command) :
    let served := Session.serviceAll service requests c
    served.1 = responses.map .ok ∧ served.2.channel = channel ∧ served.2.sink.Reliable ∧
      served.2.state = .ready := by
  induction h generalizing requests with
  | nil =>
    rw [List.map_nil, List.map_eq_nil_iff] at hcommands
    subst hcommands
    exact ⟨rfl, rfl, hreliable, hready⟩
  | @snoc responses command response mid channel before read stays ih =>
    rw [List.map_append, List.map_eq_append_iff] at hcommands
    rcases hcommands with ⟨first, last, rfl, hfirst, hlast⟩
    rw [List.map_singleton, List.map_eq_singleton_iff] at hlast
    rcases hlast with ⟨request, rfl, hcommand⟩
    rcases ih (fun request hmem => hvalid request (List.mem_append_left _ hmem)) hfirst with
      ⟨hresults, hmid, hsink, hstate⟩
    have hcheck := hvalid request (List.mem_append_right _ List.mem_cons_self)
    rcases service_reliable hstate hsink hcheck with ⟨hresult, hafter, hsink', hstays⟩
    rw [← Response.command_of_read read, ← hcommand] at read
    rw [hmid, Response.readOne_ok read] at hresult hafter hstays
    simp only [Session.serviceAll_append, Session.serviceAll, hresults, hresult]
    exact ⟨by simp, hafter, hsink', hstays response rfl stays⟩

/-- In a transaction every call is answered with its own reply. -/
theorem serviceAll_transaction {opening : List Response} {block : List Command}
    {rest : FlatStream} (h : Transaction c.channel opening block rest)
    (hstays : ∀ command ∈ block, command.isTerminal = false) (hready : c.state = .ready)
    (hreliable : c.sink.Reliable) {requests : List Request} {last : Request}
    (hvalid : ∀ request ∈ requests ++ [last], request.check = .ok ())
    (hcommands : requests.map Request.command = opening.map Response.command ++ block) :
    ∃ channel, channel.flat = rest ∧
      let served := Session.serviceAll service (requests ++ [last]) c
      let reply := readOne last.command channel
      served.1 = transactionResults opening block reply.1 ∧ served.2.channel = reply.2 ∧
        ∀ response, reply.1 = .ok response → response.isTerminal = false →
          served.2.state = .ready := by
  rcases h.reads hstays with ⟨channel, hreads, hrest⟩
  refine ⟨channel, hrest, ?_⟩
  have hall : requests.map Request.command =
      (opening ++ block.map Response.queued).map Response.command := by
    rw [hcommands]
    simp [Response.queued, Function.comp_def]
  rcases serviceAll_reads hreads hready hreliable
    (fun request hmem => hvalid request (List.mem_append_left _ hmem)) hall with
    ⟨hresults, hchannel, hsink, hstate⟩
  have hcheck := hvalid last (List.mem_append_right _ List.mem_cons_self)
  rcases service_reliable hstate hsink hcheck with ⟨hresult, hafter, -, hopen⟩
  rw [hchannel] at hresult hafter hopen
  simp only [Session.serviceAll_append, Session.serviceAll, hresults, hresult]
  exact ⟨rfl, hafter, hopen⟩

end BlockingConnection

/-! ## Transactions on a pipeline -/

namespace Pipeline

open Response (Reads Transaction readOne readEach transactionResults)

/-- A pipeline ends only behind the replies that can be read, unless a write fails. -/
theorem Ended.behind {ch ch' : Channel} {sink : Sink} {fault : Fault}
    {read : List (Call × Result Response)} {responses : List Response} {more : List Command}
    (h : Ended ch sink fault read) (hwritten : sink.failed = false)
    (hreads : Reads ch responses ch')
    (hcommands : commandsOf read <+: responses.map Response.command ++ more) :
    responses.length < read.length := by
  by_contra hshort
  have hlength : (commandsOf read).length ≤ (responses.map Response.command).length := by
    simp only [commandsOf, List.length_map]
    omega
  have hfirst : commandsOf read <+: responses.map Response.command :=
    List.prefix_of_prefix_length_le hcommands (List.prefix_append _ _) hlength
  have hresults := Response.readEach_isPrefix hfirst ch
  rw [h.replies.1, hreads.readEach] at hresults
  -- All results are responses that leave the connection open, so none of them can be the last.
  have hopen : ∀ entry ∈ read, ∃ response, entry.2 = .ok response ∧
      response.isTerminal = false := by
    intro entry hmem
    have hentry : entry.2 ∈ responses.map .ok := hresults.subset (List.mem_map_of_mem hmem)
    rcases List.mem_map.1 hentry with ⟨response, hresponse, hsame⟩
    exact ⟨response, hsame.symm, hreads.isTerminal_eq_false response hresponse⟩
  cases h with
  | lost answers failed =>
    rw [hwritten] at failed
    contradiction
  | @closed answered mid after call response answers read terminal cause =>
    have hmem : (call, .ok response) ∈ answeredEntries (answered ++ [(call, response)]) := by
      simp [answeredEntries]
    rcases hopen _ hmem with ⟨response', hsame, hstays⟩
    cases hsame
    rw [terminal] at hstays
    contradiction
  | @broken answered mid after call response e answers read arrived cause =>
    rcases hopen _ (List.mem_append_right _ List.mem_cons_self) with ⟨response', hsame, -⟩
    cases hsame

/-- What was answered is read from all that is still to come as well. -/
theorem Ledger.followedBy {ch : Channel} {p : Pipeline} (h : Ledger ch p)
    (hwait : ch.source.silence = .waiting) (more : Source) :
    Ledger (ch.followedBy more) { p with channel := p.channel.followedBy more } := by
  cases h with
  | running state results answers =>
    exact .running state results (answers.followedBy hwait more).1
  | faulted state calls unwritten results ended =>
    exact .faulted state calls unwritten results (ended.followedBy hwait more)

/-- The results of a pipeline are those of the transaction, as far as it has come, and it stays
ready at least until the transaction has ended. -/
theorem Ledger.transaction {ch : Channel} {p : Pipeline} {opening : List Response}
    {block : List Command} {rest : FlatStream} {last : Command} {later : List Command}
    (h : Ledger ch p) (hwritten : p.sink.failed = false)
    (htransaction : Transaction ch opening block rest)
    (hstays : ∀ command ∈ block, command.isTerminal = false)
    (hcommands : commandsOf p.results <+:
      opening.map Response.command ++ block ++ last :: later) :
    ∃ channel, channel.flat = rest ∧
      let expected := transactionResults opening block (readOne last channel).1
      (p.results.map Prod.snd).take expected.length <+: expected ∧
        (p.results.length < expected.length → p.state = .ready) := by
  rcases htransaction.reads hstays with ⟨channel, hreads, hrest⟩
  refine ⟨channel, hrest, ?_⟩
  intro expected
  have hexpected : (readEach (opening.map Response.command ++ block ++ [last]) ch).1 = expected :=
    Response.readEach_transaction hreads rfl
  have hfirst : ∀ {read : List (Call × Result Response)},
      (readEach (commandsOf read) ch).1 = read.map Prod.snd →
        commandsOf read <+: opening.map Response.command ++ block ++ last :: later →
          (read.map Prod.snd).take expected.length <+: expected := by
    intro read hread hcommands
    rw [List.append_cons] at hcommands
    have hprefix := Response.readEach_isPrefix hcommands ch
    rw [hread, Response.readEach_append, hexpected] at hprefix
    exact List.prefix_of_prefix_length_le ((List.take_prefix _ _).trans hprefix)
      (List.prefix_append _ _) (List.length_take_le _ _)
  cases h with
  | running state results answers =>
    refine ⟨hfirst ?_ hcommands, fun _ => state⟩
    rw [results, readEach_answeredEntries answers]
  | @faulted fault read failed state calls unwritten results ended =>
    have hread : commandsOf read <+: opening.map Response.command ++ block ++ last :: later := by
      refine List.IsPrefix.trans ?_ hcommands
      rw [results]
      simp [commandsOf]
    have hqueued : commandsOf read <+:
        (opening ++ block.map Response.queued).map Response.command ++ last :: later := by
      simpa [Response.queued, Function.comp_def] using hread
    have hbehind := ended.behind hwritten hreads hqueued
    have hlength : expected.length ≤ read.length := by
      simp only [expected, transactionResults, List.length_append, List.length_map,
        List.length_singleton] at hbehind ⊢
      omega
    rw [results, List.map_append, List.take_append_of_le_length (by simpa using hlength)]
    refine ⟨hfirst ended.replies.1 hread, fun hshort => ?_⟩
    rw [List.length_append] at hshort
    omega

/-- After any schedule, the answers of a pipeline are read from what has arrived and from what
is still coming. -/
theorem ledger_run {source : Source} {sink : Sink} {config : Config} {schedule : List Operation}
    {coming : List SourceEvent} (hsends : source.MaySend (arrivals schedule ++ coming)) :
    let p := (Client.run schedule (.ofPipeline (.onStream source sink config))).2.pipeline
    ∃ channel, Ledger (config.channel (source.receive (arrivals schedule ++ coming)))
      { p with channel := channel } := by
  intro p
  have hpath := Client.path_run schedule (.ofPipeline (.onStream source sink config))
  have hsent : source.MaySend (arrivals schedule) := fun hgone =>
    (List.append_eq_nil_iff.1 (hsends hgone)).1
  have hledger := Path.ledger hpath (by rwa [Client.journal_arrived])
  rw [Client.journal_arrived] at hledger
  cases hsilence : source.silence with
  | gone =>
    have hnothing := (List.append_eq_nil_iff.1 (hsends hsilence)).2
    rw [hnothing, List.append_nil]
    exact ⟨p.channel, hledger⟩
  | waiting =>
    refine ⟨p.channel.followedBy ⟨coming, .waiting⟩, ?_⟩
    have hmore := hledger.followedBy hsilence ⟨coming, .waiting⟩
    have hsame : (config.channel (source.receive (arrivals schedule))).followedBy
        ⟨coming, .waiting⟩ = config.channel (source.receive (arrivals schedule ++ coming)) := by
      simp [Config.channel, Channel.fresh, Channel.followedBy, Source.receive, Source.followedBy,
        hsilence]
    rwa [hsame] at hmore

/-- A new pipeline over a stream, after any schedule, has answered the calls of a transaction
with their own replies, as far as it has come, and stays ready with the other calls at least
until the transaction has ended.  Events may still be coming. -/
theorem run_transaction {source : Source} {sink : Sink} {config : Config}
    {schedule : List Operation} {coming : List SourceEvent} {opening : List Response}
    {block : List Command} {rest : FlatStream} {last : Command} {later : List Command}
    (hsends : source.MaySend (arrivals schedule ++ coming))
    (htransaction : Transaction
      (config.channel (source.receive (arrivals schedule ++ coming))) opening block rest)
    (hstays : ∀ command ∈ block, command.isTerminal = false) :
    let start := Client.ofPipeline (.onStream source sink config)
    let calls := (Client.journal schedule start).pushed
    let p := (Client.run schedule start).2.pipeline
    calls.map Call.command <+: opening.map Response.command ++ block ++ last :: later →
    p.sink.failed = false →
      ∃ channel, channel.flat = rest ∧
        let expected := transactionResults opening block (readOne last channel).1
        (∀ k call, calls[k]? = some call → k < expected.length →
          p.result? call.ticket = if k < p.results.length then expected[k]? else none) ∧
        p.calls = calls.drop p.results.length ∧
        (p.results.length < expected.length → p.state = .ready) := by
  intro start calls p hcalls hwritten
  have hpath := Client.path_run schedule start
  have hordered : Ordered (Client.journal schedule start) p := Path.ordered hpath
  rcases ledger_run hsends with ⟨front, hledger⟩
  have hcommands : commandsOf p.results <+:
      opening.map Response.command ++ block ++ last :: later := by
    have hanswered := (hordered.answered_isPrefix.map Call.command).trans hcalls
    simpa [commandsOf, Function.comp_def] using hanswered
  rcases hledger.transaction hwritten htransaction hstays hcommands with
    ⟨channel, hrest, hresults, hready⟩
  refine ⟨channel, hrest, ?_⟩
  intro expected
  refine ⟨?_, ?_, hready⟩
  · intro k call hcall hk
    have hticket : call.ticket = k := by
      have hget := congrArg (fun tickets => tickets[k]?) hordered.tickets
      rcases List.getElem?_eq_some_iff.1 hcall with ⟨hlength, rfl⟩
      simpa [calls, hlength] using hget
    rw [hticket, hordered.result?_eq]
    rcases hresults with ⟨more, hmore⟩
    have hsplit : (p.results.map Prod.snd).take expected.length ++ more = expected := hmore
    split_ifs with hanswered
    · have hfirst : k < ((p.results.map Prod.snd).take expected.length).length := by
        rw [List.length_take, List.length_map]
        omega
      rw [← hsplit, List.getElem?_append_left hfirst, List.getElem?_take_of_lt hk,
        List.getElem?_map]
    · rw [List.getElem?_eq_none (by omega), Option.map_none]
  · have hhistory := hordered.history
    rw [history] at hhistory
    simp [calls, ← hhistory]

end Pipeline

/-! ## Acknowledgements in their places -/

/-- The acknowledgements of some commands take no place but their own. -/
structure AcknowledgementsInPlace (block : List Command) : Prop where
  /-- An acknowledgement is read, however it is cut and whatever follows it, and just its line
  is taken. -/
  read : ∀ command ∈ block, ∀ (ch : Channel) (rest : FlatStream),
    acknowledgement.length ≤ ch.lineLimit → ch.flat = rest.after acknowledgement →
      ∃ ch', Outcome.read command ch = .ok (.ok .queued) ch' ∧ ch'.flat = rest
  /-- A blocking connection stays ready. -/
  blocking : ∀ (c : BlockingConnection) (request : Request) (sink : Sink) (rest : FlatStream),
    request.command ∈ block → c.state = .ready → request.check = .ok () →
    c.sink.transmit (request.wire c.encoding) = (.ok (), sink) →
    acknowledgement.length ≤ c.channel.lineLimit →
    c.channel.flat = rest.after acknowledgement →
      ∃ channel, channel.flat = rest ∧
        c.service request =
          (.ok (.queued request.command), { c with sink := sink, channel := channel })
  /-- A pipeline stays ready, with the calls behind the oldest one outstanding. -/
  turn : ∀ (p : Pipeline) (call : Call) (behind : List Call) (rest : FlatStream),
    call.command ∈ block → p.state = .ready → p.writtenHead? = some (call, behind) →
    acknowledgement.length ≤ p.channel.lineLimit →
    p.channel.flat = rest.after acknowledgement →
      ∃ channel, channel.flat = rest ∧
        p.readStep =
          { p with
            channel := channel
            calls := behind
            results := p.results ++ [(call, .ok (.queued call.command))] }
  /-- In a transaction of the commands each call on a blocking connection has its own reply. -/
  served : ∀ (opening : List Response) (rest : FlatStream) (c : BlockingConnection)
      (requests : List Request) (last : Request),
    Response.Transaction c.channel opening block rest → c.state = .ready → c.sink.Reliable →
    (∀ request ∈ requests ++ [last], request.check = .ok ()) →
    requests.map Request.command = opening.map Response.command ++ block →
      ∃ channel, channel.flat = rest ∧
        let served := Session.serviceAll BlockingConnection.service (requests ++ [last]) c
        let reply := Response.readOne last.command channel
        served.1 = Response.transactionResults opening block reply.1 ∧
          served.2.channel = reply.2 ∧
          ∀ response, reply.1 = .ok response → response.isTerminal = false →
            served.2.state = .ready
  /-- So has each call on a pipeline, after any schedule, as far as it has come; and the
  pipeline is ready at least until the transaction has ended. -/
  piped : ∀ (opening : List Response) (last : Command) (later : List Command)
      (rest : FlatStream) (source : Source) (sink : Sink) (config : Config)
      (schedule : List Operation) (coming : List SourceEvent),
    let start := Client.ofPipeline (.onStream source sink config)
    let calls := (Client.journal schedule start).pushed
    let p := (Client.run schedule start).2.pipeline
    source.MaySend (arrivals schedule ++ coming) →
    Response.Transaction (config.channel (source.receive (arrivals schedule ++ coming)))
      opening block rest →
    calls.map Call.command <+: opening.map Response.command ++ block ++ last :: later →
    p.sink.failed = false →
      ∃ channel, channel.flat = rest ∧
        let expected :=
          Response.transactionResults opening block (Response.readOne last channel).1
        (∀ k call, calls[k]? = some call → k < expected.length →
          p.result? call.ticket = if k < p.results.length then expected[k]? else none) ∧
        p.calls = calls.drop p.results.length ∧
        (p.results.length < expected.length → p.state = .ready)

/-- Acknowledgements take no place but their own just if none of the commands ends the
connection. -/
theorem acknowledgements_inPlace_iff (block : List Command) :
    AcknowledgementsInPlace block ↔ ∀ command ∈ block, command.isTerminal = false := by
  constructor
  · intro h command hmem
    by_contra hterminal
    rw [Bool.not_eq_false] at hterminal
    let ch := Channel.fresh (.ofBytes acknowledgement) 64 64
    let rest : FlatStream := ⟨[], .gone⟩
    have hroom : acknowledgement.length ≤ ch.lineLimit := by decide
    have hflat : ch.flat = rest.after acknowledgement := by decide
    rcases h.read command hmem ch rest hroom hflat with ⟨kept, hkept, -⟩
    rcases Outcome.read_acknowledgement command hroom hflat with ⟨ended, hended, -⟩
    rw [hkept, Outcome.acknowledged, if_pos hterminal] at hended
    injection hended with hsame
    cases hsame
  · intro hstays
    exact
      { read := fun command hmem ch rest hroom hflat => by
          rcases Outcome.read_acknowledgement command hroom hflat with ⟨ch', hread, hrest, -⟩
          rw [Outcome.acknowledged, hstays command hmem] at hread
          exact ⟨ch', hread, hrest⟩
        blocking := fun _ request _ _ hmem hready hcheck hwrite hroom hflat =>
          BlockingConnection.service_acknowledged (hstays request.command hmem) hready hcheck hwrite
            hroom hflat
        turn := fun _ call _ _ hmem hready hhead hroom hflat =>
          Pipeline.readStep_acknowledged (hstays call.command hmem) hready hhead hroom hflat
        served := fun _ _ _ _ _ htransaction hready hreliable hvalid hcommands =>
          BlockingConnection.serviceAll_transaction htransaction hstays hready hreliable hvalid
            hcommands
        piped := fun _ _ _ _ _ _ _ _ _ hsends htransaction hcalls hwritten =>
          Pipeline.run_transaction hsends htransaction hstays hcalls hwritten }

/-- A transaction on a chunked pipeline with another call behind it, of whose acknowledgements
one has arrived in two pieces and one is still coming. -/
theorem acknowledgements_inPlace_iff_halfArrived :
    let source : Source := ⟨[], .waiting⟩
    let config : Config := { Config.default with writeMode := .chunked }
    let schedule : List Operation :=
      [.queue ⟨.multi, []⟩, .queue ⟨.get, [Bytes.ofText "k"]⟩, .queue ⟨.dbSize, []⟩,
        .queue ⟨.exec, []⟩, .queue ⟨.ping, []⟩, .flush,
        .arrive (.data (Bytes.ofText "+OK\r\n+QUE")), .drain,
        .arrive (.data (Bytes.ofText "UED\r\n")), .readStep]
    let coming : List SourceEvent :=
      [.data (Bytes.ofText "+QUEUED\r\n*2\r\n$-1\r\n:1\r\n+PONG")]
    let opening : List Response := [⟨.multi, some (.ok .none)⟩]
    let block : List Command := [.get, .dbSize]
    let rest := (Source.mk [.data (Bytes.ofText "*2\r\n$-1\r\n:1\r\n+PONG")] .waiting).flat
    let start := Client.ofPipeline (.onStream source .accepting config)
    let calls := (Client.journal schedule start).pushed
    let p := (Client.run schedule start).2.pipeline
    source.MaySend (arrivals schedule ++ coming) ∧
      Response.Transaction (config.channel (source.receive (arrivals schedule ++ coming)))
        opening block rest ∧
      calls.map Call.command <+: opening.map Response.command ++ block ++ [.exec, .ping] ∧
      p.sink.failed = false ∧
      ∃ channel, channel.flat = rest ∧
        let expected :=
          Response.transactionResults opening block (Response.readOne .exec channel).1
        (∀ k call, calls[k]? = some call → k < expected.length →
          p.result? call.ticket = if k < p.results.length then expected[k]? else none) ∧
        p.calls = calls.drop p.results.length ∧
        (p.results.length < expected.length → p.state = .ready) := by
  intro source config schedule coming opening block rest start calls p
  have hsends : source.MaySend (arrivals schedule ++ coming) := by
    intro hsilence
    contradiction
  have htransaction : Response.Transaction
      (config.channel (source.receive (arrivals schedule ++ coming))) opening block rest := by
    let mid : Channel :=
      ⟨⟨[.data [], .data (Bytes.ofText "UED\r\n")] ++ coming, .waiting⟩, Bytes.ofText "+QUE",
        8 * 1024, 64 * 1024⟩
    have hread : (Response.unread .multi).read
        (config.channel (source.receive (arrivals schedule ++ coming))) =
          (.ok (), ⟨.multi, some (.ok .none)⟩, mid) := by
      with_unfolding_all rfl
    have hflat : mid.flat = rest.after (acknowledgements block.length) := by decide +kernel
    exact ⟨by decide, mid, .snoc .nil hread rfl, hflat⟩
  have hcalls : calls.map Call.command <+:
      opening.map Response.command ++ block ++ [.exec, .ping] := by
    decide +kernel
  have hwritten : p.sink.failed = false := by decide +kernel
  have hkept := (acknowledgements_inPlace_iff block).2 (by decide)
  exact ⟨hsends, htransaction, hcalls, hwritten,
    hkept.piped opening .exec [.ping] rest source .accepting config schedule coming hsends
      htransaction hcalls hwritten⟩

/-- A command that ends the connection takes its acknowledgement for the end, and the reply to
the transaction behind it is never read. -/
theorem acknowledged_shutdown :
    let c : BlockingConnection :=
      .onStream (.ofBytes (Bytes.ofText "+OK\r\n+QUEUED\r\n*1\r\n+OK\r\n")) .accepting .default
    let served :=
      Session.serviceAll BlockingConnection.service
        [⟨.multi, []⟩, ⟨.shutdown, []⟩, ⟨.exec, []⟩] c
    served.1 =
        [.ok ⟨.multi, some (.ok .none)⟩, .ok ⟨.shutdown, some .terminal⟩,
          .error (.faulted (.closedBy "SHUTDOWN"))] ∧
      served.2.state = .faulted (.closedBy "SHUTDOWN") ∧
      served.2.channel.flat = (Source.ofBytes (Bytes.ofText "*1\r\n+OK\r\n")).flat := by
  intro c served
  exact ⟨by with_unfolding_all rfl, by with_unfolding_all rfl, by with_unfolding_all rfl⟩

end KeyValueClient
