import KeyValueClient.Proofs.Reading.Sequence
import KeyValueClient.Proofs.Writing.Transmission
import KeyValueClient.Session

/-!
# Outcomes of blocking requests

A request that fails its checks leaves a blocking connection alone, and one that cannot be
written ends it.  On a connection whose writes do not fail, valid requests made one after
the other are answered with their outcomes on the stream of replies.

Main results:

- Theorem `BlockingConnection.serviceAll_faulted`: a faulted connection answers all
  requests with its fault.
- Theorem `BlockingConnection.serviceAll_outcomes`: a ready one answers with the
  outcomes.
-/

namespace KeyValueClient.BlockingConnection

open Response (outcomes refusals)

variable {c : BlockingConnection}

/-! ## Faulted connections -/

theorem service_faulted {fault : Fault} (h : c.state = .faulted fault) (request : Request) :
    c.service request = (.error (.faulted fault), c) := by
  simp [service, serviceInto_faulted h]

/-- A faulted connection answers all requests with its fault. -/
theorem serviceAll_faulted {fault : Fault} (h : c.state = .faulted fault)
    (requests : List Request) :
    (Session.serviceAll service requests c).1 = refusals fault requests := by
  induction requests with
  | nil => rfl
  | cons request rest ih => simpa [Session.serviceAll, service_faulted h, refusals] using ih

/-! ## Ready connections -/

/-- An error of the stream ends the connection. -/
theorem fail_ready {e : Error} (hfatal : e.isFatal = true) (hready : c.state = .ready) :
    c.fail e = { c with state := .faulted (.ofError e) } := by
  rw [fail, if_pos hfatal, hready]
  rfl

/-- A request that fails its checks changes nothing. -/
theorem service_refused {request : Request} {e : Error} (hready : c.state = .ready)
    (hcheck : request.check = .error e) : c.service request = (.error e, c) := by
  have hencode : Request.encode c.encoding request = .error e := by
    simp [Request.encode, hcheck, bind, Except.bind]
  have hinto := serviceInto_refused (r := .unread request.command) hready rfl hencode
  rw [service, hinto]

/-- A valid request is written and its reply is read. -/
theorem serviceInto_valid {r : Response} {arguments : List Bytes} (hready : c.state = .ready)
    (hunread : r.isRead = false) (hcheck : Request.check ⟨r.command, arguments⟩ = .ok ()) :
    c.serviceInto r arguments = exchange (Request.wire c.encoding ⟨r.command, arguments⟩) r c := by
  have hencode : Request.encode c.encoding ⟨r.command, arguments⟩ =
      .ok (Request.wire c.encoding ⟨r.command, arguments⟩) := by
    simp [Request.encode, hcheck, bind, Except.bind, pure, Except.pure]
  simp [serviceInto, hready, hunread, hencode]

theorem serviceInto_unread {request : Request} (hready : c.state = .ready)
    (hcheck : request.check = .ok ()) :
    c.serviceInto (.unread request.command) request.arguments =
      exchange (request.wire c.encoding) (.unread request.command) c :=
  serviceInto_valid hready rfl hcheck

/-- A request that cannot be written ends the connection. -/
theorem service_lost {request : Request} {sink : Sink} {cause : TransportError}
    (hready : c.state = .ready) (hcheck : request.check = .ok ())
    (hwrite : c.sink.transmit (request.wire c.encoding) = (.error cause, sink)) :
    c.service request =
      (.error (.transport cause),
        { c with sink := sink, state := .faulted (.ofError (.transport cause)) }) := by
  rw [service, serviceInto_unread hready hcheck, exchange, hwrite]
  dsimp only
  rw [fail_ready rfl]
  exact hready

/-- A valid request that can be written is answered with the reading of its reply. -/
theorem service_written {request : Request} (hready : c.state = .ready)
    (hcheck : request.check = .ok ()) {sink : Sink}
    (hwrite : c.sink.transmit (request.wire c.encoding) = (.ok (), sink)) :
    c.service request =
      match (Response.unread request.command).read c.channel with
      | (.ok (), r, channel) => (.ok r, settle r { c with sink := sink, channel := channel })
      | (.error e, _, channel) =>
        (.error e, fail e { c with sink := sink, channel := channel }) := by
  rw [service, serviceInto_unread hready hcheck, exchange, hwrite]
  rcases hread : (Response.unread request.command).read c.channel with ⟨result, r, channel⟩
  cases result <;> simp [hread]

/-- A ready connection answers valid requests with their outcomes, if its writes do not
fail. -/
theorem serviceAll_outcomes {requests : List Request} (hready : c.state = .ready)
    (hreliable : c.sink.Reliable) (hvalid : ∀ request ∈ requests, request.check = .ok ()) :
    (Session.serviceAll service requests c).1 =
      outcomes (requests.map Request.command) c.channel := by
  induction requests generalizing c with
  | nil => rfl
  | cons request rest ih =>
    have hcheck := hvalid request List.mem_cons_self
    have hrest : ∀ request ∈ rest, request.check = .ok () := by
      intro request hmem
      exact hvalid request (List.mem_cons_of_mem _ hmem)
    rcases hreliable.transmit (request.wire c.encoding) with ⟨sink, hwrite, hreliable'⟩
    have hservice := service_written hready hcheck hwrite
    rcases hread : (Response.unread request.command).read c.channel with ⟨result, r, channel⟩
    rw [hread] at hservice
    cases result with
    | ok _ =>
      have hcommand := Response.command_of_read hread
      cases hterminal : r.isTerminal with
      | true =>
        have hfaulted : (settle r { c with sink := sink, channel := channel }).state =
            .faulted (.closedBy request.command.name) := by
          simp [settle, hterminal, hcommand]
        have hall := serviceAll_faulted hfaulted rest
        simpa [Session.serviceAll, hservice, outcomes, hread, hterminal] using hall
      | false =>
        have hstays : settle r { c with sink := sink, channel := channel } =
            { c with sink := sink, channel := channel } := by
          simp [settle, hterminal]
        dsimp only at hservice
        rw [hstays] at hservice
        have hall := ih (c := { c with sink := sink, channel := channel }) hready hreliable' hrest
        simpa [Session.serviceAll, hservice, outcomes, hread, hterminal] using hall
    | error e =>
      have hfatal := (Response.isStream_of_read hread).isFatal
      have hfaulted : (fail e { c with sink := sink, channel := channel }).state =
          .faulted (.ofError e) := by
        simp [fail, hfatal, hready, ConnectionState.fail]
      have hall := serviceAll_faulted hfaulted rest
      simpa [Session.serviceAll, hservice, outcomes, hread] using hall

end KeyValueClient.BlockingConnection
