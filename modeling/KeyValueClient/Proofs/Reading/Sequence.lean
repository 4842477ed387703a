import KeyValueClient.Proofs.Reading.Endings
import KeyValueClient.Proofs.Reading.Growth

/-!
# Replies read one after the other

The wire carries no identifiers, so what a call is answered depends on which replies
were read before it.  This file speaks of the replies to a list of calls, read one
after the other from one channel.

Main results:

- Definition `Response.readEach`: each command with its own reading, whatever came of
  the ones before.
- Theorem `Response.Reads.followedBy`: replies that were read stay what they are when
  more arrives.
- Theorem `Response.Reads.ends`: they leave a stream that ends.
- Definition `Response.outcomes`: what calls in a row are answered on a connection that
  ends with the first failure.
-/

namespace KeyValueClient

namespace Response

/-! ## Readings in a row -/

/-- What reading makes of an unread response: the response, or the failure. -/
def readOne (command : Command) (ch : Channel) : Result Response × Channel :=
  let (result, response, ch) := (unread command).read ch
  (result.map fun _ => response, ch)

/-- The results of reading the replies to some commands one after the other, and the
channel after them. -/
def readEach : List Command → Channel → List (Result Response) × Channel
  | [], ch => ([], ch)
  | command :: rest, ch =>
    let (result, ch) := readOne command ch
    let (results, ch) := readEach rest ch
    (result :: results, ch)

theorem readEach_append (first second : List Command) (ch : Channel) :
    readEach (first ++ second) ch =
      ((readEach first ch).1 ++ (readEach second (readEach first ch).2).1,
        (readEach second (readEach first ch).2).2) := by
  induction first generalizing ch with
  | nil => rfl
  | cons command rest ih => simp [readEach, ih]

/-! ## One reading -/

section Read

variable {r response : Response} {command : Command} {ch ch' : Channel} {e : Error}

theorem readOne_ok (h : (unread command).read ch = (.ok (), response, ch')) :
    readOne command ch = (.ok response, ch') := by
  simp [readOne, h, Except.map]

theorem readOne_error (h : (unread command).read ch = (.error e, response, ch')) :
    readOne command ch = (.error e, ch') := by
  simp [readOne, h, Except.map]

/-- A successful reading of an unread response is the decoding of a reply. -/
theorem outcome_of_read (h : (unread command).read ch = (.ok (), response, ch')) :
    ∃ outcome, Outcome.read command ch = .ok outcome ch' ∧
      response = ⟨command, some outcome⟩ := by
  simp only [read, unread] at h
  split at h
  · rename_i outcome mid hread
    simp only [Prod.mk.injEq, true_and] at h
    rcases h with ⟨rfl, rfl⟩
    exact ⟨outcome, hread, rfl⟩
  · simp at h

/-- A failed reading of an unread response is the failure to decode a reply. -/
theorem error_of_read (h : (unread command).read ch = (.error e, response, ch')) :
    Outcome.read command ch = .error e ch' := by
  simp only [read, unread] at h
  split at h
  · simp at h
  · rename_i e' mid hread
    simp only [Prod.mk.injEq, Except.error.injEq] at h
    rcases h with ⟨rfl, _, rfl⟩
    exact hread

/-- A failed reading of an unread response leaves it unread. -/
theorem unread_of_read (h : (unread command).read ch = (.error e, response, ch')) :
    response = unread command := by
  simp only [read, unread] at h
  split at h
  · simp at h
  · simp only [Prod.mk.injEq] at h
    exact h.2.1.symm

/-- A response belongs to the command it was read for. -/
theorem command_of_read (h : (unread command).read ch = (.ok (), response, ch')) :
    response.command = command := by
  rcases outcome_of_read h with ⟨outcome, _, rfl⟩
  rfl

/-- A reading fails only with an error of the stream. -/
theorem isStream_of_read (h : (unread command).read ch = (.error e, response, ch')) :
    e.IsStream :=
  Outcome.read_isStream (error_of_read h)

/-- A response that is not terminal leaves a stream that ends. -/
theorem ends_of_read (hends : ch.source.Ends)
    (h : (unread command).read ch = (.ok (), response, ch'))
    (hstays : response.isTerminal = false) : ch'.source.Ends := by
  rcases outcome_of_read h with ⟨outcome, hread, rfl⟩
  exact Outcome.read_ok_ends hends hread hstays

end Read

/-! ## Responses in a row -/

/-- Reading one reply after the other gives just these responses, none of them terminal,
and leads from one channel to another. -/
inductive Reads (ch : Channel) : List Response → Channel → Prop
  | nil : Reads ch [] ch
  | snoc {responses : List Response} {command : Command} {response : Response}
      {mid ch' : Channel} (before : Reads ch responses mid)
      (read : (unread command).read mid = (.ok (), response, ch'))
      (stays : response.isTerminal = false) : Reads ch (responses ++ [response]) ch'

namespace Reads

variable {ch ch' : Channel} {responses : List Response}

/-- The responses are what the commands are answered when they are read in a row. -/
theorem readEach (h : Reads ch responses ch') :
    Response.readEach (responses.map command) ch = (responses.map .ok, ch') := by
  induction h with
  | nil => rfl
  | snoc before read stays ih =>
    have hcommand := (command_of_read read).symm
    rw [List.map_append, readEach_append, ih]
    simp [Response.readEach, readOne_ok (hcommand ▸ read)]

/-- Replies that were read stay what they are when more arrives. -/
theorem followedBy (h : Reads ch responses ch') (hwait : ch.source.silence = .waiting)
    (more : Source) :
    Reads (ch.followedBy more) responses (ch'.followedBy more) ∧
      ch'.source.silence = .waiting := by
  induction h with
  | nil => exact ⟨.nil, hwait⟩
  | snoc before read stays ih =>
    rcases ih with ⟨hbefore, hmid⟩
    rcases read_followedBy hmid read (by simp) more with ⟨hread, hsilence⟩
    exact ⟨.snoc hbefore hread stays, hsilence⟩

/-- Replies that were read leave a stream that ends. -/
theorem ends (h : Reads ch responses ch') (hends : ch.source.Ends) : ch'.source.Ends := by
  induction h with
  | nil => exact hends
  | snoc before read stays ih => exact ends_of_read ih read stays

end Reads

/-! ## Outcomes in a row -/

/-- The answers of a connection that has a fault. -/
def refusals {α β : Type} (fault : Fault) (calls : List α) : List (Result β) :=
  calls.map fun _ => .error (.faulted fault)

@[simp]
theorem refusals_map {α β γ : Type} (fault : Fault) (f : α → β) (calls : List α) :
    (refusals fault (calls.map f) : List (Result γ)) = refusals fault calls := by
  simp [refusals, Function.comp_def]

@[simp]
theorem refusals_append {α β : Type} (fault : Fault) (first second : List α) :
    (refusals fault (first ++ second) : List (Result β)) =
      refusals fault first ++ refusals fault second := by
  simp [refusals]

/-- What calls for some commands are answered on one connection: responses, until one of
them is terminal or cannot be read, and then the fault. -/
def outcomes : List Command → Channel → List (Result Response)
  | [], _ => []
  | command :: rest, ch =>
    match (unread command).read ch with
    | (.ok (), response, ch') =>
      .ok response ::
        if response.isTerminal then refusals (.closedBy command.name) rest
        else outcomes rest ch'
    | (.error e, _, _) => .error e :: refusals (.ofError e) rest

/-- Responses that are not terminal are the outcomes of their commands. -/
theorem Reads.outcomes {ch ch' : Channel} {responses : List Response}
    (h : Reads ch responses ch') (rest : List Command) :
    Response.outcomes (responses.map command ++ rest) ch =
      responses.map .ok ++ Response.outcomes rest ch' := by
  induction h generalizing rest with
  | nil => rfl
  | @snoc responses command response mid ch' before read stays ih =>
    have hcommand := command_of_read read
    have hlast : Response.outcomes (response.command :: rest) mid =
        .ok response :: Response.outcomes rest ch' := by
      rw [hcommand]
      simp [Response.outcomes, read, stays]
    rw [List.map_append, List.append_assoc]
    simp [ih, hlast]

end Response

end KeyValueClient
