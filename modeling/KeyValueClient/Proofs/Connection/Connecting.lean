import KeyValueClient.Peer
import KeyValueClient.Proofs.Connection.SessionSetup
import KeyValueClient.Proofs.Decimal.Reading
import KeyValueClient.Proofs.Request.Layouts

/-!
# Connecting

A session is set up as a whole or not at all.  The password is sent first and the database after
it.  If both are granted the connection is ready, and otherwise the first failure is reported and
nothing more is sent.

Main results:

- Theorem `Destination.inOrder`: what the setup requests are.
- Theorem `Destination.setupRequests_valid_iff`: only the password can fail its check.
- Theorem `Destination.connects`: connecting sets a session up as a whole or not at all.
-/

namespace KeyValueClient

/-! ## The requests -/

namespace Destination

/-- The password, if there is one, can travel as a token. -/
def PasswordFits (d : Destination) : Prop :=
  ∀ password, d.password = some password → Request.IsKey password

/-- The setup requests are what the destination calls for: the password first, the database
after it, and no database when the first is wanted. -/
structure InOrder (d : Destination) : Prop where
  order : (d.setupRequests.map Request.command).Sublist [.auth, .select]
  auth : ∀ arguments,
    ⟨.auth, arguments⟩ ∈ d.setupRequests ↔ ∃ password ∈ d.password, arguments = [password]
  select : ∀ arguments, ⟨.select, arguments⟩ ∈ d.setupRequests ↔
    d.database ≠ 0 ∧ arguments = [Decimal.ofInt d.database.toNat]
  /-- The number of the database is written in its canonical form, and passes its check. -/
  canonical : ∀ arguments, ⟨.select, arguments⟩ ∈ d.setupRequests →
    Request.check ⟨.select, arguments⟩ = .ok () ∧
      ∃ digits, arguments = [digits] ∧ Decimal.IsCanonical digits ∧
        Decimal.Spells digits d.database.toNat

end Destination

/-- A password passes its check if it can travel as a token. -/
theorem Request.check_auth_iff (password : Bytes) :
    Request.check ⟨.auth, [password]⟩ = .ok () ↔ IsKey password := by
  rw [check_ok_iff]
  constructor
  · rintro ⟨layout, hfits : layout.Fits .key, harguments⟩
    cases hfits with
    | key hkey => exact List.singleton_inj.1 harguments ▸ hkey
  · intro hkey
    exact ⟨.line [password], .key hkey, rfl⟩

/-- The number of a database passes its check. -/
theorem Request.check_select (database : UInt32) :
    Request.check ⟨.select, [Decimal.ofInt database.toNat]⟩ = .ok () := by
  have hrange : Decimal.Word.bits64.InRange database.toNat := by
    have hlt := database.toNat_lt
    simp only [Decimal.Word.InRange, Decimal.Word.least, Decimal.Word.greatest]
    omega
  have hnumber : IsNumber (Decimal.ofInt database.toNat) :=
    ⟨_, Decimal.readWord_ok_iff.1 (Decimal.readInt64_ofInt hrange)⟩
  exact check_ok_iff.2 ⟨.line [Decimal.ofInt database.toNat], .number hnumber, rfl⟩

namespace Destination

variable {d : Destination}

theorem mem_setupRequests_iff {request : Request} :
    request ∈ d.setupRequests ↔
      (∃ password ∈ d.password, request = ⟨.auth, [password]⟩) ∨
        d.database ≠ 0 ∧ request = ⟨.select, [Decimal.ofInt d.database.toNat]⟩ := by
  simp only [setupRequests, List.mem_append, List.mem_map, Option.mem_toList, eq_comm]
  split_ifs with h <;> simp [h]

/-- What the setup requests are. -/
theorem inOrder (d : Destination) : d.InOrder where
  order := by
    unfold setupRequests
    cases d.password <;> split_ifs <;> simp
  auth arguments := by simp [mem_setupRequests_iff]
  select arguments := by simp [mem_setupRequests_iff]
  canonical arguments h := by
    have hselect : d.database ≠ 0 ∧ arguments = [Decimal.ofInt d.database.toNat] := by
      simpa [mem_setupRequests_iff] using h
    rcases hselect with ⟨-, rfl⟩
    exact ⟨Request.check_select d.database, _, rfl, Decimal.isCanonical_ofInt _,
      Decimal.spells_ofInt _⟩

/-- The setup requests pass their checks just if the password fits. -/
theorem setupRequests_valid_iff :
    (∀ request ∈ d.setupRequests, request.check = .ok ()) ↔ d.PasswordFits := by
  constructor
  · intro h password hpassword
    have hmem : (⟨.auth, [password]⟩ : Request) ∈ d.setupRequests :=
      mem_setupRequests_iff.2 (Or.inl ⟨password, hpassword, rfl⟩)
    exact (Request.check_auth_iff password).1 (h _ hmem)
  · intro h request hmem
    rcases mem_setupRequests_iff.1 hmem with ⟨password, hpassword, rfl⟩ | ⟨-, rfl⟩
    · exact (Request.check_auth_iff password).2 (h password hpassword)
    · exact Request.check_select d.database

/-- Setup requests are answered with a status line and leave the connection open. -/
theorem setupRequests_status {request : Request} (h : request ∈ d.setupRequests) :
    request.command.replyShape = .status ∧ request.command.isTerminal = false := by
  rcases mem_setupRequests_iff.1 h with ⟨password, -, rfl⟩ | ⟨-, rfl⟩ <;> exact ⟨rfl, rfl⟩

/-! ## Connecting -/

open Session (Granted Failed Ended)

/-- A session is set up as a whole or not at all, over a stream of replies and a sink. -/
structure AllOrNothing (d : Destination) (source : Source) (sink : Sink) (result : Result Unit)
    (state : ConnectionState) (channel : Channel) (after : Sink) : Prop where
  /-- Setup succeeds just if the password fits, the requests can be written, and every one of
  their replies can be read and is no error line. -/
  succeeds_iff : result = .ok () ↔
    d.PasswordFits ∧ sink.TakesEach (d.setupRequests.map (Request.wire d.config.encoding)) ∧
      ∀ reply ∈ (Outcome.readEach (d.setupRequests.map Request.command)
        (d.config.channel source)).1, ∃ o, reply = .ok o ∧ o.status.isError = false
  /-- Then the requests were granted one after the other, and nothing else was sent. -/
  established : result = .ok () → state = .ready ∧
    Granted d.config.encoding (d.config.channel source) sink d.setupRequests channel after ∧
      after.sent = sink.sent ++ Request.wireAll d.config.encoding d.setupRequests
  /-- The next reply is read from behind the status lines that answered them. -/
  behind : result = .ok () → ∃ lines : List Bytes, lines.length = d.setupRequests.length ∧
    (∀ words ∈ lines, Bytes.lf ∉ words) ∧
      source.flat = channel.flat.after (lines.flatMap (Wire.line .status))
  /-- Otherwise the error is that of the first request that was not granted, and nothing was sent
  behind it. -/
  stopped : ∀ e, result = .error e → ∃ first request rest mid smid,
    d.setupRequests = first ++ request :: rest ∧
      Granted d.config.encoding (d.config.channel source) sink first mid smid ∧
      Failed d.config.encoding mid smid request e after ∧
      ∃ taken, taken <+: request.wire d.config.encoding ∧
        after.sent = sink.sent ++ Request.wireAll d.config.encoding first ++ taken
  /-- The one argument that can be refused is the password. -/
  refused_iff : (∃ cause, result = .error (.argument cause)) ↔ ¬d.PasswordFits
  /-- With a password that does not fit, nothing is sent. -/
  untouched : ¬d.PasswordFits → after = sink

/-- A password that does not fit is refused before anything is sent. -/
theorem refused_of_ended {ch channel : Channel} {sink after : Sink} {result : Result Unit}
    {state : ConnectionState}
    (h : Ended d.config.encoding ch sink d.setupRequests result state channel after)
    (hunfit : ¬d.PasswordFits) : (∃ cause, result = .error (.argument cause)) ∧ after = sink := by
  simp only [PasswordFits, not_forall] at hunfit
  rcases hunfit with ⟨password, hpassword, hkey⟩
  have hrefused : Request.check ⟨.auth, [password]⟩ ≠ .ok () := by
    rwa [Ne, Request.check_auth_iff]
  have hrequests : ∃ rest, d.setupRequests = ⟨.auth, [password]⟩ :: rest := by
    simp [setupRequests, hpassword]
  rcases hrequests with ⟨rest, hrequests⟩
  rw [hrequests] at h
  -- The password goes first, so nothing can have been granted before it.
  cases h with
  | established granted =>
    cases granted with
    | cons check => contradiction
  | @stopped first _ request _ _ _ _ _ _ split granted failed =>
    cases granted with
    | cons check =>
      cases split
      contradiction
    | nil =>
      cases split
      cases failed with
      | refused check => exact ⟨⟨_, rfl⟩, rfl⟩
      | lost check | broken check | rejected check => contradiction

/-- However setup ends, the session is set up as a whole or not at all. -/
theorem allOrNothing_of_ended {source : Source} {sink after : Sink} {result : Result Unit}
    {state : ConnectionState} {channel : Channel}
    (h : Ended d.config.encoding (d.config.channel source) sink d.setupRequests result state
      channel after) :
    d.AllOrNothing source sink result state channel after where
  succeeds_iff := by
    rw [h.ok_iff, ← setupRequests_valid_iff]
    exact ⟨fun ⟨hvalid, hwritten, hgranted⟩ => ⟨hvalid, hwritten, hgranted⟩,
      fun ⟨hvalid, hwritten, hgranted⟩ => ⟨hvalid, hwritten, hgranted⟩⟩
  established hok := by
    cases h with
    | established granted => exact ⟨rfl, granted, granted.sent⟩
    | stopped => contradiction
  behind hok := by
    cases h with
    | established granted =>
      have hflat : (d.config.channel source).flat = source.flat := Channel.flat_fresh _ _ _
      rw [← hflat]
      exact granted.lines fun request hmem => setupRequests_status hmem
    | stopped => contradiction
  stopped e he := by
    cases h with
    | established => contradiction
    | stopped split granted failed =>
      cases he
      rcases failed.sent with ⟨taken, htaken, hsent⟩
      rw [granted.sent] at hsent
      exact ⟨_, _, _, _, _, split, granted, failed, taken, htaken, hsent⟩
  refused_iff := by
    refine ⟨?_, fun hunfit => (refused_of_ended h hunfit).1⟩
    rintro ⟨cause, hresult⟩ hfits
    cases h with
    | established => contradiction
    | stopped split granted failed =>
      cases hresult
      have hmem := split ▸ List.mem_append_right _ List.mem_cons_self
      have hcheck := setupRequests_valid_iff.2 hfits _ hmem
      rw [failed.check_error] at hcheck
      contradiction
  untouched hunfit := (refused_of_ended h hunfit).2

/-- Connecting over an open stream sets a session up as a whole or not at all, on a blocking
connection and on a pipeline. -/
structure Connects (d : Destination) (source : Source) (sink : Sink) : Prop where
  requests : d.InOrder
  blocking :
    let given := BlockingConnection.connectOver d source sink
    d.AllOrNothing source sink given.1 given.2.state given.2.channel given.2.sink
  pipeline :
    let given := Pipeline.connectOver d source sink
    d.AllOrNothing source sink given.1 given.2.state given.2.channel given.2.sink
  /-- A pipeline that is connected holds nothing back and has no call waiting. -/
  idle : (Pipeline.connectOver d source sink).1 = .ok () →
    (Pipeline.connectOver d source sink).2.Idle
  /-- A pipeline that is not connected writes nothing more when it is given up. -/
  abandoned : (Pipeline.connectOver d source sink).2.abandon.sink =
    (Pipeline.connectOver d source sink).2.sink

/-- Connecting with a valid configuration sets a session up as a whole or not at all, over every
stream that ends and every sink, whatever they do.  Connecting to a peer is the case in which the
stream delivers its bytes in one piece. -/
theorem connects (d : Destination) (hvalid : d.config.check = .ok ()) (source : Source)
    (hends : source.Ends) (sink : Sink) : d.Connects source sink := by
  let c : BlockingConnection :=
    { BlockingConnection.onStream source sink d.config with peer := d.address }
  let p := Pipeline.onStream source sink d.config
  have hmirrors : Mirrors c p :=
    let h := Mirrors.onStream hends sink d.config d.config.writeMode d.config.flushThreshold
    ⟨h.sink, h.encoding, h.state, h.ordered, h.idle, h.channel, h.ends⟩
  have hopen : ∀ request ∈ d.setupRequests, request.command.isTerminal = false :=
    fun request hmem => (setupRequests_status hmem).2
  have hblocking : BlockingConnection.connectOver d source sink =
      Session.setUp BlockingConnection.service d.setupRequests c := by
    simp only [BlockingConnection.connectOver, hvalid, c]
  have hpipeline : Pipeline.connectOver d source sink =
      Session.setUp Pipeline.service d.setupRequests p := by
    simp only [Pipeline.connectOver, hvalid, p]
  have hended := BlockingConnection.setUp_ended (c := c) rfl hopen
  rcases hmirrors.setUp_ended rfl hopen with ⟨hended', hidle, habandoned⟩
  rw [← hblocking] at hended
  rw [← hpipeline] at hended' hidle habandoned
  exact ⟨d.inOrder, allOrNothing_of_ended hended, allOrNothing_of_ended hended', hidle,
    habandoned⟩

/-- A chunked pipeline and a blocking connection with a password and a database that the server
refuses, over replies that arrive in pieces and a sink that takes two bytes first. -/
theorem connects_rejected :
    let config : Config := { Config.default with writeMode := .chunked, flushThreshold := some 7 }
    let d : Destination := ⟨"127.0.0.1:6379", 9, some (Bytes.ofText "secret"), config⟩
    let source : Source :=
      ⟨[.data (Bytes.ofText "+OK\r"), .interrupted, .data (Bytes.ofText "\n-ERR\r\n+")], .gone⟩
    let sink : Sink := .scripted [some (.takes 2)] .takesAll [] none
    config.check = .ok () ∧ source.Ends ∧ d.Connects source sink ∧
      (Pipeline.connectOver d source sink).1 = .error (.rejected "SELECT" "ERR") ∧
      (Pipeline.connectOver d source sink).2.sink.sent =
        Bytes.ofText "AUTH secret\r\nSELECT 9\r\n" := by
  have hrejected :
      (Pipeline.connectOver
          ⟨"127.0.0.1:6379", 9, some (Bytes.ofText "secret"),
            { Config.default with writeMode := .chunked, flushThreshold := some 7 }⟩
          ⟨[.data (Bytes.ofText "+OK\r"), .interrupted, .data (Bytes.ofText "\n-ERR\r\n+")], .gone⟩
          (.scripted [some (.takes 2)] .takesAll [] none)).1 =
        .error (.rejected "SELECT" "ERR") := by
    set_option maxRecDepth 4000 in with_unfolding_all rfl
  intro config d source sink
  have hvalid : config.check = .ok () := rfl
  have hends : source.Ends := ⟨by decide, by decide⟩
  refine ⟨hvalid, hends, connects d hvalid source hends sink, hrejected, ?_⟩
  decide +kernel

end Destination

end KeyValueClient
