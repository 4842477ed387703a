import KeyValueClient.Connection.Blocking

/-!
# Session setup

Where and as whom to connect, and the requests that set a session up: the password
first, then the database.  Setup stops at the first failure, and an error line in
answer to a setup request is a failure.

Main results:

- Theorem `Session.setUp_cons_ok`: an answered request lets setup go on with the next.
- Theorem `Session.setUp_cons_error`: a failed request ends setup with its error.
-/

namespace KeyValueClient

/-- Where and as whom to connect. -/
structure Destination where
  /-- The network address of the server. -/
  address : String
  /-- The database selected after connecting. -/
  database : UInt32
  /-- The password sent after connecting. -/
  password : Option Bytes
  config : Config
deriving DecidableEq, Repr

namespace Destination

/-- The destination used when nothing is said. -/
def default : Destination :=
  ⟨"127.0.0.1:6379", 0, none, .default⟩

/-- A destination at an address, with defaults for all else. -/
def toAddress (address : String) : Destination :=
  { default with address := address }

/-- The requests that set a session up, in order. -/
def setupRequests (d : Destination) : List Request :=
  let password := d.password.toList.map fun password => ⟨.auth, [password]⟩
  let database :=
    if d.database = 0 then [] else [⟨.select, [Decimal.ofInt d.database.toNat]⟩]
  password ++ database

end Destination

namespace Session

/-- Check the answer to a setup request. -/
def checkAnswer (r : Response) : Result Unit := do
  match ← r.status with
  | .error message => .error (.rejected r.command.name message)
  | _ => .ok ()

/-- Make setup requests through a service, until one fails. -/
def setUp {σ : Type} (service : Request → σ → Result Response × σ) :
    List Request → σ → Result Unit × σ
  | [], connection => (.ok (), connection)
  | request :: rest, connection =>
    match service request connection with
    | (.error e, connection) => (.error e, connection)
    | (.ok response, connection) =>
      match checkAnswer response with
      | .error e => (.error e, connection)
      | .ok () => setUp service rest connection

/-- Make requests one after the other, whatever comes of them. -/
def serviceAll {σ : Type} (service : Request → σ → Result Response × σ) :
    List Request → σ → List (Result Response) × σ
  | [], connection => ([], connection)
  | request :: rest, connection =>
    let (result, connection) := service request connection
    let (results, connection) := serviceAll service rest connection
    (result :: results, connection)

/-! ## Laws -/

/-- An answered request lets setup go on with the next. -/
theorem setUp_cons_ok {σ : Type} {service : Request → σ → Result Response × σ}
    {request : Request} {response : Response} {before after : σ}
    (hservice : service request before = (.ok response, after))
    (hanswer : checkAnswer response = .ok ()) (rest : List Request) :
    setUp service (request :: rest) before = setUp service rest after := by
  simp [setUp, hservice, hanswer]

/-- A failed request ends setup with its error. -/
theorem setUp_cons_error {σ : Type} {service : Request → σ → Result Response × σ}
    {request : Request} {e : Error} {before after : σ}
    (hservice : service request before = (.error e, after)) (rest : List Request) :
    setUp service (request :: rest) before = (.error e, after) := by
  simp [setUp, hservice]

end Session

end KeyValueClient
