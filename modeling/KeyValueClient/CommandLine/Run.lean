import KeyValueClient.CommandLine.Options
import KeyValueClient.CommandLine.Printing
import KeyValueClient.Peer

/-!
# Running a command line

A command line connects, sends one command and prints the reply.  An error line of
the server is a reply like any other; everything else that goes wrong is reported on
the error output and in the exit code.

Main results:

- Theorem `CommandLine.send_unknown`: an unknown command is reported before anything
  is sent.
-/

namespace KeyValueClient.CommandLine

/-- What a run leaves behind. -/
structure Report where
  exitCode : UInt8
  output : String
  errors : String
  /-- The bytes sent to the server. -/
  sent : Bytes
deriving DecidableEq, Repr

namespace Report

/-- Some lines, each with its end. -/
def ofLines (lines : List String) : String :=
  String.join (lines.map (· ++ "\n"))

/-- The run printed some lines. -/
def printed (lines : List String) (sent : Bytes) : Report :=
  ⟨0, ofLines lines, "", sent⟩

/-- The run failed. -/
def failed (e : Error) (sent : Bytes) : Report :=
  ⟨1, "", ofLines ["(error) " ++ e.message], sent⟩

end Report

/-- The name and version of the program. -/
def versionLine : String :=
  "kvwire-cli 0.1.0"

/-- How the program is called. -/
def usageLine : String :=
  "Usage: kvwire-cli [OPTIONS] <COMMAND>..."

/-- The help text. -/
def helpLines : List String :=
  ["Send a command to a key-value server",
   "",
   usageLine,
   "",
   "Arguments:",
   "  <COMMAND>...  Command name followed by its arguments",
   "",
   "Options:",
   "  -s, --server <SERVER>      Server address (host:port) [default: 127.0.0.1:6379]",
   "  -d, --db <DB>              Database index to select [default: 0]",
   "  -p, --password <PASSWORD>  Password for AUTH",
   "      --multi-bulk           Encode every request in the count-prefixed form",
   "  -h, --help                 Print help",
   "  -V, --version              Print version"]

/-- Where the options say to connect. -/
def destination (o : Options) : Destination where
  address := o.server.getD Destination.default.address
  database := o.database.getD Destination.default.database
  password := o.password.map Bytes.ofText
  config :=
    { Config.default with
      encoding := if o.counted then .counted else .shaped
      readTimeout := 30000 }

/-- The lines printed for a response. -/
def responseLines (r : Response) : Result (List String) := do
  let outcome ← r.outcome
  match outcome.status with
  | .error message => return ["(error) " ++ message]
  | _ => return printReply outcome.reply

/-- Send a request to the server and print its reply. -/
def exchange (d : Destination) (request : Request) (peer : Peer) : Report :=
  match BlockingConnection.connect d peer with
  | (.error e, connection) => .failed e connection.sink.sent
  | (.ok (), connection) =>
    let (result, connection) := connection.service request
    match result.bind responseLines with
    | .error e => .failed e connection.sink.sent
    | .ok lines => .printed lines connection.sink.sent

/-- Send the command that the options name. -/
def send (o : Options) (peer : Peer) : Report :=
  let name := o.words.headD ""
  match Command.ofName? name with
  | none => .failed (.unknownCommand name) []
  | some command => exchange (destination o) ⟨command, o.words.tail.map Bytes.ofText⟩ peer

/-- Run a command line against a server. -/
def run (arguments : List String) (peer : Peer) : Report :=
  match parse arguments with
  | .send o => send o peer
  | .version => .printed [versionLine] []
  | .help => .printed helpLines []
  | .misuse => ⟨2, "", Report.ofLines [usageLine], []⟩

/-- An unknown command is reported before anything is sent. -/
theorem send_unknown {o : Options} {name : String} {arguments : List String}
    (hwords : o.words = name :: arguments) (h : Command.ofName? name = none) (peer : Peer) :
    send o peer = .failed (.unknownCommand name) [] := by
  simp [send, hwords, h]

end KeyValueClient.CommandLine
