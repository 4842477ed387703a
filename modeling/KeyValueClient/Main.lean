import KeyValueClient.CommandLine.Run

/-!
# The command-line program

The transport is the caller's: what the server sends is read from the standard input
until it ends.  It is read only when the command line asks for a command to be sent.
-/

open KeyValueClient

/-- Run the command line against the server on the standard input. -/
def main (arguments : List String) : IO UInt32 := do
  let received ← match CommandLine.parse arguments with
    | .send _ => do
      let input ← (← IO.getStdin).readBinToEnd
      pure input.data.toList
    | _ => pure []
  let report := CommandLine.run arguments ⟨received, false⟩
  (← IO.getStdout).putStr report.output
  (← IO.getStderr).putStr report.errors
  return report.exitCode.toUInt32
