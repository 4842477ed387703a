import KeyValueClient.CommandLine.Run
import KeyValueClient.Connection.Run
import KeyValueClient.Main
import KeyValueClient.Pipeline.Run
import KeyValueClient.Proofs.Pipeline.Equivalence
import KeyValueClient.Reply.Limits
import KeyValueClient.Reply.Spelling
import KeyValueClient.Request.Acceptance
import KeyValueClient.Request.Reader
import KeyValueClient.Stream.Flat
import KeyValueClient.Proofs.Reading.Flattened
import KeyValueClient.Proofs.Reading.Fragmentation
import KeyValueClient.Proofs.Decimal.Reading
import KeyValueClient.Proofs.Reading.Consumption
import KeyValueClient.Proofs.Reply.RoundTrip
import KeyValueClient.Proofs.Reply.Respelling
import KeyValueClient.Proofs.Reply.Soundness
import KeyValueClient.Proofs.Connection.Disciplines
import KeyValueClient.Proofs.Request.Framing
import KeyValueClient.Proofs.Pipeline.Handles
import KeyValueClient.Proofs.Connection.Calls
import KeyValueClient.Proofs.Connection.Runs
import KeyValueClient.Proofs.Pipeline.Shutdown
import KeyValueClient.Proofs.Reading.Cuts
import KeyValueClient.Proofs.Request.Writer
import KeyValueClient.Proofs.Pipeline.FaultHook
import KeyValueClient.Proofs.Reply.Accessors
import KeyValueClient.Proofs.Connection.Transactions
import KeyValueClient.Proofs.Pipeline.Batching
import KeyValueClient.Proofs.Connection.Connecting
import KeyValueClient.Proofs.Decimal.Exactness
import KeyValueClient.Proofs.Decimal.Writing
import KeyValueClient.Proofs.Reply.LifeCycle
