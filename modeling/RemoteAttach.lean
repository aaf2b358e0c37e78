import RemoteAttach.Listing.TaskList
import RemoteAttach.Main
import RemoteAttach.Proofs.Listing.Remote
import RemoteAttach.Proofs.Listing.TaskList
import RemoteAttach.Proofs.PipeCommand.Words
import RemoteAttach.Proofs.PipeCommand.GainsQuotes
import RemoteAttach.Proofs.Settings.Comment
import RemoteAttach.Proofs.PipeCommand.Placeholder
import RemoteAttach.Proofs.Json.Commented
import RemoteAttach.Proofs.Json.Passes
import RemoteAttach.Proofs.Json.Scan
import RemoteAttach.Proofs.Json.Stripped
import RemoteAttach.Proofs.Json.Alike
import RemoteAttach.Proofs.Json.Alike.Literal
import RemoteAttach.Proofs.Json.Alike.Number
import RemoteAttach.Proofs.Json.Alike.Value
import RemoteAttach.Proofs.Launch.Commented
import RemoteAttach.Proofs.Json.Ensures
import RemoteAttach.Proofs.Json.Runs
import RemoteAttach.Proofs.Json.Runs.Scalar
import RemoteAttach.Proofs.Json.Runs.Value
import RemoteAttach.Proofs.Json.Runs.Record
import RemoteAttach.Proofs.Launch.Session
import RemoteAttach.Proofs.Launch.RoundTrip
import RemoteAttach.Proofs.Json.Compact
import RemoteAttach.Proofs.Launch.History
import RemoteAttach.Proofs.CommandLine.Agreement
import RemoteAttach.Proofs.Launch.Separated
import RemoteAttach.Proofs.Launch.Retained
import RemoteAttach.Proofs.Listing.Fields
import RemoteAttach.Proofs.LineEnds
import RemoteAttach.Proofs.Logs.Clean
import RemoteAttach.Proofs.CommandLine.Groups
import RemoteAttach.Proofs.Files.Walk
