import Screencast.Announcement
import Screencast.Broadcast
import Screencast.Bytes
import Screencast.Codec
import Screencast.Command
import Screencast.Command.Listing
import Screencast.Command.Outcome
import Screencast.Command.Perform
import Screencast.Command.Recording
import Screencast.CommandLine
import Screencast.CommandLine.Param
import Screencast.Decimal.Datum
import Screencast.Decimal.Fixed
import Screencast.Decimal.Shortest
import Screencast.Delivery
import Screencast.DeviceName
import Screencast.Directory
import Screencast.Drain
import Screencast.Drain.Buffered
import Screencast.Endpoint
import Screencast.Exit
import Screencast.Failure
import Screencast.Fault
import Screencast.Fault.Errno
import Screencast.Feed
import Screencast.Feed.Bound
import Screencast.Feed.Gather
import Screencast.Feed.Paced
import Screencast.Frame
import Screencast.Frame.Reassembly
import Screencast.Handshake
import Screencast.Handshake.Paced
import Screencast.History
import Screencast.Intake
import Screencast.Link
import Screencast.LinkError
import Screencast.Main
import Screencast.Notice
import Screencast.Notice.Line
import Screencast.Probe
import Screencast.Remux
import Screencast.Report
import Screencast.Session
import Screencast.Session.Connect
import Screencast.Session.Paced
import Screencast.Session.Phase
import Screencast.Sink
import Screencast.Sink.Any
import Screencast.Sink.Child
import Screencast.Sink.Child.Program
import Screencast.Sink.Child.Shell
import Screencast.Sink.Child.Utility
import Screencast.Sink.Error
import Screencast.Sink.Impatient
import Screencast.Sink.Recording
import Screencast.Sink.Tally
import Screencast.Sink.Tree
import Screencast.Sink.Witness
import Screencast.Span
import Screencast.Span.Parse
import Screencast.Text.Affix
import Screencast.Text.Blank
import Screencast.Text.JsonLine
import Screencast.Text.Literal
import Screencast.Text.Numeral
import Screencast.Text.Table
import Screencast.Text.Utf8
import Screencast.Text.Width
import Screencast.Text.Width.Emoji
import Screencast.Text.Width.Joining
import Screencast.Text.Width.Ranges
import Screencast.Version
import Screencast.WaitStatus
import Screencast.WireError
import Screencast.Proofs.Feed.Signal
import Screencast.Proofs.Feed.Gather
import Screencast.Proofs.Frame.Grammar
import Screencast.Proofs.Answers
import Screencast.Proofs.Intake
import Screencast.Proofs.Drain
import Screencast.Proofs.Handshake
import Screencast.Proofs.Session
import Screencast.Proofs.Session.RoundTrip
import Screencast.Proofs.Frame.Reassembly
import Screencast.Proofs.Feed.Paced
import Screencast.Proofs.Handshake.Paced
import Screencast.Proofs.Session.Paced
import Screencast.Proofs.Session.Lifecycle
import Screencast.Proofs.Session.Twin
import Screencast.Proofs.Handshake.Twin
import Screencast.Proofs.Sink.AnswersAs
import Screencast.Proofs.Sink.Logged
import Screencast.Proofs.Delivery
import Screencast.Proofs.Feed.Idle
import Screencast.Proofs.Session.Operation
import Screencast.Proofs.Session.Step
import Screencast.Proofs.Session.Agreement
import Screencast.Proofs.Session.Accounts
import Screencast.Proofs.Session.Use
import Screencast.Proofs.Session.Cancellation
import Screencast.Proofs.Delivery.Cancellation
import Screencast.Proofs.Feed.Alike
import Screencast.Proofs.Session.Alike
import Screencast.Proofs.Session.Cut
import Screencast.Proofs.Delivery.Course
import Screencast.Proofs.Delivery.Told
import Screencast.Proofs.Sink.Joint
import Screencast.Proofs.Delivery.Joint
import Screencast.Proofs.Drain.Buffered
import Screencast.Proofs.Sink.Recording
import Screencast.Proofs.Delivery.Recording
import Screencast.Proofs.Feed.Gathered
import Screencast.Proofs.Session.Intact
import Screencast.Proofs.Session.Soundness
import Screencast.Proofs.Session.Peers
import Screencast.Proofs.Delivery.Capabilities
import Screencast.Proofs.Intake.Handover
import Screencast.Proofs.Handshake.Reads
import Screencast.Proofs.Session.Gives
import Screencast.Proofs.Exit
import Screencast.Proofs.Text.Table
import Screencast.Proofs.Report
import Screencast.Proofs.Command.Listing
import Screencast.Proofs.Delivery.Traced
import Screencast.Proofs.Command.Recording
import Screencast.Proofs.Handshake.Bounds
import Screencast.Proofs.Session.Bounds
import Screencast.Proofs.Handshake.Failures
import Screencast.Proofs.Handshake.Interruptions
import Screencast.Proofs.Handshake.Pauses
import Screencast.Proofs.Frame.Conservation
import Screencast.Proofs.Frame.Schedule
import Screencast.Broadcast.Sender
import Screencast.Proofs.Drain.Calls
import Screencast.Proofs.Broadcast.Sender
import Screencast.Proofs.Text.Utf8
import Screencast.Proofs.DeviceName
import Screencast.Proofs.Text.Ends
import Screencast.Proofs.Text.Numeral
import Screencast.Proofs.Feed.Exactly
import Screencast.Proofs.Frame.Provenance
import Screencast.Proofs.Command.TimeLimit
import Screencast.Proofs.Endpoint
