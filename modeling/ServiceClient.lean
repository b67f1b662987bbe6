import ServiceClient.Caller
import ServiceClient.Caller.Setup
import ServiceClient.Config.Source
import ServiceClient.Logging.Journal
import ServiceClient.Recording
import ServiceClient.Proofs.Action.Alike
import ServiceClient.Proofs.Exchange.Alike
import ServiceClient.Proofs.Exchange.Watched
import ServiceClient.Proofs.Exchange.Recorded
import ServiceClient.Proofs.Exchange.Course
import ServiceClient.Proofs.Exchange.Call
import ServiceClient.Proofs.Exchange.Leasing
import ServiceClient.Proofs.Exchange.LeaseRelease
import ServiceClient.Proofs.Exchange.LeaseUses
import ServiceClient.Proofs.Exchange.Phases
import ServiceClient.Proofs.Exchange.Release
import ServiceClient.Proofs.Exchange.Verdict
import ServiceClient.Proofs.Action.Keeps
import ServiceClient.Proofs.Action.Meets
import ServiceClient.Proofs.Stream.Uses
import ServiceClient.Proofs.Exchange.Line
import ServiceClient.Proofs.Exchange.Ledger
import ServiceClient.Proofs.Header
import ServiceClient.Proofs.Wire.Handed
import ServiceClient.Proofs.Wire.Reached
import ServiceClient.Proofs.Wire.Uses
import ServiceClient.Proofs.Wire.Lifetime
import ServiceClient.Proofs.Wire.Lease
import ServiceClient.Proofs.Wire.Sent
import ServiceClient.Proofs.Config.Template
import ServiceClient.Proofs.Value.Text
import ServiceClient.Proofs.Value.Names
import ServiceClient.Proofs.Config.Substitution
import ServiceClient.Proofs.Config.Proper
import ServiceClient.Proofs.Config.Layers
import ServiceClient.Proofs.Wire.Reading
import ServiceClient.Proofs.Wire.Refusal
import ServiceClient.Proofs.Wire.Classified
import ServiceClient.Proofs.Header.Spelling
import ServiceClient.Proofs.Wire.Framing
import ServiceClient.Proofs.Config.Binding
import ServiceClient.Proofs.Config.Reference
import ServiceClient.Proofs.Config.Section
import ServiceClient.Proofs.Properties
import ServiceClient.Proofs.Text.Reading
import ServiceClient.Proofs.Properties.FrontEnds
import ServiceClient.Proofs.Text.Lines
import ServiceClient.Proofs.Text.Utf8
import ServiceClient.Proofs.Action.Gives
import ServiceClient.Proofs.Exchange.Telling
import ServiceClient.Proofs.Wire.Telling
import ServiceClient.Proofs.Wire.Echo
import ServiceClient.Proofs.Recording
import ServiceClient.Proofs.Wire.Faithful
import ServiceClient.Proofs.Wire.Pieces
import ServiceClient.Proofs.Wire.Gathering
import ServiceClient.Proofs.Wire.Buffering
import ServiceClient.Proofs.Wire.Recut
import ServiceClient.Proofs.Wire.Delivery
import ServiceClient.Proofs.Text.Damage
import ServiceClient.Proofs.Text.Drain
import ServiceClient.Proofs.Exchange.Sending
import ServiceClient.Proofs.Properties.RoundTrip
import ServiceClient.Proofs.Wire.Attempts
import ServiceClient.Proofs.Text.UpperCase
import ServiceClient.Proofs.Logging.Levels
import ServiceClient.Proofs.Logging.Configuring
import ServiceClient.Proofs.Logging.RootLevel
