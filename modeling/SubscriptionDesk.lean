import SubscriptionDesk.AscendingSet
import SubscriptionDesk.Binary64
import SubscriptionDesk.Broker
import SubscriptionDesk.Broker.CallbackSink
import SubscriptionDesk.Broker.ChannelSink
import SubscriptionDesk.Broker.LogSink
import SubscriptionDesk.Broker.Receipt
import SubscriptionDesk.Catalog
import SubscriptionDesk.Change
import SubscriptionDesk.Desk
import SubscriptionDesk.Dialogue
import SubscriptionDesk.Envelope
import SubscriptionDesk.Fault
import SubscriptionDesk.Instant
import SubscriptionDesk.Json
import SubscriptionDesk.Json.Reader
import SubscriptionDesk.MetadataCache
import SubscriptionDesk.MetadataSession
import SubscriptionDesk.Name
import SubscriptionDesk.Negotiation
import SubscriptionDesk.Notice
import SubscriptionDesk.Outcome
import SubscriptionDesk.Priority
import SubscriptionDesk.Prompt
import SubscriptionDesk.Proofs.Alike
import SubscriptionDesk.Proofs.AuditTrail
import SubscriptionDesk.Proofs.CallOrder
import SubscriptionDesk.Proofs.ChangeCourse
import SubscriptionDesk.Proofs.FailureProtocol
import SubscriptionDesk.Proofs.FaithfulOutcome
import SubscriptionDesk.Proofs.NegotiationCourse
import SubscriptionDesk.Proofs.OperationCourse
import SubscriptionDesk.Proofs.OverlapGate
import SubscriptionDesk.Proofs.RefusedBatch
import SubscriptionDesk.Proofs.RegistryEffect
import SubscriptionDesk.Proofs.RegistryLaws
import SubscriptionDesk.Proofs.Requests
import SubscriptionDesk.Proofs.Runs
import SubscriptionDesk.Proofs.Tolerance
import SubscriptionDesk.Proofs.Validity
import SubscriptionDesk.Proposal
import SubscriptionDesk.Registry
import SubscriptionDesk.Rehearsal
import SubscriptionDesk.RequestedTimes
import SubscriptionDesk.Resolution
import SubscriptionDesk.Settings
import SubscriptionDesk.Settings.Load
import SubscriptionDesk.Settings.Reader
import SubscriptionDesk.Stored
import SubscriptionDesk.Stored.Negotiation
import SubscriptionDesk.Stored.Subscription
import SubscriptionDesk.Subscription
import SubscriptionDesk.Text.Blank
import SubscriptionDesk.Text.Digits
import SubscriptionDesk.Text.Utf8
import SubscriptionDesk.Toml
import SubscriptionDesk.Toml.Line
import SubscriptionDesk.Toml.Quoted
import SubscriptionDesk.Toml.Reader
import SubscriptionDesk.Toml.Scalar
import SubscriptionDesk.Volume
import SubscriptionDesk.Proofs.Endings
import SubscriptionDesk.Proofs.Replay
import SubscriptionDesk.Proofs.Announcements
import SubscriptionDesk.Proofs.NoticeFaults
import SubscriptionDesk.Proofs.ExclusiveCreation
import SubscriptionDesk.Proofs.StaleMarks
import SubscriptionDesk.Proofs.SupersededAnswers
import SubscriptionDesk.Proofs.RefreshReports
import SubscriptionDesk.Proofs.OverlapReports
import SubscriptionDesk.Proofs.AlignedSinks
import SubscriptionDesk.Proofs.RegistryHandles
import SubscriptionDesk.Proofs.JsonText
import SubscriptionDesk.Proofs.AuditReplay
import SubscriptionDesk.Proofs.FanOut
import SubscriptionDesk.Proofs.UnmadeChanges
import SubscriptionDesk.Proofs.LazyLookups
import SubscriptionDesk.Proofs.StoredReading
import SubscriptionDesk.Proofs.StoredForms
import SubscriptionDesk.Proofs.DecisionPlans
import SubscriptionDesk.Proofs.OfferedDecisions
import SubscriptionDesk.Proofs.ForcedBatches
import SubscriptionDesk.Proofs.LatencyLimits
import SubscriptionDesk.Proofs.RequestedMoments
import SubscriptionDesk.Proofs.AreaPoints
import SubscriptionDesk.Proofs.OverlapInTime
import SubscriptionDesk.Proofs.MarksByName
import SubscriptionDesk.Proofs.PlainUpdates
import SubscriptionDesk.Proofs.PlaneAreas
import SubscriptionDesk.Proofs.CycleGaps
import SubscriptionDesk.Proofs.ReceiptNumbers
import SubscriptionDesk.Proofs.ConfiguredDispatchers
import SubscriptionDesk.Proofs.LastChanges
import SubscriptionDesk.Proofs.DigitRows
import SubscriptionDesk.Proofs.TrimmedTexts
import SubscriptionDesk.Proofs.PriorityTexts
import SubscriptionDesk.Proofs.CalendarDays
import SubscriptionDesk.Proofs.Timestamps
import SubscriptionDesk.Proofs.ReportedTimes
