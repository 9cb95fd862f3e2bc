import NanHost.Config.Json
import NanHost.Node
import NanHost.Report.Config
import NanHost.Report.Event
import NanHost.Report.State
import NanHost.Proofs.Ledger.Docket
import NanHost.Proofs.Agreement.Sessions
import NanHost.Proofs.Agreement.Paths
import NanHost.Proofs.Agreement.Interfaces
import NanHost.Proofs.Engine.Coherence
import NanHost.Proofs.Engine.Conclusion
import NanHost.Proofs.Engine.Events
import NanHost.Proofs.Engine.Admission
import NanHost.Proofs.Host.Steps
import NanHost.Proofs.Host.Reachable
import NanHost.Proofs.Integrity
import NanHost.Proofs.Host.Refusal
import NanHost.Proofs.Engine.Account
import NanHost.Proofs.Host.Account
import NanHost.Proofs.Agreement.Rosters
import NanHost.Proofs.Engine.Teardown
import NanHost.Proofs.Engine.Remainder
import NanHost.Proofs.Ledger.Order
import NanHost.Proofs.Host.Order
import NanHost.Proofs.Host.Cascade
import NanHost.Proofs.Overtaking
import NanHost.Proofs.Course
import NanHost.Proofs.Course.Paths
import NanHost.Proofs.Course.Sessions
import NanHost.Proofs.Agreement.Arrivals
import NanHost.Proofs.Engine.Courses
import NanHost.Proofs.Engine.Passages
import NanHost.Proofs.Engine.Staging
import NanHost.Proofs.Host.Courses
import NanHost.Proofs.Host.Lifetime
import NanHost.Proofs.Host.Closings
import NanHost.Proofs.Host.PathRecords
import NanHost.Proofs.Host.PathReports
import NanHost.Proofs.Host.SessionReports
import NanHost.Proofs.Agreement.Steadiness
import NanHost.Proofs.Engine.Patience
import NanHost.Proofs.Engine.Tidiness
import NanHost.Proofs.Host.Deadlines
import NanHost.Proofs.Host.Leftovers
import NanHost.Proofs.Host.Reuse
import NanHost.Proofs.Host.PeerRequests
import NanHost.Proofs.Engine.Admissible
import NanHost.Proofs.Host.Carriage
import NanHost.Proofs.Host.Handovers
import NanHost.Proofs.Host.Sightings
import NanHost.Proofs.Host.Duplicates
import NanHost.Proofs.Engine.Changes
import NanHost.Proofs.Host.Progress
import NanHost.Proofs.Engine.Retention
import NanHost.Proofs.Host.Updates
import NanHost.Proofs.Host.Limits
import NanHost.Proofs.Engine.Occupancy
import NanHost.Proofs.Host.Commitments
import NanHost.Proofs.Host.Backlog
import NanHost.Proofs.Host.Emissions
import NanHost.Proofs.Confinement
import NanHost.Proofs.Host.Endings
import NanHost.Proofs.Engine.Entities
import NanHost.Proofs.Host.Interleavings
import NanHost.Proofs.Engine.Announcements
import NanHost.Proofs.Meter
import NanHost.Proofs.Host.Metering
import NanHost.Proofs.Host.Gauges
import NanHost.Proofs.Host.Counters
import NanHost.Proofs.Host.Lateness
import NanHost.Proofs.Host.Timeliness
import NanHost.Proofs.Owner.Office
import NanHost.Proofs.Owner.Letters
import NanHost.Proofs.Engine.Hearing
import NanHost.Proofs.Owner.Executions
import NanHost.Proofs.Owner.Fidelity
import NanHost.Proofs.Engine.Faults
import NanHost.Proofs.Ledger.Numbering
import NanHost.Proofs.Simulation.Loop
import NanHost.Proofs.Simulation.Delivery
import NanHost.Proofs.Host.Calm
import NanHost.Proofs.Simulation.Compliance
import NanHost.Proofs.Simulation.Fulfilment
import NanHost.Proofs.Secrecy.Masks
import NanHost.Proofs.Secrecy.Paths
import NanHost.Proofs.Secrecy.Reactions
import NanHost.Proofs.Host.Secrecy
import NanHost.Proofs.Ledger.Recurrence
import NanHost.Proofs.Ledger.Batches
import NanHost.Proofs.Host.Renumbering
import NanHost.Proofs.Engine.Reversal
import NanHost.Proofs.Host.Reversal
import NanHost.Proofs.Engine.Radio
import NanHost.Proofs.Host.Configurations
