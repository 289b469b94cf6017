import NodeWatch.Store.DatabaseFile
import NodeWatch.Timeline.Connection
import NodeWatch.Proofs.System.Log
import NodeWatch.Proofs.System.Origin
import NodeWatch.Proofs.Appending
import NodeWatch.Proofs.Conservation
import NodeWatch.Proofs.System.Story
import NodeWatch.Proofs.FeedOrder
import NodeWatch.Proofs.Placing
import NodeWatch.Proofs.LatestLocation
import NodeWatch.Proofs.Incarnation
import NodeWatch.Proofs.Alternation
import NodeWatch.Proofs.System.Records
import NodeWatch.Proofs.System.Attribution
import NodeWatch.Proofs.Identity
import NodeWatch.Proofs.System.Apart
import NodeWatch.Proofs.Linearization
import NodeWatch.Proofs.Uptime
import NodeWatch.Proofs.Tickets
import NodeWatch.Proofs.Agreement
import NodeWatch.Proofs.Batching
import NodeWatch.Proofs.Serialization
import NodeWatch.Proofs.FirstFault
import NodeWatch.Proofs.Retention
import NodeWatch.Proofs.Separation
import NodeWatch.Proofs.Literals
import NodeWatch.Proofs.Grammar
import NodeWatch.Proofs.Surplus
import NodeWatch.Proofs.System.Course
import NodeWatch.Proofs.Retries
import NodeWatch.Proofs.Accounting
import NodeWatch.Proofs.Configuration
import NodeWatch.Proofs.Variables
import NodeWatch.Proofs.Samples
import NodeWatch.Proofs.Exactness
import NodeWatch.Proofs.Echo
import NodeWatch.Proofs.Completion
