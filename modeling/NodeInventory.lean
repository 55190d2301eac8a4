import NodeInventory.Config.File
import NodeInventory.Logging.Record
import NodeInventory.Logging.Setup
import NodeInventory.Service.Service
import NodeInventory.Service.Calls
import NodeInventory.Proofs.Remote.Sending
import NodeInventory.Proofs.Discovery.Requests
import NodeInventory.Proofs.Discovery.Deletion
import NodeInventory.Proofs.Discovery.Success
import NodeInventory.Proofs.Query.Literal
import NodeInventory.Proofs.Query.Quoting
import NodeInventory.Proofs.Query.Grammar
import NodeInventory.Proofs.Query.Meaning
import NodeInventory.Proofs.Query.Selection
import NodeInventory.Proofs.Remote.Script
import NodeInventory.Proofs.Discovery.Visit
import NodeInventory.Proofs.Discovery.Batch
import NodeInventory.Proofs.Discovery.Independence
import NodeInventory.Proofs.Discovery.Submitting
import NodeInventory.Proofs.Payload.Building
import NodeInventory.Proofs.Discovery.Waiting
import NodeInventory.Proofs.Discovery.Phases
import NodeInventory.Proofs.Config.Filling
import NodeInventory.Proofs.Discovery.Settings
import NodeInventory.Proofs.Service.Starting
import NodeInventory.Proofs.Service.Lifecycle
import NodeInventory.Proofs.Discovery.Polls
import NodeInventory.Proofs.Discovery.Timeout
import NodeInventory.Proofs.Query.Wildcards
import NodeInventory.Proofs.Glob.Sets
import NodeInventory.Proofs.Glob.Language
import NodeInventory.Proofs.Text.Marks
import NodeInventory.Proofs.Discovery.OwnName
import NodeInventory.Proofs.Config.Interval
import NodeInventory.Proofs.Config.EmptySections
import NodeInventory.Proofs.Discovery.Readying
import NodeInventory.Proofs.Discovery.Properties
import NodeInventory.Proofs.Discovery.PassOrder
import NodeInventory.Proofs.Network.Grammar
import NodeInventory.Proofs.Network.HostPart
import NodeInventory.Proofs.Remote.Faults
import NodeInventory.Proofs.Remote.Rejection
import NodeInventory.Proofs.Text.Trim
import NodeInventory.Proofs.Discovery.Targets
import NodeInventory.Proofs.Discovery.Renaming
import NodeInventory.Proofs.Config.Gaps
import NodeInventory.Proofs.Calendar.Gregorian
import NodeInventory.Proofs.Query.Windows
import NodeInventory.Proofs.Text.Whole
import NodeInventory.Proofs.Discovery.Decoding
import NodeInventory.Proofs.Json.Grammar
import NodeInventory.Proofs.Json.Scalars
import NodeInventory.Proofs.Json.Reading
import NodeInventory.Proofs.Remote.FaultText
import NodeInventory.Proofs.Discovery.References
import NodeInventory.Proofs.Discovery.Identifiers
import NodeInventory.Proofs.Payload.Fieldwise
import NodeInventory.Proofs.Query.Timestamps
