import GitDelivery.Backoff
import GitDelivery.Bytes.Base64
import GitDelivery.Bytes.Hex
import GitDelivery.Bytes.Md5
import GitDelivery.Bytes.Utf8
import GitDelivery.Cluster.Address
import GitDelivery.Cluster.DeployedObject
import GitDelivery.Cluster.Engine
import GitDelivery.Cluster.Exchange
import GitDelivery.Cluster.Failure
import GitDelivery.Cluster.Placement
import GitDelivery.Cluster.Rules
import GitDelivery.Cluster.Store
import GitDelivery.Connection
import GitDelivery.Context
import GitDelivery.Decimal.Double
import GitDelivery.Dialogue
import GitDelivery.FilePath
import GitDelivery.FileTree.Basic
import GitDelivery.Git.Client
import GitDelivery.Git.Session
import GitDelivery.Git.Url
import GitDelivery.Hook.Ledger
import GitDelivery.Hook.Registry
import GitDelivery.Hook.Template
import GitDelivery.Json.Basic
import GitDelivery.Json.Printer
import GitDelivery.Json.Reader
import GitDelivery.LabelSelector
import GitDelivery.Manifest.Chart
import GitDelivery.Manifest.Classification
import GitDelivery.Manifest.Document
import GitDelivery.Manifest.Kustomization
import GitDelivery.Manifest.Transform
import GitDelivery.PackageOverride
import GitDelivery.Proofs.Backoff
import GitDelivery.Proofs.Cluster.Deployment
import GitDelivery.Proofs.Cluster.Exchange
import GitDelivery.Proofs.Cluster.Pruning
import GitDelivery.Proofs.Cluster.Requests
import GitDelivery.Proofs.Cluster.Store
import GitDelivery.Proofs.Cluster.Tracking
import GitDelivery.Proofs.Delivery.Atomic
import GitDelivery.Proofs.Delivery.Gate
import GitDelivery.Proofs.Delivery.HookStatus
import GitDelivery.Proofs.Delivery.Lifecycle
import GitDelivery.Proofs.Delivery.Outside
import GitDelivery.Proofs.Delivery.Pass
import GitDelivery.Proofs.Delivery.Retry
import GitDelivery.Proofs.Delivery.Status
import GitDelivery.Proofs.Delivery.Submission
import GitDelivery.Proofs.Delivery.System
import GitDelivery.Proofs.Dialogue
import GitDelivery.Proofs.FilePath
import GitDelivery.Proofs.FilePath.Joining
import GitDelivery.Proofs.FileTree
import GitDelivery.Proofs.FileTree.Links
import GitDelivery.Proofs.FileTree.Rewriting
import GitDelivery.Proofs.Git.Arguments
import GitDelivery.Proofs.Git.Credentials
import GitDelivery.Proofs.Git.Listing
import GitDelivery.Proofs.Git.Redaction
import GitDelivery.Proofs.Hook.Calls
import GitDelivery.Proofs.Hook.Coverage
import GitDelivery.Proofs.Hook.Entries
import GitDelivery.Proofs.Hook.Ledger
import GitDelivery.Proofs.Hook.Naming
import GitDelivery.Proofs.Hook.Registration
import GitDelivery.Proofs.Hook.Registry
import GitDelivery.Proofs.Hook.Requests
import GitDelivery.Proofs.Hook.Submissions
import GitDelivery.Proofs.Hook.Template
import GitDelivery.Proofs.Json.Assignment
import GitDelivery.Proofs.Json.Difference
import GitDelivery.Proofs.Json.MergePatch
import GitDelivery.Proofs.Json.Merging
import GitDelivery.Proofs.Json.Paths
import GitDelivery.Proofs.LabelSelector
import GitDelivery.Proofs.Manifest.ChartIndex
import GitDelivery.Proofs.Manifest.Classification
import GitDelivery.Proofs.Manifest.Difference
import GitDelivery.Proofs.Manifest.Emission
import GitDelivery.Proofs.Manifest.FileName
import GitDelivery.Proofs.Manifest.Findings
import GitDelivery.Proofs.Manifest.Identity
import GitDelivery.Proofs.Manifest.LineEnds
import GitDelivery.Proofs.Manifest.Marks
import GitDelivery.Proofs.Manifest.Metadata
import GitDelivery.Proofs.Manifest.Namespace
import GitDelivery.Proofs.Manifest.Overlay
import GitDelivery.Proofs.Manifest.Partition
import GitDelivery.Proofs.Manifest.Reach
import GitDelivery.Proofs.Manifest.Release
import GitDelivery.Proofs.Manifest.Selection
import GitDelivery.Proofs.Manifest.Stream
import GitDelivery.Proofs.Manifest.Structured
import GitDelivery.Proofs.Manifest.Targeting
import GitDelivery.Proofs.Manifest.Transform
import GitDelivery.Proofs.Manifest.Walk
import GitDelivery.Proofs.PackageOverride
import GitDelivery.Proofs.PackageOverride.Writing
import GitDelivery.Proofs.Repository.WorkingCopy
import GitDelivery.Proofs.Resource.Decode
import GitDelivery.Proofs.Resource.Difference
import GitDelivery.Proofs.Resource.Encoding
import GitDelivery.Proofs.Resource.HookJob
import GitDelivery.Proofs.Resource.Key
import GitDelivery.Proofs.Resource.RoundTrip
import GitDelivery.Proofs.Resource.Status
import GitDelivery.Proofs.Simulation.Waiting
import GitDelivery.Proofs.Sync.Abandonment
import GitDelivery.Proofs.Sync.Assembly
import GitDelivery.Proofs.Sync.Check
import GitDelivery.Proofs.Sync.Containment
import GitDelivery.Proofs.Sync.Disclosure
import GitDelivery.Proofs.Sync.Drift
import GitDelivery.Proofs.Sync.Handover
import GitDelivery.Proofs.Sync.Loop
import GitDelivery.Proofs.Sync.Passage
import GitDelivery.Proofs.Sync.Rendering
import GitDelivery.Proofs.Sync.Tick
import GitDelivery.Proofs.Sync.Timetable
import GitDelivery.Proofs.Sync.Turns
import GitDelivery.Proofs.Sync.Withholding
import GitDelivery.Proofs.Table
import GitDelivery.Proofs.Text
import GitDelivery.Proofs.Text.Lowercase
import GitDelivery.Proofs.Time.Reading
import GitDelivery.Proofs.TimeWindow
import GitDelivery.Proofs.Work
import GitDelivery.Proofs.Yaml.Difference
import GitDelivery.Proofs.Yaml.Document
import GitDelivery.Proofs.Yaml.Fields
import GitDelivery.Reconcile
import GitDelivery.Registry
import GitDelivery.Repository.Remote
import GitDelivery.Repository.ResourcePath
import GitDelivery.Repository.Revision
import GitDelivery.Repository.Source
import GitDelivery.Repository.WorkingCopy
import GitDelivery.Resource.Channel
import GitDelivery.Resource.Decode
import GitDelivery.Resource.Dynamic
import GitDelivery.Resource.HookJob
import GitDelivery.Resource.Key
import GitDelivery.Resource.Kind
import GitDelivery.Resource.Metadata
import GitDelivery.Resource.Reference
import GitDelivery.Resource.Secret
import GitDelivery.Resource.Subscription
import GitDelivery.Resource.Vocabulary
import GitDelivery.Settings
import GitDelivery.Simulation.ApiServer
import GitDelivery.Simulation.ScriptedBuild
import GitDelivery.Simulation.ScriptedGit
import GitDelivery.Simulation.World
import GitDelivery.Sync.Assembly
import GitDelivery.Sync.Item
import GitDelivery.Sync.Loop
import GitDelivery.Sync.Outcome
import GitDelivery.SyncSchedule
import GitDelivery.Table
import GitDelivery.Text.Alphanumeric
import GitDelivery.Text.Basic
import GitDelivery.Text.Lowercase
import GitDelivery.Text.Quoted
import GitDelivery.Time.Calendar
import GitDelivery.Time.Clock
import GitDelivery.Time.Instant
import GitDelivery.Time.Reading
import GitDelivery.TimeWindow
import GitDelivery.Work
import GitDelivery.Yaml.Document
import GitDelivery.Yaml.Failure
import GitDelivery.Yaml.Lexer
import GitDelivery.Yaml.Printer
import GitDelivery.Yaml.Record
import GitDelivery.Yaml.Scalar
import GitDelivery.Yaml.Token
import GitDelivery.Yaml.Value
