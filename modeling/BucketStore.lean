import BucketStore.Json.Reader
import BucketStore.Json.Writer
import BucketStore.Log.Configuration
import BucketStore.Report
import BucketStore.Generator
import BucketStore.CommandLine.Administration
import BucketStore.CommandLine.Generation
import BucketStore.Main
import BucketStore.Calendar.Reading
import BucketStore.Pool.Shared
import BucketStore.Proofs.Atomicity
import BucketStore.Proofs.ConnectionProtocol
import BucketStore.Proofs.FailurePolicy
import BucketStore.Proofs.DataModel
import BucketStore.Proofs.Cutoff
import BucketStore.Proofs.Purge
import BucketStore.Proofs.Retention
import BucketStore.Proofs.FailureReport
import BucketStore.Proofs.Frame
import BucketStore.Proofs.Announcement
import BucketStore.Proofs.Utf8
import BucketStore.Proofs.PropertyGrammar
import BucketStore.Proofs.PropertyUnion
import BucketStore.Proofs.Opening
import BucketStore.Proofs.Closing
import BucketStore.Proofs.Lifecycle
import BucketStore.Proofs.Credentials
import BucketStore.Proofs.Disposal
import BucketStore.Proofs.Secrecy
import BucketStore.Proofs.LogLine
import BucketStore.Proofs.JsonValue
import BucketStore.Proofs.Acceptance
import BucketStore.Proofs.Boundary
import BucketStore.Proofs.Tolerance
import BucketStore.Proofs.CleanEntries
import BucketStore.Proofs.Classification
import BucketStore.Proofs.ExitStatus
import BucketStore.Proofs.Handover
import BucketStore.Proofs.StatusReport
import BucketStore.Proofs.Querying
import BucketStore.Proofs.Stamp
import BucketStore.Proofs.Precedence
import BucketStore.Proofs.Lifetime
import BucketStore.Proofs.SyntheticData
