import BuildYard.Build.Dispatch
import BuildYard.Build.Manifest
import BuildYard.Build.Status
import BuildYard.Build.Tracking
import BuildYard.Cli.Arguments
import BuildYard.Cli.Command
import BuildYard.Cli.Run
import BuildYard.Cluster.Attempt
import BuildYard.Cluster.Basic
import BuildYard.Cluster.Remote
import BuildYard.Cluster.Store
import BuildYard.Failure
import BuildYard.Health.Container
import BuildYard.Health.PodView
import BuildYard.Health.Workload
import BuildYard.Http.Answer
import BuildYard.Http.MediaType
import BuildYard.Http.Message
import BuildYard.Http.Route
import BuildYard.Http.Submission
import BuildYard.Http.Target
import BuildYard.Http.Vocabulary
import BuildYard.Json.Basic
import BuildYard.Json.Lexer
import BuildYard.Json.Printer
import BuildYard.Json.Read
import BuildYard.Json.Reader
import BuildYard.Json.Stepwise
import BuildYard.Label.Build
import BuildYard.Label.Key
import BuildYard.Label.Selector
import BuildYard.Label.Value
import BuildYard.Main
import BuildYard.Metrics
import BuildYard.Object.Catalog
import BuildYard.Object.Job
import BuildYard.Object.Meta
import BuildYard.Object.Pod
import BuildYard.Object.Shape
import BuildYard.Object.Workload
import BuildYard.Proofs.Build.BlankConditions
import BuildYard.Proofs.Build.Cancellations
import BuildYard.Proofs.Build.Clearance
import BuildYard.Proofs.Build.Coherence
import BuildYard.Proofs.Build.Correlation
import BuildYard.Proofs.Build.DeletionCount
import BuildYard.Proofs.Build.Environment
import BuildYard.Proofs.Build.FailureTime
import BuildYard.Proofs.Build.Look
import BuildYard.Proofs.Build.Reasons
import BuildYard.Proofs.Build.Refusals
import BuildYard.Proofs.Build.Rendering
import BuildYard.Proofs.Build.Replacement
import BuildYard.Proofs.Build.Requests
import BuildYard.Proofs.Build.Steps
import BuildYard.Proofs.Build.SubmissionTime
import BuildYard.Proofs.Build.Timeline
import BuildYard.Proofs.Build.Traffic
import BuildYard.Proofs.Build.Underway
import BuildYard.Proofs.Build.Waiting
import BuildYard.Proofs.Cli.Words
import BuildYard.Proofs.Cluster.Deletion
import BuildYard.Proofs.Cluster.Exchange
import BuildYard.Proofs.Cluster.FailureKinds
import BuildYard.Proofs.Cluster.Joining
import BuildYard.Proofs.Cluster.Keys
import BuildYard.Proofs.Cluster.Listing
import BuildYard.Proofs.Cluster.Names
import BuildYard.Proofs.Cluster.Watching
import BuildYard.Proofs.Health.Classification
import BuildYard.Proofs.Health.Explanations
import BuildYard.Proofs.Health.Ownership
import BuildYard.Proofs.Health.PodViews
import BuildYard.Proofs.Health.Rollup
import BuildYard.Proofs.Http.Decoding
import BuildYard.Proofs.Http.Submissions
import BuildYard.Proofs.Json.Acceptance
import BuildYard.Proofs.Json.Grammar
import BuildYard.Proofs.Json.Stepping
import BuildYard.Proofs.Label.BuildLabels
import BuildYard.Proofs.Label.BuildName
import BuildYard.Proofs.Label.SelectorConjunction
import BuildYard.Proofs.Label.SelectorGrammar
import BuildYard.Proofs.Label.SelectorMeaning
import BuildYard.Proofs.Label.SelectorText
import BuildYard.Proofs.Label.ValuePattern
import BuildYard.Proofs.Lists.FirstAndLast
import BuildYard.Proofs.Service.Accounts
import BuildYard.Proofs.Service.Calls
import BuildYard.Proofs.Service.Failures
import BuildYard.Proofs.Service.Refinement
import BuildYard.Proofs.Service.Secrecy
import BuildYard.Proofs.Service.SecretRuns
import BuildYard.Proofs.Settings.Loading
import BuildYard.Proofs.Text.Encoding
import BuildYard.Proofs.Time.Calendar
import BuildYard.Proofs.Time.Counting
import BuildYard.Proofs.Time.Reading
import BuildYard.Settings
import BuildYard.SortedMap
import BuildYard.Text.Blank
import BuildYard.Text.Digits
import BuildYard.Text.Hidden
import BuildYard.Text.Identifier
import BuildYard.Text.Magnitude
import BuildYard.Text.Octets
import BuildYard.Text.Percent
import BuildYard.Text.Pieces
import BuildYard.Text.Quoted
import BuildYard.Time.Calendar
import BuildYard.Time.Instant
import BuildYard.Time.Rfc3339
import BuildYard.Time.Span
import BuildYard.Word
import BuildYard.Yaml.Printer
import BuildYard.Yaml.Resolution
import BuildYard.Yaml.Scalar
