import ClusterKeeper.Cluster.Basic
import ClusterKeeper.Cluster.Condition
import ClusterKeeper.Cluster.ConnectionSecret
import ClusterKeeper.Cluster.Observation
import ClusterKeeper.Cluster.Parameters
import ClusterKeeper.Config
import ClusterKeeper.ConnectionDetails
import ClusterKeeper.Credentials
import ClusterKeeper.Database.Api
import ClusterKeeper.Database.Basic
import ClusterKeeper.Database.Failure
import ClusterKeeper.Dict
import ClusterKeeper.Error
import ClusterKeeper.Exchange
import ClusterKeeper.Http.Basic
import ClusterKeeper.Http.Status
import ClusterKeeper.Http.Target
import ClusterKeeper.Instant.Basic
import ClusterKeeper.Instant.Printer
import ClusterKeeper.Instant.Reader
import ClusterKeeper.Json.Basic
import ClusterKeeper.Json.Double
import ClusterKeeper.Json.Parser
import ClusterKeeper.Json.Printer
import ClusterKeeper.Json.Record
import ClusterKeeper.Kube.Api
import ClusterKeeper.Kube.Failure
import ClusterKeeper.Kube.Store
import ClusterKeeper.Lifecycle
import ClusterKeeper.Main
import ClusterKeeper.Manifest.Definition
import ClusterKeeper.Manifest.Resources
import ClusterKeeper.Manifest.Schema
import ClusterKeeper.Manifest.Yaml
import ClusterKeeper.Metrics.Basic
import ClusterKeeper.Metrics.Page
import ClusterKeeper.Metrics.Server
import ClusterKeeper.Operator.Basic
import ClusterKeeper.Operator.Log.Directive
import ClusterKeeper.Operator.Log.Entry
import ClusterKeeper.Operator.Log.Filter
import ClusterKeeper.Outside
import ClusterKeeper.Prog
import ClusterKeeper.Proofs.Addresses
import ClusterKeeper.Proofs.Aftermath
import ClusterKeeper.Proofs.Attempt
import ClusterKeeper.Proofs.Base64
import ClusterKeeper.Proofs.BaseAddress
import ClusterKeeper.Proofs.Binding
import ClusterKeeper.Proofs.Calls
import ClusterKeeper.Proofs.Causes
import ClusterKeeper.Proofs.ConditionTypes
import ClusterKeeper.Proofs.Conditions
import ClusterKeeper.Proofs.Counting
import ClusterKeeper.Proofs.CreateBody
import ClusterKeeper.Proofs.Creation
import ClusterKeeper.Proofs.Decoding
import ClusterKeeper.Proofs.Delay
import ClusterKeeper.Proofs.Designation
import ClusterKeeper.Proofs.ErrorText
import ClusterKeeper.Proofs.Exchange
import ClusterKeeper.Proofs.Frames
import ClusterKeeper.Proofs.Gate
import ClusterKeeper.Proofs.Gauge
import ClusterKeeper.Proofs.Growth
import ClusterKeeper.Proofs.History
import ClusterKeeper.Proofs.Instant
import ClusterKeeper.Proofs.JsonText
import ClusterKeeper.Proofs.LateInitialization
import ClusterKeeper.Proofs.Leftovers
import ClusterKeeper.Proofs.Lifecycle
import ClusterKeeper.Proofs.MergePatch
import ClusterKeeper.Proofs.Metadata
import ClusterKeeper.Proofs.Naming
import ClusterKeeper.Proofs.Outcomes
import ClusterKeeper.Proofs.Percent
import ClusterKeeper.Proofs.Phases
import ClusterKeeper.Proofs.Publication
import ClusterKeeper.Proofs.PublishedSecret
import ClusterKeeper.Proofs.ReadBack
import ClusterKeeper.Proofs.ReadyHistory
import ClusterKeeper.Proofs.Reconcile
import ClusterKeeper.Proofs.Records
import ClusterKeeper.Proofs.Registry
import ClusterKeeper.Proofs.Release
import ClusterKeeper.Proofs.Requests
import ClusterKeeper.Proofs.Retry
import ClusterKeeper.Proofs.Run
import ClusterKeeper.Proofs.Secret
import ClusterKeeper.Proofs.Segments
import ClusterKeeper.Proofs.Settings
import ClusterKeeper.Proofs.ShownConditions
import ClusterKeeper.Proofs.Sighting
import ClusterKeeper.Proofs.Store
import ClusterKeeper.Proofs.StoredStatus
import ClusterKeeper.Proofs.Telling
import ClusterKeeper.Proofs.Token
import ClusterKeeper.Proofs.Unsaved
import ClusterKeeper.Proofs.Utf8
import ClusterKeeper.Proofs.Waiting
import ClusterKeeper.Proofs.Writes
import ClusterKeeper.ProviderConfig
import ClusterKeeper.Reconcile.Basic
import ClusterKeeper.Reconcile.Finalizer
import ClusterKeeper.Reconcile.Retry
import ClusterKeeper.Reconcile.Steps
import ClusterKeeper.Resource.Metadata
import ClusterKeeper.Resource.Secret
import ClusterKeeper.Text.Alphanumeric
import ClusterKeeper.Text.Base64
import ClusterKeeper.Text.Blank
import ClusterKeeper.Text.CharSet
import ClusterKeeper.Text.Composed
import ClusterKeeper.Text.Composition
import ClusterKeeper.Text.Direction
import ClusterKeeper.Text.Joining
import ClusterKeeper.Text.Mark
import ClusterKeeper.Text.Numeral
import ClusterKeeper.Text.Pattern
import ClusterKeeper.Text.Pieces
import ClusterKeeper.Text.Quoted
import ClusterKeeper.Text.Unprintable
import ClusterKeeper.Text.Utf8
import ClusterKeeper.Url.Basic
import ClusterKeeper.Url.Domain.Basic
import ClusterKeeper.Url.Domain.Label
import ClusterKeeper.Url.Domain.Mapping
import ClusterKeeper.Url.Host
import ClusterKeeper.Url.Percent
import ClusterKeeper.Url.Punycode
