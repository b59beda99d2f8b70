import MeshDestination.Api
import MeshDestination.Cluster.Key
import MeshDestination.Cluster.Object
import MeshDestination.Cluster.ProfileSpec
import MeshDestination.Cluster.Resource
import MeshDestination.CommandLine
import MeshDestination.Discovery.Listener
import MeshDestination.Discovery.Lookup
import MeshDestination.Discovery.Message
import MeshDestination.Discovery.Server
import MeshDestination.Discovery.Stream
import MeshDestination.Discovery.Target
import MeshDestination.Discovery.Watch
import MeshDestination.Duration
import MeshDestination.Endpoint
import MeshDestination.Http.Method
import MeshDestination.Idl.Declaration
import MeshDestination.Idl.Derived
import MeshDestination.Idl.Token
import MeshDestination.Index
import MeshDestination.Index.Pods
import MeshDestination.Index.Port
import MeshDestination.Index.Profiles
import MeshDestination.Index.Service
import MeshDestination.Index.Subscription
import MeshDestination.Json.Basic
import MeshDestination.Json.Number
import MeshDestination.Json.Parser
import MeshDestination.Json.Printer
import MeshDestination.Main
import MeshDestination.Net.Authority
import MeshDestination.Net.Ip
import MeshDestination.Net.SocketAddr
import MeshDestination.Net.Url
import MeshDestination.Number.Binary
import MeshDestination.Number.Decimal
import MeshDestination.Pattern
import MeshDestination.Pattern.Basic
import MeshDestination.Pattern.Limits
import MeshDestination.Pattern.Parser
import MeshDestination.Pattern.Property
import MeshDestination.Profile
import MeshDestination.Profile.Resource
import MeshDestination.Proofs.Api.Listing
import MeshDestination.Proofs.Api.Status
import MeshDestination.Proofs.Cluster.ProfileSpec
import MeshDestination.Proofs.Difference
import MeshDestination.Proofs.Discovery.Barrier
import MeshDestination.Proofs.Discovery.Counters
import MeshDestination.Proofs.Discovery.Delivery
import MeshDestination.Proofs.Discovery.Feeds
import MeshDestination.Proofs.Discovery.Get
import MeshDestination.Proofs.Discovery.Labels
import MeshDestination.Proofs.Discovery.Lagging
import MeshDestination.Proofs.Discovery.Listener
import MeshDestination.Proofs.Discovery.Order
import MeshDestination.Proofs.Discovery.Run
import MeshDestination.Proofs.Discovery.Sights
import MeshDestination.Proofs.Discovery.Streams
import MeshDestination.Proofs.Discovery.Target
import MeshDestination.Proofs.Discovery.Wire
import MeshDestination.Proofs.Duration
import MeshDestination.Proofs.Duration.Grammar
import MeshDestination.Proofs.Handles
import MeshDestination.Proofs.Hosting
import MeshDestination.Proofs.Idl.Braces
import MeshDestination.Proofs.Idl.Derived
import MeshDestination.Proofs.Idl.Division
import MeshDestination.Proofs.Idl.Document
import MeshDestination.Proofs.Idl.Extraction
import MeshDestination.Proofs.Idl.Layout
import MeshDestination.Proofs.Idl.Lines
import MeshDestination.Proofs.Index.Abandonment
import MeshDestination.Proofs.Index.Addresses
import MeshDestination.Proofs.Index.Arrival
import MeshDestination.Proofs.Index.Consistency
import MeshDestination.Proofs.Index.Convergence
import MeshDestination.Proofs.Index.Existence
import MeshDestination.Proofs.Index.Faults
import MeshDestination.Proofs.Index.Handles
import MeshDestination.Proofs.Index.Pods
import MeshDestination.Proofs.Index.Profiles
import MeshDestination.Proofs.Index.Reachability
import MeshDestination.Proofs.Index.Redelivery
import MeshDestination.Proofs.Index.Retention
import MeshDestination.Proofs.Index.Roster
import MeshDestination.Proofs.Index.Run
import MeshDestination.Proofs.Index.Services
import MeshDestination.Proofs.Index.Serving
import MeshDestination.Proofs.Index.Snapshot
import MeshDestination.Proofs.Index.Targets
import MeshDestination.Proofs.Json.Record
import MeshDestination.Proofs.Net.Authority
import MeshDestination.Proofs.Net.Ip
import MeshDestination.Proofs.Net.SocketAddr
import MeshDestination.Proofs.Number.Binary
import MeshDestination.Proofs.Pattern.Escape
import MeshDestination.Proofs.Profile.Conversion
import MeshDestination.Proofs.Profile.Suppression
import MeshDestination.Proofs.Profile.Usability
import MeshDestination.Proofs.Profile.Verdict
import MeshDestination.Proofs.Registries
import MeshDestination.Proofs.Text.Quoted
import MeshDestination.Proofs.Topics
import MeshDestination.Proofs.Traffic.Batches
import MeshDestination.Proofs.Traffic.Failure
import MeshDestination.Proofs.Traffic.MeshedScope
import MeshDestination.Proofs.Traffic.Overflow
import MeshDestination.Proofs.Traffic.PodCounts
import MeshDestination.Proofs.Traffic.PodLabels
import MeshDestination.Proofs.Traffic.Selectors
import MeshDestination.Proofs.Traffic.Substitution
import MeshDestination.Proofs.Traffic.Tally
import MeshDestination.Proofs.Traffic.Validity
import MeshDestination.Proofs.View
import MeshDestination.Service
import MeshDestination.Text.Letters
import MeshDestination.Text.Property
import MeshDestination.Text.Quoted
import MeshDestination.Text.Table.Alphanumeric
import MeshDestination.Text.Table.CaseIgnorable
import MeshDestination.Text.Table.Cased
import MeshDestination.Text.Table.Extending
import MeshDestination.Text.Table.Lowercase
import MeshDestination.Text.Table.Unprintable
import MeshDestination.Traffic.Client
import MeshDestination.Traffic.Kind
import MeshDestination.Traffic.Labels
import MeshDestination.Traffic.Meshed
import MeshDestination.Traffic.Query
import MeshDestination.Traffic.Sample
import MeshDestination.Traffic.Summary
import MeshDestination.Traffic.Template
import MeshDestination.Yaml.Printer
import MeshDestination.Yaml.Scalar
