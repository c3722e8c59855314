import StorageBackends.Backend.Basic
import StorageBackends.Backend.Catalogue
import StorageBackends.Backend.Registry
import StorageBackends.Backend.Variables
import StorageBackends.Deploy.DirectoryEngine
import StorageBackends.Deploy.Engine
import StorageBackends.Deploy.MemoryEngine
import StorageBackends.Deploy.SecretStore
import StorageBackends.Deploy.Tree
import StorageBackends.Document.Checked
import StorageBackends.Document.Decoder
import StorageBackends.Document.Issue
import StorageBackends.Failure
import StorageBackends.Fault
import StorageBackends.Host.Basic
import StorageBackends.Host.Ipv4
import StorageBackends.Host.Ipv6
import StorageBackends.Http.Body
import StorageBackends.Http.ErrorReport
import StorageBackends.Http.Exchange
import StorageBackends.Http.Handler
import StorageBackends.Http.MediaType
import StorageBackends.Http.Message
import StorageBackends.Http.RateLimit
import StorageBackends.Http.Route
import StorageBackends.Http.Server
import StorageBackends.Http.Serving
import StorageBackends.Http.Target
import StorageBackends.Http.Visit
import StorageBackends.Json.Basic
import StorageBackends.Json.Plain
import StorageBackends.Json.Printer
import StorageBackends.Json.Reader
import StorageBackends.Lifecycle.Collaborators
import StorageBackends.Lifecycle.Instances
import StorageBackends.Lifecycle.Program
import StorageBackends.LogLine
import StorageBackends.Number.Basic
import StorageBackends.Number.Decimal
import StorageBackends.Number.Literal
import StorageBackends.Number.Numeral
import StorageBackends.Proofs.Engine
import StorageBackends.Proofs.Lifecycle.Call
import StorageBackends.Proofs.Names
import StorageBackends.Proofs.Record
import StorageBackends.Proofs.SecretStore
import StorageBackends.Record
import StorageBackends.Schema.Basic
import StorageBackends.Schema.Field
import StorageBackends.Schema.Validation
import StorageBackends.Service.Config
import StorageBackends.Service.Payload
import StorageBackends.Text.Characters
import StorageBackends.Text.CodeSet
import StorageBackends.Text.CodeUnits
import StorageBackends.Text.Template
import StorageBackends.Url.Address
import StorageBackends.Url.Authority
import StorageBackends.Url.Basic
import StorageBackends.Url.Domain
import StorageBackends.Url.Domain.Altered
import StorageBackends.Url.Domain.CombiningClass
import StorageBackends.Url.Domain.Composition
import StorageBackends.Url.Domain.Direction
import StorageBackends.Url.Domain.Joining
import StorageBackends.Url.Domain.Label
import StorageBackends.Url.Domain.Mapping
import StorageBackends.Url.Domain.Mark
import StorageBackends.Url.Domain.Pair
import StorageBackends.Url.Domain.Refused
import StorageBackends.Url.Domain.SpelledForm
import StorageBackends.Url.Location
import StorageBackends.Url.Path
import StorageBackends.Url.Percent
import StorageBackends.Url.Punycode
import StorageBackends.Proofs.Lifecycle.Invariant
import StorageBackends.Proofs.Lifecycle.Run
import StorageBackends.Proofs.Lifecycle.LastWriter
import StorageBackends.Proofs.Lifecycle.FailedAddition
import StorageBackends.Proofs.Lifecycle.Interleaving
import StorageBackends.Proofs.Lifecycle.Secrecy
import StorageBackends.Proofs.Document.Decoder
import StorageBackends.Proofs.Http.Secrecy
import StorageBackends.Proofs.Schema.Finding
import StorageBackends.Proofs.Schema.Exactness
import StorageBackends.Proofs.Schema.Unprintable
import StorageBackends.Proofs.Backend.Partition
import StorageBackends.Proofs.Backend.Sources
import StorageBackends.Proofs.Http.Status
import StorageBackends.Proofs.Http.Unprintable
import StorageBackends.Proofs.Backend.Description
import StorageBackends.Proofs.Backend.Admission
import StorageBackends.Proofs.RecordOrder
import StorageBackends.Proofs.Deploy.Tree
import StorageBackends.Proofs.Deploy.Holdings
import StorageBackends.Proofs.Deploy.Listing
import StorageBackends.Proofs.Deploy.Tidy
import StorageBackends.Proofs.Deploy.VariablesFile
import StorageBackends.Proofs.Deploy.Simulation
import StorageBackends.Proofs.Deploy.Refinement
import StorageBackends.Proofs.Json.RoundTrip
import StorageBackends.Proofs.Lifecycle.Footprint
import StorageBackends.Proofs.Http.Effect
import StorageBackends.Proofs.Http.Path
import StorageBackends.Proofs.Http.DryRun
import StorageBackends.Proofs.Lifecycle.Leftover
import StorageBackends.Proofs.Backend.Concealment
import StorageBackends.Proofs.Http.Content
import StorageBackends.Proofs.Http.Calls
import StorageBackends.Proofs.Deploy.Plans
import StorageBackends.Proofs.Http.Deployment
import StorageBackends.Proofs.Lifecycle.Outage
import StorageBackends.Proofs.Http.Moments
import StorageBackends.Proofs.Http.Outage
import StorageBackends.Proofs.Http.RateLimit
import StorageBackends.Proofs.Schema.Construction
import StorageBackends.Proofs.Schema.Revalidation
import StorageBackends.Proofs.Schema.Markers
import StorageBackends.Proofs.Deploy.Destruction
import StorageBackends.Proofs.Lifecycle.Removal
import StorageBackends.Proofs.History
import StorageBackends.Proofs.Deploy.Isolation
import StorageBackends.Proofs.Deploy.References
import StorageBackends.Proofs.Deploy.Confinement
import StorageBackends.Proofs.Host.HostText
import StorageBackends.Proofs.Host.Pattern
import StorageBackends.Proofs.Host.PlainHost
import StorageBackends.Proofs.Url.Kept
import StorageBackends.Proofs.Document.Rereading
import StorageBackends.Proofs.Service.Filling
import StorageBackends.Proofs.Deploy.NamesApart
import StorageBackends.Proofs.Deploy.FileCodec
