import SecureSaas.Js.Record
import SecureSaas.Js.Runtime
import SecureSaas.Js.Date
import SecureSaas.Run
import SecureSaas.Rotation
import SecureSaas.Broker.Progress
import SecureSaas.Broker.Takeover
import SecureSaas.Broker.Fencing
import SecureSaas.Broker.Retry
import SecureSaas.Broker.Frame
import SecureSaas.Broker.Deletion
import SecureSaas.Paas.Closure
import SecureSaas.Paas.Effects
import SecureSaas.Paas.Outcomes
import SecureSaas.Paas.Rollback
import SecureSaas.Paas.Lifecycle
import SecureSaas.Paas.Commands
import SecureSaas.Paas.Reports
import SecureSaas.Controller.Confinement
import SecureSaas.Controller.Redemption
import SecureSaas.Controller.Authorize
import SecureSaas.Protocol.Event
import SecureSaas.Protocol.Accepted
import SecureSaas.Protocol.Chain
import SecureSaas.Protocol.Paging
import SecureSaas.Protocol.Version
import SecureSaas.Js.Bytes
import SecureSaas.Js.JsonParse
import SecureSaas.Js.Host
import SecureSaas.Protocol.Cursor
import SecureSaas.Protocol.Resume
import SecureSaas.Graph.Walk
import SecureSaas.Blueprint.Graph
import SecureSaas.Blueprint.Reachability
import SecureSaas.Blueprint.Paths
import SecureSaas.Blueprint.Isolation
import SecureSaas.Js.Timestamp
import SecureSaas.Cloud.Checks
import SecureSaas.Js.Codec
import SecureSaas.Cloud.Catalog
import SecureSaas.Cluster
import SecureSaas.Cloud.CatalogParse
import SecureSaas.Js.TextOrder
import SecureSaas.Cloud.Decisions
import SecureSaas.Cloud.RuntimeAdmission
import SecureSaas.Paas.Idempotency
import SecureSaas.Paas.Tenants
import SecureSaas.Paas.Fairness
import SecureSaas.Js.Int32
import SecureSaas.Js.Compare
import SecureSaas.Cidr
import SecureSaas.CidrSubnet
import SecureSaas.Blueprint.Entitlements
import SecureSaas.Blueprint.Policy
import SecureSaas.Blueprint.Applications
import SecureSaas.Blueprint.Access
import SecureSaas.Blueprint.DenyLocality
import SecureSaas.Blueprint.Bypass
import SecureSaas.Js.Members
import SecureSaas.Paas.Snapshot
import SecureSaas.Paas.Readable
import SecureSaas.Paas.Reload
import SecureSaas.Intent.Authorize
import SecureSaas.Aws.PolicyDocuments
import SecureSaas.Js.Collect
import SecureSaas.Aws.IamAdapter
import SecureSaas.Aws.IamIsolation
import SecureSaas.Aws.IamConditions
import SecureSaas.Aws.ActionSets
import SecureSaas.Aws.AccessPlan
import SecureSaas.Aws.AccessRoles
import SecureSaas.Aws.AccessSeparation
import SecureSaas.Aws.AccessLanes
import SecureSaas.Aws.ApplyLane
import SecureSaas.Js.Label
import SecureSaas.Database.Admission
import SecureSaas.Database.Reservation
import SecureSaas.Database.ManagedPostgres
import SecureSaas.Database.AwsPostgres
import SecureSaas.Aws.NetworkAdapter
import SecureSaas.Aws.SubnetAllocation
import SecureSaas.Database.BrokerContract
import SecureSaas.Codefly.ControlPlane
import SecureSaas.Scanner.Scan
import SecureSaas.Codefly.ServiceAccounts
import SecureSaas.Codefly.PaasManifests
import SecureSaas.Codefly.PaasArtifacts
import SecureSaas.Codefly.Applications
import SecureSaas.Codefly.ApplicationPolicies
import SecureSaas.Codefly.ProductTopology
import SecureSaas.Codefly.ProductSeparation
import SecureSaas.Scanner.Documents
import SecureSaas.Scanner.Passing
import SecureSaas.Scanner.Unused
import SecureSaas.Scanner.Sound
import SecureSaas.Protocol.Responses
import SecureSaas.Protocol.ReasonCodes
import SecureSaas.Paas.Maximality
import SecureSaas.Broker.Durable
import SecureSaas.PolicyPack.IamGuard
import SecureSaas.PolicyPack.EndpointGuard
import SecureSaas.Bootstrap.Document
import SecureSaas.Bootstrap.Launcher
import SecureSaas.Bootstrap.Agreement
import SecureSaas.Database.PostgresIntent
import SecureSaas.Database.PostgresTenants
import SecureSaas.Database.PostgresMigration
import SecureSaas.Go.Text
import SecureSaas.Bootstrap.SignerIdentity
import SecureSaas.Go.Path
import SecureSaas.Bootstrap.HostKit
import SecureSaas.Bootstrap.HostKitExact
import SecureSaas.Bootstrap.SealInventory
import SecureSaas.Bootstrap.SealTree
import SecureSaas.Bootstrap.SealExact
import SecureSaas.Js.Equivalent
import SecureSaas.Core.CanonicalJson
import SecureSaas.Js.Overwrites
import SecureSaas.Js.Conversion
import SecureSaas.Dependencies.Audit
import SecureSaas.Dependencies.Masking
import SecureSaas.Database.AwsIdentities
import SecureSaas.Database.AccessNames
import SecureSaas.Js.Search
import SecureSaas.Js.Base64
import SecureSaas.Core.CredentialFree
import SecureSaas.ManagementSeed.Graph
import SecureSaas.ManagementSeed.Policies
import SecureSaas.ManagementSeed.Expected
import SecureSaas.ManagementSeed.Exact
import SecureSaas.Js.PosixPath
import SecureSaas.ManagementSeed.SourceClosure
import SecureSaas.Js.Yaml
import SecureSaas.Js.YamlDocument
import SecureSaas.Codefly.ArtifactText
import SecureSaas.Codefly.ArtifactSafety
import SecureSaas.Go.Loop
import SecureSaas.Go.Strings
import SecureSaas.Bootstrap.ElfClosure
import SecureSaas.Bootstrap.ElfBindings
