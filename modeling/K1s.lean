import K1s.Lib.Machine
import K1s.Lib.Program
import K1s.Lib.Dictionary
import K1s.Lib.Crew
import K1s.Lib.Custody
import K1s.Lib.KeyRange
import K1s.Py.Json
import K1s.Py.Text
import K1s.Py.Float
import K1s.Py.Decode
import K1s.Py.Url
import K1s.Py.Time
import K1s.Ha.Fencing
import K1s.Ha.FenceRuns
import K1s.Ha.AtMostOnce
import K1s.ApiShim.Store
import K1s.ApiShim.Operations
import K1s.ApiShim.Requests
import K1s.ApiShim.Rbac
import K1s.ApiShim.Principals
import K1s.ApiShim.Paths
import K1s.ApiShim.Documents
import K1s.ApiShim.Patches
import K1s.ApiShim.Writes
import K1s.ApiShim.Creates
import K1s.ApiShim.PatchRequests
import K1s.ApiShim.Server
import K1s.ApiShim.Outcome
import K1s.ApiShim.Carried
import K1s.ApiShim.ReadOnly
import K1s.ApiShim.RbacSoundness
import K1s.ApiShim.WriteFrame
import K1s.ApiShim.MalformedBodies
import K1s.HaStore.Watch
import K1s.Adapter.Operations
import K1s.Adapter.Workloads
import K1s.Adapter.Services
import K1s.Adapter.HandlerOps
import K1s.Adapter.NodePorts
import K1s.Adapter.Projection
import K1s.Adapter.Watches
import K1s.Adapter.Autoscaling
import K1s.Adapter.Threads
import K1s.Adapter.StatusWrites
import K1s.Adapter.Deletions
import K1s.Ingress.Policies
import K1s.Ingress.CoreProxy
import K1s.Ingress.Envoy
import K1s.Ingress.ForwardAuth
import K1s.Storage.Objects
import K1s.Storage.Operations
import K1s.Storage.Provisioning
import K1s.Storage.Binding
import K1s.Storage.Deletion
import K1s.Storage.BindingInvariant
import K1s.Storage.BindingRuns
import K1s.Storage.DeletionOutcome
import K1s.Storage.DeletionSafety
import K1s.Etcd.Store
import K1s.Etcd.AppState
import K1s.Etcd.Listing
import K1s.Etcd.NamespaceListing
import K1s.Work.Ledger
import K1s.Work.Envelopes
import K1s.Work.Writers
import K1s.Work.SiteQueue
import K1s.Work.SitePulls
import K1s.Work.Terminal
import K1s.Storage.Attachments
import K1s.Storage.Quota
import K1s.Storage.QuotaRuns
import K1s.Inference.Leases
import K1s.Inference.EtcdLeases
import K1s.Inference.SqliteLeases
import K1s.Inference.LeaseRuns
import K1s.Registry.Sqlite
import K1s.Registry.EtcdCalls
import K1s.Registry.EtcdRuns
import K1s.Authority.Service
import K1s.Authority.Cluster
import K1s.Authority.StepDown
import K1s.Authority.Agreement
import K1s.Authority.Tenure
import K1s.Gateway.Spool
import K1s.Gateway.Service
import K1s.Gateway.Effects
import K1s.Gateway.Delivered
import K1s.Gateway.Acknowledged
import K1s.Gateway.RouteBundles
import K1s.Gateway.RouteAgreement
import K1s.Ingress.Caddy
import K1s.Ingress.SiteFiles
import K1s.Lib.RunningMax
import K1s.Lib.LockStep
import K1s.Py.IpNetwork
import K1s.ApiShim.ResourceVersions
import K1s.ApiShim.WatchStream
import K1s.Registry.Revisions
import K1s.Ingress.SitePorts
import K1s.Nodes.Leases
import K1s.Nodes.PodCidrs
import K1s.Nodes.Overlay
import K1s.Work.QueueRuns
import K1s.Ha.NodeAgent
import K1s.Controllers.CronJobs
import K1s.Network.NatTable
import K1s.Network.ServiceNat
import K1s.Py.Base64
import K1s.Security.JoinTokens
import K1s.Lib.OptionLists
import K1s.Lib.Dealing
import K1s.Scheduling.Nodes
import K1s.Scheduling.Volumes
import K1s.Scheduling.Plan
import K1s.Scheduling.Soundness
import K1s.Scheduling.Balance
import K1s.Scheduling.Pinning
import K1s.Rollout.Replicas
import K1s.Rollout.Step
import K1s.Rollout.Effects
import K1s.Rollout.Surge
import K1s.Rollout.Availability
import K1s.Rollout.Frame
import K1s.Rollout.Progress
import K1s.ApiShim.Stored
import K1s.ApiShim.Reads
import K1s.ApiShim.Fields
import K1s.ApiShim.ShownVersions
import K1s.ApiShim.ReportedVersions
import K1s.ApiShim.ServiceAddresses
import K1s.ApiShim.ServiceRuns
import K1s.ApiShim.ManagedFields
import K1s.ApiShim.ManagerRuns
import K1s.Inference.StagePlanner
import K1s.Inference.Admission
import K1s.Controllers.Autoscaler
import K1s.Controllers.CronSchedules
import K1s.Controllers.Probes
import K1s.Py.Encode
import K1s.Security.TokenRoundTrip
import K1s.Lib.Matching
import K1s.Rollout.PodNames
import K1s.Storage.Suitability
import K1s.Storage.Restores
import K1s.NetFs.State
import K1s.NetFs.Manager
import K1s.NetFs.MountCache
import K1s.Lib.FirstHit
import K1s.Lib.Replies
import K1s.Lib.Descent
import K1s.Network.BackendFairness
import K1s.ApiShim.Pagination
import K1s.Py.IpAddress
import K1s.Py.Fnmatch
import K1s.Network.ClusterIps
import K1s.Inference.FabricSessions
import K1s.Inference.LeaseExpiry
import K1s.Inference.CellMachine
import K1s.Inference.CellRuns
import K1s.ApiShim.Scopes
import K1s.ApiShim.Selectors
import K1s.ApiShim.SelectorWatch
import K1s.ApiShim.BulkDelete
import K1s.ApiShim.RbacGrowth
import K1s.Storage.Quantities
import K1s.ApiShim.Endpoints
import K1s.Adapter.ServiceTargets
import K1s.ApiShim.AppliedTwice
import K1s.ApiShim.MergePatch
import K1s.ApiShim.FieldOwners
import K1s.Adapter.ReplicaCounts
import K1s.Etcd.PrefixEnds
import K1s.Etcd.LeaseWire
import K1s.Etcd.EventApps
import K1s.Controllers.AppKeys
import K1s.Controllers.JobNames
import K1s.Ingress.VirtualHosts
import K1s.ApiShim.PathCodec
