import TrinoManagement.Api.Brackets
import TrinoManagement.Api.Guard
import TrinoManagement.Api.Kill
import TrinoManagement.Api.Queries
import TrinoManagement.Api.Workload
import TrinoManagement.Api.Writes
import TrinoManagement.Auth.Local
import TrinoManagement.Auth.Passwords
import TrinoManagement.Auth.Portal
import TrinoManagement.Auth.Sessions
import TrinoManagement.Bench.Compare
import TrinoManagement.Bench.Guard
import TrinoManagement.Bench.QuerySet
import TrinoManagement.Bench.RunStore
import TrinoManagement.Bench.Runner
import TrinoManagement.Bench.ScheduleService
import TrinoManagement.Bench.Schedules
import TrinoManagement.Bench.Service
import TrinoManagement.Bench.SetStore
import TrinoManagement.Bench.Trend
import TrinoManagement.Clients.Circuit
import TrinoManagement.Clients.Sql
import TrinoManagement.Collector.GatewayPoller
import TrinoManagement.Collector.GroupReads
import TrinoManagement.Collector.GroupTree
import TrinoManagement.Collector.HealthWriter
import TrinoManagement.Collector.Poller
import TrinoManagement.Collector.Replies
import TrinoManagement.Collector.Snapshot
import TrinoManagement.Collector.Ticks
import TrinoManagement.Collector.Units
import TrinoManagement.Config.CatalogService
import TrinoManagement.Config.Catalogs
import TrinoManagement.Config.Drafts
import TrinoManagement.Config.Drift
import TrinoManagement.Config.Edit
import TrinoManagement.Config.EditBody
import TrinoManagement.Config.EditService
import TrinoManagement.Config.Inventory
import TrinoManagement.Config.Playbook
import TrinoManagement.Config.PropertyLines
import TrinoManagement.Config.Scan
import TrinoManagement.Config.ScanLine
import TrinoManagement.Config.ScanOutput
import TrinoManagement.Config.ScanService
import TrinoManagement.Config.Secrets
import TrinoManagement.Config.Settings
import TrinoManagement.Core.Audit
import TrinoManagement.Core.Base64
import TrinoManagement.Core.Comments
import TrinoManagement.Core.Debounce
import TrinoManagement.Core.Decoded
import TrinoManagement.Core.Dict
import TrinoManagement.Core.Dotted
import TrinoManagement.Core.Forest
import TrinoManagement.Core.Grouped
import TrinoManagement.Core.Journal
import TrinoManagement.Core.JsonText
import TrinoManagement.Core.Lines
import TrinoManagement.Core.Links
import TrinoManagement.Core.Number
import TrinoManagement.Core.Overlay
import TrinoManagement.Core.Pattern
import TrinoManagement.Core.Percent
import TrinoManagement.Core.Pool
import TrinoManagement.Core.Prog
import TrinoManagement.Core.Run
import TrinoManagement.Core.Text
import TrinoManagement.Core.Trace
import TrinoManagement.Core.Url
import TrinoManagement.Core.Utf8
import TrinoManagement.Core.Value
import TrinoManagement.Core.Walk
import TrinoManagement.Core.Window
import TrinoManagement.Core.Words
import TrinoManagement.Fleet.Discovery
import TrinoManagement.Fleet.Identify
import TrinoManagement.Fleet.InventoryFile
import TrinoManagement.Fleet.Jobs
import TrinoManagement.Fleet.Machines
import TrinoManagement.Fleet.NodeService
import TrinoManagement.Fleet.Nodes
import TrinoManagement.Fleet.Poller
import TrinoManagement.Fleet.Service
import TrinoManagement.Health.Engine
import TrinoManagement.Health.Overrides
import TrinoManagement.Health.States
import TrinoManagement.Health.Tests
import TrinoManagement.Health.Thresholds
import TrinoManagement.Health.Transitions
import TrinoManagement.Health.Verdicts
import TrinoManagement.Jobs.Runs
import TrinoManagement.Ops.Ansible
import TrinoManagement.Ops.Conforms
import TrinoManagement.Ops.Contract
import TrinoManagement.Ops.Executor
import TrinoManagement.Ops.History
import TrinoManagement.Ops.Redact
import TrinoManagement.Ops.RedactedJson
import TrinoManagement.Ops.Repository
import TrinoManagement.Ops.Sequence
import TrinoManagement.Ops.SequenceOrder
import TrinoManagement.Ops.Serial
import TrinoManagement.Ops.Service
import TrinoManagement.Ops.Serving
import TrinoManagement.Ops.World
import TrinoManagement.ResourceGroups.Impact
import TrinoManagement.ResourceGroups.Rules
import TrinoManagement.ResourceGroups.Store
import TrinoManagement.ResourceGroups.Tree
import TrinoManagement.ResourceGroups.Writes
import TrinoManagement.Scenarios.AbortWorks
import TrinoManagement.Scenarios.ActiveRuns
import TrinoManagement.Scenarios.Answering
import TrinoManagement.Scenarios.AutoPause
import TrinoManagement.Scenarios.BackOff
import TrinoManagement.Scenarios.Backends
import TrinoManagement.Scenarios.BoardHistory
import TrinoManagement.Scenarios.BreakerRuns
import TrinoManagement.Scenarios.CatalogFile
import TrinoManagement.Scenarios.Completion
import TrinoManagement.Scenarios.Concurrency
import TrinoManagement.Scenarios.Converge
import TrinoManagement.Scenarios.CoordinatorSpared
import TrinoManagement.Scenarios.CurrentPassword
import TrinoManagement.Scenarios.Debounced
import TrinoManagement.Scenarios.DeployedNowhere
import TrinoManagement.Scenarios.DoomedList
import TrinoManagement.Scenarios.Drain
import TrinoManagement.Scenarios.DriftFound
import TrinoManagement.Scenarios.EveryKindServed
import TrinoManagement.Scenarios.Evidence
import TrinoManagement.Scenarios.FilteredList
import TrinoManagement.Scenarios.FirstKeyword
import TrinoManagement.Scenarios.FleetQueries
import TrinoManagement.Scenarios.ForcePath
import TrinoManagement.Scenarios.HealthGate
import TrinoManagement.Scenarios.HealthHistory
import TrinoManagement.Scenarios.Idempotent
import TrinoManagement.Scenarios.InStep
import TrinoManagement.Scenarios.InventoryRoundTrip
import TrinoManagement.Scenarios.Isolation
import TrinoManagement.Scenarios.JobCommand
import TrinoManagement.Scenarios.KillDelta
import TrinoManagement.Scenarios.KillOne
import TrinoManagement.Scenarios.LoginThrottle
import TrinoManagement.Scenarios.LongestPrefix
import TrinoManagement.Scenarios.MissingNodes
import TrinoManagement.Scenarios.NeverDefault
import TrinoManagement.Scenarios.NextSlot
import TrinoManagement.Scenarios.NoGroupLost
import TrinoManagement.Scenarios.OneClaim
import TrinoManagement.Scenarios.OneHost
import TrinoManagement.Scenarios.OneJob
import TrinoManagement.Scenarios.OneSecret
import TrinoManagement.Scenarios.OverrideReach
import TrinoManagement.Scenarios.PathsResolved
import TrinoManagement.Scenarios.PersistentDenial
import TrinoManagement.Scenarios.PlaybookOutput
import TrinoManagement.Scenarios.ProofMarks
import TrinoManagement.Scenarios.QueueAge
import TrinoManagement.Scenarios.QuietCluster
import TrinoManagement.Scenarios.ReadOnly
import TrinoManagement.Scenarios.RedactedScan
import TrinoManagement.Scenarios.RefusalsRecorded
import TrinoManagement.Scenarios.RequestNumbers
import TrinoManagement.Scenarios.RestartGate
import TrinoManagement.Scenarios.RestartRuns
import TrinoManagement.Scenarios.RevertUndoes
import TrinoManagement.Scenarios.RoleMembers
import TrinoManagement.Scenarios.RunOutcome
import TrinoManagement.Scenarios.SaveAtomic
import TrinoManagement.Scenarios.ScanEnds
import TrinoManagement.Scenarios.ScanMatches
import TrinoManagement.Scenarios.ScheduleRuns
import TrinoManagement.Scenarios.SessionChain
import TrinoManagement.Scenarios.SetRules
import TrinoManagement.Scenarios.SilentNode
import TrinoManagement.Scenarios.Staleness
import TrinoManagement.Scenarios.StatesKept
import TrinoManagement.Scenarios.StoredDeployed
import TrinoManagement.Scenarios.TrafficRestored
import TrinoManagement.Scenarios.TrafficStopped
import TrinoManagement.Scenarios.TrendConserves
import TrinoManagement.Scenarios.TypoGate
import TrinoManagement.Scenarios.Verdicts
import TrinoManagement.Scenarios.WhoIsServed
import TrinoManagement.Scenarios.WhoJoined
import TrinoManagement.Scenarios.WholeAnswer
import TrinoManagement.Scenarios.WriteAtomic
import TrinoManagement.Scenarios.WritesOnRecord
import TrinoManagement.Work.Board
import TrinoManagement.Work.Requests
import TrinoManagement.Scenarios.StartMany
import TrinoManagement.Scenarios.RoutingVerdict
