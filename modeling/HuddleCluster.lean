import HuddleCluster.Agent.Feed
import HuddleCluster.Agent.Outages
import HuddleCluster.Agent.Rejoining
import HuddleCluster.Agent.Stopping
import HuddleCluster.Api.Attempts
import HuddleCluster.Api.Delivery
import HuddleCluster.Api.Followers
import HuddleCluster.Api.HeartbeatAtomic
import HuddleCluster.Api.NodeEvents
import HuddleCluster.Api.Permissions
import HuddleCluster.Api.Redirects
import HuddleCluster.Api.Workers
import HuddleCluster.Autoscaler.ClosedLoop
import HuddleCluster.Autoscaler.Decision
import HuddleCluster.Autoscaler.HeatSignal
import HuddleCluster.Breaker.Evidence
import HuddleCluster.Breaker.HalfOpen
import HuddleCluster.Breaker.Isolation
import HuddleCluster.Ebpf.Router
import HuddleCluster.Grpc.Channels
import HuddleCluster.HA.Agreement
import HuddleCluster.HA.ElectionSafety
import HuddleCluster.HA.Install
import HuddleCluster.HA.Modes
import HuddleCluster.HA.QuorumGuard
import HuddleCluster.HA.Readonly
import HuddleCluster.HA.Replication
import HuddleCluster.Hardware.Telemetry
import HuddleCluster.Lib.Double
import HuddleCluster.Master.Health
import HuddleCluster.Master.LeaveRace
import HuddleCluster.Master.Quarantine
import HuddleCluster.Master.Zombie
import HuddleCluster.Observability.Export
import HuddleCluster.Persistence.StateFile
import HuddleCluster.RateLimiter.Recovery
import HuddleCluster.Ring.AdaptiveGap
import HuddleCluster.Ring.Affinity
import HuddleCluster.Ring.Alerts
import HuddleCluster.Ring.Completeness
import HuddleCluster.Ring.Counters
import HuddleCluster.Ring.DataPlane
import HuddleCluster.Ring.Discovery
import HuddleCluster.Ring.DrainDeadline
import HuddleCluster.Ring.ErrorRate
import HuddleCluster.Ring.Fairness
import HuddleCluster.Ring.Fusion
import HuddleCluster.Ring.Gossip
import HuddleCluster.Ring.Healing
import HuddleCluster.Ring.HealthChecks
import HuddleCluster.Ring.HeapOrder
import HuddleCluster.Ring.HedgeBudget
import HuddleCluster.Ring.HedgeDeadline
import HuddleCluster.Ring.HedgedResult
import HuddleCluster.Ring.Hysteresis
import HuddleCluster.Ring.InnerSize
import HuddleCluster.Ring.LoadState
import HuddleCluster.Ring.Outlier
import HuddleCluster.Ring.Percentile
import HuddleCluster.Ring.PromotionGates
import HuddleCluster.Ring.Registration
import HuddleCluster.Ring.RemediationLedger
import HuddleCluster.Ring.RemediationLimit
import HuddleCluster.Ring.Removal
import HuddleCluster.Ring.Retries
import HuddleCluster.Ring.RoutingPlan
import HuddleCluster.Ring.SavedState
import HuddleCluster.Ring.ScoreRange
import HuddleCluster.Ring.Selection
import HuddleCluster.Ring.StaleDwell
import HuddleCluster.Ring.StickySessions
import HuddleCluster.Ring.Temperature
import HuddleCluster.Ring.Thrashing
import HuddleCluster.Ring.TimeAccounting
import HuddleCluster.Rollout.Abort
import HuddleCluster.Rollout.Evidence
import HuddleCluster.Rollout.Sequencing
import HuddleCluster.Scheduler.Aborted
import HuddleCluster.Scheduler.CanaryHistory
import HuddleCluster.Scheduler.Eligibility
import HuddleCluster.Scheduler.InTurn
import HuddleCluster.Scheduler.Placement
import HuddleCluster.Scheduler.Preference
import HuddleCluster.Scheduler.Rotation
import HuddleCluster.Scheduler.Sticky
import HuddleCluster.Topology.DnsResponder
import HuddleCluster.Topology.Regions
import HuddleCluster.Topology.Services
import HuddleCluster.Topology.Transitions
