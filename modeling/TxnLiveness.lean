import TxnLiveness.Ascending.Map
import TxnLiveness.Ascending.Set
import TxnLiveness.Chain
import TxnLiveness.Command
import TxnLiveness.Counters
import TxnLiveness.Disk.Basic
import TxnLiveness.Disk.Path
import TxnLiveness.Disk.Tree
import TxnLiveness.Fault
import TxnLiveness.Footprint
import TxnLiveness.Id
import TxnLiveness.Json.Basic
import TxnLiveness.Json.Snapshot
import TxnLiveness.Key
import TxnLiveness.KeyRange
import TxnLiveness.Known
import TxnLiveness.Main
import TxnLiveness.Node.Basic
import TxnLiveness.Node.Flight
import TxnLiveness.Node.Timeline
import TxnLiveness.Progress
import TxnLiveness.Proofs.Blocking.Asked
import TxnLiveness.Proofs.Blocking.Cases
import TxnLiveness.Proofs.Blocking.Commute
import TxnLiveness.Proofs.Blocking.Fetch
import TxnLiveness.Proofs.Blocking.Fruitless
import TxnLiveness.Proofs.Blocking.Requirement
import TxnLiveness.Proofs.Blocking.Underway
import TxnLiveness.Proofs.Coordinate.Cases
import TxnLiveness.Proofs.Delegation.Cases
import TxnLiveness.Proofs.Disseminate.Cases
import TxnLiveness.Proofs.Disseminate.Coverage
import TxnLiveness.Proofs.Footprint
import TxnLiveness.Proofs.Footprint.Algebra
import TxnLiveness.Proofs.Footprint.Canonical
import TxnLiveness.Proofs.Investigation.Kind
import TxnLiveness.Proofs.Investigation.Probe
import TxnLiveness.Proofs.Investigation.Replica
import TxnLiveness.Proofs.Investigation.ShardLog
import TxnLiveness.Proofs.Investigation.Staleness
import TxnLiveness.Proofs.Investigation.TxnState
import TxnLiveness.Proofs.Known
import TxnLiveness.Proofs.Machine
import TxnLiveness.Proofs.Node.Accounts
import TxnLiveness.Proofs.Node.Announcement
import TxnLiveness.Proofs.Node.AuditRound
import TxnLiveness.Proofs.Node.Awaited
import TxnLiveness.Proofs.Node.Drain
import TxnLiveness.Proofs.Node.Driven
import TxnLiveness.Proofs.Node.Flight
import TxnLiveness.Proofs.Node.Frame
import TxnLiveness.Proofs.Node.Queueing
import TxnLiveness.Proofs.Node.Sourced
import TxnLiveness.Proofs.Node.Step
import TxnLiveness.Proofs.Node.Task
import TxnLiveness.Proofs.Node.Turn
import TxnLiveness.Proofs.Node.Underway
import TxnLiveness.Proofs.Node.Untroubled
import TxnLiveness.Proofs.Replica.Durable
import TxnLiveness.Proofs.Replica.Equipped
import TxnLiveness.Proofs.Replica.Failure
import TxnLiveness.Proofs.Replica.Invalidation
import TxnLiveness.Proofs.Replica.Run
import TxnLiveness.Proofs.Settings
import TxnLiveness.Proofs.Shard.Blocked
import TxnLiveness.Proofs.Shard.Confined
import TxnLiveness.Proofs.Shard.Creation
import TxnLiveness.Proofs.Shard.Delegated
import TxnLiveness.Proofs.Shard.Escalation
import TxnLiveness.Proofs.Shard.Event
import TxnLiveness.Proofs.Shard.FailFast
import TxnLiveness.Proofs.Shard.Fault
import TxnLiveness.Proofs.Shard.Final
import TxnLiveness.Proofs.Shard.Growth
import TxnLiveness.Proofs.Shard.Hysteresis
import TxnLiveness.Proofs.Shard.Independence
import TxnLiveness.Proofs.Shard.Notice
import TxnLiveness.Proofs.Shard.Redelivery
import TxnLiveness.Proofs.Shard.Refusal
import TxnLiveness.Proofs.Shard.Run
import TxnLiveness.Proofs.Shard.Seed
import TxnLiveness.Proofs.Shard.Tracker
import TxnLiveness.Proofs.Sim.Stalled
import TxnLiveness.Proofs.Sim.Undisturbed
import TxnLiveness.Proofs.Token
import TxnLiveness.Remediation
import TxnLiveness.Replica
import TxnLiveness.Route
import TxnLiveness.Settings
import TxnLiveness.ShardLog
import TxnLiveness.Sim.Cluster
import TxnLiveness.Sim.Options
import TxnLiveness.Sim.Random
import TxnLiveness.Sim.Run
import TxnLiveness.Sim.Scenario
import TxnLiveness.Text.Blank
import TxnLiveness.Text.Duration
import TxnLiveness.Text.Numeral
import TxnLiveness.Text.Quoted
import TxnLiveness.Text.Shown
import TxnLiveness.Topology
import TxnLiveness.Tracker.Blocking
import TxnLiveness.Tracker.Coordinate
import TxnLiveness.Tracker.Delegation
import TxnLiveness.Tracker.Disseminate
import TxnLiveness.TxnState
