import TxnLiveness.Counters
import TxnLiveness.Json.Basic
import TxnLiveness.ShardLog
/-!
# Snapshots

The state of a progress log and of a node's counters as JSON.
-/

namespace TxnLiveness

open Json

/-! ## Identifiers and keys -/

def TxnId.toJson (t : TxnId) : Json :=
  obj [("epoch", num t.epoch), ("hlc", num t.hlc), ("node_id", num t.node)]

def Timestamp.toJson (t : Timestamp) : Json :=
  obj [("epoch", num t.epoch), ("hlc", num t.hlc), ("node_id", num t.node)]

def Ballot.toJson (b : Ballot) : Json := obj [("counter", num b.counter), ("node_id", num b.node)]

def Key.toJson (k : Key) : Json := ofList (fun b => num b.toNat) k.bytes

def KeyRange.toJson (r : KeyRange) : Json :=
  obj [("start", r.start.toJson), ("end", r.stop.toJson)]

def Footprint.toJson (f : Footprint) : Json :=
  obj [("keys", ofList Key.toJson f.keys.toList), ("ranges", ofList KeyRange.toJson f.ranges)]

/-! ## Knowledge and commands -/

def Known.toJson (k : Known) : Json :=
  obj [("definition", str k.definition.name), ("execute_at", str k.executeAt.name),
    ("deps", str k.deps.name), ("outcome", str k.outcome.name)]

def Token.toJson (t : Token) : Json :=
  obj [("durability", str t.durability.name), ("status", str t.status.name),
    ("promised", t.promised.toJson), ("accepted", t.accepted.toJson)]

/-! ## Trackers -/

def Coordinate.toJson (c : Coordinate) : Json :=
  obj [("status", str c.status.name), ("progress", str c.progress.name),
    ("token", c.token.toJson), ("generation", num c.generation)]

def Disseminate.toJson (d : Disseminate) : Json :=
  obj [("status", str d.status.name), ("progress", str d.progress.name),
    ("ready", bool d.isReady),
    ("not_aware_of_durability", ofList num (d.lacking.elim [] (·.awareness.toList))),
    ("not_persisted", ofList num (d.lacking.elim [] (·.outcome.toList))),
    ("deferred", num d.deferred.length), ("generation", num d.generation)]

def Blocking.toJson (b : Blocking) : Json :=
  obj [("blocked_until", b.required.toJson), ("progress", str b.progress.name),
    ("blocked_on", ofOption Footprint.toJson b.keys), ("generation", num b.generation)]

def Delegation.toJson (d : Delegation) : Json :=
  obj [("status", str d.status.name), ("generation", num d.generation)]

/-! ## Logs and counters -/

def TxnState.toJson (s : TxnState) : Json :=
  obj [("txn_id", s.txn.toJson), ("home_key", ofOption Key.toJson s.homeKey),
    ("coordinate", ofOption Coordinate.toJson s.coordinate),
    ("disseminate", ofOption Disseminate.toJson s.disseminate),
    ("blocking", ofOption Blocking.toJson s.blocking),
    ("delegation", ofOption Delegation.toJson s.delegation)]

def ShardLog.toJson (log : ShardLog) : Json :=
  obj [("shard_id", num log.shard), ("node_id", num log.node),
    ("transactions", ofList TxnState.toJson log.states.values)]

def Counters.toJson (c : Counters) : Json :=
  obj [("ticks", num c.ticks), ("recoveries", num c.recoveries), ("fetches", num c.fetches),
    ("invalidations", num c.invalidations), ("home_informs", num c.homeInforms),
    ("durability_announcements", num c.announcements),
    ("stale_completions", num c.staleCompletions), ("remote_failures", num c.remoteFailures),
    ("remote_timeouts", num c.remoteTimeouts), ("uncaught_errors", num c.uncaughtErrors)]

end TxnLiveness
