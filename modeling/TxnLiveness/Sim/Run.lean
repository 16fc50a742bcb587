import TxnLiveness.Disk.Basic
import TxnLiveness.Json.Snapshot
import TxnLiveness.Sim.Options
import TxnLiveness.Sim.Random
import TxnLiveness.Sim.Scenario
/-!
# Simulations

A simulation puts stalled transactions on a node, lets the node audit them for some time and reports
what became of them.
-/

namespace TxnLiveness.Sim

/-- Options with which no simulation can be run. -/
inductive Unfit
  | noShards
  | noNodes
  | failureRate
deriving DecidableEq

def Unfit.message : Unfit → String
  | .noShards => "--shards must be > 0"
  | .noNodes => "--nodes must be > 0"
  | .failureRate => "--failure-pct must be <= 100"

def Options.check (o : Options) : Except Unfit Unit :=
  if o.shards = 0 then .error .noShards
  else if o.nodes = 0 then .error .noNodes
  else if 100 < o.failurePct then .error .failureRate
  else .ok ()

/-- What a simulation comes to. -/
structure Report where
  options : Options
  settings : Settings
  seed : Nat
  counters : Counters
  logs : List ShardLog

def Report.toJson (r : Report) : Json :=
  let millis (nanos : Nat) : Json := .num (nanos / 1_000_000 % Text.wordBound)
  .obj
    [("meta", .obj
      [("shards", .num r.options.shards), ("txns", .num r.options.txns),
        ("nodes", .num r.options.nodes), ("tick_ms", millis r.settings.tick),
        ("remote_timeout_ms", millis r.settings.remoteTimeout),
        ("latency_ms", millis r.options.latency), ("duration_ms", millis r.options.duration),
        ("failure_pct", .num r.options.failurePct), ("seed", .num r.seed)]),
      ("stats", r.counters.toJson), ("shards", .ofList ShardLog.toJson r.logs)]

/-- The settings of the environment with those of the command line in their place. -/
def settings (o : Options) (env : String → Option String) : Settings :=
  let s := Settings.ofEnv env
  { s with
    tick := o.tick.getD s.tick
    remoteTimeout := o.remoteTimeout.getD s.remoteTimeout }

section Time

variable {σ : Type}

/-- The node at time zero, with its stalled transactions in place. -/
def start (roll : Roll σ) (dice : σ) (o : Options) (s : Settings) : Timeline σ :=
  let node : Node := { id := localNode, fanout := s.fanout }
  let node := (List.range o.shards).foldl (addShard o.txns) node
  let topology := topology o.nodes
  { node := node.drain topology .ascending
    topology
    remote := cluster roll o.latency o.failurePct
    state := dice
    timeout := s.remoteTimeout
    period := s.tick }

/-- Audits until just before the time is up. -/
def runBefore (t : Timeline σ) (stop : Nat) : Timeline σ :=
  if stop = 0 then t else t.startTicker.1.settle.advanceTo (stop - 1)

/-- What is left to happen when the time is up: calls that are due at that moment still end, but
nothing is audited any more. -/
def wrapUp (t : Timeline σ) (stop : Nat) : Timeline σ :=
  { t with now := stop, tickers := [] }.finishDue.settle

end Time

/-- No simulation runs for longer than thirty years of 365 days, in nanoseconds. -/
def longestRun : Nat := 30 * 365 * 86_400 * 1_000_000_000

/-- Runs a simulation in which chance is what `roll` makes of `dice`. The first store is looked at
as soon as the time is up, the others and the counters once the calls due at that moment have
ended. -/
def simulate {σ : Type} (roll : Roll σ) (dice : σ) (o : Options) (s : Settings) (seed : Nat) :
    Report :=
  let stop := wholeMillis (min o.duration longestRun)
  let before := runBefore (start roll dice o s) stop
  let after := wrapUp before stop
  let logs (t : Timeline σ) : List ShardLog := t.node.stores.map (·.replica.log)
  { options := o, settings := s, seed
    counters := after.node.counters
    logs := (logs before).take 1 ++ (logs after).drop 1 }

/-- There is no room for this many stores, or for this many nodes. -/
def roomBound : Nat := 1_152_921_504_606_846_976

/-- What a command line comes to. -/
inductive Outcome
  | help
  | usage
  /-- A number is too large for anything to be done. -/
  | overflow
  | unfit (why : Unfit)
  | finished (report : Report)

/-- Does what a command line asks for. A seed of zero is replaced by `entropy`. -/
def run (args : List String) (env : String → Option String) (entropy : Nat) : Outcome :=
  match Request.ofArgs args with
  | .error .usage => .usage
  | .error .overflow => .overflow
  | .ok .help => .help
  | .ok (.run o) =>
    match o.check with
    | .error why => .unfit why
    | .ok () =>
      if roomBound ≤ max o.shards o.nodes then .overflow
      else
        let seed := if o.seed = 0 then entropy else o.seed
        .finished (simulate Random.roll (.ofSeed seed.toUInt64) o (settings o env) seed)

/-! ## Saving reports -/

/-- Saves a report where its options say, if they do. -/
def Report.save {m : Type → Type} [Monad m] (d : Disk m) (r : Report) :
    ExceptT SaveFault m Unit :=
  match r.options.out with
  | some path => d.save path r.toJson.pretty
  | none => pure ()

/-- What is said of a report that could not be saved: the causes by number, each from the outside
in, with the lines of a cause below each other. -/
def saveMessage (f : SaveFault) : String :=
  let causes := f.causes.mapIdx fun i cause =>
    s!"\n    {i}: " ++ "\n       ".intercalate (cause.splitOn "\n")
  "write report\n\nCaused by:" ++ String.join causes

end TxnLiveness.Sim
