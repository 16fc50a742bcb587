import TxnLiveness.Counters
import TxnLiveness.Node.Flight
import TxnLiveness.Replica
/-!
# Nodes

A node runs stores, each with a queue of tasks that run one at a time, and carries out the
remediations that their audits plan. Nothing here knows of time: which task runs next, which call
ends when and how, when the node audits and in which order a store lists its transactions is left to
whoever drives it.
-/

namespace TxnLiveness

/-! ## Tasks and stores -/

/-- What a task panicked with: a text, or something that has none. -/
inductive Panic
  | text (message : String)
  | other

def Panic.message : Panic → String
  | .text message => message
  | .other => "non-string panic payload"

/-- How a task of the node's user ends once its changes are made. -/
inductive Ending
  | returned
  | failed (message : String)
  | panicked (p : Panic)

/-- What becomes of the wait for a task that panics. -/
structure DroppedTask where
  shard : ShardId

def DroppedTask.message (d : DroppedTask) : String := s!"shard {d.shard} dropped the task"

/-- An order in which a table that keeps none lists its transactions. -/
structure Listing where
  list : List TxnId → List TxnId
  perm : ∀ txns, (list txns).Perm txns

/-- The earliest transaction comes first. -/
def Listing.ascending : Listing := ⟨fun txns => txns, .refl⟩

inductive Task
  /-- Changes the replica. Nobody waits for the result, so a failure is reported. -/
  | work (edits : List Edit) (ending : Ending)
  | audit (txn : TxnId)
  /-- Queues an audit of every transaction tracked when it runs. -/
  | auditAll
  | complete (txn : TxnId) (tag : Tag) (completion : Completion)

structure Store where
  replica : Replica
  queue : List Task := []
  /-- Whether the node's user holds a handle. Remediations in flight hold handles of their own. -/
  held : Bool := true

namespace Store

def shard (s : Store) : ShardId := s.replica.log.shard

end Store

/-! ## Reports -/

/-- A failure that nobody waits for. -/
inductive Failure
  | fault (f : Fault)
  /-- A tracker of the transaction could not plan. -/
  | audit (txn : TxnId) (f : Fault)
  | raised (message : String)
  | panicked (p : Panic)

def Failure.message : Failure → String
  | .fault f => f.message
  | .audit txn f => s!"audit of {txn}: {f.message}"
  | .raised message => message
  | .panicked p => s!"shard task panicked: {p.message}"

structure Report where
  shard : ShardId
  failure : Failure

/-! ## The node -/

structure Node where
  id : NodeId
  /-- How many calls of an announcement may be under way at a time. -/
  fanout : Nat
  stores : List Store := []
  flights : List Flight := []
  /-- The remediations launched so far, which number the flights. -/
  launched : Nat := 0
  counters : Counters := {}
  /-- The failures reported so far, oldest first. -/
  reports : List Report := []
  /-- The stores to audit, by their places. -/
  registry : List Nat := []

namespace Node

/-- Whether anyone holds a handle of the store at a place. -/
def isAlive (n : Node) (i : Nat) : Bool :=
  (n.stores[i]?.any (·.held)) || n.flights.any (·.store = i)

/-- The place of the store of a shard that the user holds. -/
def held? (n : Node) (shard : ShardId) : Option Nat :=
  n.stores.findIdx? (fun s => s.held && s.shard = shard)

def modifyStore (n : Node) (i : Nat) (f : Store → Store) : Node :=
  { n with stores := n.stores.modify i f }

def enqueue (n : Node) (i : Nat) (task : Task) : Node :=
  n.modifyStore i fun s => { s with queue := s.queue ++ [task] }

def report (n : Node) (shard : ShardId) (failure : Failure) : Node :=
  { n with counters := n.counters.uncaught, reports := n.reports ++ [⟨shard, failure⟩] }

/-- Reports a failure of the store at a place. -/
def reportAt (n : Node) (i : Nat) (failure : Failure) : Node :=
  match n.stores[i]? with
  | some s => n.report s.shard failure
  | none => n

/-- Launches a remediation, unless its store is going away. -/
def launch (n : Node) (i : Nat) (d : Dispatch) : Node :=
  if n.isAlive i then
    { n with
      flights := n.flights ++ [⟨n.launched, i, d.txn, d.tag, .launched d.remediation⟩]
      launched := n.launched + 1
      counters := n.counters.launch d.remediation }
  else n

/-! ## Handles -/

/-- Gives up the user's handle of the store at a place. -/
def release (n : Node) (i : Nat) : Node := n.modifyStore i ({ · with held := false })

/-- Adds a store for a shard. -/
def addStore (n : Node) (shard : ShardId) : Node :=
  { n with stores := n.stores ++ [{ replica := { log := { shard, node := n.id } } }] }

/-- Adds a store for a shard, whose earlier store the user then no longer holds. Returns its
place. -/
def spawn (n : Node) (shard : ShardId) : Node × Nat :=
  let n := ((n.held? shard).map n.release).getD n
  (n.addStore shard, n.stores.length)

/-- Has the store at a place audited from now on. A store may be registered more than once. -/
def register (n : Node) (i : Nat) : Node := { n with registry := n.registry ++ [i] }

/-- The registered stores that are alive, each as often as it is registered. -/
def audited (n : Node) : List Nat := n.registry.filter n.isAlive

/-- Queues an audit on every registered store that is alive and forgets the others. Returns how
many were queued. -/
def auditRound (n : Node) : Node × Nat :=
  let live := n.audited
  ({ live.foldl (fun n i => n.enqueue i .auditAll) n with registry := live }, live.length)

/-! ## Running tasks -/

/-- Makes changes to the replica at a place. -/
def perform (n : Node) (topology : Topology) (i : Nat) (edits : List Edit) :
    Node × Except Fault Unit :=
  match n.stores[i]? with
  | none => (n, .ok ())
  | some s =>
    let (replica, result) := s.replica.editAll topology edits
    (n.modifyStore i ({ · with replica }), result)

/-- Audits one transaction. Every remediation is launched before a fault is reported. -/
def audit (n : Node) (topology : Topology) (i : Nat) (txn : TxnId) : Node × Except Fault Unit :=
  match n.stores[i]? with
  | none => (n, .ok ())
  | some s =>
    let n := { n with counters := n.counters.tick }
    let (replica, result) := s.replica.audit topology txn
    let n := n.modifyStore i ({ · with replica })
    match result with
    | .error fault => (n, .error fault)
    | .ok a =>
      let n := a.dispatches.foldl (fun n d => n.launch i d) n
      (a.faults.foldl (fun n f => n.report s.shard (.audit txn f)) n, .ok ())

/-- Applies a completion. A failed operation counts whether or not anyone still waits for it. -/
def complete (n : Node) (topology : Topology) (i : Nat) (txn : TxnId) (tag : Tag)
    (completion : Completion) : Node × Except Fault Unit :=
  match n.stores[i]? with
  | none => (n, .ok ())
  | some s =>
    let n :=
      if completion.isFailure then { n with counters := n.counters.remoteFailure } else n
    let (replica, result) := s.replica.complete topology txn tag completion
    let n := n.modifyStore i ({ · with replica })
    match result with
    | .error fault => (n, .error fault)
    | .ok .stale => ({ n with counters := n.counters.stale }, .ok ())
    | .ok (.resolved none) => (n, .ok ())
    | .ok (.resolved (some followup)) => (n.launch i followup, .ok ())

/-- Reports a fault that nobody waits for. -/
def orReport (i : Nat) : Node × Except Fault Unit → Node
  | (n, .ok ()) => n
  | (n, .error fault) => n.reportAt i (.fault fault)

def run (n : Node) (topology : Topology) (listing : Listing) (i : Nat) : Task → Node
  | .work edits ending =>
    match n.perform topology i edits, ending with
    | (n, .error fault), _ => n.reportAt i (.fault fault)
    | (n, .ok ()), .returned => n
    | (n, .ok ()), .failed message => n.reportAt i (.raised message)
    | (n, .ok ()), .panicked p => n.reportAt i (.panicked p)
  | .audit txn => orReport i (n.audit topology i txn)
  | .auditAll =>
    if n.isAlive i then
      n.modifyStore i fun s =>
        { s with queue := s.queue ++ (listing.list s.replica.log.txns).map .audit }
    else n
  | .complete txn tag completion => orReport i (n.complete topology i txn tag completion)

/-- Runs the first task in the queue at a place. -/
def runNext (n : Node) (topology : Topology) (listing : Listing) (i : Nat) : Node :=
  match n.stores[i]? with
  | none => n
  | some s =>
    match s.queue with
    | [] => n
    | task :: queue => (n.modifyStore i ({ · with queue })).run topology listing i task

/-! ## Flights -/

def flight? (n : Node) (id : Nat) : Option Flight := n.flights.find? (·.id = id)

def setStage (n : Node) (id : Nat) (stage : Stage) : Node :=
  { n with flights := n.flights.map fun f => if f.id = id then { f with stage } else f }

/-- Gives up a flight. No completion comes of it. -/
def abandon (n : Node) (id : Nat) : Node := { n with flights := n.flights.filter (·.id ≠ id) }

/-- Ends a flight with a last completion. -/
def land (n : Node) (f : Flight) (completion : Completion) : Node :=
  (n.abandon f.id).enqueue f.store (.complete f.txn f.tag completion)

/-- Goes on with an announcement, which ends once nobody is left to call or to hear of. -/
def goOn (n : Node) (f : Flight) (round : Round) : Node × List Call :=
  let (round, calls) := round.refill n.fanout
  if round.isOver then (n.land f .roundFinished, [])
  else (n.setStage f.id (.announcing round), calls)

/-- Ends a flight that fails before it has made its call. -/
def failUncalled (n : Node) (f : Flight) (call : Call) (fault : RemoteFault) : Node :=
  ((call.completion? (.error fault)).map (n.land f)).getD n

/-- Starts a launched remediation. Returns the calls it makes. -/
def depart (n : Node) (topology : Topology) (id : Nat) : Node × List Call :=
  match n.flight? id with
  | some f =>
    match f.stage with
    | .launched remediation =>
      match remediation.errand f.txn with
      | .round round => n.goOn f round
      | .single epoch call =>
        match epoch.elim (.ok ()) topology.awaitEpoch with
        | .ok () => (n.setStage id (.calling call), [call])
        | .error fault => (n.failUncalled f call fault, [])
    | _ => (n, [])
  | none => (n, [])

/-- Counts an answer that failed for want of time. -/
def countTimeout (n : Node) : Answer → Node
  | .error (.timedOut ..) => { n with counters := n.counters.remoteTimeout }
  | _ => n

/-- The wait of a launched remediation for its epoch ends with a fault, such as that its time is
up. -/
def expire (n : Node) (id : Nat) (fault : RemoteFault) : Node :=
  match n.flight? id with
  | some f =>
    match f.stage with
    | .launched remediation =>
      match remediation.errand f.txn with
      | .single (some _) call => (n.countTimeout (.error fault)).failUncalled f call fault
      | _ => n
    | _ => n
  | none => n

/-- A call of a flight ends. Returns the further calls that the flight makes. -/
def answer (n : Node) (id : Nat) (call : Call) (a : Answer) : Node × List Call :=
  match n.flight? id with
  | some f =>
    match f.stage, call with
    | .calling asked, call =>
      if asked = call then
        match call.completion? a with
        | some completion => ((n.countTimeout a).land f completion, [])
        | none => (n, [])
      else (n, [])
    | .announcing round, .informDurable target _ =>
      if target ∈ round.active then
        let round := { round with active := round.active.erase target }
        match a with
        | .ok _ =>
          (n.enqueue f.store (.complete f.txn f.tag (.acknowledged target))).goOn f round
        | .error _ =>
          let n := n.countTimeout a
          { n with counters := n.counters.remoteFailure }.goOn f round
      else (n, [])
    | _, _ => (n, [])
  | none => (n, [])

/-! ## Running queues dry -/

/-- Whether no task is queued anywhere. -/
def isIdle (n : Node) : Bool := n.stores.all (·.queue.isEmpty)

/-- Runs as many tasks as are queued at a place now. -/
def runQueued (n : Node) (topology : Topology) (listing : Listing) (i : Nat) : Node :=
  ((n.stores[i]?.map (·.queue)).getD []).foldl (fun n _ => n.runNext topology listing i) n

/-- Runs a queue dry. Only audits are queued by tasks, and only by tasks that are not audits
themselves, so running the queue twice leaves it empty. -/
def drainStore (n : Node) (topology : Topology) (listing : Listing) (i : Nat) : Node :=
  (n.runQueued topology listing i).runQueued topology listing i

/-- Runs every queue dry. -/
def drain (n : Node) (topology : Topology) (listing : Listing) : Node :=
  (List.range n.stores.length).foldl (fun n i => n.drainStore topology listing i) n

end Node

end TxnLiveness
