import TxnLiveness.Node.Basic
import TxnLiveness.Settings
/-!
# Nodes in time

A timeline drives a node against remote nodes that take time to answer. Time is counted in whole
milliseconds and passes only in `advanceTo`; between its steps everything that can happen without
time passing has happened. A call ends when its answer is due or when its time is up, whichever
comes first, and an answer due at that moment still counts. A call that takes no time ends as soon
as it is made. A call that breaks down takes its remediation with it.
-/

namespace TxnLiveness

/-- A time in nanoseconds in whole milliseconds, rounded up. -/
def wholeMillis (nanos : Nat) : Nat := (nanos + 999_999) / 1_000_000

/-- Other nodes, with a state of type `σ`. Says of a call how many nanoseconds it takes and how it
ends when they have passed, or nothing of a call that breaks down. -/
structure Remote (σ : Type) where
  call : σ → Call → Option (Nat × (σ → Answer × σ))

/-- A call that has not ended. -/
structure Pending (σ : Type) where
  due : Nat
  flight : Nat
  call : Call
  finish : σ → Answer × σ

/-- A periodic audit of one registry. It ends when it finds that registry gone. -/
structure Ticker where
  id : Nat
  registry : Nat
  /-- The period, in nanoseconds. -/
  period : Nat
  /-- The time of the next audit, in nanoseconds. -/
  due : Nat
  finished : Bool := false

structure Timeline (σ : Type) where
  node : Node
  topology : Topology
  remote : Remote σ
  state : σ
  /-- The bound on a single call, in nanoseconds. -/
  timeout : Nat
  /-- The period between audits of the present registry, in nanoseconds. -/
  period : Nat
  now : Nat := 0
  /-- The calls that have not ended, in the order they were made. -/
  pending : List (Pending σ) := []
  /-- Every call made so far, newest first. -/
  calls : List Call := []
  /-- Tells registries apart. -/
  registry : Nat := 0
  tickers : List Ticker := []
  /-- The tickers started so far. -/
  started : Nat := 0

namespace Timeline

variable {σ : Type}

/-- A call that ends when its answer is due or its time is up. -/
def await (t : Timeline σ) (flight : Nat) (call : Call) (delay : Nat) (finish : σ → Answer × σ) :
    Pending σ :=
  let (delay, limit) := (wholeMillis delay, wholeMillis t.timeout)
  if delay ≤ limit then ⟨t.now + delay, flight, call, finish⟩
  else
    let fault : RemoteFault := .timedOut ("_".intercalate call.words) t.timeout
    ⟨t.now + limit, flight, call, fun s => (.error fault, s)⟩

/-- Gives up a flight and its calls. Nothing is heard of it any more. -/
def abandon (t : Timeline σ) (flight : Nat) : Timeline σ :=
  { t with
    node := t.node.abandon flight
    pending := t.pending.filter (·.flight ≠ flight) }

/-- Makes a call for a flight. A call that breaks down takes its flight with it. -/
def makeCall (t : Timeline σ) (flight : Nat) (call : Call) : Timeline σ :=
  let t := { t with calls := call :: t.calls }
  match t.remote.call t.state call with
  | some (delay, finish) => { t with pending := t.pending ++ [t.await flight call delay finish] }
  | none => t.abandon flight

/-- Makes calls for a flight for as long as there is one. -/
def makeCalls (t : Timeline σ) (flight : Nat) (calls : List Call) : Timeline σ :=
  calls.foldl (fun t call =>
    if (t.node.flight? flight).isSome then t.makeCall flight call else t) t

/-- Ends the first call of a flight that is due now, if there is one. -/
def finishNext? (t : Timeline σ) (flight : Nat) : Option (Timeline σ) :=
  let isDue (p : Pending σ) : Bool := p.flight = flight && p.due ≤ t.now
  (t.pending.find? isDue).map fun p =>
    let (answer, state) := p.finish t.state
    let (node, calls) := t.node.answer flight p.call answer
    { t with node, state, pending := t.pending.eraseP isDue }.makeCalls flight calls

/-- Ends calls of a flight that are due now, at most so many. -/
def finishSome (flight : Nat) : Nat → Timeline σ → Timeline σ
  | 0, t => t
  | k + 1, t => ((t.finishNext? flight).map (finishSome flight k)).getD t

/-- Ends every call of a flight that is due now, in the order they were made, and those that it then
makes and that take no time. -/
def resume (t : Timeline σ) (flight : Nat) : Timeline σ :=
  finishSome flight ((t.node.flight? flight).elim 0 (·.stage.openCalls)) t

/-- Starts every remediation that has been launched and not started. -/
def departAll (t : Timeline σ) : Timeline σ :=
  t.node.flights.foldl (fun t f =>
    match f.stage with
    | .launched _ =>
      let (node, calls) := t.node.depart t.topology f.id
      ({ t with node }.makeCalls f.id calls).resume f.id
    | _ => t) t

/-- Goes on with every flight that has a call due now, one flight after the other. -/
def finishDue (t : Timeline σ) : Timeline σ :=
  ((t.pending.filter (·.due ≤ t.now)).map (·.flight)).foldl resume t

/-- Runs every queue dry and starts what was launched. -/
def runTasks (t : Timeline σ) : Timeline σ :=
  { t with node := t.node.drain t.topology .ascending }.departAll

/-- Lets everything happen that can happen without time passing. What is launched by the tasks
queued now may complete at once, and a completion may launch one further remediation, which may
complete at once as well. The completion of that launches nothing. -/
def settle (t : Timeline σ) : Timeline σ := t.runTasks.runTasks.runTasks

/-! ## Tickers -/

/-- Audits for a ticker that is due, or ends it if its registry is gone. -/
def tick (t : Timeline σ) (k : Ticker) : Timeline σ × Ticker :=
  if k.finished || t.now < wholeMillis k.due then (t, k)
  else if k.registry ≠ t.registry then (t, { k with finished := true })
  else ({ t with node := t.node.auditRound.1 }, { k with due := k.due + k.period })

/-- Has every ticker that is due audit. -/
def tickAll (t : Timeline σ) : Timeline σ :=
  t.tickers.foldl (fun t k =>
    let (t, k) := t.tick k
    { t with tickers := t.tickers ++ [k] }) { t with tickers := [] }

/-- Starts a ticker, whose first audit is due at once. Returns what it is known by. -/
def startTicker (t : Timeline σ) : Timeline σ × Nat :=
  let ticker : Ticker :=
    { id := t.started, registry := t.registry, period := max t.period 1_000_000,
      due := t.now * 1_000_000 }
  ({ t with tickers := t.tickers ++ [ticker], started := t.started + 1 }.tickAll, t.started)

def stopTicker (t : Timeline σ) (id : Nat) : Timeline σ :=
  { t with tickers := t.tickers.filter (·.id ≠ id) }

/-- Whether a ticker has ended of itself, unless it was stopped. -/
def tickerFinished? (t : Timeline σ) (id : Nat) : Option Bool :=
  (t.tickers.find? (·.id = id)).map (·.finished)

/-- Puts an empty registry in place of the present one. -/
def renewRegistry (t : Timeline σ) (period : Nat) : Timeline σ :=
  { t with node := { t.node with registry := [] }, registry := t.registry + 1, period }

/-! ## Passing time -/

/-- The next time at which a call ends or a ticker is due. -/
def nextDue? (t : Timeline σ) : Option Nat :=
  (t.pending.map (·.due) ++
    (t.tickers.filter (fun k => !k.finished)).map (fun k => wholeMillis k.due)).min?

/-- Moves to a time and lets happen what is due then. Audits are queued first and the completions
of calls that end behind them. -/
def moveTo (t : Timeline σ) (time : Nat) : Timeline σ :=
  { { t with now := time }.tickAll.finishDue.settle with now := time }

/-- Lets time pass up to a moment, that moment included. -/
def advanceTo (t : Timeline σ) (target : Nat) : Timeline σ :=
  match t.nextDue? with
  | none => { t with now := max t.now target }
  | some time =>
    if t.now < time ∧ time ≤ target then (t.moveTo time).advanceTo target
    else { t with now := max t.now target }
termination_by target - t.now
decreasing_by simp only [moveTo]; omega

end Timeline

end TxnLiveness
