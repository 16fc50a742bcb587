import TxnLiveness.Fault
/-!
# The coordinate tracker

The home shard's watch over the transaction's coordinator. A transaction that stalls is recovered at
a higher ballot or, where it is known durable already, fetched so that it can be applied here.
-/

namespace TxnLiveness

structure Coordinate where
  status : CoordinateStatus := .notWitnessed
  progress : Progress := .noneExpected
  token : Token := .none
  generation : Nat := 0
deriving DecidableEq

namespace Coordinate

/-- Adopts a status with its progress if the status is newer. -/
def reach (c : Coordinate) (status : CoordinateStatus) (progress : Progress) : Coordinate :=
  if c.status < status then { c with status, progress } else c

/-- Merges an observed token into the one that seeds recoveries. -/
def observe (c : Coordinate) (token : Token) : Coordinate :=
  { c with token := c.token.merge token }

/-- Adopts a status as `reach` does and observes the command's token. -/
def reachFor (c : Coordinate) (cmd : Command) (status : CoordinateStatus) (progress : Progress) :
    Coordinate :=
  (c.reach status progress).observe cmd.token

/-- The transaction is durable everywhere, so nothing is left to coordinate. -/
def durableGlobally (c : Coordinate) : Coordinate :=
  if c.status = .done then c else { c with status := .done, progress := .noneExpected }

/-- What an escalation asks for. A commit need not have reached the home shard, so only a durable
decision is fetched and anything else is recovered. -/
def plan (c : Coordinate) (txn : TxnId) (cmd : Command) (homeKey : Option Key) :
    Except Fault Remediation :=
  if c.status = .notWitnessed ∨ c.status = .committed ∨ c.status = .done then
    .error (.nothingToRecover txn c.status)
  else if .committed ≤ c.status ∧ cmd.durability = .durable then
    match cmd.executeAt, cmd.route with
    | none, _ => .error (.durableWithoutExecuteAt txn)
    | some _, none => .error (.durableWithoutRoute txn)
    | some time, some route => .ok (.fetchToApply .preApplied route time time.epoch)
  else
    match homeKey.or cmd.homeKey with
    | none => .error (.recoverWithoutHome txn)
    | some key => .ok (.recover key cmd.route c.token)

def audit (c : Coordinate) (txn : TxnId) (cmd : Command) (homeKey : Option Key) :
    Coordinate × Except Fault (Option Dispatch) :=
  if c.progress ≠ .noProgress then ({ c with progress := c.progress.advance }, .ok none)
  else
    -- Escalates before anything can fail, so a failure surfaces once.
    let c := { c with progress := .investigating }
    match c.plan txn cmd homeKey with
    | .error fault => (c, .error fault)
    | .ok remediation =>
      let generation := c.generation + 1
      ({ c with generation }, .ok (some ⟨txn, ⟨.coordinate, generation⟩, remediation⟩))

/-- Whether a completion with this tag answers the investigation under way. -/
def accepts (c : Coordinate) (tag : Tag) : Bool :=
  c.progress = .investigating && c.generation = tag.generation

/-- A fetch ended. Whatever came of it, the next audit looks again. -/
def fetched (c : Coordinate) (tag : Tag) : Coordinate × Resolution Unit :=
  if c.accepts tag then ({ c with progress := .expected }, .resolved ()) else (c, .stale)

/-- A recovery ended. Resolves to the durability to record here, if recovery found one. -/
def recovered (c : Coordinate) (tag : Tag) (result : Except RemoteFault Token) :
    Coordinate × Resolution (Option Durability) :=
  if c.status = .done ∨ !c.accepts tag then (c, .stale)
  else
    let c := { c with progress := .expected }
    match result with
    | .error _ => (c, .resolved none)
    | .ok token =>
      (c.observe token, .resolved (if token.durability = .durable then some .durable else none))

end Coordinate

end TxnLiveness
