import TxnLiveness.Footprint
/-!
# Routes and participants

A route names a transaction's home key together with the participants known to a replica. A
remote operation is addressed either to a route or, where no route is known, to a bare footprint.
-/

namespace TxnLiveness

inductive Coverage
  /-- Every participant of the transaction. -/
  | full
  /-- The participants known to this replica. -/
  | partly
deriving DecidableEq

/-- A home key and participants. -/
structure Route where
  homeKey : Key
  coverage : Coverage
  participants : Footprint
deriving DecidableEq

namespace Route

/-- The route to every participant, the home key among them. -/
def full (homeKey : Key) (participants : Footprint) : Route :=
  ⟨homeKey, .full, participants.withKey homeKey⟩

/-- The route to the participants known so far. -/
def partly (homeKey : Key) (participants : Footprint) : Route :=
  ⟨homeKey, .partly, participants⟩

def isFull (r : Route) : Bool := r.coverage = .full

/-- Widens a partial route. A full route covers everything already. -/
def union (r : Route) (f : Footprint) : Route :=
  match r.coverage with
  | .full => r
  | .partly => { r with participants := r.participants.union f }

end Route

/-- Whom a fetch or an invalidation is addressed to. -/
inductive Participants
  | route (r : Route)
  | bare (f : Footprint)
deriving DecidableEq

namespace Participants

/-- The route, where one is known, widened by `f`. -/
def merge (route? : Option Route) (f : Footprint) : Participants :=
  match route? with
  | some r => .route (r.union f)
  | none => .bare f

def footprint : Participants → Footprint
  | .route r => r.participants
  | .bare f => f

def isEmpty (p : Participants) : Bool := p.footprint.isEmpty

/-- The home key where a route is known, otherwise some key of the footprint. -/
def someKey? : Participants → Option Key
  | .route r => some r.homeKey
  | .bare f => f.someKey?

def withKey (p : Participants) (k : Key) : Participants :=
  match p with
  | .route r => .route { r with participants := r.participants.withKey k }
  | .bare f => .bare (f.withKey k)

end Participants

end TxnLiveness
