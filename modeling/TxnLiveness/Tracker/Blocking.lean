import TxnLiveness.Fault
import TxnLiveness.Topology
/-!
# The blocking tracker

A replica that misses a dependency's outcome must not wait forever. It fetches what it needs, and
where no replica even knows the definition it proposes that the dependency be invalidated. Each
operation returns the tracker it leaves, also where it fails.
-/

namespace TxnLiveness

structure Blocking where
  /-- What has to be known before nothing is blocked any more. -/
  required : Known := .nothing
  progress : Progress := .noneExpected
  /-- The keys that something is blocked on. -/
  keys : Option Footprint := none
  /-- Whom the fetch in flight was addressed to, which an invalidation is addressed to next. -/
  asked : Option Participants := none
  generation : Nat := 0
deriving DecidableEq

namespace Blocking

/-- Records that something is blocked on `keys` until `required` is known. -/
def block (b : Blocking) (required : Known) (keys : Footprint) : Blocking × Except Fault Unit :=
  if keys.isEmpty then (b, .error .unnamedBlock)
  else
    let b := { b with keys := some (b.keys.elim keys (·.union keys)) }
    if required.MetBy b.required then (b, .ok ())
    else ({ b with required := b.required.merge required, progress := .expected }, .ok ())

/-- Records that `known` is known now. -/
def learn (b : Blocking) (known : Known) : Blocking :=
  if b.required.MetBy known then { b with progress := .noneExpected } else b

def audit (b : Blocking) (txn : TxnId) (cmd : Command) (topology : Topology) :
    Blocking × Except Fault (Option Dispatch) :=
  if b.progress ≠ .noProgress then ({ b with progress := b.progress.advance }, .ok none)
  else if b.required.MetBy cmd.known then ({ b with progress := .noneExpected }, .ok none)
  else
    -- Escalates before anything can fail, so a failure surfaces once.
    let b := { b with progress := .investigating }
    match b.keys with
    | none => (b, .error (.noRecordedKeys txn))
    | some keys =>
      let executeAt := if cmd.hasBeen .preCommitted then cmd.executeAt else none
      let epoch := max (executeAt.elim txn.epoch (·.epoch)) topology.current
      let participants := Participants.merge cmd.route keys
      let generation := b.generation + 1
      ({ b with asked := some participants, generation },
        .ok (some ⟨txn, ⟨.blocking, generation⟩,
          .fetchKnowledge b.required participants executeAt epoch⟩))

/-- Whether a completion with this tag answers the investigation under way. -/
def accepts (b : Blocking) (tag : Tag) : Bool :=
  b.progress = .investigating && b.generation = tag.generation

/-- A fetch ended. If nobody knows the definition, the transaction cannot be learned and is handed
over for invalidation. -/
def fetched (b : Blocking) (txn : TxnId) (tag : Tag) (result : Except RemoteFault Known) :
    Blocking × Except Fault (Resolution (Option Dispatch)) :=
  if !b.accepts tag then (b, .ok .stale)
  else
    let b := { b with progress := .expected }
    match result with
    | .error _ => (b, .ok (.resolved none))
    | .ok known =>
      if known.definition = .known ∨ known.outcome = .invalidated then
        (b.learn known, .ok (.resolved none))
      else
        match b.asked with
        | none => (b, .error (.noAskedParticipants txn))
        | some participants =>
          let b := { b with asked := none }
          match participants.someKey? with
          | none => (b, .error (.noInvalidationKey txn))
          | some key =>
            let generation := b.generation + 1
            ({ b with progress := .investigating, generation },
              .ok (.resolved (some ⟨txn, ⟨.blocking, generation⟩,
                .invalidate (participants.withKey key)⟩)))

/-- A proposal to invalidate ended. -/
def invalidated (b : Blocking) (tag : Tag) (result : Except RemoteFault Token) :
    Blocking × Resolution Unit :=
  if !b.accepts tag then (b, .stale)
  else
    match result with
    | .ok ⟨.durable, _, _, _⟩ => ({ b with progress := .done }, .resolved ())
    | _ => ({ b with progress := .expected }, .resolved ())

end Blocking

end TxnLiveness
