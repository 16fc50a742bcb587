import TxnLiveness.Chain
/-!
# Knowledge of a transaction

How much a replica knows of a transaction: its definition, when it executes, what it depends on and
how it ended. Each of these is a chain and knowledge is their product. An invalidated transaction
meets every requirement, since nothing is left to learn about it.
-/

namespace TxnLiveness

inductive Definition
  | unknown
  | known
deriving DecidableEq

/-- How firmly a value of the protocol is settled. -/
inductive Decision
  | unknown
  | proposed
  | decided
deriving DecidableEq

inductive Outcome
  | unknown
  | apply
  | invalidated
deriving DecidableEq

instance : Chain Definition where
  rank := Definition.ctorIdx
  rank_inj a b := by cases a <;> cases b <;> decide

instance : Chain Decision where
  rank := Decision.ctorIdx
  rank_inj a b := by cases a <;> cases b <;> decide

instance : Chain Outcome where
  rank := Outcome.ctorIdx
  rank_inj a b := by cases a <;> cases b <;> decide

def Definition.name : Definition → String
  | .unknown => "Unknown"
  | .known => "Known"

def Decision.name : Decision → String
  | .unknown => "Unknown"
  | .proposed => "Proposed"
  | .decided => "Decided"

def Outcome.name : Outcome → String
  | .unknown => "Unknown"
  | .apply => "Apply"
  | .invalidated => "Invalidated"

/-- What is known of a transaction. -/
structure Known where
  definition : Definition := .unknown
  executeAt : Decision := .unknown
  deps : Decision := .unknown
  outcome : Outcome := .unknown
deriving DecidableEq

namespace Known

def nothing : Known := {}

/-- The definition alone. -/
def defined : Known := { definition := .known }

def proposed : Known := { definition := .known, executeAt := .proposed, deps := .proposed }

/-- The execution time alone. -/
def timed : Known := { executeAt := .decided }

def committed : Known := { definition := .known, executeAt := .decided, deps := .decided }

/-- The least knowledge that lets a replica apply the transaction. -/
def preApplied : Known := { committed with outcome := .apply }

def invalidated : Known := { outcome := .invalidated }

/-- The larger of two in every component. -/
def merge (a b : Known) : Known where
  definition := max a.definition b.definition
  executeAt := max a.executeAt b.executeAt
  deps := max a.deps b.deps
  outcome := max a.outcome b.outcome

instance : LE Known where
  le a b := a.definition ≤ b.definition ∧ a.executeAt ≤ b.executeAt ∧ a.deps ≤ b.deps ∧
    a.outcome ≤ b.outcome

instance (a b : Known) : Decidable (a ≤ b) :=
  inferInstanceAs (Decidable (_ ∧ _ ∧ _ ∧ _))

/-- A requirement is met by at least as much knowledge, or by an invalidation. -/
def MetBy (required known : Known) : Prop :=
  known.outcome = .invalidated ∨ required ≤ known

instance (required known : Known) : Decidable (required.MetBy known) :=
  inferInstanceAs (Decidable (_ ∨ _))

end Known

end TxnLiveness
