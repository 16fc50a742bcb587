import TxnLiveness.Tracker.Delegation
/-!
# What the delegation tracker's operations can do

One statement for each operation lists all of its outcomes, each with its condition.
-/

namespace TxnLiveness.Delegation

theorem raise_cases (d : Delegation) (status : DelegationStatus) :
    d.raise status = d ∨ (d.status < status ∧ d.raise status = { d with status }) := by
  unfold raise
  by_cases h : d.status < status
  · exact .inr ⟨h, if_pos h⟩
  · exact .inl (if_neg h)

/-- An audit has nothing to do, waits, fails for want of a home key, or informs the home shard. -/
theorem audit_cases (d : Delegation) (txn : TxnId) (cmd : Command) (homeKey : Option Key) :
    ((d.status = .safe ∨ d.status = .investigating) ∧
        d.audit txn cmd homeKey = (d, .ok none)) ∨
      (d.status = .atRisk ∧
        d.audit txn cmd homeKey = ({ d with status := .stillAtRisk }, .ok none)) ∨
      (d.status = .stillAtRisk ∧ homeKey.or cmd.homeKey = none ∧
        d.audit txn cmd homeKey =
          ({ d with status := .investigating }, .error (.informWithoutHome txn))) ∨
      (d.status = .stillAtRisk ∧ ∃ key, homeKey.or cmd.homeKey = some key ∧
        d.audit txn cmd homeKey =
          ({ d with status := .investigating, generation := d.generation + 1 },
            .ok (some ⟨txn, ⟨.delegation, d.generation + 1⟩, .informHome key⟩))) := by
  unfold audit
  cases hs : d.status with
  | atRisk => simp
  | stillAtRisk => cases hk : homeKey.or cmd.homeKey <;> simp
  | investigating => simp
  | safe => simp

theorem informed_cases (d : Delegation) (tag : Tag) (result : Except RemoteFault Unit) :
    (¬ (d.status = .investigating ∧ d.generation = tag.generation) ∧
        d.informed tag result = (d, .stale)) ∨
      (d.status = .investigating ∧ d.generation = tag.generation ∧
        ∃ status, (status = .safe ∨ status = .atRisk) ∧
          d.informed tag result = ({ d with status }, .resolved ())) := by
  unfold informed
  by_cases hs : d.status = .investigating
  · by_cases hg : d.generation = tag.generation
    · refine .inr ⟨hs, hg, ?_⟩
      cases result with
      | ok _ => exact ⟨.safe, .inl rfl, by simp [hs, hg]⟩
      | error _ => exact ⟨.atRisk, .inr rfl, by simp [hs, hg]⟩
    · simp [hg]
  · simp [hs]

end TxnLiveness.Delegation
