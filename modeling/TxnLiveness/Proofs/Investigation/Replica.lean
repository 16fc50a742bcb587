import TxnLiveness.Proofs.Investigation.ShardLog
import TxnLiveness.Replica
/-!
# The investigations of a replica

A replica's tasks change its log through events only, and what a completion has it record as durable
begins no investigation either.
-/

namespace TxnLiveness.Replica

variable {r : Replica}

theorem quiet_edit (r : Replica) (topology : Topology) (e : Edit) :
    r.log.Quiet (r.edit topology e).1.log := by
  cases e with
  | put cmd => exact .refl _
  | alter txn change => exact .refl _
  | record role event => exact r.log.quiet_record topology role event
  | attempt role event => exact r.log.quiet_record topology role event

theorem quiet_editAll (r : Replica) (topology : Topology) (edits : List Edit) :
    r.log.Quiet (r.editAll topology edits).1.log := by
  induction edits generalizing r with
  | nil => exact .refl _
  | cons e edits ih =>
    have quiet := r.quiet_edit topology e
    unfold editAll
    split
    · rename_i r' he
      rw [he] at quiet
      exact quiet.trans (ih r')
    · rename_i r' fault he
      rw [he] at quiet
      exact quiet

/-- What is dispatched after a completion. -/
def followup? : Except Fault (Resolution (Option Dispatch)) → Option Dispatch
  | .ok (.resolved followup) => followup
  | _ => none

theorem complete_cases (h : r.log.Sound) (topology : Topology) (txn : TxnId) (tag : Tag)
    (completion : Completion) :
    r.log.Completed txn tag completion (r.complete topology txn tag completion).1.log
        (followup? (r.complete topology txn tag completion).2) ∧
      (r.complete topology txn tag completion).1.log.Sound := by
  have sound := ShardLog.complete_sound h txn tag completion
  have cases := ShardLog.complete_cases h txn tag completion
  unfold complete
  generalize r.log.complete txn tag completion = step at sound cases
  obtain ⟨log, result⟩ := step
  dsimp only at sound cases
  obtain ⟨completed, alone⟩ | ⟨d, completed, rfl⟩ := cases
  · split
    · rename_i e
      cases e
      exact ⟨completed, sound⟩
    · rename_i e
      cases e
      exact ⟨completed, sound⟩
    · rename_i log' sequel e
      cases e
      have none : sequel.followup = none := by simpa [TxnState.followups] using alone
      cases hd : sequel.durable with
      | none => simpa [followup?, none] using ⟨completed, sound⟩
      | some durability =>
        have quiet {cmd : Command} {step : ShardLog × Except Fault Unit}
            (e : log.durableGlobally topology cmd .none .home = step) : log.Quiet step.1 :=
          e ▸ log.quiet_durableGlobally topology cmd .none .home
        dsimp only
        split
        · rename_i log'' fault e
          exact ⟨completed.trans_quiet (quiet e), (quiet e).sound sound⟩
        · rename_i log'' e
          rw [none]
          exact ⟨completed.trans_quiet (quiet e), (quiet e).sound sound⟩
  · exact ⟨completed, sound⟩

end TxnLiveness.Replica
