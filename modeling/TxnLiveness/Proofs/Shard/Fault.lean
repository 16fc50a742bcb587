import TxnLiveness.Proofs.Shard.Tracker
/-!
# What keeps a tracker from planning

Every fault of an audit is one tracker's, and says what that tracker lacked: something of its own
that it should have recorded, or something that the command does not tell.
-/

namespace TxnLiveness

/-- The tracker whose audit reports such a fault. -/
def Fault.tracker? : Fault → Option TrackerKind
  | .noRecordedKeys _ => some .blocking
  | .nothingToRecover .. | .durableWithoutExecuteAt _ | .durableWithoutRoute _
  | .recoverWithoutHome _ => some .coordinate
  | .readyWithoutRoute _ | .readyWithoutExecuteAt _ => some .disseminate
  | .informWithoutHome _ => some .delegation
  | _ => none

variable {txn : TxnId} {cmd : Command} {topology : Topology} {homeKey : Option Key} {fault : Fault}

theorem Blocking.fault_of_audit {b : Blocking} (h : (b.audit txn cmd topology).2 = .error fault) :
    fault = .noRecordedKeys txn ∧ b.progress = .noProgress ∧ b.keys = none := by
  rcases b.audit_cases txn cmd topology with
    ⟨-, e⟩ | ⟨-, -, e⟩ | ⟨hp, -, hk, e⟩ | ⟨-, -, keys, -, e⟩ <;> rw [e] at h <;> cases h
  exact ⟨rfl, hp, hk⟩

/-- There is nothing to recover, or the command does not tell what the recovery needs. -/
theorem Coordinate.fault_of_plan {c : Coordinate} (h : c.plan txn cmd homeKey = .error fault) :
    (fault = .nothingToRecover txn c.status ∧
        (c.status = .notWitnessed ∨ c.status = .committed ∨ c.status = .done)) ∨
      (fault = .durableWithoutExecuteAt txn ∧ cmd.executeAt = none ∧ .committed ≤ c.status) ∨
      (fault = .durableWithoutRoute txn ∧ cmd.route = none) ∨
      (fault = .recoverWithoutHome txn ∧ homeKey.or cmd.homeKey = none) := by
  unfold plan at h
  split at h
  · rename_i hs
    cases h
    exact .inl ⟨rfl, hs⟩
  · split at h
    · rename_i hd
      split at h <;> cases h
      · exact .inr (.inl ⟨rfl, ‹_›, hd.1⟩)
      · exact .inr (.inr (.inl ⟨rfl, ‹_›⟩))
    · split at h <;> cases h
      exact .inr (.inr (.inr ⟨rfl, ‹_›⟩))

theorem Coordinate.fault_of_audit {c : Coordinate}
    (h : (c.audit txn cmd homeKey).2 = .error fault) : c.progress = .noProgress ∧
      ({ c with progress := .investigating } : Coordinate).plan txn cmd homeKey = .error fault := by
  rcases c.audit_cases txn cmd homeKey with
    ⟨-, e⟩ | ⟨hp, _, hf, e⟩ | ⟨-, _, -, e⟩ <;> rw [e] at h <;> cases h
  exact ⟨hp, hf⟩

theorem Disseminate.fault_of_audit {d : Disseminate}
    (h : (d.audit txn cmd topology).2 = .error fault) :
    (fault = .readyWithoutRoute txn ∧ cmd.route = none) ∨
      (fault = .readyWithoutExecuteAt txn ∧ cmd.executeAt = none) := by
  unfold audit at h
  split at h
  · cases h
  · dsimp only at h
    split at h
    · cases h
    · split at h
      · cases h
      · split at h
        · cases h
        · split at h <;> cases h
          · exact .inl ⟨rfl, ‹_›⟩
          · exact .inr ⟨rfl, ‹_›⟩

theorem Delegation.fault_of_audit {d : Delegation}
    (h : (d.audit txn cmd homeKey).2 = .error fault) :
    fault = .informWithoutHome txn ∧ homeKey.or cmd.homeKey = none := by
  rcases d.audit_cases txn cmd homeKey with
    ⟨-, e⟩ | ⟨-, e⟩ | ⟨-, hk, e⟩ | ⟨-, key, -, e⟩ <;> rw [e] at h <;> cases h
  exact ⟨rfl, hk⟩

variable {kind : TrackerKind}

theorem TxnState.tracker_of_fault {s : TxnState} (h : s.plan cmd topology kind = .error fault) :
    fault.tracker? = some kind := by
  cases kind with
  | blocking =>
    rw [plan_blocking] at h
    rw [(Blocking.fault_of_audit h).1]
    rfl
  | coordinate =>
    rw [plan_coordinate] at h
    obtain ⟨rfl, -⟩ | ⟨rfl, -⟩ | ⟨rfl, -⟩ | ⟨rfl, -⟩ :=
      Coordinate.fault_of_plan (Coordinate.fault_of_audit h).2 <;> rfl
  | disseminate =>
    rw [plan_disseminate] at h
    obtain ⟨rfl, -⟩ | ⟨rfl, -⟩ := Disseminate.fault_of_audit h <;> rfl
  | delegation =>
    unfold plan at h
    cases hd : s.delegation with
    | none => simp [hd] at h
    | some d =>
      rw [hd, Option.elim_some] at h
      rw [(Delegation.fault_of_audit h).1]
      rfl

namespace ShardLog

variable {log : ShardLog}

/-- Whether an audit has a tracker escalate: dispatch a remediation, or report why it cannot. -/
def Escalates (log : ShardLog) (topology : Topology) (cmd : Command) (kind : TrackerKind) : Prop :=
  ∃ out, (log.audit topology cmd).2 = .ok out ∧
    ((∃ d ∈ out.dispatches, d.tag.tracker = kind) ∨
      ∃ fault ∈ out.faults, fault.tracker? = some kind)

/-- A tracker escalates if it plans anything, be it in vain. -/
theorem escalates_iff (h : log.Sound) (topology : Topology) (cmd : Command) (kind : TrackerKind) :
    log.Escalates topology cmd kind ↔
      (log.stateD cmd.txn).plan cmd topology kind ≠ .ok none := by
  have own := (sound_stateD h cmd.txn).1.symm
  have ho : ∃ out, ((log.stateD cmd.txn).audit cmd topology).2 = .ok out :=
    ⟨_, by rw [TxnState.audit_eq own]⟩
  obtain ⟨out, ho⟩ := ho
  unfold Escalates
  rw [audit_result, ho]
  constructor
  · rintro ⟨_, ⟨⟩, ⟨d, hd, rfl⟩ | ⟨fault, hf, hk⟩⟩ quiet
    · obtain ⟨kind, hd⟩ := (TxnState.mem_dispatches own ho).1 hd
      have ht := (TxnState.audit_planned topology own kind).tracker_of_mem hd
      subst ht
      rw [quiet] at hd
      cases hd
    · obtain ⟨kind', hf⟩ := (TxnState.mem_faults own ho).1 hf
      rw [TxnState.tracker_of_fault hf] at hk
      cases hk
      rw [hf] at quiet
      cases quiet
  · intro planned
    refine ⟨out, rfl, ?_⟩
    cases hp : (log.stateD cmd.txn).plan cmd topology kind with
    | error fault =>
      exact .inr ⟨fault, (TxnState.mem_faults own ho).2 ⟨kind, hp⟩, TxnState.tracker_of_fault hp⟩
    | ok dispatch =>
      cases dispatch with
      | none => exact absurd hp planned
      | some d =>
        have hd : d ∈ Audit.dispatchOf ((log.stateD cmd.txn).plan cmd topology kind) := by
          simp [hp, Audit.dispatchOf]
        exact .inl ⟨d, (TxnState.mem_dispatches own ho).2 ⟨kind, hd⟩,
          (TxnState.audit_planned topology own kind).tracker_of_mem hd⟩

end ShardLog

end TxnLiveness
