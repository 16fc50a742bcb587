import TxnLiveness.Proofs.Investigation.Replica
import TxnLiveness.Proofs.Shard.Run
/-!
# Runs of a replica

A replica stores commands, records events, audits transactions against the stored commands and is
handed completions. To its log this is a run of a log, in which each completion may be followed by
the event that the transaction is durable.
-/

namespace TxnLiveness

/-- The state after some more acts, given oldest first. -/
theorem Machine.after_reverse_append {σ α : Type} (M : Machine σ α) (acts past : List α) :
    M.after (acts.reverse ++ past) = acts.foldl M.step (M.after past) := by
  induction acts generalizing past with
  | nil => rfl
  | cons a acts ih =>
    rw [List.reverse_cons, List.append_assoc, List.singleton_append, ih]
    rfl

namespace Replica

/-- What can be done to a replica. -/
inductive Act
  | put (cmd : Command)
  | raise (txn : TxnId) (durability : Durability)
  | record (topology : Topology) (role : Role) (event : Event)
  | audit (topology : Topology) (txn : TxnId)
  | complete (topology : Topology) (txn : TxnId) (tag : Tag) (completion : Completion)

def act (r : Replica) : Act → Replica
  | .put cmd => r.put cmd
  | .raise txn durability => r.alter txn (·.raiseDurability durability)
  | .record topology role event => (r.edit topology (.record role event)).1
  | .audit topology txn => (r.audit topology txn).1
  | .complete topology txn tag completion => (r.complete topology txn tag completion).1

/-- A replica from its creation on. -/
def machine (shard : ShardId) (node : NodeId) : Machine Replica Act :=
  ⟨{ log := { shard, node } }, act⟩

@[simp] theorem machine_step (shard : ShardId) (node : NodeId) (r : Replica) (a : Act) :
    (machine shard node).step r a = r.act a := rfl

/-- The remediations that an act plans. -/
def planned (r : Replica) : Act → List Dispatch
  | .audit topology txn =>
    match (r.audit topology txn).2 with
    | .ok out => out.dispatches
    | .error _ => []
  | .complete topology txn tag completion =>
    (followup? (r.complete topology txn tag completion).2).toList
  | _ => []

/-- What a completion has the log told, once it is recorded that the transaction is durable. -/
def durableActs (r : Replica) (topology : Topology) (txn : TxnId) :
    Except Fault (Resolution Sequel) → List ShardLog.Act
  | .ok (.resolved ⟨_, some durability⟩) =>
    [.record topology .home
      (.durableGlobally ((r.alter txn (·.raiseDurability durability)).command txn) none)]
  | _ => []

/-- What an act does to the log. -/
def logActs (r : Replica) : Act → List ShardLog.Act
  | .put _ | .raise .. => []
  | .record topology role event => [.record topology role event]
  | .audit topology txn => [.audit topology (r.command txn)]
  | .complete topology txn tag completion =>
    .complete txn tag completion ::
      r.durableActs topology txn (r.log.complete txn tag completion).2

variable {r : Replica}

/-- A completion is handed to the log and may have a stored command and the log told that the
transaction is durable. What follows is what the log plans. -/
theorem complete_outcome (r : Replica) (topology : Topology) (txn : TxnId) (tag : Tag)
    (completion : Completion) :
    (r.complete topology txn tag completion).1.log =
        (r.durableActs topology txn (r.log.complete txn tag completion).2).foldl ShardLog.act
          (r.log.complete txn tag completion).1 ∧
      ((r.complete topology txn tag completion).1.commands = r.commands ∨
        ∃ durability, (r.complete topology txn tag completion).1.commands =
          (r.alter txn (·.raiseDurability durability)).commands) ∧
      ∀ d, followup? (r.complete topology txn tag completion).2 = some d →
        d ∈ TxnState.followups (r.log.complete txn tag completion).2 := by
  unfold complete
  generalize r.log.complete txn tag completion = step
  obtain ⟨log, fault | _ | ⟨followup, _ | durability⟩⟩ := step
  · exact ⟨rfl, .inl rfl, by simp [followup?]⟩
  · exact ⟨rfl, .inl rfl, by simp [followup?]⟩
  · exact ⟨rfl, .inl rfl, by simp [followup?, TxnState.followups]⟩
  · simp only [durableActs, List.foldl_cons, List.foldl_nil, ShardLog.act, ShardLog.record]
    split <;> rename_i e
    · exact ⟨(congrArg Prod.fst e).symm, .inr ⟨durability, rfl⟩, by simp [followup?]⟩
    · exact ⟨(congrArg Prod.fst e).symm, .inr ⟨durability, rfl⟩,
        by simp [followup?, TxnState.followups]⟩

theorem log_act (r : Replica) (a : Act) :
    (r.act a).log = (r.logActs a).foldl ShardLog.act r.log := by
  cases a with
  | put | raise | record | audit => rfl
  | complete topology txn tag completion =>
    exact (r.complete_outcome topology txn tag completion).1

/-- What a replica plans, its log dispatches. -/
theorem dispatched_of_planned {a : Act} {d : Dispatch} (hd : d ∈ r.planned a) :
    (∃ topology txn, a = .audit topology txn ∧
        d ∈ r.log.dispatched (.audit topology (r.command txn))) ∨
      ∃ topology txn tag completion, a = .complete topology txn tag completion ∧
        d ∈ r.log.dispatched (.complete txn tag completion) := by
  cases a with
  | put | raise | record => cases hd
  | audit topology txn => exact .inl ⟨topology, txn, rfl, hd⟩
  | complete topology txn tag completion =>
    obtain ⟨-, -, follows⟩ := r.complete_outcome topology txn tag completion
    exact .inr ⟨topology, txn, tag, completion, rfl, follows d (Option.mem_toList.1 hd)⟩

/-! ## Stored commands -/

/-- Every command is stored under its own transaction. -/
def Kept (r : Replica) : Prop := ∀ txn cmd, r.commands.get? txn = some cmd → cmd.txn = txn

theorem Kept.command (h : r.Kept) (txn : TxnId) : (r.command txn).txn = txn := by
  unfold Replica.command
  cases hc : r.commands.get? txn with
  | none => rfl
  | some cmd => exact h txn cmd hc

theorem Kept.insert (h : r.Kept) (cmd : Command) :
    ({ r with commands := r.commands.insert cmd.txn cmd } : Replica).Kept := by
  intro txn cmd' hc
  rw [SortedMap.get?_insert] at hc
  split at hc
  · cases hc
    exact Eq.symm ‹_›
  · exact h txn cmd' hc

theorem Kept.raise (h : r.Kept) (txn : TxnId) (durability : Durability) :
    (r.alter txn (·.raiseDurability durability)).Kept := by
  have own : ((r.command txn).raiseDurability durability).txn = txn := h.command txn
  have inserted := h.insert ((r.command txn).raiseDurability durability)
  rwa [own] at inserted

theorem Kept.act (h : r.Kept) (a : Act) : (r.act a).Kept := by
  cases a with
  | put cmd => exact h.insert cmd
  | raise txn durability => exact h.raise txn durability
  | record | audit => exact h
  | complete topology txn tag completion =>
    obtain ⟨-, e | ⟨durability, e⟩, -⟩ := r.complete_outcome topology txn tag completion
    · exact fun txn' cmd hc => h txn' cmd (e ▸ hc)
    · exact fun txn' cmd hc => h.raise txn durability txn' cmd (e ▸ hc)

/-! ## Whole runs -/

section Runs

variable (shard : ShardId) (node : NodeId)

/-- What a run does to the log. -/
def logRun : List Act → List ShardLog.Act
  | [] => []
  | a :: past => (((machine shard node).after past).logActs a).reverse ++ logRun past

/-- To its log the run of a replica is a run of a log. -/
theorem log_after (run : List Act) : ((machine shard node).after run).log =
    (ShardLog.machine shard node).after (logRun shard node run) := by
  induction run with
  | nil => rfl
  | cons a past ih =>
    rw [logRun, Machine.after_reverse_append, ← ih]
    exact log_act _ a

theorem kept_after (run : List Act) : ((machine shard node).after run).Kept := by
  induction run with
  | nil => exact fun _ _ h => nomatch h
  | cons a past ih => exact ih.act a

variable {shard node}

theorem logRun_suffix {older run : List Act} (h : older <:+ run) :
    logRun shard node older <:+ logRun shard node run := by
  obtain ⟨acts, rfl⟩ := h
  induction acts with
  | nil => exact List.suffix_rfl
  | cons a acts ih => exact ih.trans (List.suffix_append _ _)

theorem suffix_of_not_mem {α : Type} {a : α} {l m older : List α} (h : a :: older <:+ l ++ m)
    (ha : a ∉ l) : a :: older <:+ m := by
  induction l with
  | nil => exact h
  | cons b l ih =>
    obtain e | h := List.suffix_cons_iff.1 h
    · cases e
      exact absurd List.mem_cons_self ha
    · exact ih h fun hm => ha (List.mem_cons_of_mem _ hm)

/-- The log is audited where the replica is, against the command stored then. -/
theorem audit_of_logRun {run : List Act} {topology : Topology} {cmd : Command}
    {older : List ShardLog.Act} (h : .audit topology cmd :: older <:+ logRun shard node run) :
    ∃ past, .audit topology cmd.txn :: past <:+ run ∧
      cmd = ((machine shard node).after past).command cmd.txn ∧ older = logRun shard node past := by
  induction run with
  | nil => cases List.suffix_nil.1 h
  | cons a past ih =>
    have earlier (h : .audit topology cmd :: older <:+ logRun shard node past) :
        ∃ past', .audit topology cmd.txn :: past' <:+ a :: past ∧
          cmd = ((machine shard node).after past').command cmd.txn ∧
          older = logRun shard node past' := by
      obtain ⟨past', hp, rest⟩ := ih h
      exact ⟨past', hp.trans (List.suffix_cons a past), rest⟩
    cases a with
    | audit topology' txn =>
      obtain e | h := List.suffix_cons_iff.1 h
      · cases e
        have own := (kept_after shard node past).command txn
        rw [own]
        exact ⟨past, List.suffix_rfl, rfl, rfl⟩
      · exact earlier h
    | put | raise => exact earlier h
    | record topology' role event => exact earlier (suffix_of_not_mem h (by simp [logActs]))
    | complete topology' txn tag completion =>
      refine earlier (suffix_of_not_mem h ?_)
      simp only [logActs, durableActs]
      split <;> simp

end Runs

end Replica

end TxnLiveness
