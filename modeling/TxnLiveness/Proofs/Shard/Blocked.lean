import TxnLiveness.Proofs.Blocking.Asked
import TxnLiveness.Proofs.Shard.Tracker
/-!
# Fetches under way

In runs of a log the blocking tracker of a transaction has always been told what it waits for. It
investigates only under a tag that has been dispatched, and as long as it does it remembers whom
that dispatch asked.
-/

namespace TxnLiveness

open Blocking (Step Steady)

namespace TxnState

variable {s : TxnState}

/-- What an audit dispatches under the tags of one tracker is what that tracker plans. -/
theorem filter_dispatched_audit {cmd : Command} (topology : Topology) (own : cmd.txn = s.txn)
    (kind : TrackerKind) :
    (s.dispatched (.audit cmd topology)).filter (·.tag.tracker = kind) =
      Audit.dispatchOf (s.plan cmd topology kind) := by
  have ho : ∃ out, (s.audit cmd topology).2 = .ok out := ⟨_, by rw [audit_eq own]⟩
  obtain ⟨out, ho⟩ := ho
  have tracker (kind' : TrackerKind) : ∀ d ∈ Audit.dispatchOf (s.plan cmd topology kind'),
      d.tag.tracker = kind' := fun d => (audit_planned topology own kind').tracker_of_mem
  have same (kind' : TrackerKind) (hk : kind' = kind) :
      (Audit.dispatchOf (s.plan cmd topology kind')).filter (·.tag.tracker = kind) =
        Audit.dispatchOf (s.plan cmd topology kind') :=
    List.filter_eq_self.2 fun d hd => by simpa using (tracker kind' d hd).trans hk
  have other (kind' : TrackerKind) (hk : kind' ≠ kind) :
      (Audit.dispatchOf (s.plan cmd topology kind')).filter (·.tag.tracker = kind) = [] :=
    List.filter_eq_nil_iff.2 fun d hd => by simpa [tracker kind' d hd] using hk
  simp only [dispatched, ho, dispatches_eq own ho, List.filter_append]
  cases kind <;> simp [same, other]

theorem blocking_step_audit (h : s.blockingD.Named) (cmd : Command) (topology : Topology) :
    Step s.blockingD (s.act (.audit cmd topology)).blockingD
      ((s.dispatched (.audit cmd topology)).filter (·.tag.tracker = .blocking)) := by
  rw [blockingD_act, onBlocking]
  by_cases own : cmd.txn = s.txn
  · obtain ⟨planned, e, step⟩ := Blocking.audit_step h s.txn cmd topology
    have sent : Audit.dispatchOf (.ok planned) = planned.toList := by cases planned <;> rfl
    rw [if_pos own, filter_dispatched_audit topology own, plan_blocking, e, sent]
    exact step
  · rw [if_neg own, dispatched, audit_wrong own]
    exact .kept (.refl _)

theorem blocking_step_complete (s : TxnState) (tag : Tag) (completion : Completion) :
    Step s.blockingD (s.act (.complete tag completion)).blockingD
      ((s.dispatched (.complete tag completion)).filter (·.tag.tracker = .blocking)) := by
  rw [blockingD_act, onBlocking, dispatched]
  by_cases hk : tag.tracker = .blocking
  · rw [if_pos hk]
    cases completion with
    | fetched result =>
      rw [followups_fetched s hk]
      obtain ⟨steady, none⟩ | ⟨d, e, step⟩ := s.blockingD.fetched_step s.txn tag result
      · split
        · rename_i followup e
          cases followup with
          | none => exact .kept steady
          | some d => exact absurd e (none d)
        · exact .kept steady
      · rw [e]
        cases step with
        | begun _ ht hp hg hr ha key => simpa [ht] using .begun d ht hp hg hr ha key
    | invalidated result =>
      rw [s.followups_eq_nil fun _ _ => by simp]
      exact .kept (s.blockingD.invalidated_steady tag result)
    | recovered | informedHome | acknowledged | roundFinished =>
      rw [s.followups_eq_nil fun _ _ => by simp]
      exact .kept (.refl _)
  · rw [if_neg hk, followups_eq_nil s fun h => absurd h hk]
    exact .kept (.refl _)

/-- What an act does to the blocking tracker, and what it dispatches for it. -/
theorem blocking_step (h : s.blockingD.Named) (a : Act) : Step s.blockingD (s.act a).blockingD
    ((s.dispatched a).filter (·.tag.tracker = .blocking)) := by
  cases a with
  | block required keys => exact .kept (s.blockingD.block_steady required keys)
  | learn known => exact .kept (s.blockingD.learn_steady known)
  | audit cmd topology => exact blocking_step_audit h cmd topology
  | complete tag completion => exact s.blocking_step_complete tag completion
  | _ => exact .kept (.refl _)

theorem dispatched_recordable {a : Act} (h : s.Recordable a) : s.dispatched a = [] := by
  cases a with
  | observe | audit | complete => cases h
  | _ => rfl

/-- Events begin no investigation. -/
theorem blocking_steady {acts : List Act} (h : s.AllRecordable acts) (hn : s.blockingD.Named) :
    s.blockingD.Steady (acts.foldl act s).blockingD := by
  refine (h.keeps (P := fun t => t.blockingD.Named ∧ s.blockingD.Steady t.blockingD)
    (fun t a ha ht => ⟨t.blockingD_keeps Blocking.act_named ht.1 a, ?_⟩) ⟨hn, .refl _⟩).2
  have step := blocking_step ht.1 a
  rw [dispatched_recordable ha] at step
  cases step with
  | kept steady => exact ht.2.trans steady

end TxnState

namespace ShardLog

variable (shard : ShardId) (node : NodeId) (txn : TxnId)

/-- The blocking tracker of a transaction after a run. -/
def blockingAfter (run : List Act) : Blocking :=
  (((machine shard node).after run).stateD txn).blockingD

theorem named_after (run : List Act) : (blockingAfter shard node txn run).Named :=
  keeps_after (P := (·.blockingD.Named)) txn (fun h => absurd rfl h)
    (fun s a h => s.blockingD_keeps Blocking.act_named h a) run

/-- What an act of a run does to the blocking tracker of a transaction. -/
theorem blocking_turn (past : List Act) (a : Act) :
    Step (blockingAfter shard node txn past) (blockingAfter shard node txn (a :: past))
      (((((machine shard node).after past).dispatched a).filter (·.txn = txn)).filter
        (·.tag.tracker = .blocking)) := by
  have named := named_after shard node txn past
  have turned := turn_after shard node past a txn
  unfold blockingAfter at *
  generalize ((machine shard node).after (a :: past)).stateD txn = s' at turned ⊢
  generalize (((machine shard node).after past).dispatched a).filter (·.txn = txn) = ds at turned ⊢
  cases turned with
  | other => exact .kept (.refl _)
  | recorded topology role event acts recordable =>
    exact .kept (TxnState.blocking_steady recordable named)
  | audited topology cmd own => exact TxnState.blocking_step named (.audit cmd topology)
  | completed tag completion => exact TxnState.blocking_step named (.complete tag completion)

theorem traced_after (run : List Act) :
    (blockingAfter shard node txn run).Traced (dispatchedFor shard node txn run) := by
  induction run with
  | nil => exact ⟨fun _ hd => absurd hd List.not_mem_nil, nofun, nofun⟩
  | cons a past ih =>
    rw [dispatchedFor_cons]
    exact ih.step (blocking_turn shard node txn past a)

variable {shard node txn}

/-- An investigation under way began with a dispatch under its tag and has gone on ever since. -/
theorem begun_of_investigating {run : List Act}
    (h : (blockingAfter shard node txn run).progress = .investigating) :
    ∃ a older d, a :: older <:+ run ∧ d ∈ ((machine shard node).after older).dispatched a ∧
      d.txn = txn ∧ d.tag = ⟨.blocking, (blockingAfter shard node txn run).generation⟩ ∧
      (blockingAfter shard node txn run).asked = d.remediation.asked? ∧
      (blockingAfter shard node txn run).required = (blockingAfter shard node txn older).required ∧
      ∀ r, a :: older <:+ r → r <:+ run →
        (blockingAfter shard node txn r).progress = .investigating := by
  induction run with
  | nil => cases h
  | cons a past ih =>
    have step := blocking_turn shard node txn past a
    generalize hds : (((((machine shard node).after past).dispatched a).filter (·.txn = txn)).filter
      (·.tag.tracker = .blocking)) = ds at step
    cases step with
    | kept steady =>
      obtain ⟨hp, hr, ha⟩ := steady.investigating h
      obtain ⟨b, older, d, ho, hd, own, tag, asked, required, since⟩ := ih hp
      refine ⟨b, older, d, ho.trans (List.suffix_cons a past), hd, own, ?_, ha.trans asked,
        hr.trans required, fun r hr hr' => ?_⟩
      · rw [tag, steady.generation]
      · obtain rfl | hr' := List.suffix_cons_iff.1 hr'
        · exact h
        · exact since r hr hr'
    | begun d tag investigating generation required asked key =>
      have hd : d ∈ [d] := List.mem_singleton_self d
      rw [← hds, List.mem_filter, List.mem_filter] at hd
      refine ⟨a, past, d, List.suffix_rfl, hd.1.1, by simpa using hd.1.2, ?_, asked, required,
        fun r hr hr' => ?_⟩
      · rw [tag, generation]
      · rw [List.IsSuffix.eq_of_length_le hr' hr.length_le]
        exact h

end ShardLog

end TxnLiveness
