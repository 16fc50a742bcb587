import TxnLiveness.Proofs.Shard.Escalation
import TxnLiveness.Proofs.Shard.Fault
/-!
# Hysteresis

A tracker escalates only if it has been without progress since an audit that first found it so, and
having escalated it does nothing until an event or a completion has ended the investigation and
another audit has found it without progress.
-/

namespace TxnLiveness

open Progress

namespace ShardLog

def Act.isAudit : Act → Bool
  | .audit .. => true
  | _ => false

section Runs

variable (shard : ShardId) (node : NodeId) (txn : TxnId) (kind : TrackerKind)

/-- The progress of a transaction's tracker after a run. -/
def progressAfter (run : List Act) : Progress :=
  (((machine shard node).after run).stateD txn).progress kind

/-- An audit since `start` turned the tracker from expecting something to being without progress,
and it has been without ever since. -/
def LapsedSince (start run : List Act) : Prop :=
  ∃ topology cmd older, start <:+ older ∧ .audit topology cmd :: older <:+ run ∧ cmd.txn = txn ∧
    progressAfter shard node txn kind older = .expected ∧
    ∀ r, .audit topology cmd :: older <:+ r → r <:+ run →
      progressAfter shard node txn kind r = .noProgress

variable {shard node txn kind}

theorem aimed_after (shard : ShardId) (node : NodeId) (txn : TxnId) (run : List Act) :
    (((machine shard node).after run).stateD txn).disseminateD.Aimed :=
  keeps_after (P := (·.disseminateD.Aimed)) txn (by simp [TxnState.disseminateD, Disseminate.Aimed])
    (fun s a h => s.disseminateD_keeps Disseminate.act_aimed h a) run

/-- An act leaves the progress of a tracker alone, or is an event or a completion that neither
leaves it without progress nor begins to investigate, or audits the transaction. -/
theorem progress_cases (shard : ShardId) (node : NodeId) (txn : TxnId) (kind : TrackerKind)
    (past : List Act) (a : Act) :
    progressAfter shard node txn kind (a :: past) = progressAfter shard node txn kind past ∨
      (a.isAudit = false ∧ progressAfter shard node txn kind (a :: past) ≠ .noProgress ∧
        progressAfter shard node txn kind (a :: past) ≠ .investigating) ∨
      ∃ topology cmd, a = .audit topology cmd ∧ cmd.txn = txn ∧
        Watched (progressAfter shard node txn kind past)
          (progressAfter shard node txn kind (a :: past))
          ((((machine shard node).after past).stateD txn).plan cmd topology kind) := by
  have aimed := aimed_after shard node txn past
  have own := (sound_stateD (sound_after shard node past) txn).1
  have turned := turn_after shard node past a txn
  unfold progressAfter
  generalize ((machine shard node).after (a :: past)).stateD txn = s' at turned ⊢
  generalize (((machine shard node).after past).dispatched a).filter (·.txn = txn) = ds at turned
  generalize ((machine shard node).after past).stateD txn = s at aimed own turned ⊢
  cases turned with
  | other => exact .inl rfl
  | recorded topology role event acts recordable =>
    have stirred : Stirred (s.progress kind) ((acts.foldl TxnState.act s).progress kind) :=
      recordable.keeps (P := fun t => Stirred (s.progress kind) (t.progress kind))
        (fun t b hb ht => ht.trans (TxnState.recordable_stirred hb kind)) (.refl _)
    exact stirred.imp_right fun h => .inl ⟨rfl, h⟩
  | audited topology cmd hc =>
    exact .inr (.inr ⟨topology, cmd, rfl, hc,
      TxnState.audit_watched aimed topology (hc.trans own.symm) kind⟩)
  | completed tag completion =>
    exact (s.complete_stirred tag completion kind).imp_right fun h => .inl ⟨rfl, h⟩

/-- A lapse stays one while the tracker is without progress. -/
theorem LapsedSince.cons {start past : List Act} {a : Act}
    (h : LapsedSince shard node txn kind start past)
    (ha : progressAfter shard node txn kind (a :: past) = .noProgress) :
    LapsedSince shard node txn kind start (a :: past) := by
  obtain ⟨topology, cmd, older, hs, ho, hc, he, since⟩ := h
  refine ⟨topology, cmd, older, hs, ho.trans (List.suffix_cons a past), hc, he, fun r hr hr' => ?_⟩
  obtain rfl | hr' := List.suffix_cons_iff.1 hr'
  · exact ha
  · exact since r hr hr'

theorem lapsed_of_noProgress (run : List Act)
    (h : progressAfter shard node txn kind run = .noProgress) :
    LapsedSince shard node txn kind [] run := by
  induction run with
  | nil => cases kind <;> cases h
  | cons a past ih =>
    obtain same | ⟨-, hne, -⟩ | ⟨topology, cmd, rfl, hc, watched⟩ :=
      progress_cases shard node txn kind past a
    · exact (ih (same.symm.trans h)).cons h
    · exact absurd h hne
    · rw [h] at watched
      obtain hp | hp := watched.before_noProgress
      · exact (ih hp).cons h
      · refine ⟨topology, cmd, past, List.nil_suffix, List.suffix_rfl, hc, hp, fun r hr hr' => ?_⟩
        rw [List.IsSuffix.eq_of_length_le hr' hr.length_le]
        exact h

/-- Audits do not end an investigation. -/
theorem investigates_until {start run : List Act} (hs : start <:+ run)
    (hi : progressAfter shard node txn kind start = .investigating) :
    (∀ r, start <:+ r → r <:+ run → progressAfter shard node txn kind r = .investigating) ∨
      ∃ a since, start <:+ since ∧ a :: since <:+ run ∧ a.isAudit = false ∧
        (∀ r, start <:+ r → r <:+ since → progressAfter shard node txn kind r = .investigating) ∧
        progressAfter shard node txn kind (a :: since) ≠ .investigating := by
  induction run with
  | nil =>
    obtain rfl := List.suffix_nil.1 hs
    refine .inl fun r _ hr => ?_
    rwa [List.suffix_nil.1 hr]
  | cons a past ih =>
    obtain rfl | hs := List.suffix_cons_iff.1 hs
    · refine .inl fun r hr hr' => ?_
      rwa [List.IsSuffix.eq_of_length_le hr' hr.length_le]
    · obtain always | ⟨b, since, hb, hb', rest⟩ := ih hs
      · have hp := always past hs List.suffix_rfl
        have extended (h : progressAfter shard node txn kind (a :: past) = .investigating)
            (r : List Act) (hr : start <:+ r) (hr' : r <:+ a :: past) :
            progressAfter shard node txn kind r = .investigating := by
          obtain rfl | hr' := List.suffix_cons_iff.1 hr'
          · exact h
          · exact always r hr hr'
        obtain same | ⟨unaudited, -, hne⟩ | ⟨topology, cmd, rfl, hc, watched⟩ :=
          progress_cases shard node txn kind past a
        · exact .inl (extended (same.trans hp))
        · exact .inr ⟨a, past, hs, List.suffix_rfl, unaudited, always, hne⟩
        · rw [hp] at watched
          exact .inl (extended watched.investigating)
      · exact .inr ⟨b, since, hb, hb'.trans (List.suffix_cons a past), rest⟩

/-- Whoever escalates was without progress and begins to investigate. -/
theorem progress_of_escalates {past : List Act} {topology : Topology} {cmd : Command}
    (h : ((machine shard node).after past).Escalates topology cmd kind) :
    progressAfter shard node cmd.txn kind past = .noProgress ∧
      progressAfter shard node cmd.txn kind (.audit topology cmd :: past) = .investigating := by
  have own := (sound_stateD (sound_after shard node past) cmd.txn).1.symm
  have watched := TxnState.audit_watched (aimed_after shard node cmd.txn past) topology own kind
  rw [escalates_iff (sound_after shard node past)] at h
  have after := (((machine shard node).after past).does_audit topology cmd).own
  unfold progressAfter
  rw [Machine.after_cons, machine_step, act, after]
  exact watched.of_planned h

/-- A tracker that an audit finds lapsed and that had escalated before has lapsed anew since. -/
theorem lapsed_again {since past : List Act} {a : Act}
    (h : LapsedSince shard node txn kind [] past) (ha : a :: since <:+ past)
    (unaudited : a.isAudit = false)
    (hi : progressAfter shard node txn kind since = .investigating) :
    LapsedSince shard node txn kind (a :: since) past := by
  obtain ⟨topology, cmd, older, -, ho, hc, he, lapsed⟩ := h
  refine ⟨topology, cmd, older, ?_, ho, hc, he, lapsed⟩
  -- The lapsing audit is neither the act that ended the investigation nor before it.
  obtain later | earlier := List.suffix_or_suffix_of_suffix ha ho
  · obtain same | later := List.suffix_cons_iff.1 later
    · cases same
      cases unaudited
    · exact later
  · obtain same | earlier := List.suffix_cons_iff.1 earlier
    · cases same
      cases unaudited
    · have hn := lapsed since earlier ((List.suffix_cons a since).trans ha)
      rw [hi] at hn
      cases hn

/-- A tracker escalates only after an audit that turned it from expecting something to being
without progress, and only while it has been without ever since. If it had escalated before, it
investigated from then until an event or a completion ended that, and lapsed after that. -/
theorem escalates_once_per_lapse (shard : ShardId) (node : NodeId) (past : List Act)
    (topology : Topology) (cmd : Command) (kind : TrackerKind)
    (h : ((machine shard node).after past).Escalates topology cmd kind) :
    LapsedSince shard node cmd.txn kind [] past ∧
      ∀ topology' cmd' older, .audit topology' cmd' :: older <:+ past → cmd'.txn = cmd.txn →
        ((machine shard node).after older).Escalates topology' cmd' kind →
        ∃ a since, .audit topology' cmd' :: older <:+ since ∧ a :: since <:+ past ∧
          a.isAudit = false ∧
          (∀ r, .audit topology' cmd' :: older <:+ r → r <:+ since →
            progressAfter shard node cmd.txn kind r = .investigating) ∧
          progressAfter shard node cmd.txn kind (a :: since) ≠ .investigating ∧
          LapsedSince shard node cmd.txn kind (a :: since) past := by
  obtain ⟨overdue, -⟩ := progress_of_escalates h
  have lapsed := lapsed_of_noProgress past overdue
  refine ⟨lapsed, fun topology' cmd' older hs hc he => ?_⟩
  obtain ⟨-, begun⟩ := progress_of_escalates he
  rw [hc] at begun
  obtain always | ⟨a, since, hs', ha, unaudited, hi, ended⟩ := investigates_until hs begun
  · rw [always past hs List.suffix_rfl] at overdue
    cases overdue
  · exact ⟨a, since, hs', ha, unaudited, hi, ended,
      lapsed_again lapsed ha unaudited (hi since hs' List.suffix_rfl)⟩

end Runs

/-- A transaction is witnessed, found without progress and recovered. The recovery fails, and two
audits later it is recovered again. -/
theorem escalates_again_after_failure :
    let topology : Topology := ⟨1, fun _ => true, fun _ _ _ => ∅⟩
    let cmd : Command := { txn := ⟨1, 1, 1⟩ }
    let first := [.audit topology cmd, .record topology .home (.witnessed ⟨1, 1, 1⟩ ⟨[104]⟩)]
    let failure :=
      .complete ⟨1, 1, 1⟩ ⟨.coordinate, 1⟩ (.recovered (.error (.refused "gone")))
    let past := .audit topology cmd :: failure :: .audit topology cmd :: first
    ((machine 0 1).after past).Escalates topology cmd .coordinate ∧
      ((machine 0 1).after first).Escalates topology cmd .coordinate ∧
      LapsedSince 0 1 cmd.txn .coordinate [] past ∧
      ∃ a since, .audit topology cmd :: first <:+ since ∧ a :: since <:+ past ∧
        a.isAudit = false ∧ LapsedSince 0 1 cmd.txn .coordinate (a :: since) past := by
  intro topology cmd first failure past
  have again : ((machine 0 1).after past).Escalates topology cmd .coordinate :=
    ⟨_, rfl, .inl ⟨_, .head _, rfl⟩⟩
  have before : ((machine 0 1).after first).Escalates topology cmd .coordinate :=
    ⟨_, rfl, .inl ⟨_, .head _, rfl⟩⟩
  obtain ⟨lapsed, since⟩ := escalates_once_per_lapse 0 1 past topology cmd .coordinate again
  obtain ⟨a, r, hs, ha, unaudited, -, -, anew⟩ :=
    since topology cmd first ⟨[_, _], rfl⟩ rfl before
  exact ⟨again, before, lapsed, a, r, hs, ha, unaudited, anew⟩

end ShardLog

end TxnLiveness
