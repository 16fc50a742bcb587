import TxnLiveness.Proofs.Shard.Confined
/-!
# Transactions do not interfere

An operation looks at the state of its own transaction only and writes no other. So operations on
different transactions can be done in either order, and neither the order in which transactions are
audited nor the order in which they were first heard of shows in what comes of it.
-/

namespace TxnLiveness.ShardLog

variable {α β : Type} {log log' : ShardLog} {txn : TxnId}

/-! ## Writing one state -/

/-- The log with the state of a transaction written, if there is one to write. -/
def write (log : ShardLog) (txn : TxnId) : Option TxnState → ShardLog
  | none => log
  | some s => log.withState txn s

@[simp] theorem get?_write (log : ShardLog) (txn x : TxnId) (written : Option TxnState) :
    (log.write txn written).get? x = if x = txn then written.or (log.get? x) else log.get? x := by
  cases written <;> simp [write]

@[simp] theorem node_write (log : ShardLog) (txn : TxnId) (written : Option TxnState) :
    (log.write txn written).node = log.node := by cases written <;> rfl

@[simp] theorem shard_write (log : ShardLog) (txn : TxnId) (written : Option TxnState) :
    (log.write txn written).shard = log.shard := by cases written <;> rfl

/-- A log is told by its shard, its node and the states of its transactions. -/
theorem eq_of_get? (hs : log.shard = log'.shard) (hn : log.node = log'.node)
    (h : ∀ txn, log.get? txn = log'.get? txn) : log = log' := by
  obtain ⟨shard, node, states⟩ := log
  obtain ⟨shard', node', states'⟩ := log'
  cases hs
  cases hn
  cases SortedMap.ext h
  rfl

theorem write_write (log : ShardLog) (txn : TxnId) (first second : Option TxnState) :
    (log.write txn first).write txn second = log.write txn (second.or first) := by
  refine eq_of_get? (by simp) (by simp) fun x => ?_
  by_cases hx : x = txn <;> simp [hx, Option.or_assoc]

theorem write_comm (log : ShardLog) {txn other : TxnId} (h : txn ≠ other)
    (written written' : Option TxnState) :
    (log.write txn written).write other written' =
      (log.write other written').write txn written := by
  refine eq_of_get? (by simp) (by simp) fun x => ?_
  by_cases hx : x = txn
  · subst hx
    simp [h]
  · simp [hx]

theorem withState_withState (log : ShardLog) (txn : TxnId) (s t : TxnState) :
    (log.withState txn s).withState txn t = log.withState txn t :=
  log.write_write txn (some s) (some t)

theorem withState_self {s : TxnState} (h : log.get? txn = some s) : log.withState txn s = log := by
  refine eq_of_get? rfl rfl fun x => ?_
  by_cases hx : x = txn <;> simp [hx, h]

/-! ## Operations on one transaction -/

/-- Two logs look the same to an operation on a transaction. -/
structure Alike (txn : TxnId) (log log' : ShardLog) : Prop where
  node : log.node = log'.node
  get? : log.get? txn = log'.get? txn

theorem Alike.stateD (h : Alike txn log log') : log.stateD txn = log'.stateD txn := by
  rw [ShardLog.stateD, h.get?, ShardLog.stateD]

theorem Alike.write (h : Alike txn log log') (written : Option TxnState) :
    Alike txn (log.write txn written) (log'.write txn written) :=
  ⟨by simpa using h.node, by simp [h.get?]⟩

/-- The operation is on one transaction: to logs that look the same to it, it writes the same state
of the transaction, if any, and it comes to the same result. -/
def Local (txn : TxnId) (op : ShardLog → ShardLog × α) : Prop :=
  ∀ log log', Alike txn log log' → ∃ written result,
    op log = (log.write txn written, result) ∧ op log' = (log'.write txn written, result)

section Local

variable {op other : ShardLog → ShardLog × α} {step : ShardLog → ShardLog}

theorem Local.alike (h : Local txn op) (same : Alike txn log log') :
    Alike txn (op log).1 (op log').1 := by
  obtain ⟨written, _, e, e'⟩ := h log log' same
  rw [e, e']
  exact same.write written

theorem local_pure (txn : TxnId) (result : α) : Local txn fun log => (log, result) :=
  fun _ _ _ => ⟨none, result, rfl, rfl⟩

theorem Local.map (h : Local txn op) (f : α → β) :
    Local txn fun log => ((op log).1, f (op log).2) := by
  intro log log' same
  obtain ⟨written, result, e, e'⟩ := h log log' same
  exact ⟨written, f result, by simp only [e], by simp only [e']⟩

/-- An operation is done to what another has written. -/
theorem Local.write_first (h : Local txn op) (same : Alike txn log log')
    (first : Option TxnState) : ∃ written result,
      op (log.write txn first) = (log.write txn written, result) ∧
        op (log'.write txn first) = (log'.write txn written, result) := by
  obtain ⟨written, result, e, e'⟩ := h _ _ (same.write first)
  rw [write_write] at e e'
  exact ⟨written.or first, result, e, e'⟩

theorem Local.after (h : Local txn op) (first : Local txn fun log => (step log, ())) :
    Local txn fun log => op (step log) := by
  intro log log' same
  obtain ⟨written, _, e, e'⟩ := first log log' same
  obtain ⟨e, -⟩ := Prod.mk.inj e
  obtain ⟨e', -⟩ := Prod.mk.inj e'
  simp only [e, e']
  exact h.write_first same written

/-- A state may be written that depends on what the operation may look at. -/
theorem Local.withState {s : ShardLog → TxnState} {result : ShardLog → α}
    (first : Local txn fun log => (step log, ()))
    (h : ∀ log log', Alike txn log log' → Alike txn (step log) (step log') →
      s log = s log' ∧ result log = result log') :
    Local txn fun log => ((step log).withState txn (s log), result log) := by
  intro log log' same
  obtain ⟨hs, hr⟩ := h log log' same (first.alike same)
  obtain ⟨written, _, e, e'⟩ := first log log' same
  obtain ⟨e, -⟩ := Prod.mk.inj e
  obtain ⟨e', -⟩ := Prod.mk.inj e'
  refine ⟨(some (s log)).or written, result log, ?_, ?_⟩
  · simp only [e, ← write_write]
    rfl
  · simp only [e', hs, hr, ← write_write]
    rfl

theorem Local.ite {c : ShardLog → Prop} [∀ log, Decidable (c log)] (h : Local txn op)
    (k : Local txn other) (hc : ∀ log log', Alike txn log log' → (c log ↔ c log')) :
    Local txn fun log => if c log then op log else other log := by
  intro log log' same
  by_cases holds : c log
  · simpa only [if_pos holds, if_pos ((hc log log' same).1 holds)] using h log log' same
  · simpa only [if_neg holds, if_neg (mt (hc log log' same).2 holds)] using k log log' same

end Local

section Operations

variable (txn : TxnId) (cmd : Command) (topology : Topology) (role : Role)

theorem local_learn (known : Known) : Local txn fun log => (log.learn txn known, ()) := by
  intro log log' same
  simp only [learn, ← same.get?]
  split
  · split
    · exact ⟨some _, (), rfl, rfl⟩
    · exact ⟨none, (), rfl, rfl⟩
  · exact ⟨none, (), rfl, rfl⟩

theorem local_block (required : Known) (keys : Footprint) :
    Local txn fun log => log.block txn required keys := by
  unfold block
  split
  · exact local_pure txn _
  · exact (local_pure txn ()).withState fun log log' _ same => by simp [same.stateD]

theorem local_movedOn (status : CoordinateStatus) (progress : Progress) :
    Local cmd.txn fun log => log.movedOn cmd role status progress := by
  unfold movedOn
  split
  · exact local_pure cmd.txn _
  · have learned : Local cmd.txn fun log =>
        ((if .committed ≤ status then log.learn cmd.txn .committed else log), ()) := by
      split
      · exact local_learn cmd.txn .committed
      · exact local_pure cmd.txn ()
    exact learned.withState fun log log' _ same => by simp [same.stateD]

theorem local_invalidated : Local cmd.txn fun log => log.invalidated cmd role := by
  have learned := local_learn cmd.txn .invalidated
  have ended (result : Except Fault Unit) :
      Local cmd.txn fun log => (log.learn cmd.txn .invalidated, result) :=
    (local_pure cmd.txn result).after learned
  simp only [invalidated]
  refine (ended _).ite ?_ fun log log' same => by rw [(learned.alike same).get?]
  split
  · exact ended _
  · exact learned.withState fun log log' _ same => by simp [same.stateD]

theorem outcomeKeys_congr (same : Alike cmd.txn log log') :
    log.outcomeKeys cmd = log'.outcomeKeys cmd := by rw [outcomeKeys, same.get?, outcomeKeys]

/-- What the log is blocked with for want of the outcome, and whether it can be. -/
theorem local_blockOutcome :
    Local cmd.txn fun log => log.block cmd.txn .preApplied (log.outcomeKeys cmd) := by
  intro log log' same
  simp only [outcomeKeys_congr cmd same]
  exact local_block cmd.txn .preApplied _ log log' same

theorem local_durableGlobally (persistedOn : Option (SortedSet NodeId)) :
    Local cmd.txn fun log => log.durableGlobally topology cmd persistedOn role := by
  have announced : Local cmd.txn fun log =>
      if !role.isHome then (log, .ok ())
      else (log.withState cmd.txn (((log.stateD cmd.txn).withCoordinate
        (log.stateD cmd.txn).coordinateD.durableGlobally).withDisseminate
          ((log.stateD cmd.txn).disseminateD.durableGlobally cmd topology persistedOn)),
            (.ok () : Except Fault Unit)) := by
    split
    · exact local_pure cmd.txn _
    · exact (local_pure cmd.txn ()).withState fun log log' _ same => by simp [same.stateD]
  intro log log' same
  unfold durableGlobally
  cases cmd.hasBeen .preApplied with
  | true => exact announced log log' same
  | false =>
    obtain ⟨written, result, e, e'⟩ := local_blockOutcome cmd log log' same
    simp only [Bool.false_eq_true, if_false, e, e']
    cases result with
    | error fault => exact ⟨written, _, rfl, rfl⟩
    | ok => exact announced.write_first same written

/-- Every event is an operation on its transaction. -/
theorem local_record (event : Event) :
    Local event.txn fun log => log.record topology role event := by
  have ended (txn : TxnId) (result : Except Fault Unit) := local_pure txn result
  cases event with
  | witnessed txn homeKey =>
    cases role with
    | home => exact (local_pure txn ()).withState fun log log' _ same => by simp [same.stateD]
    | nonHome | indeterminate => exact ended txn _
  | preAccepted cmd =>
    cases role with
    | home | nonHome =>
      exact (local_pure cmd.txn ()).withState fun log log' _ same => by simp [same.stateD]
    | indeterminate => exact ended cmd.txn _
  | accepted cmd => exact local_movedOn cmd role .uncommitted .expected
  | committed cmd => exact local_movedOn cmd role .committed .noneExpected
  | readyToExecute cmd => exact local_movedOn cmd role .readyToExecute .expected
  | executed cmd =>
    exact (local_movedOn cmd role .readyToExecute .expected).after (local_learn cmd.txn .preApplied)
  | invalidated cmd => exact local_invalidated cmd role
  | durableLocally txn =>
    cases role with
    | home =>
      exact (local_pure txn ()).withState fun log log' _ same => by simp [same.stateD, same.node]
    | nonHome | indeterminate => exact ended txn _
  | durableGlobally cmd persistedOn => exact local_durableGlobally cmd topology role persistedOn
  | durableElsewhere txn keys => exact local_block txn .preApplied keys
  | waitingOn txn required keys => exact local_block txn required keys

theorem local_audit : Local cmd.txn fun log => log.audit topology cmd := by
  intro log log' same
  simp only [audit, ← same.get?]
  split
  · exact ⟨none, _, rfl, rfl⟩
  · exact ⟨some _, _, rfl, rfl⟩

theorem local_complete (tag : Tag) (completion : Completion) :
    Local txn fun log => log.complete txn tag completion := by
  intro log log' same
  simp only [complete, ← same.get?]
  split
  · exact ⟨none, _, rfl, rfl⟩
  · exact ⟨some _, _, rfl, rfl⟩

end Operations

/-! ## Any two acts -/

/-- What an act returns to whoever does it. -/
inductive Outcome
  | recorded (result : Except Fault Unit)
  | audited (result : Except Fault Audit)
  | completed (result : Except Fault (Resolution Sequel))

def outcome (log : ShardLog) : Act → Outcome
  | .record topology role event => .recorded (log.record topology role event).2
  | .audit topology cmd => .audited (log.audit topology cmd).2
  | .complete txn tag completion => .completed (log.complete txn tag completion).2

/-- Every act is an operation on its transaction. -/
theorem local_act (a : Act) : Local a.txn fun log => (log.act a, log.outcome a) := by
  cases a with
  | record topology role event => exact (local_record topology role event).map Outcome.recorded
  | audit topology cmd => exact (local_audit cmd topology).map Outcome.audited
  | complete txn tag completion => exact (local_complete txn tag completion).map Outcome.completed

theorem alike_write {txn other : TxnId} (h : txn ≠ other) (log : ShardLog)
    (written : Option TxnState) : Alike txn log (log.write other written) :=
  ⟨by simp, by simp [h]⟩

/-- What an act writes and returns does not depend on an act on another transaction. -/
theorem act_write {a : Act} {other : TxnId} (h : a.txn ≠ other) (log : ShardLog)
    (written : Option TxnState) :
    (log.write other written).act a = (log.act a).write other written ∧
      (log.write other written).outcome a = log.outcome a := by
  obtain ⟨own, result, e, e'⟩ := local_act a log _ (alike_write h log written)
  obtain ⟨state, ended⟩ := Prod.mk.inj e
  obtain ⟨state', ended'⟩ := Prod.mk.inj e'
  refine ⟨?_, ended'.trans ended.symm⟩
  rw [state, state', write_comm log h.symm]

theorem exists_write (log : ShardLog) (a : Act) :
    ∃ written, log.act a = log.write a.txn written := by
  obtain ⟨written, _, e, -⟩ := local_act a log log ⟨rfl, rfl⟩
  exact ⟨written, (Prod.mk.inj e).1⟩

theorem act_comm {a b : Act} (h : a.txn ≠ b.txn) (log : ShardLog) :
    (log.act a).act b = (log.act b).act a := by
  obtain ⟨written, e⟩ := log.exists_write b
  rw [e, (act_write h log written).1]
  obtain ⟨own, e'⟩ := log.exists_write a
  rw [e', (act_write h.symm log own).1, e, write_comm log h]

theorem outcome_act {a b : Act} (h : a.txn ≠ b.txn) (log : ShardLog) :
    (log.act b).outcome a = log.outcome a := by
  obtain ⟨written, e⟩ := log.exists_write b
  rw [e, (act_write h log written).2]

/-! ## Audits in any order -/

/-- Audits transactions one after the other, each against its command. Tells what became of each. -/
def auditEach (log : ShardLog) (topology : Topology) (cmds : TxnId → Command) :
    List TxnId → ShardLog × List (TxnId × Except Fault Audit)
  | [] => (log, [])
  | txn :: rest =>
    let (log, result) := log.audit topology (cmds txn)
    let (log, results) := log.auditEach topology cmds rest
    (log, (txn, result) :: results)

section Audits

variable {topology : Topology} {cmds : TxnId → Command}

theorem auditEach_fst (log : ShardLog) (order : List TxnId) :
    (log.auditEach topology cmds order).1 =
      order.foldl (fun log txn => log.act (.audit topology (cmds txn))) log := by
  induction order generalizing log with
  | nil => rfl
  | cons txn rest ih => exact ih _

/-- The audit of a transaction comes to the same however many others were audited before. -/
theorem auditEach_snd (own : ∀ txn, (cmds txn).txn = txn) (log : ShardLog) {order : List TxnId}
    (distinct : order.Nodup) : (log.auditEach topology cmds order).2 =
      order.map fun txn => (txn, (log.audit topology (cmds txn)).2) := by
  induction order generalizing log with
  | nil => rfl
  | cons txn rest ih =>
    obtain ⟨fresh, distinct⟩ := List.nodup_cons.1 distinct
    refine congrArg (_ :: ·) ((ih _ distinct).trans (List.map_congr_left fun x hx => ?_))
    have apart : (Act.audit topology (cmds x)).txn ≠ (Act.audit topology (cmds txn)).txn := by
      rw [Act.txn, Act.txn, own, own]
      rintro rfl
      exact fresh hx
    have same := outcome_act apart log
    simp only [outcome, Outcome.audited.injEq] at same
    exact congrArg _ same

theorem auditEach_perm (own : ∀ txn, (cmds txn).txn = txn) (log : ShardLog)
    {order order' : List TxnId} (perm : order.Perm order') :
    (log.auditEach topology cmds order).1 = (log.auditEach topology cmds order').1 := by
  rw [auditEach_fst, auditEach_fst]
  refine perm.foldl_eq' (fun x _ y _ log => ?_) log
  by_cases h : x = y
  · rw [h]
  · exact act_comm (by simpa [Act.txn, own] using h) log

end Audits

/-! ## Whole runs -/

/-- The transactions that a log shows, in the order in which it shows them. -/
def shown (log : ShardLog) : List TxnId := log.states.values.map (·.txn)

theorem shown_eq_txns (h : log.Sound) : log.shown = log.txns := by
  rw [shown, txns, SortedMap.values, SortedMap.keys, List.map_map]
  refine List.map_congr_left fun b hb => ?_
  obtain ⟨txn, s⟩ := b
  exact (h txn s (SortedMap.get?_eq_some_iff.2 hb)).1

/-- What transactions have to do with each other in a log. -/
structure Independent (log : ShardLog) : Prop where
  commute : ∀ a b : Act, a.txn ≠ b.txn → (log.act a).act b = (log.act b).act a
  outcome : ∀ a b : Act, a.txn ≠ b.txn → (log.act b).outcome a = log.outcome a
  apart : ∀ a : Act, ∀ txn, txn ≠ a.txn → (log.act a).get? txn = log.get? txn
  /-- Audits of all transactions in any order leave the same log, and each comes to what it would
  come to if it were the only one. -/
  audits : ∀ topology cmds order, (∀ txn, (cmds txn).txn = txn) → order.Perm log.txns →
    (log.auditEach topology cmds order).1 = (log.auditEach topology cmds log.txns).1 ∧
      (log.auditEach topology cmds order).2 =
        order.map fun txn => (txn, (log.audit topology (cmds txn)).2)
  ascending : log.shown.Pairwise (compare · · = .lt)
  shown : ∀ txn, txn ∈ log.shown ↔ (log.get? txn).isSome = true

theorem transactions_independent (shard : ShardId) (node : NodeId) (run : List Act) :
    ((machine shard node).after run).Independent := by
  have listed := shown_eq_txns (sound_after shard node run)
  constructor
  case commute => exact fun a b h => act_comm h _
  case outcome => exact fun a b h => outcome_act h _
  case apart => exact fun a txn h => (confined_act _ a).others txn h
  case audits =>
    intro topology cmds order own perm
    exact ⟨auditEach_perm own _ perm,
      auditEach_snd own _ (perm.nodup_iff.2 (SortedMap.nodup_keys _))⟩
  case ascending =>
    rw [listed]
    exact SortedMap.ascending_keys _
  case shown =>
    intro txn
    rw [listed]
    exact SortedMap.mem_keys_iff

end TxnLiveness.ShardLog
