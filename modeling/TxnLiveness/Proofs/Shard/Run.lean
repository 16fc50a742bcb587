import TxnLiveness.Proofs.Investigation.ShardLog
import TxnLiveness.Proofs.Shard.Event
/-!
# Runs of a progress log

A log is told events, audits transactions and is handed completions, in any order. What an act does
is told one transaction at a time: either the act is about another transaction and nothing happens
to this one, or it is an event, an audit or a completion of this one.
-/

namespace TxnLiveness.ShardLog

/-- What can be done to a log. -/
inductive Act
  | record (topology : Topology) (role : Role) (event : Event)
  | audit (topology : Topology) (cmd : Command)
  | complete (txn : TxnId) (tag : Tag) (completion : Completion)

def act (log : ShardLog) : Act → ShardLog
  | .record topology role event => (log.record topology role event).1
  | .audit topology cmd => (log.audit topology cmd).1
  | .complete txn tag completion => (log.complete txn tag completion).1

/-- A log from its creation on. -/
def machine (shard : ShardId) (node : NodeId) : Machine ShardLog Act := ⟨{ shard, node }, act⟩

@[simp] theorem machine_step (shard : ShardId) (node : NodeId) (log : ShardLog) (a : Act) :
    (machine shard node).step log a = log.act a := rfl

/-- What an act dispatches. -/
def dispatched (log : ShardLog) : Act → List Dispatch
  | .record .. => []
  | .audit topology cmd =>
    match (log.audit topology cmd).2 with
    | .ok out => out.dispatches
    | .error _ => []
  | .complete txn tag completion => TxnState.followups (log.complete txn tag completion).2

/-! ## One act -/

section Acts

variable {log : ShardLog}

theorem stateD_of_get? {txn : TxnId} {s : TxnState} (h : log.get? txn = some s) :
    log.stateD txn = s := by simp [stateD, h]

theorem stateD_of_get?_none {txn : TxnId} (h : log.get? txn = none) :
    log.stateD txn = { txn } := by simp [stateD, h]

/-- A state without trackers has nothing to audit. -/
theorem audit_fresh (txn : TxnId) (cmd : Command) (topology : Topology) (h : cmd.txn = txn) :
    ({ txn } : TxnState).audit cmd topology = ({ txn }, .ok {}) := TxnState.audit_eq h

/-- An audit is the audit of the transaction's state, also if it is not tracked. -/
theorem audit_result (log : ShardLog) (topology : Topology) (cmd : Command) :
    (log.audit topology cmd).2 = ((log.stateD cmd.txn).audit cmd topology).2 := by
  unfold audit
  cases hs : log.get? cmd.txn with
  | none => rw [stateD_of_get?_none hs, audit_fresh _ _ _ rfl]
  | some s => rw [stateD_of_get? hs]

theorem does_audit (log : ShardLog) (topology : Topology) (cmd : Command) :
    log.Does cmd.txn [.audit cmd topology] (log.audit topology cmd).1 := by
  unfold audit
  cases hs : log.get? cmd.txn with
  | none => exact .idle (by simp [TxnState.act, stateD_of_get?_none hs, audit_fresh])
  | some s => exact does_withState (by rw [stateD_of_get? hs]; rfl)

/-- A state without trackers takes no completion. -/
theorem complete_fresh (txn : TxnId) (tag : Tag) (completion : Completion) :
    (({ txn } : TxnState).complete tag completion).1 = { txn } ∧
      TxnState.followups (({ txn } : TxnState).complete tag completion).2 = [] := by
  obtain ⟨kind, generation⟩ := tag
  cases kind <;> cases completion <;> exact ⟨rfl, rfl⟩

theorem complete_of_get? {txn : TxnId} {s : TxnState} (h : log.get? txn = some s) (tag : Tag)
    (completion : Completion) : log.complete txn tag completion =
      (log.withState txn (s.complete tag completion).1, (s.complete tag completion).2) := by
  simp [complete, h]

theorem complete_result (log : ShardLog) (txn : TxnId) (tag : Tag) (completion : Completion) :
    (log.get? txn = none ∧ (log.complete txn tag completion).2 = .ok .stale) ∨
      (log.complete txn tag completion).2 = ((log.stateD txn).complete tag completion).2 := by
  unfold complete
  cases hs : log.get? txn with
  | none => exact .inl ⟨rfl, rfl⟩
  | some s => exact .inr (by rw [stateD_of_get? hs])

theorem followups_complete (log : ShardLog) (txn : TxnId) (tag : Tag) (completion : Completion) :
    TxnState.followups (log.complete txn tag completion).2 =
      TxnState.followups ((log.stateD txn).complete tag completion).2 := by
  obtain ⟨hs, e⟩ | e := log.complete_result txn tag completion
  · rw [e, stateD_of_get?_none hs, (complete_fresh txn tag completion).2]
    rfl
  · rw [e]

theorem does_complete (log : ShardLog) (txn : TxnId) (tag : Tag) (completion : Completion) :
    log.Does txn [.complete tag completion] (log.complete txn tag completion).1 := by
  unfold complete
  cases hs : log.get? txn with
  | none =>
    exact .idle (by simp [TxnState.act, stateD_of_get?_none hs, (complete_fresh txn _ _).1])
  | some s => exact does_withState (by rw [stateD_of_get? hs]; rfl)

/-- What an act can do to the state of a transaction, and what is dispatched for it. -/
inductive Turn (txn : TxnId) (s : TxnState) : Act → TxnState → List Dispatch → Prop
  /-- Another transaction's turn. -/
  | other (a : Act) : Turn txn s a s []
  | recorded (topology : Topology) (role : Role) (event : Event) (acts : List TxnState.Act)
      (recordable : s.AllRecordable acts) :
      Turn txn s (.record topology role event) (acts.foldl TxnState.act s) []
  | audited (topology : Topology) (cmd : Command) (own : cmd.txn = txn) :
      Turn txn s (.audit topology cmd) (s.act (.audit cmd topology))
        (s.dispatched (.audit cmd topology))
  | completed (tag : Tag) (completion : Completion) :
      Turn txn s (.complete txn tag completion) (s.act (.complete tag completion))
        (s.dispatched (.complete tag completion))

theorem txn_of_mem_dispatched (h : log.Sound) {a : Act} {d : Dispatch} (hd : d ∈ log.dispatched a) :
    (∃ topology cmd, a = .audit topology cmd ∧ d.txn = cmd.txn) ∨
      ∃ tag completion, a = .complete d.txn tag completion := by
  cases a with
  | record topology role event => cases hd
  | audit topology cmd =>
    obtain ⟨out, ho, -, own, -⟩ := audit_ok h topology cmd
    rw [dispatched, ho] at hd
    exact .inl ⟨topology, cmd, rfl, (own d hd).1⟩
  | complete txn tag completion =>
    rw [dispatched, followups_complete] at hd
    obtain ⟨-, own, -⟩ := TxnState.followups_sound hd
    rw [(sound_stateD h txn).1] at own
    exact .inr ⟨tag, completion, by rw [own]⟩

theorem turn (h : log.Sound) (a : Act) (txn : TxnId) :
    Turn txn (log.stateD txn) a ((log.act a).stateD txn)
      ((log.dispatched a).filter (·.txn = txn)) := by
  have none (hne : ∀ d ∈ log.dispatched a, d.txn ≠ txn) :
      (log.dispatched a).filter (·.txn = txn) = [] :=
    List.filter_eq_nil_iff.2 fun d hd => by simpa using hne d hd
  have all (hall : ∀ d ∈ log.dispatched a, d.txn = txn) :
      (log.dispatched a).filter (·.txn = txn) = log.dispatched a :=
    List.filter_eq_self.2 fun d hd => by simpa using hall d hd
  cases a with
  | record topology role event =>
    rw [act, log.does_record topology role event txn]
    split
    · subst txn
      exact .recorded topology role event _ (log.allRecordable_actsOf topology role event)
    · exact .other _
  | audit topology cmd =>
    have own {d : Dispatch} (hd : d ∈ log.dispatched (.audit topology cmd)) : d.txn = cmd.txn := by
      obtain ⟨_, _, ha, hd⟩ | ⟨_, _, ha⟩ := txn_of_mem_dispatched h hd <;> cases ha
      exact hd
    rw [act, log.does_audit topology cmd txn]
    split
    · subst txn
      rw [all fun d hd => own hd, dispatched, audit_result]
      exact .audited topology cmd rfl
    · rename_i hx
      rw [none fun d hd e => hx (e.symm.trans (own hd))]
      exact .other _
  | complete x tag completion =>
    have own {d : Dispatch} (hd : d ∈ log.dispatched (.complete x tag completion)) : d.txn = x := by
      obtain ⟨_, _, ha, -⟩ | ⟨_, _, ha⟩ := txn_of_mem_dispatched h hd <;> cases ha
      rfl
    rw [act, log.does_complete x tag completion txn]
    split
    · subst txn
      rw [all fun d hd => own hd, dispatched, followups_complete]
      exact .completed tag completion
    · rename_i hx
      rw [none fun d hd e => hx (e.symm.trans (own hd))]
      exact .other _

/-- What is dispatched for a transaction is dispatched by an audit or a completion of it. -/
theorem mem_dispatched (h : log.Sound) {a : Act} {d : Dispatch} (hd : d ∈ log.dispatched a) :
    (∃ topology cmd, a = .audit topology cmd ∧ cmd.txn = d.txn ∧
        d ∈ (log.stateD d.txn).dispatched (.audit cmd topology)) ∨
      ∃ tag completion, a = .complete d.txn tag completion ∧
        d ∈ (log.stateD d.txn).dispatched (.complete tag completion) := by
  have turned := turn h a d.txn
  have hd : d ∈ (log.dispatched a).filter (·.txn = d.txn) := List.mem_filter.2 ⟨hd, by simp⟩
  generalize (log.act a).stateD d.txn = s' at turned
  generalize (log.dispatched a).filter (·.txn = d.txn) = ds at turned hd
  cases turned with
  | other | recorded => cases hd
  | audited topology cmd own => exact .inl ⟨topology, cmd, rfl, own, hd⟩
  | completed tag completion => exact .inr ⟨tag, completion, rfl, hd⟩

end Acts

/-! ## Whole runs -/

section Runs

variable (shard : ShardId) (node : NodeId)

/-- What was dispatched in a run. -/
def dispatchedIn (run : List Act) : List Dispatch := (machine shard node).collect dispatched run

/-- What was dispatched for one transaction in a run. -/
def dispatchedFor (txn : TxnId) (run : List Act) : List Dispatch :=
  (dispatchedIn shard node run).filter (·.txn = txn)

variable {shard node}

theorem dispatchedIn_subset (acts run : List Act) :
    dispatchedIn shard node run ⊆ dispatchedIn shard node (acts ++ run) := by
  induction acts with
  | nil => exact List.Subset.refl _
  | cons a acts ih => exact fun d hd => List.mem_append_right _ (ih hd)

/-- What an act of a run dispatches is dispatched in the run. -/
theorem mem_dispatchedIn {a : Act} {older run : List Act} (h : a :: older <:+ run) {d : Dispatch}
    (hd : d ∈ ((machine shard node).after older).dispatched a) :
    d ∈ dispatchedIn shard node run := by
  obtain ⟨acts, rfl⟩ := h
  exact dispatchedIn_subset acts (a :: older) (List.mem_append_left _ hd)

theorem sound_after (shard : ShardId) (node : NodeId) (run : List Act) :
    ((machine shard node).after run).Sound := by
  induction run with
  | nil => exact fun txn s h => nomatch h
  | cons a past ih =>
    cases a with
    | record topology role event => exact (quiet_record _ topology role event).sound ih
    | audit topology cmd => exact audit_sound ih topology cmd
    | complete txn tag completion => exact complete_sound ih txn tag completion

theorem turn_after (shard : ShardId) (node : NodeId) (past : List Act) (a : Act) (txn : TxnId) :
    Turn txn (((machine shard node).after past).stateD txn) a
      (((machine shard node).after (a :: past)).stateD txn)
      ((((machine shard node).after past).dispatched a).filter (·.txn = txn)) :=
  turn (sound_after shard node past) a txn

theorem dispatchedFor_cons (a : Act) (past : List Act) (txn : TxnId) :
    dispatchedFor shard node txn (a :: past) =
      (((machine shard node).after past).dispatched a).filter (·.txn = txn) ++
        dispatchedFor shard node txn past := by
  simp [dispatchedFor, dispatchedIn]

/-- What holds of a fresh state and is kept by what events, audits and completions do holds of every
transaction after every run. -/
theorem holds_after {P : TxnState → Prop} (txn : TxnId) (fresh : P { txn })
    (recorded : ∀ s a, s.Recordable a → P s → P (s.act a))
    (audited : ∀ s cmd topology, P s → P (s.act (.audit cmd topology)))
    (completed : ∀ s tag completion, P s → P (s.act (.complete tag completion)))
    (run : List Act) : P (((machine shard node).after run).stateD txn) := by
  induction run with
  | nil => exact fresh
  | cons a past ih =>
    have turned := turn_after shard node past a txn
    generalize ((machine shard node).after (a :: past)).stateD txn = s' at turned ⊢
    generalize (((machine shard node).after past).dispatched a).filter (·.txn = txn) = ds at turned
    cases turned with
    | other => exact ih
    | recorded topology role event acts recordable => exact recordable.keeps recorded ih
    | audited topology cmd own => exact audited _ cmd topology ih
    | completed tag completion => exact completed _ tag completion ih

/-- What every act on a state keeps holds of every transaction after every run. -/
theorem keeps_after {P : TxnState → Prop} (txn : TxnId) (fresh : P { txn })
    (keeps : ∀ s a, P s → P (s.act a)) (run : List Act) :
    P (((machine shard node).after run).stateD txn) :=
  holds_after txn fresh (fun s a _ => keeps s a)
    (fun s cmd topology => keeps s (.audit cmd topology))
    (fun s tag completion => keeps s (.complete tag completion)) run

end Runs

end TxnLiveness.ShardLog
