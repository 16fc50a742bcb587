import TxnLiveness.Proofs.Shard.Run
/-!
# Whom an act reaches

Whatever is done to a log changes the state of one transaction at most. It can make a transaction
tracked, and none is ever dropped.
-/

namespace TxnLiveness.ShardLog

/-- The transaction that an act is about. -/
def Act.txn : Act → TxnId
  | .record _ _ event => event.txn
  | .audit _ cmd => cmd.txn
  | .complete txn _ _ => txn

/-- One log differs from another in the state of one transaction at most, which stays tracked. -/
structure Confined (log : ShardLog) (txn : TxnId) (log' : ShardLog) : Prop where
  shard : log'.shard = log.shard
  others : ∀ x, x ≠ txn → log'.get? x = log.get? x
  tracked : (log.get? txn).isSome = true → (log'.get? txn).isSome = true

variable {log log' log'' : ShardLog} {txn : TxnId}

theorem Confined.refl (log : ShardLog) (txn : TxnId) : log.Confined txn log :=
  ⟨rfl, fun _ _ => rfl, id⟩

theorem Confined.trans (h : log.Confined txn log') (k : log'.Confined txn log'') :
    log.Confined txn log'' :=
  ⟨k.shard.trans h.shard, fun x hx => (k.others x hx).trans (h.others x hx),
    fun hs => k.tracked (h.tracked hs)⟩

theorem confined_withState (log : ShardLog) (txn : TxnId) (s : TxnState) :
    log.Confined txn (log.withState txn s) := by
  refine ⟨rfl, fun x hx => ?_, fun _ => ?_⟩
  · rw [get?_withState, if_neg hx]
  · rw [get?_withState, if_pos rfl]
    rfl

/-! ## Events -/

theorem confined_learn (log : ShardLog) (txn : TxnId) (known : Known) :
    log.Confined txn (log.learn txn known) := by
  unfold learn
  split
  · split
    · exact confined_withState _ _ _
    · exact .refl _ _
  · exact .refl _ _

theorem confined_block (log : ShardLog) (txn : TxnId) (required : Known) (keys : Footprint) :
    log.Confined txn (log.block txn required keys).1 := by
  unfold block
  split
  · exact .refl _ _
  · exact confined_withState _ _ _

theorem confined_movedOn (log : ShardLog) (cmd : Command) (role : Role) (status : CoordinateStatus)
    (progress : Progress) : log.Confined cmd.txn (log.movedOn cmd role status progress).1 := by
  unfold movedOn
  split
  · exact .refl _ _
  · refine Confined.trans ?_ (confined_withState _ _ _)
    split
    · exact log.confined_learn cmd.txn .committed
    · exact .refl _ _

theorem confined_invalidated (log : ShardLog) (cmd : Command) (role : Role) :
    log.Confined cmd.txn (log.invalidated cmd role).1 := by
  unfold invalidated
  refine (log.confined_learn cmd.txn .invalidated).trans ?_
  dsimp only
  split
  · exact .refl _ _
  · split
    · exact .refl _ _
    · exact confined_withState _ _ _

theorem confined_durableGlobally (log : ShardLog) (topology : Topology) (cmd : Command)
    (persistedOn : Option (SortedSet NodeId)) (role : Role) :
    log.Confined cmd.txn (log.durableGlobally topology cmd persistedOn role).1 := by
  obtain ⟨-, -, e⟩ | ⟨log', blocked, e⟩ :=
    log.durableGlobally_cases topology cmd persistedOn role <;> rw [e]
  · exact .refl _ _
  · have waiting : log.Confined cmd.txn log' := by
      obtain rfl | rfl := blocked
      · exact .refl _ _
      · exact log.confined_block _ _ _
    dsimp only
    split
    · exact waiting.trans (confined_withState _ _ _)
    · exact waiting

theorem confined_record (log : ShardLog) (topology : Topology) (role : Role) (event : Event) :
    log.Confined event.txn (log.record topology role event).1 := by
  cases event with
  | witnessed txn homeKey | durableLocally txn =>
    cases role with
    | home => exact confined_withState _ _ _
    | nonHome | indeterminate => exact .refl _ _
  | preAccepted cmd =>
    cases role with
    | home | nonHome => exact confined_withState _ _ _
    | indeterminate => exact .refl _ _
  | accepted cmd | committed cmd | readyToExecute cmd => exact log.confined_movedOn cmd role _ _
  | executed cmd =>
    exact (log.confined_learn cmd.txn .preApplied).trans (confined_movedOn _ cmd role _ _)
  | invalidated cmd => exact log.confined_invalidated cmd role
  | durableGlobally cmd persistedOn => exact log.confined_durableGlobally topology cmd _ role
  | durableElsewhere txn keys | waitingOn txn required keys => exact log.confined_block txn _ keys

/-! ## All acts -/

theorem confined_complete (log : ShardLog) (txn : TxnId) (tag : Tag) (completion : Completion) :
    log.Confined txn (log.complete txn tag completion).1 := by
  unfold complete
  split
  · exact .refl _ _
  · exact confined_withState _ _ _

theorem confined_act (log : ShardLog) (a : Act) : log.Confined a.txn (log.act a) := by
  cases a with
  | record topology role event => exact log.confined_record topology role event
  | audit topology cmd =>
    simp only [act, audit, Act.txn]
    split
    · exact .refl _ _
    · exact confined_withState _ _ _
  | complete txn tag completion => exact log.confined_complete txn tag completion

/-- What is done to a log comes down to acts on the state of its transaction. -/
theorem exists_does_act (log : ShardLog) (a : Act) : ∃ acts, log.Does a.txn acts (log.act a) := by
  cases a with
  | record topology role event => exact ⟨_, log.does_record topology role event⟩
  | audit topology cmd => exact ⟨_, log.does_audit topology cmd⟩
  | complete txn tag completion => exact ⟨_, log.does_complete txn tag completion⟩

/-- What every act on a state keeps, every act on a log keeps of every transaction. -/
theorem keeps_act {P : TxnState → Prop} (keeps : ∀ s a, P s → P (s.act a)) (log : ShardLog)
    (a : Act) (h : P (log.stateD txn)) : P ((log.act a).stateD txn) := by
  obtain ⟨acts, does⟩ := log.exists_does_act a
  rw [does txn]
  split
  · exact List.foldlRecOn _ _ h fun s hs a _ => keeps s a hs
  · exact h

/-- What every act on a state keeps holds of a transaction ever after. -/
theorem keeps_since {shard : ShardId} {node : NodeId} {P : TxnState → Prop}
    (keeps : ∀ s a, P s → P (s.act a)) {past later : List Act} (since : past <:+ later)
    (h : P (((machine shard node).after past).stateD txn)) :
    P (((machine shard node).after later).stateD txn) := by
  obtain ⟨acts, rfl⟩ := since
  induction acts with
  | nil => exact h
  | cons a acts ih => exact keeps_act keeps _ a ih

/-! ## Tracked transactions -/

/-- One log is of the same shard as another and tracks the same transactions. -/
structure SameTracked (log log' : ShardLog) : Prop where
  shard : log'.shard = log.shard
  tracked : ∀ x, (log'.get? x).isSome = (log.get? x).isSome

theorem SameTracked.refl (log : ShardLog) : log.SameTracked log := ⟨rfl, fun _ => rfl⟩

theorem SameTracked.trans (h : log.SameTracked log') (k : log'.SameTracked log'') :
    log.SameTracked log'' :=
  ⟨k.shard.trans h.shard, fun x => (k.tracked x).trans (h.tracked x)⟩

theorem Confined.sameTracked (h : log.Confined txn log') (tracked : (log.get? txn).isSome = true) :
    log.SameTracked log' := by
  refine ⟨h.shard, fun x => ?_⟩
  by_cases hx : x = txn
  · subst hx
    rw [tracked, h.tracked tracked]
  · rw [h.others x hx]

/-- Audits and completions have no further transaction tracked. -/
theorem sameTracked_audit (log : ShardLog) (topology : Topology) (cmd : Command) :
    log.SameTracked (log.audit topology cmd).1 := by
  unfold audit
  cases hs : log.get? cmd.txn with
  | none => exact .refl log
  | some s => exact (confined_withState log cmd.txn _).sameTracked (by rw [hs]; rfl)

theorem sameTracked_complete (log : ShardLog) (txn : TxnId) (tag : Tag) (completion : Completion) :
    log.SameTracked (log.complete txn tag completion).1 := by
  unfold complete
  cases hs : log.get? txn with
  | none => exact .refl log
  | some s => exact (confined_withState log txn _).sameTracked (by rw [hs]; rfl)

end TxnLiveness.ShardLog
