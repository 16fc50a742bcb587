import TxnLiveness.Proofs.Investigation.Staleness
import TxnLiveness.ShardLog
/-!
# What an event does to its transaction

An event reaches the state of one transaction only, and does to it a few of the acts that can be
done to such a state. What events keep of a state can therefore be told act by act.
-/

namespace TxnLiveness

/-- The transaction that an event is about. -/
def Event.txn : Event → TxnId
  | .witnessed txn _ | .durableLocally txn | .durableElsewhere txn _ | .waitingOn txn _ _ => txn
  | .preAccepted cmd | .accepted cmd | .committed cmd | .readyToExecute cmd | .executed cmd
  | .invalidated cmd | .durableGlobally cmd _ => cmd.txn

/-- The progress with which events enter a status. -/
def CoordinateStatus.entered : CoordinateStatus → Progress
  | .notWitnessed | .committed => .noneExpected
  | .uncommitted | .readyToExecute => .expected
  | .done => .done

namespace TxnState

/-- Whether events do such an act to a state. They block on no empty set of keys, create no blocking
tracker to hand it knowledge, enter each status with the progress that goes with it, and delegate
nothing that is under way. -/
def Recordable (s : TxnState) : Act → Prop
  | .rememberHome _ | .stopCoordinating | .durableGlobally .. | .durableLocally _ => True
  | .reach status progress | .reachFor _ status progress => progress = status.entered
  | .block _ keys => keys.isEmpty = false
  | .learn _ => s.blocking.isSome = true
  | .delegate status => status = .atRisk ∨ status = .safe
  | .observe _ | .audit .. | .complete .. => False

/-- Whether events do such acts to a state, one after the other. -/
def AllRecordable (s : TxnState) : List Act → Prop
  | [] => True
  | a :: acts => s.Recordable a ∧ (s.act a).AllRecordable acts

variable {s : TxnState} {acts more : List Act}

theorem AllRecordable.append (h : s.AllRecordable acts)
    (k : (acts.foldl act s).AllRecordable more) : s.AllRecordable (acts ++ more) := by
  induction acts generalizing s with
  | nil => exact k
  | cons a acts ih => exact ⟨h.1, ih h.2 k⟩

/-- What every act keeps that events do, events keep. -/
theorem AllRecordable.keeps {P : TxnState → Prop} (h : s.AllRecordable acts)
    (step : ∀ t a, t.Recordable a → P t → P (t.act a)) (hs : P s) : P (acts.foldl act s) := by
  induction acts generalizing s with
  | nil => exact hs
  | cons a acts ih => exact ih h.2 (step s a h.1 hs)

/-! ## The acts of an event -/

/-- The acts by which a blocking tracker is handed knowledge, if there is one. -/
def learnActs (s : TxnState) (known : Known) : List Act :=
  if s.blocking.isSome then [.learn known] else []

/-- The acts by which a block is recorded, unless it is refused. -/
def blockActs (required : Known) (keys : Footprint) : List Act :=
  if keys.isEmpty then [] else [.block required keys]

/-- The acts by which the home shard follows a command and any other shard delegates it. -/
def followActs (cmd : Command) (role : Role) (status : CoordinateStatus)
    (otherwise : DelegationStatus) : List Act :=
  if role.isHome then [.reachFor cmd status status.entered] else [.delegate otherwise]

/-- The acts by which the transaction is recorded to have moved on, unless that is refused. -/
def moveActs (s : TxnState) (cmd : Command) (role : Role) (status : CoordinateStatus) : List Act :=
  if !role.isProgress then []
  else (if .committed ≤ status then s.learnActs .committed else []) ++
    .rememberHome cmd.homeKey :: followActs cmd role status .safe

/-- The acts by which the home shard stops coordinating and starts announcing. -/
def announceActs (topology : Topology) (role : Role) (cmd : Command)
    (persistedOn : Option (SortedSet NodeId)) : List Act :=
  if role.isHome then [.stopCoordinating, .durableGlobally cmd topology persistedOn] else []

theorem allRecordable_learnActs (s : TxnState) (known : Known) :
    s.AllRecordable (s.learnActs known) := by
  unfold learnActs
  split
  · exact ⟨‹_›, trivial⟩
  · trivial

theorem allRecordable_blockActs (s : TxnState) (required : Known) (keys : Footprint) :
    s.AllRecordable (blockActs required keys) := by
  unfold blockActs
  split
  · trivial
  · exact ⟨Bool.of_not_eq_true ‹_›, trivial⟩

theorem allRecordable_followActs (s : TxnState) (cmd : Command) (role : Role)
    (status : CoordinateStatus) {otherwise : DelegationStatus}
    (h : otherwise = .atRisk ∨ otherwise = .safe) :
    s.AllRecordable (followActs cmd role status otherwise) := by
  unfold followActs
  split
  · exact ⟨rfl, trivial⟩
  · exact ⟨h, trivial⟩

theorem allRecordable_moveActs (s : TxnState) (cmd : Command) (role : Role)
    (status : CoordinateStatus) : s.AllRecordable (s.moveActs cmd role status) := by
  unfold moveActs
  split
  · trivial
  · have learned : s.AllRecordable
        (if .committed ≤ status then s.learnActs .committed else []) := by
      split
      · exact s.allRecordable_learnActs .committed
      · trivial
    exact learned.append ⟨trivial, allRecordable_followActs _ cmd role status (.inr rfl)⟩

/-- Learning creates no tracker, so it does not change how the transaction moves on. -/
theorem moveActs_learnActs (s : TxnState) (known : Known) (cmd : Command) (role : Role)
    (status : CoordinateStatus) :
    ((s.learnActs known).foldl act s).moveActs cmd role status = s.moveActs cmd role status := by
  have created : ((s.learnActs known).foldl act s).blocking.isSome = s.blocking.isSome := by
    unfold learnActs
    cases h : s.blocking <;> simp [h, act, withBlocking]
  unfold moveActs
  rw [learnActs, created]
  rfl

theorem coordinate_learnActs (s : TxnState) (known : Known) :
    ((s.learnActs known).foldl act s).coordinate = s.coordinate := by
  unfold learnActs
  split <;> rfl

end TxnState

namespace ShardLog

open TxnState

variable {log log' log'' : ShardLog} {txn : TxnId} {acts more : List TxnState.Act}

/-- The acts that an event does to the state of its transaction, also where it is refused. -/
def actsOf (log : ShardLog) (topology : Topology) (role : Role) : Event → List TxnState.Act
  | .witnessed _ homeKey =>
    if role.isHome then [.rememberHome (some homeKey), .reach .uncommitted .expected] else []
  | .preAccepted cmd =>
    if !role.isProgress then []
    else .rememberHome cmd.homeKey :: followActs cmd role .uncommitted .atRisk
  | .accepted cmd => (log.stateD cmd.txn).moveActs cmd role .uncommitted
  | .committed cmd => (log.stateD cmd.txn).moveActs cmd role .committed
  | .readyToExecute cmd => (log.stateD cmd.txn).moveActs cmd role .readyToExecute
  | .executed cmd =>
    (log.stateD cmd.txn).learnActs .preApplied ++
      (log.stateD cmd.txn).moveActs cmd role .readyToExecute
  | .invalidated cmd =>
    (log.stateD cmd.txn).learnActs .invalidated ++
      if (!role.isHome && (log.stateD cmd.txn).coordinate.isSome) || !role.isProgress then []
      else followActs cmd role .done .safe
  | .durableLocally _ => if role.isHome then [.durableLocally log.node] else []
  | .durableGlobally cmd persistedOn =>
    if cmd.hasBeen .preApplied then announceActs topology role cmd persistedOn
    else if (log.outcomeKeys cmd).isEmpty then []
    else .block .preApplied (log.outcomeKeys cmd) :: announceActs topology role cmd persistedOn
  | .durableElsewhere _ keys => blockActs .preApplied keys
  | .waitingOn _ required keys => blockActs required keys

/-- One log follows from another by acts done to one transaction. -/
def Does (log : ShardLog) (txn : TxnId) (acts : List TxnState.Act) (log' : ShardLog) : Prop :=
  ∀ x, log'.stateD x = if x = txn then acts.foldl TxnState.act (log.stateD x) else log.stateD x

/-- Acts that change nothing need not be done. -/
theorem Does.idle (h : acts.foldl TxnState.act (log.stateD txn) = log.stateD txn) :
    log.Does txn acts log := by
  intro x
  split
  · subst x
    exact h.symm
  · rfl

theorem Does.refl (log : ShardLog) (txn : TxnId) : log.Does txn [] log := .idle rfl

theorem Does.append (h : log.Does txn acts log') (k : log'.Does txn more log'') :
    log.Does txn (acts ++ more) log'' := by
  intro x
  rw [k x, h x]
  split
  · rw [List.foldl_append]
  · rfl

theorem Does.own (h : log.Does txn acts log') :
    log'.stateD txn = acts.foldl TxnState.act (log.stateD txn) := by
  simpa using h txn

theorem stateD_withState (log : ShardLog) (txn x : TxnId) (s : TxnState) :
    (log.withState txn s).stateD x = if x = txn then s else log.stateD x := by
  unfold stateD
  rw [get?_withState]
  split <;> rfl

theorem does_withState {s : TxnState} (h : s = acts.foldl TxnState.act (log.stateD txn)) :
    log.Does txn acts (log.withState txn s) := by
  intro x
  rw [stateD_withState, h]
  split
  · subst x
    rfl
  · rfl

/-! ## Single events -/

theorem does_learn (log : ShardLog) (txn : TxnId) (known : Known) :
    log.Does txn ((log.stateD txn).learnActs known) (log.learn txn known) := by
  unfold learn
  cases hs : log.get? txn with
  | none =>
    have none : (log.stateD txn).learnActs known = [] := by simp [stateD, hs, learnActs]
    rw [none]
    exact .refl _ _
  | some s =>
    have own : log.stateD txn = s := by simp [stateD, hs]
    rw [own]
    cases hb : s.blocking with
    | none => simpa [learnActs, hb] using Does.refl log txn
    | some b =>
      simp only [learnActs, hb, Option.isSome_some, if_true]
      exact does_withState (by simp [own, TxnState.act, blockingD, hb])

theorem coordinate_learn (log : ShardLog) (txn : TxnId) (known : Known) :
    ((log.learn txn known).get? txn).bind (·.coordinate) = (log.stateD txn).coordinate := by
  rw [← coordinate_learnActs _ known, ← (log.does_learn txn known).own]
  unfold stateD
  cases (log.learn txn known).get? txn <;> rfl

/-- A block is refused if it names no key, and else recorded. -/
theorem block_cases (log : ShardLog) (txn : TxnId) (required : Known) (keys : Footprint) :
    (keys.isEmpty = true ∧ log.block txn required keys = (log, .error (.emptyKeySet txn))) ∨
      (keys.isEmpty = false ∧ ∃ log', log.block txn required keys = (log', .ok ()) ∧
        log.Does txn [.block required keys] log') := by
  unfold block
  cases hk : keys.isEmpty with
  | true => exact .inl ⟨rfl, rfl⟩
  | false =>
    have ok : ((log.stateD txn).blockingD.block required keys).2 = .ok () := by
      obtain ⟨h, -⟩ | ⟨-, -, e⟩ | ⟨-, -, e⟩ :=
        (log.stateD txn).blockingD.block_cases required keys
      · rw [hk] at h
        cases h
      · rw [e]
      · rw [e]
    refine .inr ⟨rfl, _, ?_, does_withState rfl⟩
    rw [← ok]
    rfl

theorem does_block (log : ShardLog) (txn : TxnId) (required : Known) (keys : Footprint) :
    log.Does txn (blockActs required keys) (log.block txn required keys).1 := by
  obtain ⟨hk, e⟩ | ⟨hk, log', e, blocked⟩ := log.block_cases txn required keys
  · simpa [e, blockActs, hk] using Does.refl log txn
  · simpa [e, blockActs, hk] using blocked

theorem does_movedOn (log : ShardLog) (cmd : Command) (role : Role) (status : CoordinateStatus) :
    log.Does cmd.txn ((log.stateD cmd.txn).moveActs cmd role status)
      (log.movedOn cmd role status status.entered).1 := by
  unfold movedOn moveActs
  split
  · exact .refl _ _
  · have learned : log.Does cmd.txn
        (if .committed ≤ status then (log.stateD cmd.txn).learnActs .committed else [])
        (if .committed ≤ status then log.learn cmd.txn .committed else log) := by
      split
      · exact log.does_learn cmd.txn .committed
      · exact .refl _ _
    refine learned.append (does_withState ?_)
    unfold followActs
    split <;> rfl

theorem does_invalidated (log : ShardLog) (topology : Topology) (cmd : Command) (role : Role) :
    log.Does cmd.txn (log.actsOf topology role (.invalidated cmd))
      (log.invalidated cmd role).1 := by
  have learned := log.does_learn cmd.txn .invalidated
  unfold invalidated actsOf
  simp only [coordinate_learn]
  cases hr : !role.isHome && (log.stateD cmd.txn).coordinate.isSome with
  | true => simpa using learned
  | false =>
    cases hp : !role.isProgress with
    | true => simpa using learned
    | false =>
      refine learned.append (does_withState ?_)
      unfold followActs
      cases role.isHome <;> rfl

theorem does_announce (log : ShardLog) (topology : Topology) (cmd : Command)
    (persistedOn : Option (SortedSet NodeId)) :
    log.Does cmd.txn (announceActs topology .home cmd persistedOn)
      (log.withState cmd.txn (((log.stateD cmd.txn).withCoordinate
        (log.stateD cmd.txn).coordinateD.durableGlobally).withDisseminate
          ((log.stateD cmd.txn).disseminateD.durableGlobally cmd topology persistedOn))) :=
  does_withState rfl

/-- Global durability is refused where the outcome has to be learned and there is no key to learn it
by. Otherwise the outcome is waited for if need be, and the home shard goes on to announce it. -/
theorem durableGlobally_cases (log : ShardLog) (topology : Topology) (cmd : Command)
    (persistedOn : Option (SortedSet NodeId)) (role : Role) :
    (cmd.hasBeen .preApplied = false ∧ (log.outcomeKeys cmd).isEmpty = true ∧
        log.durableGlobally topology cmd persistedOn role =
          (log, .error (.emptyKeySet cmd.txn))) ∨
      ∃ log', (log' = log ∨ log' = (log.block cmd.txn .preApplied (log.outcomeKeys cmd)).1) ∧
        log.durableGlobally topology cmd persistedOn role =
          (if role.isHome then
            log'.withState cmd.txn (((log'.stateD cmd.txn).withCoordinate
              (log'.stateD cmd.txn).coordinateD.durableGlobally).withDisseminate
                ((log'.stateD cmd.txn).disseminateD.durableGlobally cmd topology persistedOn))
          else log', .ok ()) := by
  unfold durableGlobally
  cases ha : cmd.hasBeen .preApplied with
  | true =>
    refine .inr ⟨log, .inl rfl, ?_⟩
    cases role <;> rfl
  | false =>
    obtain ⟨hk, e⟩ | ⟨-, log', e, -⟩ := log.block_cases cmd.txn .preApplied (log.outcomeKeys cmd)
    · exact .inl ⟨rfl, hk, by simp [e]⟩
    · refine .inr ⟨log', .inr (congrArg Prod.fst e.symm), ?_⟩
      simp only [e, Bool.false_eq_true, if_false]
      cases role <;> rfl

theorem does_durableGlobally (log : ShardLog) (topology : Topology) (cmd : Command)
    (persistedOn : Option (SortedSet NodeId)) (role : Role) :
    log.Does cmd.txn (log.actsOf topology role (.durableGlobally cmd persistedOn))
      (log.durableGlobally topology cmd persistedOn role).1 := by
  simp only [durableGlobally, actsOf]
  cases ha : cmd.hasBeen .preApplied with
  | true =>
    cases role with
    | home => exact log.does_announce topology cmd persistedOn
    | nonHome | indeterminate => exact .refl _ _
  | false =>
    obtain ⟨hk, e⟩ | ⟨hk, log', e, blocked⟩ :=
      log.block_cases cmd.txn .preApplied (log.outcomeKeys cmd)
    · simpa [e, hk] using Does.refl log cmd.txn
    · simp only [e, hk]
      cases role with
      | home => exact blocked.append (log'.does_announce topology cmd persistedOn)
      | nonHome | indeterminate => exact blocked

/-- An event does its acts to its own transaction and nothing to any other. -/
theorem does_record (log : ShardLog) (topology : Topology) (role : Role) (event : Event) :
    log.Does event.txn (log.actsOf topology role event) (log.record topology role event).1 := by
  cases event with
  | witnessed txn homeKey =>
    cases role with
    | home => exact does_withState rfl
    | nonHome | indeterminate => exact .refl _ _
  | preAccepted cmd =>
    cases role with
    | home | nonHome => exact does_withState rfl
    | indeterminate => exact .refl _ _
  | accepted cmd => exact log.does_movedOn cmd role .uncommitted
  | committed cmd => exact log.does_movedOn cmd role .committed
  | readyToExecute cmd => exact log.does_movedOn cmd role .readyToExecute
  | executed cmd =>
    have learned := log.does_learn cmd.txn .preApplied
    have moved := (log.learn cmd.txn .preApplied).does_movedOn cmd role .readyToExecute
    rw [learned.own, moveActs_learnActs] at moved
    exact learned.append moved
  | invalidated cmd => exact log.does_invalidated topology cmd role
  | durableLocally txn =>
    cases role with
    | home => exact does_withState rfl
    | nonHome | indeterminate => exact .refl _ _
  | durableGlobally cmd persistedOn => exact log.does_durableGlobally topology cmd persistedOn role
  | durableElsewhere txn keys => exact log.does_block txn .preApplied keys
  | waitingOn txn required keys => exact log.does_block txn required keys

/-- Events do such acts only as are recordable. -/
theorem allRecordable_actsOf (log : ShardLog) (topology : Topology) (role : Role) (event : Event) :
    (log.stateD event.txn).AllRecordable (log.actsOf topology role event) := by
  cases event with
  | witnessed txn homeKey =>
    cases role with
    | home => exact ⟨trivial, rfl, trivial⟩
    | nonHome | indeterminate => trivial
  | preAccepted cmd =>
    cases role with
    | home | nonHome => exact ⟨trivial, allRecordable_followActs _ cmd _ .uncommitted (.inl rfl)⟩
    | indeterminate => trivial
  | accepted cmd => exact allRecordable_moveActs _ cmd role .uncommitted
  | committed cmd => exact allRecordable_moveActs _ cmd role .committed
  | readyToExecute cmd => exact allRecordable_moveActs _ cmd role .readyToExecute
  | executed cmd =>
    refine (allRecordable_learnActs _ .preApplied).append ?_
    rw [← moveActs_learnActs _ .preApplied]
    exact allRecordable_moveActs _ cmd role .readyToExecute
  | invalidated cmd =>
    refine (allRecordable_learnActs _ .invalidated).append ?_
    split
    · trivial
    · exact allRecordable_followActs _ cmd role .done (.inr rfl)
  | durableLocally txn =>
    cases role with
    | home => exact ⟨trivial, trivial⟩
    | nonHome | indeterminate => trivial
  | durableGlobally cmd persistedOn =>
    have announced (s : TxnState) :
        s.AllRecordable (announceActs topology role cmd persistedOn) := by
      cases role with
      | home => exact ⟨trivial, trivial, trivial⟩
      | nonHome | indeterminate => trivial
    simp only [actsOf]
    split
    · exact announced _
    · split
      · trivial
      · exact ⟨Bool.of_not_eq_true ‹_›, announced _⟩
  | durableElsewhere txn keys => exact allRecordable_blockActs _ .preApplied keys
  | waitingOn txn required keys => exact allRecordable_blockActs _ required keys

end ShardLog

end TxnLiveness
