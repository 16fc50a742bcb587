import TxnLiveness.Proofs.Shard.Confined
import TxnLiveness.Proofs.Shard.Tracker
/-!
# Which events create which trackers

Trackers are created on first use, and only events use one that is not there. The home shard is
given a coordinate or a disseminate tracker and any other shard a delegation tracker, while
something may be blocked on a transaction anywhere. So the trackers of a transaction tell what has
been recorded of it.
-/

namespace TxnLiveness

/-- Whether a shard in this role follows a transaction by a tracker of this kind. -/
def Role.follows (role : Role) : TrackerKind → Bool
  | .coordinate => role.isHome
  | .delegation => !role.isHome
  | _ => false

/-- Whether an event has its transaction waited for. -/
def Event.blocks : Event → Bool
  | .durableElsewhere .. | .waitingOn .. => true
  | .durableGlobally cmd _ => !cmd.hasBeen .preApplied
  | _ => false

/-- Whether an event, once accepted of a shard in this role, leaves a tracker of this kind. -/
def Event.creates (role : Role) : Event → TrackerKind → Bool
  | event, .blocking => event.blocks
  | .durableLocally _, .coordinate | .durableElsewhere .., .coordinate
  | .waitingOn .., .coordinate => false
  | _, .coordinate => role.isHome
  | .durableLocally _, .disseminate | .durableGlobally .., .disseminate => role.isHome
  | _, .disseminate => false
  | .preAccepted _, .delegation | .accepted _, .delegation | .committed _, .delegation
  | .readyToExecute _, .delegation | .executed _, .delegation | .invalidated _, .delegation =>
    role.isProgress && !role.isHome
  | _, .delegation => false

namespace Event

variable {role : Role} {event : Event} {kind : TrackerKind}

@[simp] theorem creates_blocking (role : Role) (event : Event) :
    event.creates role .blocking = event.blocks := by cases event <;> rfl

theorem home_of_creates (hk : kind = .coordinate ∨ kind = .disseminate)
    (h : event.creates role kind = true) : role = .home := by
  obtain rfl | rfl := hk <;> cases role <;> cases event <;> first | rfl | cases h

theorem nonHome_of_creates (h : event.creates role .delegation = true) : role = .nonHome := by
  cases role <;> cases event <;> first | rfl | cases h

end Event

namespace TxnState

/-- Whether there is a tracker of a kind. -/
def tracks (s : TxnState) : TrackerKind → Bool
  | .blocking => s.blocking.isSome
  | .coordinate => s.coordinate.isSome
  | .disseminate => s.disseminate.isSome
  | .delegation => s.delegation.isSome

/-- Whether an act leaves a tracker of a kind, be there one before or not. -/
def Act.creates : Act → TrackerKind → Bool
  | .reach .., .coordinate | .reachFor .., .coordinate | .observe _, .coordinate
  | .stopCoordinating, .coordinate | .durableGlobally .., .disseminate
  | .durableLocally _, .disseminate | .block .., .blocking | .learn _, .blocking
  | .delegate _, .delegation => true
  | _, _ => false

/-- A tracker is there after an act exactly if it was there before or the act creates it. -/
theorem tracks_act (s : TxnState) (a : Act) (kind : TrackerKind) :
    (s.act a).tracks kind = (s.tracks kind || a.creates kind) := by
  cases a with
  | audit cmd topology =>
    by_cases own : cmd.txn = s.txn
    · rw [act, audit_eq own]
      cases kind <;> simp [tracks, Act.creates]
    · rw [act, audit_wrong own]
      cases kind <;> simp [Act.creates]
  | complete tag completion =>
    rw [act, complete_eq]
    cases tag.tracker <;> cases kind <;> simp [tracks, Act.creates]
  | _ =>
    cases kind <;> simp [act, tracks, Act.creates, rememberHome, withCoordinate, withDisseminate,
      withBlocking, withDelegation]

/-- No act drops a tracker. -/
theorem tracks_stays (s : TxnState) (a : Act) (kind : TrackerKind) (h : s.tracks kind = true) :
    (s.act a).tracks kind = true := by
  rw [tracks_act, h]
  rfl

theorem tracks_acts (s : TxnState) (acts : List Act) (kind : TrackerKind) :
    (acts.foldl act s).tracks kind = (s.tracks kind || acts.any (·.creates kind)) := by
  induction acts generalizing s with
  | nil => simp
  | cons a acts ih => rw [List.foldl_cons, ih, tracks_act, List.any_cons, Bool.or_assoc]

/-- Knowledge is handed to a blocking tracker only where there is one. -/
theorem tracks_learnActs (s : TxnState) (known : Known) (more : List Act) (kind : TrackerKind) :
    (s.tracks kind || (s.learnActs known ++ more).any (·.creates kind)) =
      (s.tracks kind || more.any (·.creates kind)) := by
  unfold learnActs
  split
  · cases kind <;> simp_all [tracks, Act.creates]
  · rfl

theorem tracks_moveActs (s : TxnState) (cmd : Command) (role : Role) (status : CoordinateStatus)
    (kind : TrackerKind) :
    (s.tracks kind || (s.moveActs cmd role status).any (·.creates kind)) =
      (s.tracks kind || role.isProgress && role.follows kind) := by
  have followed : (Act.rememberHome cmd.homeKey :: followActs cmd role status .safe).any
      (·.creates kind) = role.follows kind := by
    cases role <;> cases kind <;> rfl
  unfold moveActs
  cases role.isProgress with
  | false => simp
  | true =>
    simp only [Bool.not_true, Bool.false_eq_true, if_false, Bool.true_and, ← followed]
    split
    · exact s.tracks_learnActs .committed _ kind
    · rfl

end TxnState

namespace ShardLog

open TxnState

variable {log : ShardLog} {txn : TxnId} {kind : TrackerKind}

/-! ## One event -/

theorem isOk_block (log : ShardLog) (txn : TxnId) (required : Known) (keys : Footprint) :
    (log.block txn required keys).2.isOk = !keys.isEmpty := by
  obtain ⟨hk, e⟩ | ⟨hk, log', e, -⟩ := log.block_cases txn required keys <;> rw [e, hk] <;> rfl

theorem isOk_movedOn (log : ShardLog) (cmd : Command) (role : Role) (status : CoordinateStatus)
    (progress : Progress) : (log.movedOn cmd role status progress).2.isOk = role.isProgress := by
  unfold movedOn
  cases role <;> rfl

theorem isOk_invalidated (log : ShardLog) (cmd : Command) (role : Role) :
    (log.invalidated cmd role).2.isOk =
      (role.isHome || !(log.stateD cmd.txn).tracks .coordinate) := by
  simp only [invalidated, coordinate_learn, tracks]
  cases (log.stateD cmd.txn).coordinate <;> cases role <;> rfl

theorem isOk_durableGlobally (log : ShardLog) (topology : Topology) (cmd : Command)
    (persistedOn : Option (SortedSet NodeId)) (role : Role) :
    (log.durableGlobally topology cmd persistedOn role).2.isOk =
      (cmd.hasBeen .preApplied || !(log.outcomeKeys cmd).isEmpty) := by
  simp only [durableGlobally]
  cases cmd.hasBeen .preApplied with
  | true => cases role <;> rfl
  | false =>
    obtain ⟨hk, e⟩ | ⟨hk, log', e, -⟩ :=
      log.block_cases cmd.txn .preApplied (log.outcomeKeys cmd)
    · simp only [e, hk]
      rfl
    · simp only [e, hk]
      cases role <;> rfl

/-- A transaction has a tracker after an event exactly if it had it before or the event is accepted
and creates it. -/
theorem tracks_record (log : ShardLog) (topology : Topology) (role : Role) (event : Event)
    (kind : TrackerKind) :
    ((log.record topology role event).1.stateD event.txn).tracks kind =
      ((log.stateD event.txn).tracks kind ||
        (log.record topology role event).2.isOk && event.creates role kind) := by
  rw [(log.does_record topology role event).own, tracks_acts]
  cases event with
  | witnessed txn homeKey | durableLocally txn => cases role <;> cases kind <;> rfl
  | preAccepted cmd => cases role <;> cases kind <;> rfl
  | accepted cmd | committed cmd | readyToExecute cmd =>
    refine (tracks_moveActs _ cmd role _ kind).trans ?_
    simp only [record, accepted, committed, readyToExecute, isOk_movedOn]
    cases role <;> cases kind <;> rfl
  | executed cmd =>
    refine (tracks_learnActs _ .preApplied _ kind).trans
      ((tracks_moveActs _ cmd role _ kind).trans ?_)
    simp only [record, executed, isOk_movedOn]
    cases role <;> cases kind <;> rfl
  | invalidated cmd =>
    refine (tracks_learnActs _ .invalidated _ kind).trans ?_
    simp only [record, isOk_invalidated, tracks]
    cases (log.stateD cmd.txn).coordinate <;> cases role <;> cases kind <;> rfl
  | durableGlobally cmd persistedOn =>
    simp only [actsOf, record, isOk_durableGlobally, Event.txn]
    cases applied : cmd.hasBeen .preApplied <;> cases (log.outcomeKeys cmd).isEmpty <;>
      cases role <;> cases kind <;>
      simp [announceActs, Act.creates, Event.creates, Event.blocks, Role.isHome, applied]
  | durableElsewhere txn keys | waitingOn txn required keys =>
    simp only [actsOf, record, isOk_block, blockActs]
    cases keys.isEmpty <;> cases kind <;> rfl

/-! ## Tracked transactions -/

theorem isSome_of_tracks (h : (log.stateD txn).tracks kind = true) :
    (log.get? txn).isSome = true := by
  cases hs : log.get? txn with
  | some s => rfl
  | none =>
    rw [stateD_of_get?_none hs] at h
    cases kind <;> cases h

/-- Every tracked transaction has a tracker. -/
def Furnished (log : ShardLog) : Prop :=
  ∀ txn s, log.get? txn = some s → ∃ kind, s.tracks kind = true

theorem Furnished.withState {s : TxnState} (h : log.Furnished) (kind : TrackerKind)
    (hs : s.tracks kind = true) :
    (log.withState txn s).Furnished := by
  intro x t hx
  rw [get?_withState] at hx
  split at hx
  · cases hx
    exact ⟨kind, hs⟩
  · exact h x t hx

theorem Furnished.learn (h : log.Furnished) (txn : TxnId) (known : Known) :
    (log.learn txn known).Furnished := by
  unfold ShardLog.learn
  split
  · split
    · exact h.withState .blocking rfl
    · exact h
  · exact h

theorem Furnished.block (h : log.Furnished) (txn : TxnId) (required : Known) (keys : Footprint) :
    (log.block txn required keys).1.Furnished := by
  unfold ShardLog.block
  split
  · exact h
  · exact h.withState .blocking rfl

theorem Furnished.movedOn (h : log.Furnished) (cmd : Command) (role : Role)
    (status : CoordinateStatus) (progress : Progress) :
    (log.movedOn cmd role status progress).1.Furnished := by
  unfold ShardLog.movedOn
  split
  · exact h
  · have learned :
        (if .committed ≤ status then log.learn cmd.txn .committed else log).Furnished := by
      split
      · exact h.learn _ _
      · exact h
    cases role with
    | home => exact learned.withState .coordinate rfl
    | nonHome | indeterminate => exact learned.withState .delegation rfl

theorem Furnished.invalidated (h : log.Furnished) (cmd : Command) (role : Role) :
    (log.invalidated cmd role).1.Furnished := by
  have learned := h.learn cmd.txn .invalidated
  unfold ShardLog.invalidated
  dsimp only
  split
  · exact learned
  · split
    · exact learned
    · cases role with
      | home => exact learned.withState .coordinate rfl
      | nonHome | indeterminate => exact learned.withState .delegation rfl

theorem Furnished.durableGlobally (h : log.Furnished) (topology : Topology) (cmd : Command)
    (persistedOn : Option (SortedSet NodeId)) (role : Role) :
    (log.durableGlobally topology cmd persistedOn role).1.Furnished := by
  obtain ⟨-, -, e⟩ | ⟨log', hlog', e⟩ := log.durableGlobally_cases topology cmd persistedOn role <;>
    rw [e]
  · exact h
  · have blocked : log'.Furnished := by
      obtain rfl | rfl := hlog'
      · exact h
      · exact h.block _ _ _
    cases role with
    | home => exact blocked.withState .disseminate rfl
    | nonHome | indeterminate => exact blocked

theorem Furnished.record (h : log.Furnished) (topology : Topology) (role : Role) (event : Event) :
    (log.record topology role event).1.Furnished := by
  cases event with
  | witnessed txn homeKey =>
    cases role with
    | home => exact h.withState .coordinate rfl
    | nonHome | indeterminate => exact h
  | preAccepted cmd =>
    cases role with
    | home => exact h.withState .coordinate rfl
    | nonHome => exact h.withState .delegation rfl
    | indeterminate => exact h
  | accepted cmd => exact h.movedOn cmd role _ _
  | committed cmd => exact h.movedOn cmd role _ _
  | readyToExecute cmd => exact h.movedOn cmd role _ _
  | executed cmd => exact (h.learn cmd.txn .preApplied).movedOn cmd role _ _
  | invalidated cmd => exact h.invalidated cmd role
  | durableLocally txn =>
    cases role with
    | home => exact h.withState .disseminate rfl
    | nonHome | indeterminate => exact h
  | durableGlobally cmd persistedOn => exact h.durableGlobally topology cmd persistedOn role
  | durableElsewhere txn keys => exact h.block txn .preApplied keys
  | waitingOn txn required keys => exact h.block txn required keys

/-- Audits and completions look only at states that are there already. -/
theorem Furnished.act (h : log.Furnished) (a : Act) : (log.act a).Furnished := by
  cases a with
  | record topology role event => exact h.record topology role event
  | audit topology cmd =>
    simp only [ShardLog.act, ShardLog.audit]
    split
    · exact h
    · rename_i s hs
      obtain ⟨kind, hk⟩ := h _ s hs
      exact h.withState kind (s.tracks_stays (.audit cmd topology) kind hk)
  | complete txn tag completion =>
    simp only [ShardLog.act, ShardLog.complete]
    split
    · exact h
    · rename_i s hs
      obtain ⟨kind, hk⟩ := h _ s hs
      exact h.withState kind (s.tracks_stays (.complete tag completion) kind hk)

/-! ## Whole runs -/

section Runs

variable (shard : ShardId) (node : NodeId) (txn : TxnId)

/-- In a run of a log an event of the transaction was accepted that satisfies `p`. -/
def Told (p : Role → Event → Prop) (run : List Act) : Prop :=
  ∃ topology role event older, .record topology role event :: older <:+ run ∧ event.txn = txn ∧
    p role event ∧ (((machine shard node).after older).record topology role event).2.isOk = true

variable {shard node txn} {p q : Role → Event → Prop} {run past : List Act} {a : Act}

theorem Told.mono (h : Told shard node txn p run)
    (imp : ∀ role event, p role event → q role event) : Told shard node txn q run := by
  obtain ⟨topology, role, event, older, ho, own, hp, ok⟩ := h
  exact ⟨topology, role, event, older, ho, own, imp role event hp, ok⟩

/-- What was told by the end of a run is told by its last act or was told before. -/
theorem told_cons : Told shard node txn p (a :: past) ↔
    (∃ topology role event, a = .record topology role event ∧ event.txn = txn ∧ p role event ∧
      (((machine shard node).after past).record topology role event).2.isOk = true) ∨
    Told shard node txn p past := by
  constructor
  · rintro ⟨topology, role, event, older, ho, told⟩
    obtain e | ho := List.suffix_cons_iff.1 ho
    · obtain ⟨rfl, rfl⟩ := List.cons.inj e
      exact .inl ⟨topology, role, event, rfl, told⟩
    · exact .inr ⟨topology, role, event, older, ho, told⟩
  · rintro (⟨topology, role, event, rfl, told⟩ | ⟨topology, role, event, older, ho, told⟩)
    · exact ⟨topology, role, event, past, List.suffix_rfl, told⟩
    · exact ⟨topology, role, event, older, ho.trans (List.suffix_cons a past), told⟩

theorem told_cons_record {topology : Topology} {role : Role} {event : Event} :
    Told shard node txn p (.record topology role event :: past) ↔
      (event.txn = txn ∧ p role event ∧
        (((machine shard node).after past).record topology role event).2.isOk = true) ∨
      Told shard node txn p past := by
  rw [told_cons]
  grind

/-- A tracker is there exactly if an event was accepted that creates it. -/
theorem tracks_after (shard : ShardId) (node : NodeId) (txn : TxnId) (kind : TrackerKind)
    (run : List Act) : (((machine shard node).after run).stateD txn).tracks kind = true ↔
      Told shard node txn (fun role event => event.creates role kind = true) run := by
  induction run with
  | nil =>
    have untracked : (({ txn } : TxnState).tracks kind) = false := by cases kind <;> rfl
    have untold : ¬ Told shard node txn (fun role event => event.creates role kind = true) [] := by
      rintro ⟨_, _, _, _, ho, -⟩
      cases List.suffix_nil.1 ho
    simpa [machine, stateD, get?, untracked] using untold
  | cons a past ih =>
    rw [Machine.after_cons, machine_step]
    cases a with
    | record topology role event =>
      rw [told_cons_record, ← ih, act]
      by_cases own : event.txn = txn
      · subst own
        rw [tracks_record, Bool.or_eq_true, Bool.and_eq_true]
        grind
      · rw [does_record _ topology role event txn, if_neg (Ne.symm own)]
        simp [own]
    | audit topology cmd =>
      rw [told_cons, ← ih, act, does_audit _ topology cmd txn]
      split <;> simp [TxnState.tracks_act, TxnState.Act.creates]
    | complete x tag completion =>
      rw [told_cons, ← ih, act, does_complete _ x tag completion txn]
      split <;> simp [TxnState.tracks_act, TxnState.Act.creates]

theorem furnished_after (shard : ShardId) (node : NodeId) (run : List Act) :
    ((machine shard node).after run).Furnished := by
  induction run with
  | nil => exact fun txn s h => nomatch h
  | cons a past ih => exact ih.act a

/-- What has been recorded of a transaction, as its trackers tell it. -/
structure Separated (shard : ShardId) (node : NodeId) (txn : TxnId) (run : List Act)
    (log : ShardLog) : Prop where
  coordinate : (log.stateD txn).tracks .coordinate = true →
    Told shard node txn (fun role _ => role = .home) run
  disseminate : (log.stateD txn).tracks .disseminate = true →
    Told shard node txn (fun role _ => role = .home) run
  delegation : (log.stateD txn).tracks .delegation = true →
    Told shard node txn (fun role _ => role = .nonHome) run
  blocking : (log.stateD txn).tracks .blocking = true ↔
    Told shard node txn (fun _ event => event.blocks = true) run
  tracked : ∀ s, log.get? txn = some s → ∃ kind, s.tracks kind = true
  /-- Shards other than the home shard refuse an invalidation only if they were the home shard. -/
  invalidated : ∀ cmd role, cmd.txn = txn → role ≠ .home →
    (log.invalidated cmd role).2.isOk = false → Told shard node txn (fun role _ => role = .home) run

theorem trackers_follow_roles (shard : ShardId) (node : NodeId) (txn : TxnId) (run : List Act) :
    Separated shard node txn run ((machine shard node).after run) := by
  have coordinate : (((machine shard node).after run).stateD txn).tracks .coordinate = true →
      Told shard node txn (fun role _ => role = .home) run :=
    fun tracked => ((tracks_after shard node txn .coordinate run).1 tracked).mono
      fun _ _ => Event.home_of_creates (.inl rfl)
  constructor
  case coordinate => exact coordinate
  case disseminate =>
    exact fun tracked => ((tracks_after shard node txn .disseminate run).1 tracked).mono
      fun _ _ => Event.home_of_creates (.inr rfl)
  case delegation =>
    exact fun tracked => ((tracks_after shard node txn .delegation run).1 tracked).mono
      fun _ _ => Event.nonHome_of_creates
  case blocking =>
    rw [tracks_after]
    simp only [Event.creates_blocking]
  case tracked => exact furnished_after shard node run txn
  case invalidated =>
    rintro cmd role rfl away refused
    rw [isOk_invalidated] at refused
    refine coordinate ?_
    cases role with
    | home => exact absurd rfl away
    | nonHome | indeterminate => simpa [Role.isHome] using refused

end Runs

end ShardLog

end TxnLiveness
