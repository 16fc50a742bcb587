import TxnLiveness.Proofs.Shard.Final
/-!
# When another shard is safe

A shard that sees a transaction move on takes its home shard to be aware of it and has nothing left
to tell it. What is under way just then is not called off, as to investigate and to be safe are
statuses of one level: the shard waits for the answer, and tells the home shard again only where
that attempt has failed.
-/

namespace TxnLiveness

/-- Whether an event says that the transaction moved on. -/
def Event.movesOn : Event → Bool
  | .accepted _ | .committed _ | .readyToExecute _ | .executed _ | .invalidated _ => true
  | _ => false

theorem Delegation.status_raise_safe {d : Delegation} (h : d.status ≠ .investigating) :
    (d.raise .safe).status = .safe := by
  obtain ⟨status, generation⟩ := d
  cases status with
  | investigating => exact absurd rfl h
  | atRisk | stillAtRisk | safe => rfl

/-! ## One state -/

namespace TxnState

variable {s t : TxnState} {d : Delegation}

theorem delegationD_of_settled (h : s.delegation = some d) (hs : d.Settled)
    (status : DelegationStatus) : s.delegationD status = d := by
  simp [delegationD, h, Delegation.raise_of_settled hs]

/-- A shard is safe once it is told so, unless it is just investigating. -/
theorem status_delegationD_safe (h : s.delegation.map (·.status) ≠ some .investigating) :
    (s.delegationD .safe).status = .safe := by
  unfold delegationD
  cases hd : s.delegation with
  | none => rfl
  | some d =>
    rw [hd] at h
    exact Delegation.status_raise_safe fun hs => h (congrArg some hs)

theorem delegationD_congr (h : s.delegation = t.delegation) (status : DelegationStatus) :
    s.delegationD status = t.delegationD status := by rw [delegationD, h, delegationD]

/-- Nothing but its answer ends an attempt to inform the home shard. -/
theorem delegation_of_unanswered {generation : Nat}
    (h : s.delegation = some ⟨.investigating, generation⟩) (a : Act)
    (unanswered : ∀ result, a ≠ .complete ⟨.delegation, generation⟩ (.informedHome result)) :
    (s.act a).delegation = some ⟨.investigating, generation⟩ := by
  have settled : Delegation.Settled ⟨.investigating, generation⟩ := .inr rfl
  rw [delegation_act]
  cases a with
  | delegate status => exact congrArg some (delegationD_of_settled h settled status)
  | audit cmd topology => simp [h, Delegation.audit_of_settled settled]
  | complete tag completion =>
    obtain ⟨kind, generation'⟩ := tag
    cases completion with
    | informedHome result =>
      by_cases hk : kind = .delegation
      · have hg : generation ≠ generation' := fun hg => unanswered result (by rw [hk, hg])
        simp [h, Delegation.handed, Delegation.informed, hg]
      · simp [h, hk]
    | _ => simp [h, Delegation.handed]
  | _ => exact h

/-- The home shard is informed of nothing but what has been at risk for a while. -/
theorem stillAtRisk_of_informs {a : Act} {sent : Dispatch} (hd : sent ∈ s.dispatched a) {key : Key}
    (hr : sent.remediation = .informHome key) :
    ∃ d, s.delegation = some d ∧ d.status = .stillAtRisk := by
  have fits := fits_of_mem_dispatched hd
  rw [hr, Remediation.fits_informHome] at fits
  cases a with
  | audit cmd topology =>
    by_cases own : cmd.txn = s.txn
    · have planned : sent ∈ (s.dispatched (.audit cmd topology)).filter
          (·.tag.tracker = .delegation) := List.mem_filter.2 ⟨hd, by simpa using fits⟩
      rw [filter_dispatched_audit topology own, plan] at planned
      cases hs : s.delegation with
      | none =>
        rw [hs] at planned
        cases planned
      | some d =>
        rw [hs, Option.elim_some] at planned
        rcases d.audit_cases s.txn cmd s.homeKey with
          ⟨-, e⟩ | ⟨-, e⟩ | ⟨-, -, e⟩ | ⟨still, _, -, e⟩ <;> rw [e] at planned
        · cases planned
        · cases planned
        · cases planned
        · exact ⟨d, rfl, still⟩
    · rw [dispatched, audit_wrong own] at hd
      cases hd
  | complete tag completion =>
    obtain ⟨_, hk, -⟩ := s.fetched_of_followup hd
    rw [(followups_sound hd).1, hk] at fits
    cases fits
  | _ => cases hd

end TxnState

/-! ## One log -/

namespace ShardLog

theorem delegation_learn (log : ShardLog) (txn : TxnId) (known : Known) :
    ((log.learn txn known).stateD txn).delegation = (log.stateD txn).delegation := by
  rw [(log.does_learn txn known).own]
  unfold TxnState.learnActs
  split <;> rfl

theorem delegation_movedOn (log : ShardLog) (cmd : Command) (status : CoordinateStatus)
    (progress : Progress) :
    ((log.movedOn cmd .nonHome status progress).1.stateD cmd.txn).delegation =
      some ((log.stateD cmd.txn).delegationD .safe) := by
  have learned : ((if .committed ≤ status then log.learn cmd.txn .committed else log).stateD
      cmd.txn).delegation = (log.stateD cmd.txn).delegation := by
    split
    · exact log.delegation_learn cmd.txn .committed
    · rfl
  rw [movedOn, if_neg (by decide)]
  dsimp only
  rw [stateD_withState, if_pos rfl]
  exact congrArg some (TxnState.delegationD_congr learned .safe)

/-- An event by which the transaction moves on tells a shard that it is safe. -/
theorem delegation_of_movesOn (log : ShardLog) (topology : Topology) {event : Event}
    (moved : event.movesOn = true) (accepted : (log.record topology .nonHome event).2 = .ok ()) :
    ((log.record topology .nonHome event).1.stateD event.txn).delegation =
      some ((log.stateD event.txn).delegationD .safe) := by
  cases event with
  | accepted cmd => exact log.delegation_movedOn cmd _ _
  | committed cmd => exact log.delegation_movedOn cmd _ _
  | readyToExecute cmd => exact log.delegation_movedOn cmd _ _
  | executed cmd =>
    have learned := log.delegation_learn cmd.txn .preApplied
    have moved := (log.learn cmd.txn .preApplied).delegation_movedOn cmd .readyToExecute .expected
    rw [TxnState.delegationD_congr learned] at moved
    exact moved
  | invalidated cmd =>
    have learned := log.delegation_learn cmd.txn .invalidated
    simp only [record, invalidated] at accepted ⊢
    split at accepted
    · cases accepted
    · rename_i hc
      rw [if_neg hc, if_neg (by decide)]
      dsimp only [Event.txn]
      rw [stateD_withState, if_pos rfl]
      exact congrArg some (TxnState.delegationD_congr learned .safe)
  | _ => cases moved

/-- The answer that an act brings to an attempt to inform the home shard. -/
def Act.answer? (txn : TxnId) (generation : Nat) : Act → Option (Except RemoteFault Unit)
  | .complete x tag (.informedHome result) =>
    if x = txn ∧ tag = ⟨.delegation, generation⟩ then some result else none
  | _ => none

/-- The first answer that acts bring to an attempt to inform the home shard. -/
def firstAnswer (txn : TxnId) (generation : Nat) : List Act → Option (Except RemoteFault Unit)
  | [] => none
  | a :: acts => (firstAnswer txn generation acts).or (a.answer? txn generation)

variable {txn : TxnId} {generation : Nat}

theorem answer?_eq_some {a : Act} {result : Except RemoteFault Unit} :
    a.answer? txn generation = some result ↔
      a = .complete txn ⟨.delegation, generation⟩ (.informedHome result) := by
  constructor
  · intro h
    unfold Act.answer? at h
    split at h
    · split at h
      · rename_i own
        obtain ⟨rfl, rfl⟩ := own
        cases h
        rfl
      · cases h
    · cases h
  · rintro rfl
    simp [Act.answer?]

/-- An answer that came stays the first one. -/
theorem firstAnswer_of_suffix {older acts : List Act} {result : Except RemoteFault Unit}
    (h : older <:+ acts) (answered : firstAnswer txn generation older = some result) :
    firstAnswer txn generation acts = some result := by
  obtain ⟨newer, rfl⟩ := h
  induction newer with
  | nil => exact answered
  | cons a newer ih => rw [List.cons_append, firstAnswer, ih, Option.some_or]

/-! ## Runs -/

section Runs

variable (shard : ShardId) (node : NodeId)

/-- The delegation tracker of a transaction after a run. -/
def delegationAfter (txn : TxnId) (run : List Act) : Option Delegation :=
  (((machine shard node).after run).stateD txn).delegation

/-- Whether acts done after a run inform the home shard of a transaction. -/
def Informs (txn : TxnId) (run acts : List Act) : Prop :=
  ∃ a older d key, a :: older <:+ acts ∧
    d ∈ ((machine shard node).after (older ++ run)).dispatched a ∧ d.txn = txn ∧
    d.remediation = .informHome key

variable {shard node} {run acts : List Act}

theorem delegation_cons_unanswered (a : Act)
    (h : delegationAfter shard node txn run = some ⟨.investigating, generation⟩)
    (unanswered : a.answer? txn generation = none) :
    delegationAfter shard node txn (a :: run) = some ⟨.investigating, generation⟩ := by
  have turned := turn_after shard node run a txn
  unfold delegationAfter at h ⊢
  generalize ((machine shard node).after (a :: run)).stateD txn = s' at turned ⊢
  generalize (((machine shard node).after run).dispatched a).filter (·.txn = txn) = ds at turned
  cases turned with
  | other => exact h
  | recorded topology role event acts recordable =>
    refine recordable.keeps (P := (·.delegation = some ⟨.investigating, generation⟩))
      (fun s a ha hs => TxnState.delegation_of_unanswered hs a ?_) h
    rintro result rfl
    exact ha
  | audited topology cmd own =>
    exact TxnState.delegation_of_unanswered h (.audit cmd topology) (by simp)
  | completed tag completion =>
    refine TxnState.delegation_of_unanswered h (.complete tag completion) ?_
    rintro result ⟨⟩
    simp [Act.answer?] at unanswered

theorem delegation_cons_informed
    (h : delegationAfter shard node txn run = some ⟨.investigating, generation⟩) :
    delegationAfter shard node txn
        (.complete txn ⟨.delegation, generation⟩ (.informedHome (.ok ())) :: run) =
      some ⟨.safe, generation⟩ := by
  unfold delegationAfter at h ⊢
  rw [Machine.after_cons, machine_step, act, (does_complete _ txn _ _).own]
  simp [TxnState.delegation_act, h, Delegation.handed, Delegation.informed]

/-- Once safe a shard stays safe. -/
theorem delegation_append_safe {d : Delegation} (h : delegationAfter shard node txn run = some d)
    (safe : d.status = .safe) (acts : List Act) :
    delegationAfter shard node txn (acts ++ run) = some d :=
  keeps_since (P := (·.delegation = some d))
    (fun _ a hs => TxnState.delegation_of_safe hs safe a) (List.suffix_append acts run) h

/-- An attempt to inform the home shard goes on until it is answered, and if the first answer is
that it succeeded the shard is safe from then on. -/
theorem delegation_append
    (h : delegationAfter shard node txn run = some ⟨.investigating, generation⟩)
    (acts : List Act) :
    (firstAnswer txn generation acts = none →
        delegationAfter shard node txn (acts ++ run) = some ⟨.investigating, generation⟩) ∧
      (firstAnswer txn generation acts = some (.ok ()) →
        delegationAfter shard node txn (acts ++ run) = some ⟨.safe, generation⟩) := by
  induction acts with
  | nil => exact ⟨fun _ => h, nofun⟩
  | cons a acts ih =>
    rw [firstAnswer, List.cons_append]
    cases hf : firstAnswer txn generation acts with
    | none =>
      have waiting := ih.1 hf
      rw [Option.none_or]
      refine ⟨delegation_cons_unanswered a waiting, fun informed => ?_⟩
      rw [answer?_eq_some.1 informed]
      exact delegation_cons_informed waiting
    | some result =>
      refine ⟨nofun, fun informed => ?_⟩
      rw [Option.some_or] at informed
      exact delegation_append_safe (ih.2 (hf.trans informed)) rfl [a]

/-- A shard that is safe or investigating all along does not inform the home shard. -/
theorem not_informs (settled : ∀ older, older <:+ acts →
      ∃ d, delegationAfter shard node txn (older ++ run) = some d ∧ d.Settled) :
    ¬ Informs shard node txn run acts := by
  rintro ⟨a, older, sent, key, ho, hd, rfl, hr⟩
  obtain ⟨d, hs, settled⟩ := settled older ((List.suffix_cons a older).trans ho)
  have still : ∃ d, delegationAfter shard node sent.txn (older ++ run) = some d ∧
      d.status = .stillAtRisk := by
    obtain ⟨_, _, -, -, hd⟩ | ⟨_, _, -, hd⟩ := mem_dispatched (sound_after shard node _) hd
    · exact TxnState.stillAtRisk_of_informs hd hr
    · exact TxnState.stillAtRisk_of_informs hd hr
  obtain ⟨d', hs', still⟩ := still
  rw [hs] at hs'
  cases hs'
  obtain h | h := settled <;> rw [h] at still <;> cases still

/-- Another shard that sees a transaction move on is safe for good and never informs the home shard
of it again, whether or not an attempt failed before. Only if it is just investigating does it wait
for the answer first: a success makes it safe for good, and only a failure can have it inform the
home shard again. -/
theorem safe_after_moving_on {past : List Act} {topology : Topology} {event : Event}
    (moved : event.movesOn = true)
    (accepted : (((machine shard node).after past).record topology .nonHome event).2 = .ok ())
    (acts : List Act) :
    let run := .record topology .nonHome event :: past
    let status (run : List Act) := (delegationAfter shard node event.txn run).map (·.status)
    (status past ≠ some .investigating →
        status (acts ++ run) = some .safe ∧ ¬ Informs shard node event.txn run acts) ∧
      ∀ generation, delegationAfter shard node event.txn past = some ⟨.investigating, generation⟩ →
        (firstAnswer event.txn generation acts = none →
          status (acts ++ run) = some .investigating ∧
            ¬ Informs shard node event.txn run acts) ∧
        (firstAnswer event.txn generation acts = some (.ok ()) →
          status (acts ++ run) = some .safe ∧ ¬ Informs shard node event.txn run acts) := by
  intro run status
  have told : delegationAfter shard node event.txn run =
      some ((((machine shard node).after past).stateD event.txn).delegationD .safe) :=
    delegation_of_movesOn _ topology moved accepted
  refine ⟨fun idle => ?_, fun generation investigating => ?_⟩
  · have safe := TxnState.status_delegationD_safe idle
    have since := delegation_append_safe told safe
    exact ⟨by simp [status, since, safe], not_informs fun older _ => ⟨_, since older, .inl safe⟩⟩
  · rw [TxnState.delegationD_of_settled investigating (.inr rfl)] at told
    have since := delegation_append told
    -- Until the attempt fails the shard is safe or still waits for the answer.
    have quiet (unfailed : ∀ fault, firstAnswer event.txn generation acts ≠ some (.error fault)) :
        ¬ Informs shard node event.txn run acts := by
      refine not_informs fun older ho => ?_
      cases hf : firstAnswer event.txn generation older with
      | none => exact ⟨_, (since older).1 hf, .inr rfl⟩
      | some result =>
        cases result with
        | ok _ => exact ⟨_, (since older).2 hf, .inl rfl⟩
        | error fault => exact absurd (firstAnswer_of_suffix ho hf) (unfailed fault)
    refine ⟨fun unanswered => ?_, fun informed => ?_⟩
    · exact ⟨by simp [status, (since acts).1 unanswered], quiet (by simp [unanswered])⟩
    · exact ⟨by simp [status, (since acts).2 informed], quiet (by simp [informed])⟩

end Runs

/-- The command that another shard follows below. -/
def exampleFollowed : Command := { txn := ⟨1, 1, 1⟩, homeKey := some ⟨[104]⟩ }

/-- Two audits, of which the second informs the home shard if the shard is at risk. -/
def exampleAudits : List Act :=
  let topology : Topology := ⟨1, fun _ => true, fun _ _ _ => ∅⟩
  [.audit topology exampleFollowed, .audit topology exampleFollowed]

/-- The attempt to inform the home shard fails. -/
def exampleFailure : Act :=
  .complete exampleFollowed.txn ⟨.delegation, 1⟩ (.informedHome (.error (.refused "gone")))

/-- After a failed attempt the shard sees the transaction commit. -/
theorem safe_after_failure :
    let topology : Topology := ⟨1, fun _ => true, fun _ _ _ => ∅⟩
    let past := exampleFailure :: exampleAudits ++
      [.record topology .nonHome (.preAccepted exampleFollowed)]
    let run := .record topology .nonHome (.committed exampleFollowed) :: past
    (delegationAfter 0 1 exampleFollowed.txn past).map (·.status) = some .atRisk ∧
      (delegationAfter 0 1 exampleFollowed.txn (exampleAudits ++ run)).map (·.status) =
        some .safe ∧
      ¬ Informs 0 1 exampleFollowed.txn run exampleAudits := by
  intro topology past run
  have safe := @safe_after_moving_on 0 1 past topology (.committed exampleFollowed) rfl rfl
    exampleAudits
  exact ⟨rfl, safe.1 (by decide)⟩

/-- While the home shard is being informed the shard sees the transaction commit. It is not safe
then, and informs the home shard again when the attempt has failed. -/
theorem informs_after_moving_on :
    let topology : Topology := ⟨1, fun _ => true, fun _ _ _ => ∅⟩
    let event : Event := .committed exampleFollowed
    let past := exampleAudits ++ [.record topology .nonHome (.preAccepted exampleFollowed)]
    let run := .record topology .nonHome event :: past
    event.movesOn = true ∧ (((machine 0 1).after past).record topology .nonHome event).2 = .ok () ∧
      (delegationAfter 0 1 exampleFollowed.txn run).map (·.status) = some .investigating ∧
      Informs 0 1 exampleFollowed.txn run (exampleAudits ++ [exampleFailure]) :=
  ⟨rfl, rfl, rfl, _, _, _, _, List.suffix_rfl, .head _, rfl, rfl⟩

end ShardLog

end TxnLiveness
