import TxnLiveness.Proofs.Shard.Tracker
/-!
# How trackers come to escalate

An audit turns a tracker that expects something into one without progress, and has one that is
without progress escalate or settle. No event and no completion leaves a tracker without progress or
begins to investigate. A delegation has a status in place of its progress, but is no different.
-/

namespace TxnLiveness

/-- The progress that a delegation status stands for. -/
def DelegationStatus.progress : DelegationStatus → Progress
  | .atRisk => .expected
  | .stillAtRisk => .noProgress
  | .investigating => .investigating
  | .safe => .done

namespace Progress

/-- What events and completions can do to the progress of a tracker. -/
def Stirred (p q : Progress) : Prop := q = p ∨ (q ≠ .noProgress ∧ q ≠ .investigating)

/-- What an audit can do to the progress of a tracker, by what it plans. -/
inductive Watched (p : Progress) : Progress → Except Fault (Option Dispatch) → Prop
  | kept : Watched p p (.ok none)
  | lapsed (expected : p = .expected) : Watched p .noProgress (.ok none)
  | settled {q : Progress} (idle : p ≠ .investigating)
      (settled : q ≠ .noProgress ∧ q ≠ .investigating) : Watched p q (.ok none)
  | escalated (overdue : p = .noProgress) {planned : Except Fault (Option Dispatch)}
      (some : planned ≠ .ok none) : Watched p .investigating planned

variable {p q r : Progress}

theorem Stirred.refl (p : Progress) : Stirred p p := .inl rfl

theorem Stirred.trans (h : Stirred p q) (k : Stirred q r) : Stirred p r := by
  obtain rfl | k := k
  · exact h
  · exact .inr k

theorem stirred_noneExpected : Stirred p .noneExpected := .inr ⟨by decide, by decide⟩

theorem stirred_expected : Stirred p .expected := .inr ⟨by decide, by decide⟩

theorem stirred_done : Stirred p .done := .inr ⟨by decide, by decide⟩

/-- An audit that finds a tracker patient does not escalate. -/
theorem watched_advance (h : p ≠ .noProgress) : Watched p p.advance (.ok none) := by
  cases p with
  | expected => exact .lapsed rfl
  | noProgress => exact absurd rfl h
  | noneExpected | investigating | done => exact .kept

variable {planned : Except Fault (Option Dispatch)}

theorem Watched.before_noProgress (h : Watched p .noProgress planned) :
    p = .noProgress ∨ p = .expected := by
  cases h with
  | kept => exact .inl rfl
  | lapsed expected => exact .inr expected
  | settled idle settled => exact absurd rfl settled.1

/-- An audit does not end an investigation. -/
theorem Watched.investigating (h : Watched .investigating q planned) : q = .investigating := by
  cases h with
  | kept | escalated => rfl
  | lapsed expected => cases expected
  | settled idle => exact absurd rfl idle

theorem Watched.of_planned (h : Watched p q planned) (hp : planned ≠ .ok none) :
    p = .noProgress ∧ q = .investigating := by
  cases h with
  | kept | lapsed | settled => exact absurd rfl hp
  | escalated overdue => exact ⟨overdue, rfl⟩

end Progress

open Progress

/-! ## Single trackers -/

namespace Blocking

variable (b : Blocking)

theorem block_stirred (required : Known) (keys : Footprint) :
    Stirred b.progress (b.block required keys).1.progress := by
  obtain ⟨-, e⟩ | ⟨-, -, e⟩ | ⟨-, -, e⟩ := b.block_cases required keys <;> rw [e]
  · exact .refl _
  · exact .refl _
  · exact stirred_expected

theorem learn_stirred (known : Known) : Stirred b.progress (b.learn known).progress := by
  unfold learn
  split
  · exact stirred_noneExpected
  · exact .refl _

theorem fetched_stirred (txn : TxnId) (tag : Tag) (result : Except RemoteFault Known) :
    Stirred b.progress (b.fetched txn tag result).1.progress := by
  rcases b.fetched_cases txn tag result with
    ⟨-, e⟩ | ⟨-, _, -, e⟩ | ⟨-, known, -, -, e⟩ | ⟨ht, _, -, -, he⟩
  · rw [e]
    exact .refl _
  · rw [e]
    exact stirred_expected
  · rw [e]
    exact stirred_expected.trans (learn_stirred _ known)
  · obtain ⟨-, e⟩ | ⟨_, -, -, e⟩ | ⟨_, _, -, -, e⟩ := he <;> rw [e]
    · exact stirred_expected
    · exact stirred_expected
    · simp only [accepts, Bool.and_eq_true, decide_eq_true_eq] at ht
      exact .inl ht.1.symm

theorem invalidated_stirred (tag : Tag) (result : Except RemoteFault Token) :
    Stirred b.progress (b.invalidated tag result).1.progress := by
  obtain ⟨-, e⟩ | ⟨-, _, rfl | rfl, e⟩ := b.invalidated_cases tag result <;> rw [e]
  · exact .refl _
  · exact stirred_done
  · exact stirred_expected

theorem audit_watched (txn : TxnId) (cmd : Command) (topology : Topology) :
    Watched b.progress (b.audit txn cmd topology).1.progress (b.audit txn cmd topology).2 := by
  rcases b.audit_cases txn cmd topology with
    ⟨hp, e⟩ | ⟨hp, -, e⟩ | ⟨hp, -, -, e⟩ | ⟨hp, -, keys, -, e⟩ <;> rw [e]
  · exact watched_advance hp
  · exact .settled (by simp [hp]) ⟨by simp, by simp⟩
  · exact .escalated hp nofun
  · exact .escalated hp nofun

end Blocking

namespace Coordinate

variable (c : Coordinate)

theorem reach_stirred (status : CoordinateStatus) :
    Stirred c.progress (c.reach status status.entered).progress := by
  obtain e | ⟨-, e⟩ := c.reach_cases status status.entered <;> rw [e]
  · exact .refl _
  · cases status with
    | notWitnessed | committed => exact stirred_noneExpected
    | uncommitted | readyToExecute => exact stirred_expected
    | done => exact stirred_done

theorem durableGlobally_stirred : Stirred c.progress c.durableGlobally.progress := by
  obtain ⟨-, e⟩ | ⟨-, e⟩ := c.durableGlobally_cases <;> rw [e]
  · exact .refl _
  · exact stirred_noneExpected

theorem fetched_stirred (tag : Tag) : Stirred c.progress (c.fetched tag).1.progress := by
  obtain ⟨-, e⟩ | ⟨-, e⟩ := c.fetched_cases tag <;> rw [e]
  · exact .refl _
  · exact stirred_expected

theorem recovered_stirred (tag : Tag) (result : Except RemoteFault Token) :
    Stirred c.progress (c.recovered tag result).1.progress := by
  obtain ⟨-, e⟩ | ⟨-, -, _, _, e⟩ := c.recovered_cases tag result <;> rw [e]
  · exact .refl _
  · exact stirred_expected

theorem audit_watched (txn : TxnId) (cmd : Command) (homeKey : Option Key) :
    Watched c.progress (c.audit txn cmd homeKey).1.progress (c.audit txn cmd homeKey).2 := by
  rcases c.audit_cases txn cmd homeKey with
    ⟨hp, e⟩ | ⟨hp, _, -, e⟩ | ⟨hp, _, -, e⟩ <;> rw [e]
  · exact watched_advance hp
  · exact .escalated hp nofun
  · exact .escalated hp nofun

end Coordinate

namespace Disseminate

variable {d e : Disseminate}

theorem Steady.stirred (h : Steady d e) : Stirred d.progress e.progress := by
  obtain hp | hp := h.progress <;> rw [hp]
  · exact .refl _
  · exact stirred_done

theorem persistedWhenReady_steady (d : Disseminate) (nodes : SortedSet NodeId) :
    Steady d (d.persistedWhenReady nodes) := by
  unfold persistedWhenReady
  split
  · exact d.persisted_steady nodes
  · exact ⟨rfl, .inl rfl⟩

/-- A change after which the tracker expects something or is done, if it is one. -/
def Renewed (d e : Disseminate) : Prop := e = d ∨ e.progress = .expected ∨ e.progress = .done

theorem Renewed.stirred (h : Renewed d e) : Stirred d.progress e.progress := by
  obtain rfl | h | h := h
  · exact .refl _
  · exact h ▸ stirred_expected
  · exact h ▸ stirred_done

theorem durableGlobally_renewed (d : Disseminate) (cmd : Command) (topology : Topology)
    (nodes : Option (SortedSet NodeId)) : Renewed d (d.durableGlobally cmd topology nodes) := by
  obtain ⟨-, e⟩ | ⟨-, -, e⟩ | ⟨-, set, -, e⟩ := d.durableGlobally_cases cmd topology nodes <;>
    rw [e]
  · exact .inl rfl
  · exact .inr (.inl rfl)
  · exact .inr ((ready_steady _ cmd topology).trans (persistedWhenReady_steady _ set)).progress

theorem durableLocally_renewed (d : Disseminate) (node : NodeId) :
    Renewed d (d.durableLocally node) := by
  obtain ⟨-, e⟩ | ⟨-, e⟩ := d.durableLocally_cases node <;> rw [e]
  · exact .inl rfl
  · exact .inr (persistedWhenReady_steady _ _).progress

theorem roundFinished_renewed (d : Disseminate) (tag : Tag) :
    Renewed d (d.roundFinished tag).1 := by
  obtain ⟨-, e⟩ | ⟨-, -, e⟩ := d.roundFinished_cases tag <;> rw [e]
  · exact .inl rfl
  · exact .inr (.inl rfl)

theorem acknowledged_stirred (d : Disseminate) (node : NodeId) :
    Stirred d.progress (d.acknowledged node).1.progress := by
  obtain ⟨-, e⟩ | ⟨-, l, -, e⟩ := d.acknowledged_cases node <;> rw [e]
  · exact .refl _
  · exact (settle_steady { d with
      lacking := some { l with awareness := l.awareness.erase node } }).stirred

/-- A tracker that is without progress or investigates knows whom to inform. -/
def Aimed (d : Disseminate) : Prop :=
  d.progress = .noProgress ∨ d.progress = .investigating → d.lacking.isSome = true

theorem Renewed.aimed (h : Renewed d e) (hd : d.Aimed) : e.Aimed := by
  obtain rfl | h | h := h
  · exact hd
  · simp [Aimed, h]
  · simp [Aimed, h]

theorem acknowledged_aimed (hd : d.Aimed) (node : NodeId) : (d.acknowledged node).1.Aimed := by
  obtain ⟨-, e⟩ | ⟨-, l, -, e⟩ := d.acknowledged_cases node <;> rw [e]
  · exact hd
  · intro _
    obtain ⟨e, -⟩ | ⟨_, -, -, e⟩ := settle_cases { d with
      lacking := some { l with awareness := l.awareness.erase node } } <;> rw [e] <;> rfl

/-- Getting ready finishes only a tracker that still waits. -/
theorem ready_progress (hd : d.Aimed) (cmd : Command) (topology : Topology) :
    (d.ready cmd topology).progress = d.progress ∨
      ((d.ready cmd topology).progress = .done ∧ d.progress ≠ .investigating) := by
  obtain ⟨_, -, -, e⟩ | ⟨-, -, e⟩ | ⟨hl, -⟩ := d.ready_cases cmd topology
  · exact .inl (by rw [e])
  · exact .inl (by rw [e])
  · refine (d.ready_steady cmd topology).progress.imp_right fun h => ⟨h, fun hp => ?_⟩
    simpa [hl] using hd (.inr hp)

theorem audit_watched (hd : d.Aimed) (txn : TxnId) (cmd : Command) (topology : Topology) :
    Watched d.progress (d.audit txn cmd topology).1.progress (d.audit txn cmd topology).2 := by
  obtain ⟨-, e⟩ | ⟨-, r, hr, hcases⟩ := d.audit_cases txn cmd topology
  · rw [e]
    exact .kept
  · have ready := ready_progress hd cmd topology
    rw [← hr] at ready
    obtain ⟨-, e⟩ | ⟨l, -, ⟨hp, e⟩ | ⟨hp, -, e⟩ | ⟨hp, -, fault, e⟩ |
      ⟨hp, -, route, time, -, -, e⟩⟩ := hcases <;> rw [e]
    · obtain h | ⟨h, idle⟩ := ready
      · exact h ▸ .kept
      · exact .settled idle (by simp [h])
    · obtain h | ⟨h, idle⟩ := ready
      · exact h ▸ watched_advance hp
      · exact .settled idle (by simp [h, advance])
    · have h : d.progress = .noProgress := by simpa [hp, eq_comm] using ready
      exact .settled (by simp [h]) (by simp)
    · exact .escalated (by simpa [hp, eq_comm] using ready) (by simp)
    · exact .escalated (by simpa [hp, eq_comm] using ready) (by simp)

theorem audit_aimed (hd : d.Aimed) (txn : TxnId) (cmd : Command) (topology : Topology) :
    (d.audit txn cmd topology).1.Aimed := by
  obtain ⟨-, e⟩ | ⟨-, r, hr, ⟨hl, e⟩ | ⟨l, hl, hcases⟩⟩ := d.audit_cases txn cmd topology
  · rw [e]
    exact hd
  · rw [e]
    have unknown : d.lacking = none := by
      obtain ⟨_, hs, -, e⟩ | ⟨h, -⟩ | ⟨h, -⟩ := d.ready_cases cmd topology
      · rw [hr, e, hs] at hl
        cases hl
      · exact h
      · exact h
    intro hp
    obtain h | h := (d.ready_steady cmd topology).progress
    · rw [hr, h] at hp
      simpa [unknown] using hd hp
    · simp [hr, h] at hp
  · intro _
    obtain ⟨-, e⟩ | ⟨-, -, e⟩ | ⟨-, -, fault, e⟩ | ⟨-, -, route, time, -, -, e⟩ := hcases <;>
      simp [e, hl]

theorem act_aimed (d : Disseminate) (a : Act) (hd : d.Aimed) : (d.act a).Aimed := by
  cases a with
  | durableGlobally cmd topology nodes =>
    exact (d.durableGlobally_renewed cmd topology nodes).aimed hd
  | durableLocally node => exact (d.durableLocally_renewed node).aimed hd
  | audit txn cmd topology => exact audit_aimed hd txn cmd topology
  | acknowledged node => exact acknowledged_aimed hd node
  | roundFinished tag => exact (d.roundFinished_renewed tag).aimed hd

end Disseminate

namespace Delegation

/-- What becomes of the progress that a status stands for. -/
theorem raise_stirred (d : Delegation) {status : DelegationStatus}
    (h : status = .atRisk ∨ status = .safe) :
    Stirred d.status.progress (d.raise status).status.progress := by
  obtain e | ⟨-, e⟩ := d.raise_cases status <;> rw [e]
  · exact .refl _
  · obtain rfl | rfl := h
    · exact stirred_expected
    · exact stirred_done

theorem informed_stirred (d : Delegation) (tag : Tag) (result : Except RemoteFault Unit) :
    Stirred d.status.progress (d.informed tag result).1.status.progress := by
  obtain ⟨-, e⟩ | ⟨-, -, _, rfl | rfl, e⟩ := d.informed_cases tag result <;> rw [e]
  · exact .refl _
  · exact stirred_done
  · exact stirred_expected

theorem audit_watched (d : Delegation) (txn : TxnId) (cmd : Command) (homeKey : Option Key) :
    Watched d.status.progress (d.audit txn cmd homeKey).1.status.progress
      (d.audit txn cmd homeKey).2 := by
  rcases d.audit_cases txn cmd homeKey with
    ⟨-, e⟩ | ⟨hs, e⟩ | ⟨hs, -, e⟩ | ⟨hs, key, -, e⟩ <;> rw [e]
  · exact .kept
  · exact .lapsed (by simp [hs, DelegationStatus.progress])
  · exact .escalated (by simp [hs, DelegationStatus.progress]) nofun
  · exact .escalated (by simp [hs, DelegationStatus.progress]) nofun

end Delegation

/-! ## States -/

namespace TxnState

variable {s : TxnState}

/-- The progress of a tracker. One that is not there expects nothing. -/
def progress (s : TxnState) : TrackerKind → Progress
  | .blocking => s.blockingD.progress
  | .coordinate => s.coordinateD.progress
  | .disseminate => s.disseminateD.progress
  | .delegation => (s.delegation.map (·.status.progress)).getD .noneExpected

theorem stirred_withBlocking {b : Blocking} (h : Stirred s.blockingD.progress b.progress)
    (kind : TrackerKind) : Stirred (s.progress kind) ((s.withBlocking b).progress kind) := by
  cases kind with
  | blocking => exact h
  | coordinate | disseminate | delegation => exact .refl _

theorem stirred_withCoordinate {c : Coordinate} (h : Stirred s.coordinateD.progress c.progress)
    (kind : TrackerKind) : Stirred (s.progress kind) ((s.withCoordinate c).progress kind) := by
  cases kind with
  | coordinate => exact h
  | blocking | disseminate | delegation => exact .refl _

theorem stirred_withDisseminate {d : Disseminate}
    (h : Stirred s.disseminateD.progress d.progress) (kind : TrackerKind) :
    Stirred (s.progress kind) ((s.withDisseminate d).progress kind) := by
  cases kind with
  | disseminate => exact h
  | blocking | coordinate | delegation => exact .refl _

theorem stirred_delegate (s : TxnState) {status : DelegationStatus}
    (h : status = .atRisk ∨ status = .safe) (kind : TrackerKind) :
    Stirred (s.progress kind) ((s.withDelegation (s.delegationD status)).progress kind) := by
  cases kind with
  | blocking | coordinate | disseminate => exact .refl _
  | delegation =>
    simp only [progress, withDelegation, delegationD]
    cases s.delegation with
    | some d => exact d.raise_stirred h
    | none =>
      refine Stirred.trans ?_ (Delegation.raise_stirred { status } h)
      obtain rfl | rfl := h
      · exact stirred_expected
      · exact stirred_done

/-- No act of an event leaves a tracker without progress or begins to investigate. -/
theorem recordable_stirred {a : Act} (h : s.Recordable a) (kind : TrackerKind) :
    Stirred (s.progress kind) ((s.act a).progress kind) := by
  cases a with
  | rememberHome key => cases kind <;> exact .refl _
  | reach status progress =>
    rw [show progress = status.entered from h]
    exact stirred_withCoordinate (s.coordinateD.reach_stirred status) kind
  | reachFor cmd status progress =>
    rw [show progress = status.entered from h]
    exact stirred_withCoordinate (s.coordinateD.reach_stirred status) kind
  | stopCoordinating => exact stirred_withCoordinate s.coordinateD.durableGlobally_stirred kind
  | durableGlobally cmd topology nodes =>
    exact stirred_withDisseminate (Disseminate.durableGlobally_renewed _ _ _ _).stirred kind
  | durableLocally node =>
    exact stirred_withDisseminate (Disseminate.durableLocally_renewed _ _).stirred kind
  | block required keys => exact stirred_withBlocking (s.blockingD.block_stirred _ _) kind
  | learn known => exact stirred_withBlocking (s.blockingD.learn_stirred known) kind
  | delegate status => exact s.stirred_delegate h kind
  | observe | audit | complete => cases h

theorem complete_stirred (s : TxnState) (tag : Tag) (completion : Completion)
    (kind : TrackerKind) :
    Stirred (s.progress kind) ((s.act (.complete tag completion)).progress kind) := by
  cases kind with
  | blocking =>
    simp only [progress, blockingD_act, onBlocking]
    split
    · cases completion with
      | fetched result => exact Blocking.fetched_stirred _ _ _ _
      | invalidated result => exact Blocking.invalidated_stirred _ _ _
      | _ => exact .refl _
    · exact .refl _
  | coordinate =>
    simp only [progress, coordinateD_act, onCoordinate]
    split
    · cases completion with
      | fetched result => exact Coordinate.fetched_stirred _ _
      | recovered result => exact Coordinate.recovered_stirred _ _ _
      | _ => exact .refl _
    · exact .refl _
  | disseminate =>
    simp only [progress, disseminateD_act, onDisseminate]
    split
    · cases completion with
      | acknowledged node => exact Disseminate.acknowledged_stirred _ _
      | roundFinished => exact (Disseminate.roundFinished_renewed _ _).stirred
      | _ => exact .refl _
    · exact .refl _
  | delegation =>
    simp only [progress, delegation_act]
    split
    · cases s.delegation with
      | none => exact .refl _
      | some d =>
        cases completion with
        | informedHome result => exact d.informed_stirred tag result
        | _ => exact .refl _
    · exact .refl _

theorem audit_watched (h : s.disseminateD.Aimed) {cmd : Command} (topology : Topology)
    (own : cmd.txn = s.txn) (kind : TrackerKind) :
    Watched (s.progress kind) ((s.act (.audit cmd topology)).progress kind)
      (s.plan cmd topology kind) := by
  cases kind with
  | blocking =>
    simp only [progress, blockingD_act, onBlocking, own, if_true, plan_blocking]
    exact s.blockingD.audit_watched _ _ _
  | coordinate =>
    simp only [progress, coordinateD_act, onCoordinate, own, if_true, plan_coordinate]
    exact s.coordinateD.audit_watched _ _ _
  | disseminate =>
    simp only [progress, disseminateD_act, onDisseminate, own, if_true, plan_disseminate]
    exact Disseminate.audit_watched h _ _ _
  | delegation =>
    simp only [progress, delegation_act, own, if_true, plan]
    cases s.delegation with
    | none => exact .kept
    | some d => exact d.audit_watched _ _ _

end TxnState

end TxnLiveness
