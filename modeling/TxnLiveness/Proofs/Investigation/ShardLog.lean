import TxnLiveness.Proofs.Investigation.TxnState
import TxnLiveness.ShardLog
/-!
# The investigations of a shard

No event begins an investigation: on a shard only audits do, and completions that something follows.
A log is sound if each state is stored under its own transaction and no tracker whose coordination
is done still investigates. Then an audit always takes place, and a recovery is refused only if it
is not the one that is waited for.
-/

namespace TxnLiveness

/-- Once the status is done, nothing is expected of the coordinator any more. -/
def Coordinate.Finished (c : Coordinate) : Prop :=
  c.status = .done → c.progress = .noneExpected ∨ c.progress = .done

namespace TxnState

def Finished (s : TxnState) : Prop := ∀ c, s.coordinate = some c → c.Finished

/-- A change that begins no investigation. -/
structure Quiet (s t : TxnState) : Prop where
  txn : t.txn = s.txn
  calm : ∀ kind, (s.probe kind).Calm (t.probe kind)
  finished : s.Finished → t.Finished

theorem Quiet.trans {s t u : TxnState} (h : Quiet s t) (k : Quiet t u) : Quiet s u :=
  ⟨k.txn.trans h.txn, fun kind => (h.calm kind).trans (k.calm kind),
    fun hs => k.finished (h.finished hs)⟩

variable {s : TxnState}

theorem quiet_rememberHome (s : TxnState) (key : Option Key) : Quiet s (s.rememberHome key) :=
  ⟨rfl, fun kind => .of_eq (by cases kind <;> rfl), id⟩

theorem quiet_withBlocking {b : Blocking} (h : s.blockingD.probe.Calm b.probe) :
    Quiet s (s.withBlocking b) := ⟨rfl, calm_withBlocking h, id⟩

theorem quiet_withDisseminate {d : Disseminate} (h : s.disseminateD.probe.Calm d.probe) :
    Quiet s (s.withDisseminate d) := ⟨rfl, calm_withDisseminate h, id⟩

theorem quiet_delegate (s : TxnState) {status : DelegationStatus} (h : status ≠ .investigating) :
    Quiet s (s.withDelegation (s.delegationD status)) := ⟨rfl, s.calm_delegate h, id⟩

theorem finished_coordinateD (h : s.Finished) : s.coordinateD.Finished := by
  unfold coordinateD
  cases hc : s.coordinate with
  | none => exact fun hs => nomatch hs
  | some c => exact h c hc

theorem quiet_withCoordinate {c : Coordinate} (h : s.coordinateD.probe.Calm c.probe)
    (hf : s.coordinateD.Finished → c.Finished) : Quiet s (s.withCoordinate c) := by
  refine ⟨rfl, calm_withCoordinate h, fun hs => ?_⟩
  rintro _ ⟨⟩
  exact hf (finished_coordinateD hs)

/-- A status is reached quietly if its progress is not to investigate, nor to expect anything once
done. -/
theorem quiet_reach (s : TxnState) {status : CoordinateStatus} {progress : Progress}
    (h : progress ≠ .investigating)
    (hd : status = .done → progress = .noneExpected ∨ progress = .done) :
    Quiet s (s.withCoordinate (s.coordinateD.reach status progress)) := by
  refine quiet_withCoordinate (s.coordinateD.reach_calm status h) fun hf => ?_
  obtain e | ⟨-, e⟩ := s.coordinateD.reach_cases status progress <;> rw [e]
  · exact hf
  · exact hd

theorem quiet_reachFor (s : TxnState) (cmd : Command) {status : CoordinateStatus}
    {progress : Progress} (h : progress ≠ .investigating)
    (hd : status = .done → progress = .noneExpected ∨ progress = .done) :
    Quiet s (s.withCoordinate (s.coordinateD.reachFor cmd status progress)) := by
  have reached := quiet_reach s h hd
  refine ⟨rfl, reached.calm, fun hs => ?_⟩
  rintro _ ⟨⟩
  exact reached.finished hs (s.coordinateD.reach status progress) rfl

theorem quiet_durableGlobally (s : TxnState) :
    Quiet s (s.withCoordinate s.coordinateD.durableGlobally) := by
  refine quiet_withCoordinate s.coordinateD.durableGlobally_calm fun hf => ?_
  obtain ⟨-, e⟩ | ⟨-, e⟩ := s.coordinateD.durableGlobally_cases <;> rw [e]
  · exact hf
  · exact fun _ => .inl rfl

theorem audit_finished {cmd : Command} {topology : Topology} (h : s.Finished) :
    (s.audit cmd topology).1.Finished := by
  by_cases ht : cmd.txn = s.txn
  · rw [audit_eq ht]
    intro c' hc'
    obtain ⟨c, hc, rfl⟩ := Option.map_eq_some_iff.1 hc'
    have hf := h c hc
    rcases c.audit_cases s.txn cmd s.homeKey with
      ⟨-, e⟩ | ⟨hp, fault, -, e⟩ | ⟨hp, remediation, -, e⟩ <;> rw [e] <;> intro hs
    · obtain hp | hp := hf hs <;> simp [hp, Progress.advance]
    · have := hf hs
      simp [hp] at this
    · have := hf hs
      simp [hp] at this
  · rw [audit_wrong ht]
    exact h

/-- A coordinator that is done does not investigate. -/
theorem not_answers_of_done {c : Coordinate} {tag : Tag} (hf : c.Finished) (hs : c.status = .done) :
    c.probe.answers tag = false := by
  obtain hp | hp := hf hs <;> simp [Probe.answers, Coordinate.probe, hp]

/-- In a finished state a completion is accepted whenever it answers the investigation under way. -/
theorem accepts_eq_answers {tag : Tag} {completion : Completion} (h : s.Finished)
    (hf : completion.fits tag.tracker = true) :
    s.accepts tag completion = (s.probe tag.tracker).answers tag := by
  unfold accepts
  cases hr : completion.isRecovery with
  | false => simp
  | true =>
    have hk : tag.tracker = .coordinate := by
      cases completion <;> cases hr
      cases hk : tag.tracker <;> rw [hk] at hf <;> first | rfl | cases hf
    cases hc : s.coordinate with
    | none => simp
    | some c =>
      by_cases hs : c.status = .done
      · simp [hk, probe, hc, hs, not_answers_of_done (h c hc) hs]
      · simp [hs]

theorem complete_finished {tag : Tag} {completion : Completion} (h : s.Finished) :
    (s.complete tag completion).1.Finished := by
  unfold complete
  split
  · split
    · exact h
    · rename_i c hc
      obtain ⟨-, e⟩ | ⟨hs, -, _, durable, e⟩ := c.recovered_cases tag _ <;> rw [e]
      · rintro _ ⟨⟩
        exact h c hc
      · rintro _ ⟨⟩
        exact fun hd => absurd hd hs
  · split
    · exact h
    · rename_i c hc
      obtain ⟨-, e⟩ | ⟨ha, e⟩ := c.fetched_cases tag <;> rw [e]
      · rintro _ ⟨⟩
        exact h c hc
      · rintro _ ⟨⟩ hs
        rw [c.accepts_eq, not_answers_of_done (h c hc) hs] at ha
        cases ha
  all_goals
    (try split) <;> (try split) <;> exact h

end TxnState

namespace ShardLog

/-- The probe of a tracker. A transaction that is not tracked has no investigation. -/
def probe (log : ShardLog) (txn : TxnId) (kind : TrackerKind) : Probe :=
  ((log.get? txn).map (·.probe kind)).getD {}

/-- Each state is stored under its own transaction, and none is coordinated once that is done. -/
def Sound (log : ShardLog) : Prop :=
  ∀ txn s, log.get? txn = some s → s.txn = txn ∧ s.Finished

/-- A change that begins no investigation. -/
structure Quiet (log log' : ShardLog) : Prop where
  calm : ∀ txn kind, (log.probe txn kind).Calm (log'.probe txn kind)
  sound : log.Sound → log'.Sound

theorem Quiet.refl (log : ShardLog) : Quiet log log := ⟨fun _ _ => .refl _, id⟩

theorem Quiet.trans {log₁ log₂ log₃ : ShardLog} (h : Quiet log₁ log₂) (k : Quiet log₂ log₃) :
    Quiet log₁ log₃ :=
  ⟨fun txn kind => (h.calm txn kind).trans (k.calm txn kind), fun hs => k.sound (h.sound hs)⟩

variable {log : ShardLog} {txn : TxnId} {s : TxnState}

theorem probe_stateD (log : ShardLog) (txn : TxnId) (kind : TrackerKind) :
    (log.stateD txn).probe kind = log.probe txn kind := by
  unfold stateD probe
  cases log.get? txn with
  | none => cases kind <;> rfl
  | some s => rfl

theorem probe_withState (log : ShardLog) (txn : TxnId) (s : TxnState) (x : TxnId)
    (kind : TrackerKind) :
    (log.withState txn s).probe x kind = if x = txn then s.probe kind else log.probe x kind := by
  unfold probe
  rw [get?_withState]
  split <;> rfl

theorem sound_withState (h : log.Sound) (ht : s.txn = txn) (hf : s.Finished) :
    (log.withState txn s).Sound := by
  intro x t hx
  rw [get?_withState] at hx
  split at hx
  · cases hx
    subst x
    exact ⟨ht, hf⟩
  · exact h x t hx

theorem sound_stateD (h : log.Sound) (txn : TxnId) :
    (log.stateD txn).txn = txn ∧ (log.stateD txn).Finished := by
  unfold stateD
  cases hs : log.get? txn with
  | none => exact ⟨rfl, fun _ h => nomatch h⟩
  | some s => exact h txn s hs

theorem quiet_withState (h : (log.stateD txn).Quiet s) : Quiet log (log.withState txn s) := by
  constructor
  · intro x kind
    rw [probe_withState]
    split
    · subst x
      rw [← probe_stateD]
      exact h.calm kind
    · exact .refl _
  · intro hs
    obtain ⟨ht, hf⟩ := sound_stateD hs txn
    exact sound_withState hs (h.txn.trans ht) (h.finished hf)

/-! ## Events -/

theorem quiet_learn (log : ShardLog) (txn : TxnId) (known : Known) :
    Quiet log (log.learn txn known) := by
  unfold learn
  cases hs : log.get? txn with
  | none => exact .refl _
  | some s =>
    cases hb : s.blocking with
    | none =>
      simp only [hb]
      exact .refl _
    | some b =>
      have hd : log.stateD txn = s := by simp [stateD, hs]
      have hb' : s.blockingD = b := by simp [TxnState.blockingD, hb]
      have learned : s.Quiet (s.withBlocking (b.learn known)) :=
        TxnState.quiet_withBlocking (hb' ▸ b.learn_calm known)
      simp only [hb]
      exact quiet_withState (hd ▸ learned)

theorem quiet_block (log : ShardLog) (txn : TxnId) (required : Known) (keys : Footprint) :
    Quiet log (log.block txn required keys).1 := by
  unfold block
  split
  · exact .refl _
  · exact quiet_withState (TxnState.quiet_withBlocking (Blocking.block_calm _ _ _))

theorem quiet_witnessed (log : ShardLog) (txn : TxnId) (homeKey : Key) (role : Role) :
    Quiet log (log.witnessed txn homeKey role) := by
  unfold witnessed
  split
  · refine quiet_withState ((TxnState.quiet_rememberHome _ (some homeKey)).trans ?_)
    exact TxnState.quiet_reach _ (by decide) (by decide)
  · exact .refl _

theorem quiet_preAccepted (log : ShardLog) (cmd : Command) (role : Role) :
    Quiet log (log.preAccepted cmd role).1 := by
  unfold preAccepted
  split
  · exact .refl _
  · refine quiet_withState ((TxnState.quiet_rememberHome _ cmd.homeKey).trans ?_)
    split
    · exact TxnState.quiet_reachFor _ cmd (by decide) (by decide)
    · exact TxnState.quiet_delegate _ (by decide)

theorem quiet_movedOn (log : ShardLog) (cmd : Command) (role : Role) {status : CoordinateStatus}
    {progress : Progress} (h : progress ≠ .investigating) (hd : status ≠ .done) :
    Quiet log (log.movedOn cmd role status progress).1 := by
  unfold movedOn
  split
  · exact .refl _
  · have learned :
        Quiet log (if .committed ≤ status then log.learn cmd.txn .committed else log) := by
      split
      · exact quiet_learn log cmd.txn .committed
      · exact .refl _
    dsimp only
    generalize (if CoordinateStatus.committed ≤ status then log.learn cmd.txn .committed else log) =
      log' at learned ⊢
    refine learned.trans (quiet_withState ((TxnState.quiet_rememberHome _ cmd.homeKey).trans ?_))
    split
    · exact TxnState.quiet_reachFor _ cmd h fun hs => absurd hs hd
    · exact TxnState.quiet_delegate _ (by decide)

theorem quiet_invalidated (log : ShardLog) (cmd : Command) (role : Role) :
    Quiet log (log.invalidated cmd role).1 := by
  unfold invalidated
  refine (quiet_learn log cmd.txn .invalidated).trans ?_
  dsimp only
  split
  · exact .refl _
  · split
    · exact .refl _
    · refine quiet_withState ?_
      split
      · exact TxnState.quiet_reachFor _ cmd (by decide) (by decide)
      · exact TxnState.quiet_delegate _ (by decide)

theorem quiet_durableLocally (log : ShardLog) (txn : TxnId) (role : Role) :
    Quiet log (log.durableLocally txn role) := by
  unfold durableLocally
  split
  · exact quiet_withState (TxnState.quiet_withDisseminate (Disseminate.durableLocally_calm _ _))
  · exact .refl _

theorem quiet_durableGlobally (log : ShardLog) (topology : Topology) (cmd : Command)
    (persistedOn : Option (SortedSet NodeId)) (role : Role) :
    Quiet log (log.durableGlobally topology cmd persistedOn role).1 := by
  have blocked : Quiet log (if cmd.hasBeen .preApplied then (log, .ok ())
      else log.block cmd.txn .preApplied (log.outcomeKeys cmd) :
        ShardLog × Except Fault Unit).1 := by
    split
    · exact .refl _
    · exact quiet_block _ _ _ _
  unfold durableGlobally
  dsimp only
  split
  · rename_i e
    rwa [e] at blocked
  · rename_i e
    rw [e] at blocked
    split
    · exact blocked
    · refine blocked.trans (quiet_withState ((TxnState.quiet_durableGlobally _).trans ?_))
      exact TxnState.quiet_withDisseminate (Disseminate.durableGlobally_calm _ _ _ _)

theorem quiet_record (log : ShardLog) (topology : Topology) (role : Role) (event : Event) :
    Quiet log (log.record topology role event).1 := by
  cases event with
  | witnessed txn homeKey => exact log.quiet_witnessed txn homeKey role
  | preAccepted cmd => exact log.quiet_preAccepted cmd role
  | accepted cmd => exact log.quiet_movedOn cmd role (by decide) (by decide)
  | committed cmd => exact log.quiet_movedOn cmd role (by decide) (by decide)
  | readyToExecute cmd => exact log.quiet_movedOn cmd role (by decide) (by decide)
  | executed cmd =>
    exact (log.quiet_learn cmd.txn .preApplied).trans
      (quiet_movedOn _ cmd role (by decide) (by decide))
  | invalidated cmd => exact log.quiet_invalidated cmd role
  | durableLocally txn => exact log.quiet_durableLocally txn role
  | durableGlobally cmd persistedOn => exact log.quiet_durableGlobally topology cmd persistedOn role
  | durableElsewhere txn keys => exact log.quiet_block txn .preApplied keys
  | waitingOn txn required keys => exact log.quiet_block txn required keys

/-! ## Audits -/

/-- What an audit has a tracker plan. -/
def plan (log : ShardLog) (topology : Topology) (cmd : Command) (kind : TrackerKind) :
    Except Fault (Option Dispatch) :=
  (log.get? cmd.txn).elim (.ok none) (·.plan cmd topology kind)

variable {topology : Topology} {cmd : Command}

theorem audit_planned (h : log.Sound) (topology : Topology) (cmd : Command) (kind : TrackerKind) :
    (log.probe cmd.txn kind).Planned cmd.txn kind
      ((log.audit topology cmd).1.probe cmd.txn kind) (log.plan topology cmd kind) := by
  unfold audit plan
  cases hs : log.get? cmd.txn with
  | none => exact .quiet (.refl _)
  | some s =>
    have ht := (h _ s hs).1
    have hp : log.probe cmd.txn kind = s.probe kind := by simp [probe, hs]
    simp only [probe_withState, if_true, Option.elim_some, hp]
    simpa only [ht] using TxnState.audit_planned topology ht.symm kind

theorem audit_other (log : ShardLog) (topology : Topology) (cmd : Command) {x : TxnId}
    (hx : x ≠ cmd.txn) (kind : TrackerKind) :
    (log.audit topology cmd).1.probe x kind = log.probe x kind := by
  unfold audit
  cases hs : log.get? cmd.txn with
  | none => rfl
  | some s => simp [probe_withState, hx]

theorem audit_sound (h : log.Sound) (topology : Topology) (cmd : Command) :
    (log.audit topology cmd).1.Sound := by
  unfold audit
  cases hs : log.get? cmd.txn with
  | none => exact h
  | some s =>
    obtain ⟨ht, hf⟩ := h _ s hs
    exact sound_withState h (TxnState.audit_txn.trans ht) (TxnState.audit_finished hf)

/-- An audit of a sound log takes place and collects what the trackers plan. -/
theorem audit_ok (h : log.Sound) (topology : Topology) (cmd : Command) :
    ∃ out, (log.audit topology cmd).2 = .ok out ∧
      (∀ tag, out.dispatches.countP (·.tag = tag) =
        (Audit.dispatchOf (log.plan topology cmd tag.tracker)).countP (·.tag = tag)) ∧
      (∀ d ∈ out.dispatches, d.txn = cmd.txn ∧ d.remediation.fits d.tag.tracker = true) ∧
      ∀ kind fault, log.plan topology cmd kind = .error fault → fault ∈ out.faults := by
  unfold audit plan
  cases hs : log.get? cmd.txn with
  | none =>
    refine ⟨{}, rfl, fun _ => rfl, ?_, ?_⟩
    · intro d hd
      cases hd
    · intro kind fault hf
      cases hf
  | some s =>
    have ht := (h _ s hs).1.symm
    have ho : ∃ out, (s.audit cmd topology).2 = .ok out := ⟨_, by rw [TxnState.audit_eq ht]⟩
    obtain ⟨out, ho⟩ := ho
    refine ⟨out, ho, fun tag => TxnState.countP_dispatches ht ho tag, fun d hd => ?_,
      fun kind fault hf => (TxnState.mem_faults ht ho).2 ⟨kind, hf⟩⟩
    obtain ⟨kind, hd⟩ := (TxnState.mem_dispatches ht ho).1 hd
    have planned := TxnState.audit_planned topology ht kind
    exact ⟨(planned.txn_of_mem hd).trans ht.symm, planned.fits_of_mem hd⟩

/-- An audit of a sound log collects what the trackers plan, one after the other. -/
theorem audit_collects (h : log.Sound) (topology : Topology) (cmd : Command) :
    (log.audit topology cmd).2 = .ok
      { dispatches := TrackerKind.inOrder.flatMap fun kind =>
          Audit.dispatchOf (log.plan topology cmd kind)
        faults := TrackerKind.inOrder.flatMap fun kind =>
          Audit.faultOf (log.plan topology cmd kind) } := by
  unfold audit plan
  cases hs : log.get? cmd.txn with
  | none => rfl
  | some s => exact s.audit_collects topology (h _ s hs).1.symm

/-! ## Completions -/

variable {tag : Tag} {completion : Completion}

theorem complete_other (log : ShardLog) (txn : TxnId) (tag : Tag) (completion : Completion)
    {x : TxnId} {kind : TrackerKind} (hx : x = txn → kind ≠ tag.tracker) :
    (log.complete txn tag completion).1.probe x kind = log.probe x kind := by
  unfold complete
  cases hs : log.get? txn with
  | none => rfl
  | some s =>
    rw [probe_withState]
    split
    · subst x
      rw [s.complete_other completion (hx rfl)]
      simp [probe, hs]
    · rfl

theorem complete_sound (h : log.Sound) (txn : TxnId) (tag : Tag) (completion : Completion) :
    (log.complete txn tag completion).1.Sound := by
  unfold complete
  cases hs : log.get? txn with
  | none => exact h
  | some s =>
    obtain ⟨ht, hf⟩ := h _ s hs
    exact sound_withState h ((s.complete_txn tag completion).trans ht)
      (TxnState.complete_finished hf)

/-- In a sound log a final completion is accepted if it answers the investigation under way. -/
theorem complete_settled (h : log.Sound) (txn : TxnId) (hf : completion.fits tag.tracker = true)
    (hfin : completion.isFinal = true) :
    (log.probe txn tag.tracker).Settled txn tag.tracker ((log.probe txn tag.tracker).answers tag)
      ((log.complete txn tag completion).1.probe txn tag.tracker)
      (log.complete txn tag completion).2 := by
  unfold complete
  cases hs : log.get? txn with
  | none =>
    simp only
    exact .stale (by simp [probe, hs, Probe.answers])
  | some s =>
    obtain ⟨ht, hfinished⟩ := h _ s hs
    have hp : log.probe txn tag.tracker = s.probe tag.tracker := by simp [probe, hs]
    have ha : (s.probe tag.tracker).answers tag = s.accepts tag completion :=
      (TxnState.accepts_eq_answers hfinished hf).symm
    simp only [probe_withState, if_true, hp, ha]
    simpa only [ht] using s.complete_settled hf hfin

/-- What a completion can do to a log, by what is dispatched after it. -/
inductive Completed (log : ShardLog) (txn : TxnId) (tag : Tag) (completion : Completion)
    (log' : ShardLog) : Option Dispatch → Prop
  /-- No investigation begins, and the one that a final completion answers ends. -/
  | quiet (calm : ∀ x kind, (log.probe x kind).Calm (log'.probe x kind))
      (ended : completion.fits tag.tracker = true → completion.isFinal = true →
        (log.probe txn tag.tracker).answers tag = true →
          (log'.probe txn tag.tracker).investigating = false) :
      Completed log txn tag completion log' none
  /-- A further investigation begins. -/
  | begun (fresh : log'.probe txn tag.tracker =
        ⟨true, (log.probe txn tag.tracker).generation + 1⟩)
      (others : ∀ x kind, (x = txn → kind ≠ tag.tracker) → log'.probe x kind = log.probe x kind)
      (d : Dispatch) (own : d.txn = txn)
      (next : d.tag = ⟨tag.tracker, (log.probe txn tag.tracker).generation + 1⟩)
      (fits : d.remediation.fits tag.tracker = true) :
      Completed log txn tag completion log' (some d)

theorem Completed.followup_fits {followup : Option Dispatch}
    (h : Completed log txn tag completion log' followup) :
    ∀ d ∈ followup.toList, d.remediation.fits d.tag.tracker = true := by
  cases h with
  | quiet calm ended => simp
  | begun fresh others d own next fits => simpa [next] using fits

theorem complete_acknowledged (log : ShardLog) (txn : TxnId) (tag : Tag) (node : NodeId) :
    (∀ x kind, (log.probe x kind).Calm
      ((log.complete txn tag (.acknowledged node)).1.probe x kind)) ∧
        TxnState.followups (log.complete txn tag (.acknowledged node)).2 = [] := by
  unfold complete
  cases hs : log.get? txn with
  | none => exact ⟨fun _ _ => .refl _, rfl⟩
  | some s =>
    refine ⟨fun x kind => ?_, s.followups_acknowledged tag node⟩
    rw [probe_withState]
    split
    · subst x
      simpa [probe, hs] using s.complete_acknowledged tag node kind
    · exact .refl _

theorem complete_misfit (log : ShardLog) (txn : TxnId) (hf : completion.fits tag.tracker = false) :
    (∀ x kind, (log.complete txn tag completion).1.probe x kind = log.probe x kind) ∧
      TxnState.followups (log.complete txn tag completion).2 = [] := by
  unfold complete
  cases hs : log.get? txn with
  | none => exact ⟨fun _ _ => rfl, rfl⟩
  | some s =>
    simp only [TxnState.complete_misfit hf]
    refine ⟨fun x kind => ?_, rfl⟩
    rw [probe_withState]
    split
    · subst x
      simp [probe, hs]
    · rfl

theorem complete_cases (h : log.Sound) (txn : TxnId) (tag : Tag) (completion : Completion) :
    (Completed log txn tag completion (log.complete txn tag completion).1 none ∧
        TxnState.followups (log.complete txn tag completion).2 = []) ∨
      ∃ d, Completed log txn tag completion (log.complete txn tag completion).1 (some d) ∧
        (log.complete txn tag completion).2 = .ok (.resolved { followup := some d }) := by
  cases hf : completion.fits tag.tracker with
  | false =>
    obtain ⟨same, alone⟩ := log.complete_misfit txn hf
    exact .inl ⟨.quiet (fun x kind => .of_eq (same x kind)) (by simp [hf]), alone⟩
  | true =>
    cases hfin : completion.isFinal with
    | false =>
      cases completion <;> cases hfin
      obtain ⟨calm, alone⟩ := log.complete_acknowledged txn tag _
      exact .inl ⟨.quiet calm (by simp [Completion.isFinal]), alone⟩
    | true =>
      have others (x : TxnId) (kind : TrackerKind) (hx : x = txn → kind ≠ tag.tracker) :
          (log.complete txn tag completion).1.probe x kind = log.probe x kind :=
        log.complete_other txn tag completion hx
      have settled := complete_settled h txn hf hfin
      generalize (log.complete txn tag completion).1 = log' at settled others ⊢
      generalize (log.complete txn tag completion).2 = result at settled ⊢
      have calm (hp : (log.probe txn tag.tracker).Calm (log'.probe txn tag.tracker)) (x : TxnId)
          (kind : TrackerKind) : (log.probe x kind).Calm (log'.probe x kind) := by
        by_cases hx : x = txn ∧ kind = tag.tracker
        · rwa [hx.1, hx.2]
        · exact .of_eq (others x kind fun ht hk => hx ⟨ht, hk⟩)
      generalize hq : log'.probe txn tag.tracker = q at settled calm
      cases settled with
      | stale refused => exact .inl ⟨.quiet (calm (.refl _)) (by simp [refused]), rfl⟩
      | ended accepted durable =>
        exact .inl ⟨.quiet (calm ⟨rfl, by simp⟩) (fun _ _ _ => by rw [hq]), rfl⟩
      | followed accepted remediation fits =>
        exact .inr ⟨_, .begun hq others _ rfl rfl fits, rfl⟩
      | failed accepted fault =>
        exact .inl ⟨.quiet (calm ⟨rfl, by simp⟩) (fun _ _ _ => by rw [hq]), rfl⟩

/-- What is recorded quietly after a completion does not change what it can do. -/
theorem Completed.trans_quiet {log' log'' : ShardLog}
    (h : Completed log txn tag completion log' none) (k : Quiet log' log'') :
    Completed log txn tag completion log'' none := by
  cases h with
  | quiet calm ended =>
    refine .quiet (fun x kind => (calm x kind).trans (k.calm x kind)) fun hf hfin ha => ?_
    rw [← Bool.not_eq_true]
    intro hq
    have := (k.calm txn tag.tracker).investigating hq
    rw [ended hf hfin ha] at this
    cases this

end ShardLog

end TxnLiveness
