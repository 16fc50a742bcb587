import TxnLiveness.Proofs.Investigation.Probe
/-!
# The investigations of one transaction

An audit does to each tracker what the tracker plans and collects the plans, and a completion
settles the tracker that its tag names and no other.
-/

namespace TxnLiveness

namespace Audit

/-- What one tracker adds to the dispatches. -/
def dispatchOf : Except Fault (Option Dispatch) → List Dispatch
  | .ok (some dispatch) => [dispatch]
  | _ => []

/-- What one tracker adds to the faults. -/
def faultOf : Except Fault (Option Dispatch) → List Fault
  | .error fault => [fault]
  | _ => []

@[simp] theorem add_dispatches (a : Audit) (planned : Except Fault (Option Dispatch)) :
    (a.add planned).dispatches = a.dispatches ++ dispatchOf planned := by
  obtain fault | _ | dispatch := planned <;> simp [add, dispatchOf]

@[simp] theorem add_faults (a : Audit) (planned : Except Fault (Option Dispatch)) :
    (a.add planned).faults = a.faults ++ faultOf planned := by
  obtain fault | _ | dispatch := planned <;> simp [add, faultOf]

theorem add_eq (a : Audit) (planned : Except Fault (Option Dispatch)) :
    a.add planned = ⟨a.dispatches ++ dispatchOf planned, a.faults ++ faultOf planned⟩ := by
  obtain fault | _ | dispatch := planned <;> simp [add, dispatchOf, faultOf]

end Audit

/-- The kinds of trackers, in the order in which an audit looks at them. -/
def TrackerKind.inOrder : List TrackerKind := [.blocking, .coordinate, .disseminate, .delegation]

section Planned

variable {txn : TxnId} {kind : TrackerKind} {p q : Probe} {planned : Except Fault (Option Dispatch)}

theorem Probe.Planned.txn_of_mem (h : Planned txn kind p q planned) {d : Dispatch}
    (hd : d ∈ Audit.dispatchOf planned) : d.txn = txn := by
  cases h with
  | quiet | failed => cases hd
  | escalated idle remediation fits =>
    rw [Audit.dispatchOf, List.mem_singleton] at hd
    rw [hd]

theorem Probe.Planned.fits_of_mem (h : Planned txn kind p q planned) {d : Dispatch}
    (hd : d ∈ Audit.dispatchOf planned) : d.remediation.fits d.tag.tracker = true := by
  cases h with
  | quiet | failed => cases hd
  | escalated idle remediation fits =>
    rw [Audit.dispatchOf, List.mem_singleton] at hd
    rw [hd]
    exact fits

/-- A tracker plans nothing under another tracker's tag. -/
theorem Probe.Planned.countP_other (h : Planned txn kind p q planned) {tag : Tag}
    (hk : tag.tracker ≠ kind) : (Audit.dispatchOf planned).countP (·.tag = tag) = 0 := by
  cases h with
  | quiet | failed => rfl
  | escalated idle remediation fits =>
    have : (⟨kind, p.generation + 1⟩ : Tag) ≠ tag := fun e => hk (e ▸ rfl)
    simp [Audit.dispatchOf, this]

end Planned

namespace TxnState

/-- The probe of a tracker. One that is not there does not investigate. -/
def probe (s : TxnState) : TrackerKind → Probe
  | .blocking => (s.blocking.map (·.probe)).getD {}
  | .coordinate => (s.coordinate.map (·.probe)).getD {}
  | .disseminate => (s.disseminate.map (·.probe)).getD {}
  | .delegation => (s.delegation.map (·.probe)).getD {}

@[simp] theorem probe_withBlocking (s : TxnState) (b : Blocking) (kind : TrackerKind) :
    (s.withBlocking b).probe kind = if kind = .blocking then b.probe else s.probe kind := by
  cases kind <;> rfl

@[simp] theorem probe_withCoordinate (s : TxnState) (c : Coordinate) (kind : TrackerKind) :
    (s.withCoordinate c).probe kind = if kind = .coordinate then c.probe else s.probe kind := by
  cases kind <;> rfl

@[simp] theorem probe_withDisseminate (s : TxnState) (d : Disseminate) (kind : TrackerKind) :
    (s.withDisseminate d).probe kind = if kind = .disseminate then d.probe else s.probe kind := by
  cases kind <;> rfl

@[simp] theorem probe_withDelegation (s : TxnState) (d : Delegation) (kind : TrackerKind) :
    (s.withDelegation d).probe kind = if kind = .delegation then d.probe else s.probe kind := by
  cases kind <;> rfl

/-- What an audit has a tracker plan. -/
def plan (s : TxnState) (cmd : Command) (topology : Topology) :
    TrackerKind → Except Fault (Option Dispatch)
  | .blocking => s.blocking.elim (.ok none) fun b => (b.audit s.txn cmd topology).2
  | .coordinate => s.coordinate.elim (.ok none) fun c => (c.audit s.txn cmd s.homeKey).2
  | .disseminate => s.disseminate.elim (.ok none) fun d => (d.audit s.txn cmd topology).2
  | .delegation => s.delegation.elim (.ok none) fun d => (d.audit s.txn cmd s.homeKey).2

/-- Whether a final completion is accepted. A recovery is not, once the tracker is done. -/
def accepts (s : TxnState) (tag : Tag) (completion : Completion) : Bool :=
  (s.probe tag.tracker).answers tag &&
    !(completion.isRecovery && s.coordinate.any (·.status = .done))

variable {s : TxnState} {cmd : Command} {topology : Topology} {a : Audit}

/-! ## Events

What an event does to the probe of one tracker it does to none of the others.
-/

theorem probe_blockingD (s : TxnState) : s.blockingD.probe = s.probe .blocking := by
  unfold blockingD probe
  cases s.blocking <;> rfl

theorem probe_coordinateD (s : TxnState) : s.coordinateD.probe = s.probe .coordinate := by
  unfold coordinateD probe
  cases s.coordinate <;> rfl

theorem probe_disseminateD (s : TxnState) : s.disseminateD.probe = s.probe .disseminate := by
  unfold disseminateD probe
  cases s.disseminate <;> rfl

theorem calm_withBlocking {b : Blocking} (h : s.blockingD.probe.Calm b.probe)
    (kind : TrackerKind) : (s.probe kind).Calm ((s.withBlocking b).probe kind) := by
  rw [probe_withBlocking]
  split
  · subst kind
    rwa [← probe_blockingD]
  · exact .refl _

theorem calm_withCoordinate {c : Coordinate} (h : s.coordinateD.probe.Calm c.probe)
    (kind : TrackerKind) : (s.probe kind).Calm ((s.withCoordinate c).probe kind) := by
  rw [probe_withCoordinate]
  split
  · subst kind
    rwa [← probe_coordinateD]
  · exact .refl _

theorem calm_withDisseminate {d : Disseminate} (h : s.disseminateD.probe.Calm d.probe)
    (kind : TrackerKind) : (s.probe kind).Calm ((s.withDisseminate d).probe kind) := by
  rw [probe_withDisseminate]
  split
  · subst kind
    rwa [← probe_disseminateD]
  · exact .refl _

theorem delegationD_calm_or_told (s : TxnState) (status : DelegationStatus) :
    (s.probe .delegation).Calm (s.delegationD status).probe ∨
      (status = .investigating ∧ (s.probe .delegation).Told (s.delegationD status).probe) := by
  unfold delegationD
  cases hd : s.delegation with
  | some d => simpa [probe, hd] using d.raise_calm_or_told status
  | none =>
    have e : ({ status } : Delegation).raise status = { status } := by
      obtain e | ⟨-, e⟩ := ({ status } : Delegation).raise_cases status <;> rw [e]
    simp only [Option.getD_none, e]
    by_cases hs : status = .investigating
    · exact .inr ⟨hs, by simp [probe, hd, Delegation.probe], by simp [Delegation.probe, hs]⟩
    · exact .inl ⟨by simp [probe, hd, Delegation.probe], by simp [Delegation.probe, hs]⟩

theorem calm_delegate (s : TxnState) {status : DelegationStatus} (h : status ≠ .investigating)
    (kind : TrackerKind) :
    (s.probe kind).Calm ((s.withDelegation (s.delegationD status)).probe kind) := by
  rw [probe_withDelegation]
  split
  · subst kind
    exact (s.delegationD_calm_or_told status).resolve_right fun hs => h hs.1
  · exact .refl _

/-! ## Audits -/

theorem auditBlocking_eq : s.auditBlocking cmd topology a =
    ({ s with blocking := s.blocking.map fun b => (b.audit s.txn cmd topology).1 },
      a.add (s.plan cmd topology .blocking)) := by
  unfold auditBlocking plan
  cases s with
  | mk txn homeKey coordinate disseminate blocking delegation => cases blocking <;> rfl

theorem auditCoordinate_eq (topology : Topology) : s.auditCoordinate cmd a =
    ({ s with coordinate := s.coordinate.map fun c => (c.audit s.txn cmd s.homeKey).1 },
      a.add (s.plan cmd topology .coordinate)) := by
  unfold auditCoordinate plan
  cases s with
  | mk txn homeKey coordinate disseminate blocking delegation => cases coordinate <;> rfl

theorem auditDisseminate_eq : s.auditDisseminate cmd topology a =
    ({ s with disseminate := s.disseminate.map fun d => (d.audit s.txn cmd topology).1 },
      a.add (s.plan cmd topology .disseminate)) := by
  unfold auditDisseminate plan
  cases s with
  | mk txn homeKey coordinate disseminate blocking delegation => cases disseminate <;> rfl

theorem auditDelegation_eq (topology : Topology) : s.auditDelegation cmd a =
    ({ s with delegation := s.delegation.map fun d => (d.audit s.txn cmd s.homeKey).1 },
      a.add (s.plan cmd topology .delegation)) := by
  unfold auditDelegation plan
  cases s with
  | mk txn homeKey coordinate disseminate blocking delegation => cases delegation <;> rfl

/-- An audit of the right command has every tracker plan on what it found. -/
theorem audit_eq (h : cmd.txn = s.txn) : s.audit cmd topology =
    ({ s with
        blocking := s.blocking.map fun b => (b.audit s.txn cmd topology).1
        coordinate := s.coordinate.map fun c => (c.audit s.txn cmd s.homeKey).1
        disseminate := s.disseminate.map fun d => (d.audit s.txn cmd topology).1
        delegation := s.delegation.map fun d => (d.audit s.txn cmd s.homeKey).1 },
      .ok (((({} : Audit).add (s.plan cmd topology .blocking)).add
        (s.plan cmd topology .coordinate)).add (s.plan cmd topology .disseminate)
        |>.add (s.plan cmd topology .delegation))) := by
  unfold audit
  simp only [h, ne_eq, not_true, if_false, auditBlocking_eq,
    auditCoordinate_eq topology, auditDisseminate_eq,
    auditDelegation_eq topology]
  rfl

theorem audit_planned (topology : Topology) (h : cmd.txn = s.txn) (kind : TrackerKind) :
    (s.probe kind).Planned s.txn kind ((s.audit cmd topology).1.probe kind)
      (s.plan cmd topology kind) := by
  rw [audit_eq h]
  cases kind with
  | blocking =>
    cases hb : s.blocking with
    | none => simpa [probe, plan, hb] using .quiet (.refl _)
    | some b => simpa [probe, plan, hb] using b.audit_planned s.txn cmd topology
  | coordinate =>
    cases hc : s.coordinate with
    | none => simpa [probe, plan, hc] using .quiet (.refl _)
    | some c => simpa [probe, plan, hc] using c.audit_planned s.txn cmd s.homeKey
  | disseminate =>
    cases hd : s.disseminate with
    | none => simpa [probe, plan, hd] using .quiet (.refl _)
    | some d => simpa [probe, plan, hd] using d.audit_planned s.txn cmd topology
  | delegation =>
    cases hd : s.delegation with
    | none => simpa [probe, plan, hd] using .quiet (.refl _)
    | some d => simpa [probe, plan, hd] using d.audit_planned s.txn cmd s.homeKey

/-- An audit of another transaction's command is refused. -/
theorem audit_wrong (h : cmd.txn ≠ s.txn) :
    s.audit cmd topology = (s, .error (.wrongTransaction cmd.txn s.txn)) := by
  simp [audit, h]

@[simp] theorem audit_txn : (s.audit cmd topology).1.txn = s.txn := by
  by_cases h : cmd.txn = s.txn
  · rw [audit_eq h]
  · rw [audit_wrong h]

variable {out : Audit}

/-- What an audit collects is what the trackers plan. -/
theorem dispatches_eq (h : cmd.txn = s.txn) (ho : (s.audit cmd topology).2 = .ok out) :
    out.dispatches = Audit.dispatchOf (s.plan cmd topology .blocking) ++
      Audit.dispatchOf (s.plan cmd topology .coordinate) ++
      Audit.dispatchOf (s.plan cmd topology .disseminate) ++
      Audit.dispatchOf (s.plan cmd topology .delegation) := by
  rw [audit_eq h] at ho
  cases ho
  simp

theorem mem_dispatches (h : cmd.txn = s.txn) (ho : (s.audit cmd topology).2 = .ok out)
    {d : Dispatch} :
    d ∈ out.dispatches ↔ ∃ kind, d ∈ Audit.dispatchOf (s.plan cmd topology kind) := by
  rw [dispatches_eq h ho]
  simp only [List.mem_append]
  constructor
  · rintro (((h | h) | h) | h) <;> exact ⟨_, h⟩
  · rintro ⟨kind, h⟩
    cases kind <;> simp [h]

theorem mem_faults (h : cmd.txn = s.txn) (ho : (s.audit cmd topology).2 = .ok out)
    {fault : Fault} :
    fault ∈ out.faults ↔ ∃ kind, s.plan cmd topology kind = .error fault := by
  have hf (kind : TrackerKind) : fault ∈ Audit.faultOf (s.plan cmd topology kind) ↔
      s.plan cmd topology kind = .error fault := by
    cases s.plan cmd topology kind with
    | error f => simp [Audit.faultOf, eq_comm]
    | ok d => simp [Audit.faultOf]
  rw [audit_eq h] at ho
  cases ho
  simp only [Audit.add_faults, List.nil_append, List.mem_append, hf]
  constructor
  · rintro (((h | h) | h) | h) <;> exact ⟨_, h⟩
  · rintro ⟨kind, h⟩
    cases kind <;> simp [h]

/-- An audit of the right command takes place and collects what the trackers plan, one after the
other. -/
theorem audit_collects (topology : Topology) (h : cmd.txn = s.txn) : (s.audit cmd topology).2 = .ok
    { dispatches := TrackerKind.inOrder.flatMap fun kind =>
        Audit.dispatchOf (s.plan cmd topology kind)
      faults := TrackerKind.inOrder.flatMap fun kind =>
        Audit.faultOf (s.plan cmd topology kind) } := by
  rw [audit_eq h]
  simp [Audit.add_eq, TrackerKind.inOrder]

/-- The dispatches under a tag come from the tracker that the tag names. -/
theorem countP_dispatches (h : cmd.txn = s.txn) (ho : (s.audit cmd topology).2 = .ok out)
    (tag : Tag) :
    out.dispatches.countP (·.tag = tag) =
      (Audit.dispatchOf (s.plan cmd topology tag.tracker)).countP (·.tag = tag) := by
  have other (kind : TrackerKind) (hk : tag.tracker ≠ kind) :
      (Audit.dispatchOf (s.plan cmd topology kind)).countP (·.tag = tag) = 0 :=
    (audit_planned topology h kind).countP_other hk
  rw [dispatches_eq h ho]
  simp only [List.countP_append]
  cases hk : tag.tracker <;> simp [hk, other]

/-! ## Completions -/

/-- What is dispatched after a completion. -/
def followups : Except Fault (Resolution Sequel) → List Dispatch
  | .ok (.resolved sequel) => sequel.followup.toList
  | _ => []

variable {tag : Tag} {completion : Completion}

/-- A completion of another kind than the tag's tracker takes changes nothing and is reported. -/
theorem complete_misfit (h : completion.fits tag.tracker = false) :
    s.complete tag completion = (s, .error (.wrongCompletion tag.tracker s.txn completion)) := by
  obtain ⟨kind, generation⟩ := tag
  cases kind <;> cases completion <;> first | rfl | cases h

theorem answers_of_accepts (h : s.accepts tag completion = true) :
    (s.probe tag.tracker).answers tag = true := by
  rw [accepts, Bool.and_eq_true] at h
  exact h.1

section Blocking

variable {b : Blocking} (hb : s.blocking = some b) (hk : tag.tracker = .blocking)

include hb hk

theorem fetched_settled (result : Except RemoteFault Known) :
    b.probe.Settled s.txn .blocking (b.probe.answers tag)
      ((s.complete tag (.fetched result)).1.probe .blocking)
      (s.complete tag (.fetched result)).2 := by
  simp only [complete, hk, hb, ← Blocking.accepts_eq]
  rcases b.fetched_cases s.txn tag result with
    ⟨ht, e⟩ | ⟨ht, _, -, e⟩ | ⟨ht, known, -, -, e⟩ | ⟨ht, _, -, -, he⟩
  · rw [e]
    exact .stale ht
  · rw [e]
    exact .ended ht none
  · have idle := ({ b with progress := .expected }.learn_calm known).eq_of_idle rfl
    simp only [e, probe, withBlocking, Option.map_some, Option.getD_some, idle]
    exact .ended ht none
  · obtain ⟨-, e⟩ | ⟨_, -, -, e⟩ | ⟨_, _, -, -, e⟩ := he <;> rw [e]
    · exact .failed ht _
    · exact .failed ht _
    · exact .followed ht (.invalidate _) rfl

theorem invalidated_settled (result : Except RemoteFault Token) :
    b.probe.Settled s.txn .blocking (b.probe.answers tag)
      ((s.complete tag (.invalidated result)).1.probe .blocking)
      (s.complete tag (.invalidated result)).2 := by
  simp only [complete, hk, hb, ← Blocking.accepts_eq]
  obtain ⟨ht, e⟩ | ⟨ht, _, rfl | rfl, e⟩ := b.invalidated_cases tag result <;> rw [e]
  · exact .stale ht
  · exact .ended ht none
  · exact .ended ht none

end Blocking

section Coordinate

variable {c : Coordinate} (hc : s.coordinate = some c) (hk : tag.tracker = .coordinate)

include hc hk

theorem fetchedToApply_settled (result : Except RemoteFault Known) :
    c.probe.Settled s.txn .coordinate (c.probe.answers tag)
      ((s.complete tag (.fetched result)).1.probe .coordinate)
      (s.complete tag (.fetched result)).2 := by
  simp only [complete, hk, hc, ← Coordinate.accepts_eq]
  obtain ⟨ht, e⟩ | ⟨ht, e⟩ := c.fetched_cases tag <;> rw [e]
  · exact .stale ht
  · exact .ended ht none

theorem recovered_settled (result : Except RemoteFault Token) :
    c.probe.Settled s.txn .coordinate (c.probe.answers tag && !(c.status = .done : Bool))
      ((s.complete tag (.recovered result)).1.probe .coordinate)
      (s.complete tag (.recovered result)).2 := by
  simp only [complete, hk, hc, ← Coordinate.accepts_eq]
  obtain ⟨ht, e⟩ | ⟨hs, ht, _, durable, e⟩ := c.recovered_cases tag result <;> rw [e]
  · exact .stale (by rcases ht with ht | ht <;> simp [ht])
  · exact .ended (by simp [hs, ht]) durable

end Coordinate

theorem roundFinished_settled {d : Disseminate} (hd : s.disseminate = some d)
    (hk : tag.tracker = .disseminate) :
    d.probe.Settled s.txn .disseminate (d.probe.answers tag)
      ((s.complete tag .roundFinished).1.probe .disseminate)
      (s.complete tag .roundFinished).2 := by
  simp only [complete, hk, hd]
  obtain ⟨h, e⟩ | ⟨hp, hg, e⟩ := d.roundFinished_cases tag <;> rw [e]
  · exact .stale (Probe.answers_eq_false (by simpa [Disseminate.probe] using h))
  · exact .ended (by simp [Probe.answers, Disseminate.probe, hp, hg]) none

theorem informedHome_settled {d : Delegation} (hd : s.delegation = some d)
    (hk : tag.tracker = .delegation) (result : Except RemoteFault Unit) :
    d.probe.Settled s.txn .delegation (d.probe.answers tag)
      ((s.complete tag (.informedHome result)).1.probe .delegation)
      (s.complete tag (.informedHome result)).2 := by
  simp only [complete, hk, hd]
  obtain ⟨h, e⟩ | ⟨hp, hg, _, rfl | rfl, e⟩ := d.informed_cases tag result <;> rw [e]
  · exact .stale (Probe.answers_eq_false (by simpa [Delegation.probe] using h))
  · exact .ended (by simp [Probe.answers, Delegation.probe, hp, hg]) none
  · exact .ended (by simp [Probe.answers, Delegation.probe, hp, hg]) none

/-- A final completion settles the tracker that its tag names. -/
theorem complete_settled (s : TxnState) (hf : completion.fits tag.tracker = true)
    (hfin : completion.isFinal = true) :
    (s.probe tag.tracker).Settled s.txn tag.tracker (s.accepts tag completion)
      ((s.complete tag completion).1.probe tag.tracker) (s.complete tag completion).2 := by
  cases hk : tag.tracker with
  | blocking =>
    rw [hk] at hf
    cases hb : s.blocking with
    | none =>
      cases completion <;> cases hf <;>
        simpa [complete, probe, accepts, hk, hb] using .stale (by simp [Probe.answers])
    | some b =>
      cases completion <;> cases hf
      · simpa [probe, accepts, hk, hb, Completion.isRecovery] using fetched_settled hb hk _
      · simpa [probe, accepts, hk, hb, Completion.isRecovery] using invalidated_settled hb hk _
  | coordinate =>
    rw [hk] at hf
    cases hc : s.coordinate with
    | none =>
      cases completion <;> cases hf <;>
        simpa [complete, probe, accepts, hk, hc] using .stale (by simp [Probe.answers])
    | some c =>
      cases completion <;> cases hf
      · simpa [probe, accepts, hk, hc, Completion.isRecovery] using recovered_settled hc hk _
      · simpa [probe, accepts, hk, hc, Completion.isRecovery] using fetchedToApply_settled hc hk _
  | disseminate =>
    rw [hk] at hf
    cases hd : s.disseminate with
    | none =>
      cases completion <;> cases hf <;> cases hfin
      simpa [complete, probe, accepts, hk, hd] using .stale (by simp [Probe.answers])
    | some d =>
      cases completion <;> cases hf <;> cases hfin
      simpa [probe, accepts, hk, hd, Completion.isRecovery] using roundFinished_settled hd hk
  | delegation =>
    rw [hk] at hf
    cases hd : s.delegation with
    | none =>
      cases completion <;> cases hf
      simpa [complete, probe, accepts, hk, hd] using .stale (by simp [Probe.answers])
    | some d =>
      cases completion <;> cases hf
      simpa [probe, accepts, hk, hd, Completion.isRecovery] using informedHome_settled hd hk _

theorem disseminate_of_fits {node : NodeId}
    (h : Completion.fits (.acknowledged node) tag.tracker = true) :
    tag.tracker = .disseminate := by
  cases hk : tag.tracker <;> rw [hk] at h <;> first | rfl | cases h

theorem complete_stale_iff (s : TxnState) (hf : completion.fits tag.tracker = true)
    (hfin : completion.isFinal = true) :
    (s.complete tag completion).2 = .ok .stale ↔ s.accepts tag completion = false := by
  have settled := s.complete_settled hf hfin
  generalize (s.complete tag completion).2 = r at settled ⊢
  generalize (s.complete tag completion).1.probe tag.tracker = q at settled
  cases settled with
  | stale refused => simp [refused]
  | ended accepted | followed accepted | failed accepted => simp [accepted]

/-- An acknowledgement begins no investigation. -/
theorem complete_acknowledged (s : TxnState) (tag : Tag) (node : NodeId) (kind : TrackerKind) :
    (s.probe kind).Calm ((s.complete tag (.acknowledged node)).1.probe kind) := by
  cases hf : Completion.fits (.acknowledged node) tag.tracker with
  | false =>
    rw [complete_misfit hf]
    exact .refl _
  | true =>
    have hk := disseminate_of_fits hf
    simp only [complete, hk]
    cases hd : s.disseminate with
    | none => exact .refl _
    | some d =>
      by_cases h : kind = .disseminate
      · simpa [h, probe, hd, withDisseminate] using d.acknowledged_calm node
      · simpa [h] using .refl _

@[simp] theorem followups_plain (r : Resolution Unit) : followups (.ok (plain r)) = [] := by
  cases r <;> rfl

theorem followups_acknowledged (s : TxnState) (tag : Tag) (node : NodeId) :
    followups (s.complete tag (.acknowledged node)).2 = [] := by
  cases hf : Completion.fits (.acknowledged node) tag.tracker with
  | false =>
    rw [complete_misfit hf]
    rfl
  | true =>
    simp only [complete, disseminate_of_fits hf]
    cases s.disseminate with
    | none => rfl
    | some d => exact followups_plain _

/-- What follows a completion is dispatched by the tracker that took it. -/
theorem followups_sound {d : Dispatch} (hd : d ∈ followups (s.complete tag completion).2) :
    d.tag.tracker = tag.tracker ∧ d.txn = s.txn ∧ d.remediation.fits tag.tracker = true := by
  cases hf : completion.fits tag.tracker with
  | false =>
    rw [complete_misfit hf] at hd
    cases hd
  | true =>
    cases hfin : completion.isFinal with
    | false =>
      cases completion <;> cases hfin
      rw [followups_acknowledged] at hd
      cases hd
    | true =>
      have settled := s.complete_settled hf hfin
      generalize (s.complete tag completion).2 = r at settled hd
      generalize (s.complete tag completion).1.probe tag.tracker = q at settled
      cases settled with
      | stale | ended | failed => cases hd
      | followed accepted remediation fits =>
        simp only [followups, Option.toList_some, List.mem_singleton] at hd
        rw [hd]
        exact ⟨rfl, rfl, fits⟩

/-- A completion concerns no other tracker than the one that its tag names. -/
theorem complete_other (s : TxnState) (completion : Completion) {kind : TrackerKind}
    (h : kind ≠ tag.tracker) : (s.complete tag completion).1.probe kind = s.probe kind := by
  unfold complete
  split <;> (try split) <;> (try split) <;> simp_all

@[simp] theorem complete_txn (s : TxnState) (tag : Tag) (completion : Completion) :
    (s.complete tag completion).1.txn = s.txn := by
  unfold complete
  split <;> (try split) <;> (try split) <;> rfl

end TxnState

end TxnLiveness
