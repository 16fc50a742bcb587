import TxnLiveness.Proofs.Shard.Fault
import TxnLiveness.Proofs.Shard.Growth
/-!
# Finished tracking is final

A tracker finishes when its status is done, or safe where it delegates. It may do so in the middle
of an investigation, whose completion is still to come, and statuses and notices of durability keep
coming in as well. None of them has it start over.
-/

namespace TxnLiveness

/-! ## Single trackers -/

namespace Coordinate

variable {c : Coordinate}

theorem done_act (h : c.status = .done) (a : Act) : (c.act a).status = .done :=
  Chain.le_antisymm (le_done _) (h ▸ (c.grows_act a).status)

theorem audit_of_done (h : c.status = .done) (hf : c.Finished) (txn : TxnId) (cmd : Command)
    (homeKey : Option Key) : (c.audit txn cmd homeKey).2 = .ok none := by
  rcases c.audit_cases txn cmd homeKey with ⟨-, e⟩ | ⟨hp, _⟩ | ⟨hp, _⟩
  · rw [e]
  · obtain h | h := hf h <;> rw [h] at hp <;> cases hp
  · obtain h | h := hf h <;> rw [h] at hp <;> cases hp

theorem fetched_of_done (h : c.status = .done) (hf : c.Finished) (tag : Tag) :
    c.fetched tag = (c, .stale) := by
  obtain ⟨-, e⟩ | ⟨ha, -⟩ := c.fetched_cases tag
  · exact e
  · rw [c.accepts_eq, TxnState.not_answers_of_done hf h] at ha
    cases ha

theorem recovered_of_done (h : c.status = .done) (tag : Tag) (result : Except RemoteFault Token) :
    c.recovered tag result = (c, .stale) := by
  obtain ⟨-, e⟩ | ⟨hs, -⟩ := c.recovered_cases tag result
  · exact e
  · exact absurd h hs

end Coordinate

namespace Disseminate

/-- Once the status is done, so is the progress. -/
def Finished (d : Disseminate) : Prop := d.status = .done → d.progress = .done

variable {d : Disseminate}

theorem finished_settle (h : d.Finished) : d.settle.Finished := by
  obtain ⟨e, -⟩ | ⟨_, -, -, e⟩ := d.settle_cases <;> rw [e]
  · exact h
  · exact fun _ => rfl

theorem finished_persisted (h : d.Finished) (nodes : SortedSet NodeId) :
    (d.persisted nodes).Finished := by
  unfold Disseminate.persisted
  split
  · exact finished_settle h
  · exact h

theorem finished_ready (h : d.Finished) (cmd : Command) (topology : Topology) :
    (d.ready cmd topology).Finished := by
  obtain ⟨_, -, -, e⟩ | ⟨-, -, e⟩ | ⟨-, nodes, -, e⟩ := d.ready_cases cmd topology <;> rw [e]
  · exact h
  · exact h
  · exact List.foldlRecOn _ _ h fun d' hd set _ => finished_persisted hd set

theorem finished_persistedWhenReady (h : d.Finished) (nodes : SortedSet NodeId) :
    (d.persistedWhenReady nodes).Finished := by
  unfold persistedWhenReady
  split
  · exact finished_persisted h nodes
  · exact h

theorem finished_durable (d : Disseminate) :
    Finished { d with status := .durable, progress := .expected } := fun h => nomatch h

theorem finished_audit (h : d.Finished) (txn : TxnId) (cmd : Command) (topology : Topology) :
    (d.audit txn cmd topology).1.Finished := by
  obtain ⟨-, e⟩ | ⟨-, _, rfl, hcases⟩ := d.audit_cases txn cmd topology
  · rwa [e]
  · have ready := finished_ready h cmd topology
    generalize d.ready cmd topology = r at ready hcases
    obtain ⟨-, e⟩ | ⟨l, -, ⟨-, e⟩ | ⟨-, -, e⟩ | ⟨hp, -, _, e⟩ | ⟨hp, -, _, _, -, -, e⟩⟩ :=
      hcases <;> rw [e]
    · exact ready
    · exact fun hs => by simp [ready hs, Progress.advance]
    · exact fun _ => rfl
    · exact fun hs => by simp [ready hs] at hp
    · exact fun hs => by simp [ready hs] at hp

theorem finished_act (h : d.Finished) (a : Act) : (d.act a).Finished := by
  cases a with
  | durableGlobally cmd topology nodes =>
    rcases d.durableGlobally_cases cmd topology nodes with
      ⟨-, e⟩ | ⟨-, -, e⟩ | ⟨-, set, -, e⟩ <;> rw [act, e]
    · exact h
    · exact d.finished_durable
    · exact finished_persistedWhenReady (finished_ready d.finished_durable cmd topology) set
  | durableLocally node =>
    obtain ⟨-, e⟩ | ⟨-, e⟩ := d.durableLocally_cases node <;> rw [act, e]
    · exact h
    · exact finished_persistedWhenReady d.finished_durable _
  | audit txn cmd topology => exact finished_audit h txn cmd topology
  | acknowledged node =>
    obtain ⟨-, e⟩ | ⟨-, l, -, e⟩ := d.acknowledged_cases node <;> rw [act, e]
    · exact h
    · exact finished_settle h
  | roundFinished tag =>
    obtain ⟨-, e⟩ | ⟨hp, -, e⟩ := d.roundFinished_cases tag <;> rw [act, e]
    · exact h
    · exact fun hs => by simp [h hs] at hp

theorem done_act (h : d.status = .done) (a : Act) : (d.act a).status = .done :=
  Chain.le_antisymm (le_done _) (h ▸ (d.grows_act a).status)

theorem audit_of_done (h : d.status = .done) (txn : TxnId) (cmd : Command) (topology : Topology) :
    (d.audit txn cmd topology).2 = .ok none := by
  obtain ⟨-, e⟩ | ⟨hs, -⟩ := d.audit_cases txn cmd topology
  · rw [e]
  · rw [h] at hs
    cases hs

theorem acknowledged_of_done (h : d.status = .done) (node : NodeId) :
    d.acknowledged node = (d, .stale) := by
  obtain ⟨-, e⟩ | ⟨hs, -⟩ := d.acknowledged_cases node
  · exact e
  · exact absurd h hs

theorem roundFinished_of_done (h : d.status = .done) (hf : d.Finished) (tag : Tag) :
    d.roundFinished tag = (d, .stale) := by
  obtain ⟨-, e⟩ | ⟨hp, -⟩ := d.roundFinished_cases tag
  · exact e
  · rw [hf h] at hp
    cases hp

end Disseminate

namespace Delegation

variable {d : Delegation}

/-- Whether the home shard is known to be aware, or being told. -/
def Settled (d : Delegation) : Prop := d.status = .safe ∨ d.status = .investigating

/-- No status is above safe or investigating, nor is either above the other. -/
theorem raise_of_settled (h : d.Settled) (status : DelegationStatus) : d.raise status = d := by
  unfold raise
  obtain h | h := h <;> rw [h] <;> cases status <;> rfl

theorem audit_of_settled (h : d.Settled) (txn : TxnId) (cmd : Command) (homeKey : Option Key) :
    d.audit txn cmd homeKey = (d, .ok none) := by
  obtain h | h := h <;> simp [audit, h]

theorem informed_of_safe (h : d.status = .safe) (tag : Tag) (result : Except RemoteFault Unit) :
    d.informed tag result = (d, .stale) := by
  simp [informed, h]

end Delegation

/-! ## One state -/

namespace TxnState

/-- Whether a tracker has finished. The blocking tracker never does, as more may come to wait. -/
def Concluded (s : TxnState) : TrackerKind → Prop
  | .coordinate => s.coordinateD.status = .done
  | .disseminate => s.disseminateD.status = .done
  | .delegation => ∃ d, s.delegation = some d ∧ d.status = .safe
  | .blocking => False

variable {s : TxnState} {kind : TrackerKind}

theorem delegation_of_safe {d : Delegation} (h : s.delegation = some d) (hs : d.status = .safe)
    (a : Act) : (s.act a).delegation = some d := by
  rw [delegation_act]
  cases a with
  | delegate status => simp [delegationD, h, Delegation.raise_of_settled (.inl hs)]
  | audit cmd topology => simp [h, Delegation.audit_of_settled (.inl hs)]
  | complete tag completion =>
    have handed : d.handed tag completion = d := by
      cases completion <;> simp [Delegation.handed, Delegation.informed_of_safe hs]
    simp [h, handed]
  | _ => exact h

theorem concluded_act (h : s.Concluded kind) (a : Act) : (s.act a).Concluded kind := by
  cases kind with
  | blocking => exact h
  | coordinate =>
    exact s.coordinateD_keeps (P := (·.status = .done))
      (fun _ a hc => Coordinate.done_act hc a) h a
  | disseminate =>
    exact s.disseminateD_keeps (P := (·.status = .done))
      (fun _ a hd => Disseminate.done_act hd a) h a
  | delegation =>
    obtain ⟨d, hd, hs⟩ := h
    exact ⟨d, delegation_of_safe hd hs a, hs⟩

/-- A tracker that has finished plans nothing. -/
theorem plan_of_concluded (h : s.Concluded kind) (hf : s.Finished) (cmd : Command)
    (topology : Topology) : s.plan cmd topology kind = .ok none := by
  cases kind with
  | blocking => exact h.elim
  | coordinate =>
    rw [plan_coordinate]
    exact Coordinate.audit_of_done h (finished_coordinateD hf) _ _ _
  | disseminate =>
    rw [plan_disseminate]
    exact Disseminate.audit_of_done h _ _ _
  | delegation =>
    obtain ⟨d, hd, hs⟩ := h
    simp [plan, hd, Delegation.audit_of_settled (.inl hs)]

variable {tag : Tag} {completion : Completion}

/-- A completion for a tracker that has finished is stale. -/
theorem complete_of_concluded (h : s.Concluded tag.tracker) (hf : s.Finished)
    (hd : s.disseminateD.Finished) (fits : completion.fits tag.tracker = true) :
    s.complete tag completion = (s, .ok .stale) := by
  obtain ⟨txn, homeKey, coordinate, disseminate, blocking, delegation⟩ := s
  cases hk : tag.tracker <;> rw [hk] at h fits
  case blocking => exact h.elim
  case coordinate =>
    cases coordinate with
    | none => cases h
    | some c =>
      have done : c.status = .done := h
      cases completion <;> cases fits
      · simp [complete, hk, Coordinate.recovered_of_done done, withCoordinate]
      · simp [complete, hk, Coordinate.fetched_of_done done (hf c rfl), withCoordinate, plain]
  case disseminate =>
    cases disseminate with
    | none => cases h
    | some d =>
      have done : d.status = .done := h
      cases completion <;> cases fits
      · simp [complete, hk, Disseminate.acknowledged_of_done done, withDisseminate, plain]
      · simp [complete, hk, Disseminate.roundFinished_of_done done hd, withDisseminate, plain]
  case delegation =>
    obtain ⟨d, rfl, hs⟩ := h
    cases completion <;> cases fits
    simp [complete, hk, Delegation.informed_of_safe hs, withDelegation, plain]

end TxnState

/-! ## One log -/

namespace ShardLog

/-- A completion for a tracker that has finished does nothing. One that the tracker does not take is
refused, and any other is stale. -/
theorem complete_of_concluded {log : ShardLog} {txn : TxnId} {tag : Tag} (sound : log.Sound)
    (h : (log.stateD txn).Concluded tag.tracker)
    (hd : (log.stateD txn).disseminateD.Finished) (completion : Completion) :
    (completion.fits tag.tracker = true → (log.complete txn tag completion).2 = .ok .stale) ∧
      (log.complete txn tag completion).1.get? txn = log.get? txn := by
  unfold complete
  cases hs : log.get? txn with
  | none => exact ⟨fun _ => rfl, hs⟩
  | some s =>
    obtain ⟨-, hf⟩ := sound txn s hs
    rw [stateD_of_get? hs] at h hd
    cases fits : completion.fits tag.tracker with
    | true => simp [TxnState.complete_of_concluded h hf hd fits]
    | false => simp [TxnState.complete_misfit fits]

section Runs

variable {shard : ShardId} {node : NodeId}

theorem disseminate_finished_after (txn : TxnId) (run : List Act) :
    (((machine shard node).after run).stateD txn).disseminateD.Finished :=
  keeps_after (P := (·.disseminateD.Finished)) txn (fun hs => nomatch hs)
    (fun s a h => s.disseminateD_keeps (P := Disseminate.Finished)
      (fun _ a hd => Disseminate.finished_act hd a) h a) run

/-- A tracker that has finished stays so, whatever is done to the log. No audit has it dispatch or
fail anything any more, and no completion for it changes the state of the transaction. -/
theorem finished_is_final {past later : List Act} {txn : TxnId} {kind : TrackerKind}
    (since : past <:+ later)
    (h : (((machine shard node).after past).stateD txn).Concluded kind) :
    (((machine shard node).after later).stateD txn).Concluded kind ∧
      (∀ topology cmd, cmd.txn = txn →
        ¬ ((machine shard node).after later).Escalates topology cmd kind) ∧
      ∀ tag completion, tag.tracker = kind →
        (completion.fits kind = true →
          (((machine shard node).after later).complete txn tag completion).2 = .ok .stale) ∧
        (((machine shard node).after later).complete txn tag completion).1.get? txn =
          ((machine shard node).after later).get? txn := by
  have sound := sound_after shard node later
  have concluded : (((machine shard node).after later).stateD txn).Concluded kind :=
    keeps_since (P := (·.Concluded kind)) (fun _ a hs => TxnState.concluded_act hs a) since h
  refine ⟨concluded, ?_, ?_⟩
  · rintro topology cmd rfl escalates
    exact (escalates_iff sound topology cmd kind).1 escalates
      (TxnState.plan_of_concluded concluded (sound_stateD sound _).2 cmd topology)
  · rintro tag completion rfl
    exact complete_of_concluded sound concluded (disseminate_finished_after txn later) completion

end Runs

/-- A recovery is under way when the transaction is found durable. Then later statuses, audits and
the recovery itself come in. -/
theorem finished_amid_recovery :
    let txn : TxnId := ⟨1, 1, 1⟩
    let topology : Topology := ⟨1, fun _ => true, fun _ _ _ => ∅⟩
    let cmd : Command := { txn, status := .applied, homeKey := some ⟨[104]⟩ }
    let past : List Act := [.record topology .home (.durableGlobally cmd none),
      .audit topology cmd, .audit topology cmd,
      .record topology .home (.witnessed txn ⟨[104]⟩)]
    let tag : Tag := ⟨.coordinate, 1⟩
    let recovered : Completion := .recovered (.ok { durability := .durable })
    let later : List Act := .complete txn tag recovered :: .audit topology cmd ::
      .record topology .home (.readyToExecute cmd) :: past
    let log := (machine 0 1).after later
    (((machine 0 1).after past).stateD txn).Concluded .coordinate ∧
      (log.stateD txn).Concluded .coordinate ∧ ¬ log.Escalates topology cmd .coordinate ∧
      (log.complete txn tag recovered).2 = .ok .stale := by
  intro txn topology cmd past tag recovered later log
  have h : (((machine 0 1).after past).stateD txn).Concluded .coordinate := rfl
  have since : past <:+ later := List.suffix_append [_, _, _] past
  have final := finished_is_final since h
  exact ⟨h, final.1, final.2.1 topology cmd rfl, (final.2.2 tag recovered rfl).1 rfl⟩

end ShardLog

end TxnLiveness
