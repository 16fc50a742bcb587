import TxnLiveness.Proofs.Shard.Blocked
import TxnLiveness.Proofs.Shard.Fault
/-!
# Faults that never occur

Trackers check what they rely on and fail if it is not so. In runs of a log it always is: progress
is expected only of a status in which there is something to recover, a tracker that is blocked has
been told a key, and a fetch that is answered was addressed to someone. All that an audit can fail
for is something that the audited command does not tell.
-/

namespace TxnLiveness

/-- Whether what a fault misses is missing from the audited command. -/
def Fault.OwedTo (cmd : Command) : Fault → Prop
  | .recoverWithoutHome txn | .informWithoutHome txn => txn = cmd.txn ∧ cmd.homeKey = none
  | .durableWithoutRoute txn | .readyWithoutRoute txn => txn = cmd.txn ∧ cmd.route = none
  | .durableWithoutExecuteAt txn | .readyWithoutExecuteAt txn =>
    txn = cmd.txn ∧ cmd.executeAt = none
  | _ => False

namespace Completion

/-- Whether the completion is of the kind that ends the remediation, or a part of it. -/
def suits : Completion → Remediation → Bool
  | .recovered _, .recover .. | .fetched _, .fetchToApply .. | .fetched _, .fetchKnowledge ..
  | .invalidated _, .invalidate .. | .informedHome _, .informHome ..
  | .acknowledged _, .announceDurable .. | .roundFinished, .announceDurable .. => true
  | _, _ => false

theorem fits_of_suits {c : Completion} {r : Remediation} {kind : TrackerKind}
    (h : c.suits r = true) (hr : r.fits kind = true) : c.fits kind = true := by
  cases c <;> cases r <;> simp only [suits, reduceCtorEq] at h <;> cases kind <;>
    simp_all [Remediation.fits, fits]

/-- A fetch that a blocking tracker dispatched is a fetch of knowledge. -/
theorem asked_of_suits {result : Except RemoteFault Known} {r : Remediation}
    (h : suits (.fetched result) r = true) (hr : r.fits .blocking = true) :
    ∃ participants, r.asked? = some participants := by
  cases r with
  | fetchKnowledge => exact ⟨_, rfl⟩
  | fetchToApply => cases hr
  | recover | announceDurable | invalidate | informHome => cases h

end Completion

/-! ## The coordinate tracker -/

namespace Coordinate

/-- Progress is expected only where there is something to recover. -/
def Justified (c : Coordinate) : Prop :=
  c.progress = .noneExpected ∨ c.progress = .done ∨ c.status = .uncommitted ∨
    c.status = .readyToExecute

variable {c : Coordinate}

theorem reach_justified (h : c.Justified) (status : CoordinateStatus) :
    (c.reach status status.entered).Justified := by
  obtain e | ⟨-, e⟩ := c.reach_cases status status.entered <;> rw [e]
  · exact h
  · cases status <;> simp [Justified, CoordinateStatus.entered]

theorem durableGlobally_justified (h : c.Justified) : c.durableGlobally.Justified := by
  obtain ⟨-, e⟩ | ⟨-, e⟩ := c.durableGlobally_cases <;> rw [e]
  · exact h
  · exact .inl rfl

theorem status_of_justified (h : c.Justified) (hp : c.progress ≠ .noneExpected)
    (hd : c.progress ≠ .done) : c.status = .uncommitted ∨ c.status = .readyToExecute :=
  (h.resolve_left hp).resolve_left hd

theorem audit_justified (h : c.Justified) (txn : TxnId) (cmd : Command) (homeKey : Option Key) :
    (c.audit txn cmd homeKey).1.Justified := by
  have overdue (hp : c.progress = .noProgress) :=
    status_of_justified h (by simp [hp]) (by simp [hp])
  rcases c.audit_cases txn cmd homeKey with
    ⟨-, e⟩ | ⟨hp, _, -, e⟩ | ⟨hp, _, -, e⟩ <;> rw [e]
  · obtain hp | hp | hs := h
    · exact .inl (by simp [hp, Progress.advance])
    · exact .inr (.inl (by simp [hp, Progress.advance]))
    · exact .inr (.inr hs)
  · exact .inr (.inr (overdue hp))
  · exact .inr (.inr (overdue hp))

theorem status_of_accepts (h : c.Justified) {tag : Tag} (ht : c.accepts tag = true) :
    c.status = .uncommitted ∨ c.status = .readyToExecute := by
  simp only [accepts, Bool.and_eq_true, decide_eq_true_eq] at ht
  exact status_of_justified h (by simp [ht.1]) (by simp [ht.1])

theorem fetched_justified (h : c.Justified) (tag : Tag) : (c.fetched tag).1.Justified := by
  have accepted (ht : c.accepts tag = true) := status_of_accepts h ht
  obtain ⟨-, e⟩ | ⟨ht, e⟩ := c.fetched_cases tag <;> rw [e]
  · exact h
  · exact .inr (.inr (accepted ht))

theorem recovered_justified (h : c.Justified) (tag : Tag) (result : Except RemoteFault Token) :
    (c.recovered tag result).1.Justified := by
  have accepted (ht : c.accepts tag = true) := status_of_accepts h ht
  obtain ⟨-, e⟩ | ⟨-, ht, _, _, e⟩ := c.recovered_cases tag result <;> rw [e]
  · exact h
  · exact .inr (.inr (accepted ht))

end Coordinate

namespace TxnState

variable {s : TxnState}

theorem justified_recordable {a : Act} (ha : s.Recordable a) (h : s.coordinateD.Justified) :
    (s.act a).coordinateD.Justified := by
  cases a with
  | reach status progress =>
    rw [show progress = status.entered from ha]
    exact Coordinate.reach_justified h status
  | reachFor cmd status progress =>
    rw [show progress = status.entered from ha]
    exact Coordinate.reach_justified h status
  | stopCoordinating => exact Coordinate.durableGlobally_justified h
  | observe | audit | complete => cases ha
  | _ => exact h

theorem justified_audit (h : s.coordinateD.Justified) (cmd : Command) (topology : Topology) :
    (s.act (.audit cmd topology)).coordinateD.Justified := by
  rw [coordinateD_act, onCoordinate]
  split
  · exact Coordinate.audit_justified h _ _ _
  · exact h

theorem justified_complete (h : s.coordinateD.Justified) (tag : Tag) (completion : Completion) :
    (s.act (.complete tag completion)).coordinateD.Justified := by
  rw [coordinateD_act, onCoordinate]
  split
  · cases completion with
    | fetched result => exact Coordinate.fetched_justified h tag
    | recovered result => exact Coordinate.recovered_justified h tag result
    | _ => exact h
  · exact h

/-- An audit fails only for what the audited command does not tell. -/
theorem fault_owed (hc : s.coordinateD.Justified) (hb : s.blockingD.Named) {cmd : Command}
    {topology : Topology} (own : cmd.txn = s.txn) {kind : TrackerKind} {fault : Fault}
    (h : s.plan cmd topology kind = .error fault) : fault.OwedTo cmd := by
  have missing {key : Option Key} (hk : key.or cmd.homeKey = none) : cmd.homeKey = none := by
    simpa using (Option.or_eq_none_iff.1 hk).2
  cases kind with
  | blocking =>
    obtain ⟨planned, e, -⟩ := Blocking.audit_step hb s.txn cmd topology
    rw [plan_blocking, e] at h
    cases h
  | coordinate =>
    rw [plan_coordinate] at h
    obtain ⟨hp, h⟩ := Coordinate.fault_of_audit h
    have hs := Coordinate.status_of_justified hc (by simp [hp]) (by simp [hp])
    obtain ⟨-, hn⟩ | ⟨rfl, hx, -⟩ | ⟨rfl, hx⟩ | ⟨rfl, hx⟩ := Coordinate.fault_of_plan h
    · obtain hs | hs := hs <;> simp [hs] at hn
    · exact ⟨own.symm, hx⟩
    · exact ⟨own.symm, hx⟩
    · exact ⟨own.symm, missing hx⟩
  | disseminate =>
    rw [plan_disseminate] at h
    obtain ⟨rfl, hx⟩ | ⟨rfl, hx⟩ := Disseminate.fault_of_audit h
    · exact ⟨own.symm, hx⟩
    · exact ⟨own.symm, hx⟩
  | delegation =>
    unfold plan at h
    cases hd : s.delegation with
    | none => simp [hd] at h
    | some d =>
      rw [hd, Option.elim_some] at h
      obtain ⟨rfl, hx⟩ := Delegation.fault_of_audit h
      exact ⟨own.symm, missing hx⟩

/-- A completion of the right kind fails only if it ends a fetch that was addressed to nobody. -/
theorem fault_of_complete {tag : Tag} {completion : Completion} {fault : Fault}
    (hf : completion.fits tag.tracker = true)
    (h : (s.complete tag completion).2 = .error fault) :
    ∃ result, tag.tracker = .blocking ∧ completion = .fetched result ∧
      (s.blockingD.fetched s.txn tag result).2 = .error fault := by
  unfold complete at h
  split at h
  case h_3 result hk =>
    split at h
    · cases h
    · rename_i b hb
      split at h <;> cases h
      rename_i e
      exact ⟨result, hk, rfl, by simp [blockingD, hb, e]⟩
  case h_8 =>
    unfold Completion.fits at hf
    split at hf <;> simp_all
  all_goals
    -- Whatever else ends may be stale, and cannot fail.
    (try split at h) <;> (try split at h) <;> cases h

end TxnState

/-- A fetch that is answered fails only if nobody is remembered to have been asked, or no key. -/
theorem Blocking.fault_of_fetched {b : Blocking} {txn : TxnId} {tag : Tag}
    {result : Except RemoteFault Known} {fault : Fault}
    (h : (b.fetched txn tag result).2 = .error fault) :
    b.accepts tag = true ∧ ∀ participants, b.asked = some participants →
      participants.someKey? = none := by
  rcases b.fetched_cases txn tag result with
    ⟨-, e⟩ | ⟨-, _, -, e⟩ | ⟨-, known, -, -, e⟩ | ⟨ht, _, -, -, he⟩
  · simp [e] at h
  · simp [e] at h
  · simp [e] at h
  · obtain ⟨ha, -⟩ | ⟨asked, ha, hk, -⟩ | ⟨_, _, -, -, e⟩ := he
    · exact ⟨ht, by simp [ha]⟩
    · exact ⟨ht, by simp [ha, hk]⟩
    · simp [e] at h

/-! ## Runs -/

namespace ShardLog

variable {shard : ShardId} {node : NodeId} {txn : TxnId}

theorem justified_after (shard : ShardId) (node : NodeId) (txn : TxnId) (run : List Act) :
    (((machine shard node).after run).stateD txn).coordinateD.Justified :=
  holds_after (P := (·.coordinateD.Justified)) txn (.inl rfl)
    (fun _ _ ha h => TxnState.justified_recordable ha h)
    (fun _ cmd topology h => TxnState.justified_audit h cmd topology)
    (fun _ tag completion h => TxnState.justified_complete h tag completion) run

theorem fits_of_mem_dispatchedIn {run : List Act} {d : Dispatch}
    (hd : d ∈ dispatchedIn shard node run) : d.remediation.fits d.tag.tracker = true := by
  induction run with
  | nil => cases hd
  | cons a past ih =>
    obtain hd | hd := List.mem_append.1 hd
    · obtain ⟨_, _, -, -, hd⟩ | ⟨_, _, -, hd⟩ := mem_dispatched (sound_after shard node past) hd
      · exact TxnState.fits_of_mem_dispatched hd
      · exact TxnState.fits_of_mem_dispatched hd
    · exact ih hd

/-- A fetch that is taken remembers whom it asked, and has a key to go on with. -/
theorem asked_of_accepts {past : List Act} {d : Dispatch} (hd : d ∈ dispatchedIn shard node past)
    {participants : Participants} (ha : d.remediation.asked? = some participants)
    (ht : (blockingAfter shard node d.txn past).accepts d.tag = true) :
    (blockingAfter shard node d.txn past).asked = some participants ∧
      participants.someKey? ≠ none := by
  have traced := traced_after shard node d.txn past
  have sent : d ∈ dispatchedFor shard node d.txn past := List.mem_filter.2 ⟨hd, by simp⟩
  have hk : d.tag.tracker = .blocking := by
    have fits := fits_of_mem_dispatchedIn hd
    cases hr : d.remediation <;> rw [hr] at ha <;> cases ha
    rw [hr] at fits
    exact Remediation.fits_fetchKnowledge.1 fits
  simp only [Blocking.accepts, Bool.and_eq_true, decide_eq_true_eq] at ht
  have tag : d.tag = ⟨.blocking, (blockingAfter shard node d.txn past).generation⟩ := by
    rw [ht.2, ← hk]
  have asked := (traced.asked ht.1 d sent tag).trans ha
  exact ⟨asked, traced.key participants asked⟩

/-- A completion of what was dispatched is never refused, late or repeated as it may be. -/
theorem complete_ok {past : List Act} {d : Dispatch} (hd : d ∈ dispatchedIn shard node past)
    {completion : Completion} (hc : completion.suits d.remediation = true) :
    ∃ resolution,
      (((machine shard node).after past).complete d.txn d.tag completion).2 = .ok resolution := by
  have fits := fits_of_mem_dispatchedIn hd
  obtain ⟨-, e⟩ | e := ((machine shard node).after past).complete_result d.txn d.tag completion
  · exact ⟨_, e⟩
  · rw [e]
    cases hr : ((((machine shard node).after past).stateD d.txn).complete d.tag completion).2 with
    | ok resolution => exact ⟨resolution, rfl⟩
    | error fault =>
      obtain ⟨result, hk, rfl, hf⟩ :=
        TxnState.fault_of_complete (Completion.fits_of_suits hc fits) hr
      obtain ⟨accepted, nobody⟩ := Blocking.fault_of_fetched hf
      obtain ⟨participants, ha⟩ := Completion.asked_of_suits hc (hk ▸ fits)
      obtain ⟨asked, key⟩ := asked_of_accepts hd ha accepted
      exact absurd (nobody participants asked) key

/-- Nothing that a log checks of itself ever fails, in whatever order it is told events, audits
transactions and is handed completions. -/
structure Unfailing (shard : ShardId) (node : NodeId) (past : List Act) : Prop where
  own : ∀ txn s, ((machine shard node).after past).get? txn = some s → s.txn = txn
  audit : ∀ topology cmd, ∃ out,
    (((machine shard node).after past).audit topology cmd).2 = .ok out ∧
      ∀ fault ∈ out.faults, fault.OwedTo cmd
  named : ∀ txn s b, ((machine shard node).after past).get? txn = some s → s.blocking = some b →
    b.progress ≠ .noneExpected → ∃ keys, b.keys = some keys ∧ keys.isEmpty = false
  recoverable : ∀ txn s c, ((machine shard node).after past).get? txn = some s →
    s.coordinate = some c → c.progress = .noProgress →
      c.status = .uncommitted ∨ c.status = .readyToExecute
  complete : ∀ d ∈ dispatchedIn shard node past, ∀ completion,
    completion.suits d.remediation = true → ∃ resolution,
      (((machine shard node).after past).complete d.txn d.tag completion).2 = .ok resolution
  asked : ∀ d ∈ dispatchedIn shard node past, ∀ participants,
    d.remediation.asked? = some participants →
      (blockingAfter shard node d.txn past).accepts d.tag = true →
        (blockingAfter shard node d.txn past).asked = some participants ∧
          participants.someKey? ≠ none

/-- No run leads to a fault that would be the log's own. -/
theorem unfailing (shard : ShardId) (node : NodeId) (past : List Act) :
    Unfailing shard node past := by
  have sound := sound_after shard node past
  refine ⟨fun txn s hs => (sound txn s hs).1, fun topology cmd => ?_, fun txn s b hs hb => ?_,
    fun txn s c hs hc hp => ?_, fun d hd completion => complete_ok hd,
    fun d hd participants => asked_of_accepts hd⟩
  · have own := (sound_stateD sound cmd.txn).1.symm
    have ho : ∃ out,
        ((((machine shard node).after past).stateD cmd.txn).audit cmd topology).2 = .ok out :=
      ⟨_, by rw [TxnState.audit_eq own]⟩
    obtain ⟨out, ho⟩ := ho
    refine ⟨out, (audit_result _ topology cmd).trans ho, fun fault hf => ?_⟩
    obtain ⟨kind, hf⟩ := (TxnState.mem_faults own ho).1 hf
    exact TxnState.fault_owed (justified_after shard node cmd.txn past)
      (named_after shard node cmd.txn past) own hf
  · have named := named_after shard node txn past
    rwa [blockingAfter, stateD_of_get? hs, TxnState.blockingD, hb] at named
  · have justified := justified_after shard node txn past
    rw [stateD_of_get? hs, TxnState.coordinateD, hc, Option.getD_some] at justified
    exact Coordinate.status_of_justified justified (by simp [hp]) (by simp [hp])

end ShardLog

end TxnLiveness
