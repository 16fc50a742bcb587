import TxnLiveness.Proofs.Replica.Durable
import TxnLiveness.Proofs.Shard.Creation
import TxnLiveness.Proofs.Shard.FailFast
/-!
# Replicas that want for nothing

Audits fail for what a stored command does not tell, and recorded durability for want of a key. A
command that tells everything its trackers may come to ask for stays one, whatever becomes of the
trackers, so a replica of such commands never fails.
-/

namespace TxnLiveness

/-! ## Trackers without an execution time -/

namespace Coordinate

variable {c : Coordinate}

/-- Only events move the status. -/
theorem status_audit (c : Coordinate) (txn : TxnId) (cmd : Command) (homeKey : Option Key) :
    (c.audit txn cmd homeKey).1.status = c.status := by
  rcases c.audit_cases txn cmd homeKey with ⟨-, e⟩ | ⟨-, _, -, e⟩ | ⟨-, _, -, e⟩ <;> rw [e]

theorem status_fetched (c : Coordinate) (tag : Tag) : (c.fetched tag).1.status = c.status := by
  obtain ⟨-, e⟩ | ⟨-, e⟩ := c.fetched_cases tag <;> rw [e]

theorem status_recovered (c : Coordinate) (tag : Tag) (result : Except RemoteFault Token) :
    (c.recovered tag result).1.status = c.status := by
  obtain ⟨-, e⟩ | ⟨-, -, _, _, e⟩ := c.recovered_cases tag result <;> rw [e]

theorem status_handed (c : Coordinate) (tag : Tag) (completion : Completion) :
    ((handed tag completion).foldl act c).status = c.status := by
  cases completion with
  | fetched result => exact c.status_fetched tag
  | recovered result => exact c.status_recovered tag result
  | _ => rfl

end Coordinate

namespace Disseminate

variable {d : Disseminate}

theorem replicas?_of_untimed {cmd : Command} (h : cmd.executeAt = none) (topology : Topology) :
    replicas? cmd topology = none := by
  unfold replicas?
  rw [h]
  cases cmd.route <;> rfl

/-- A tracker that cannot tell whom to inform waits for a command that tells when it executes. -/
theorem audit_untimed {cmd : Command} (h : cmd.executeAt = none) (hl : d.lacking = none)
    (txn : TxnId) (topology : Topology) : d.audit txn cmd topology = (d, .ok none) := by
  have unready : d.ready cmd topology = d := by
    simp only [ready, hl, replicas?_of_untimed h]
  unfold audit
  split
  · rfl
  · simp only [unready, hl]

theorem lacking_handed (h : d.lacking = none) (tag : Tag) (completion : Completion) :
    ((handed tag completion).foldl act d).lacking = none := by
  cases completion with
  | acknowledged node =>
    obtain ⟨-, e⟩ | ⟨-, l, hl, -⟩ := d.acknowledged_cases node
    · simpa [handed, act, e] using h
    · rw [h] at hl
      cases hl
  | roundFinished =>
    obtain ⟨-, e⟩ | ⟨-, -, e⟩ := d.roundFinished_cases tag <;> simpa [handed, act, e] using h
  | _ => exact h

end Disseminate

/-! ## States -/

/-- The command tells all that the trackers of its transaction may come to ask for. -/
structure TxnState.EquippedBy (s : TxnState) (cmd : Command) : Prop where
  addressed : ∀ kind, kind ≠ .blocking → s.tracks kind = true →
    cmd.homeKey ≠ none ∧ cmd.route ≠ none ∧ cmd.footprint.isEmpty = false
  timed : cmd.executeAt = none →
    s.coordinateD.status ≠ .readyToExecute ∧ s.disseminateD.lacking = none

namespace TxnState

variable {s : TxnState} {cmd : Command}

theorem fresh_equippedBy (txn : TxnId) (cmd : Command) : ({ txn } : TxnState).EquippedBy cmd := by
  refine ⟨fun kind _ tracked => ?_, fun _ => ⟨fun h => ?_, rfl⟩⟩
  · cases kind <;> cases tracked
  · cases h

/-- The audit of a transaction with such a command plans without a fault. -/
theorem EquippedBy.planned (h : s.EquippedBy cmd) (hc : s.coordinateD.Justified)
    (hb : s.blockingD.Named) (topology : Topology) (kind : TrackerKind) (fault : Fault) :
    s.plan cmd topology kind ≠ .error fault := by
  intro failed
  have missing {key : Option Key} (hk : key.or cmd.homeKey = none) : cmd.homeKey = none := by
    simpa using (Option.or_eq_none_iff.1 hk).2
  cases kind with
  | blocking =>
    obtain ⟨planned, e, -⟩ := Blocking.audit_step hb s.txn cmd topology
    rw [plan_blocking, e] at failed
    cases failed
  | coordinate =>
    have tracked : s.tracks .coordinate = true := by
      unfold plan at failed
      cases hs : s.coordinate with
      | none => simp [hs] at failed
      | some c => simp [tracks, hs]
    obtain ⟨home, route, -⟩ := h.addressed .coordinate (by simp) tracked
    rw [plan_coordinate] at failed
    obtain ⟨hp, failed⟩ := Coordinate.fault_of_audit failed
    have hs := Coordinate.status_of_justified hc (by simp [hp]) (by simp [hp])
    obtain ⟨-, hn⟩ | ⟨-, hx, committed⟩ | ⟨-, hx⟩ | ⟨-, hx⟩ := Coordinate.fault_of_plan failed
    · obtain hs | hs := hs <;> simp [hs] at hn
    · obtain hs | hs := hs
      · rw [hs] at committed
        exact absurd committed (by decide)
      · exact (h.timed hx).1 hs
    · exact route hx
    · exact home (missing hx)
  | disseminate =>
    have tracked : s.tracks .disseminate = true := by
      unfold plan at failed
      cases hs : s.disseminate with
      | none => simp [hs] at failed
      | some c => simp [tracks, hs]
    obtain ⟨-, route, -⟩ := h.addressed .disseminate (by simp) tracked
    rw [plan_disseminate] at failed
    obtain ⟨-, hx⟩ | ⟨-, hx⟩ := Disseminate.fault_of_audit failed
    · exact route hx
    · rw [Disseminate.audit_untimed hx (h.timed hx).2] at failed
      cases failed
  | delegation =>
    unfold plan at failed
    cases hd : s.delegation with
    | none => simp [hd] at failed
    | some d =>
      obtain ⟨home, -, -⟩ := h.addressed .delegation (by simp) (by simp [tracks, hd])
      rw [hd, Option.elim_some] at failed
      obtain ⟨-, hx⟩ := Delegation.fault_of_audit failed
      exact home (missing hx)

/-- Audits create no tracker and move no status. -/
theorem EquippedBy.audit (h : s.EquippedBy cmd) (topology : Topology) :
    (s.act (.audit cmd topology)).EquippedBy cmd := by
  constructor
  · intro kind other tracked
    simp only [tracks_act, Act.creates, Bool.or_false] at tracked
    exact h.addressed kind other tracked
  · intro untimed
    obtain ⟨status, lacking⟩ := h.timed untimed
    rw [coordinateD_act, disseminateD_act, onCoordinate, onDisseminate]
    split
    · refine ⟨?_, ?_⟩
      · rwa [List.foldl_cons, List.foldl_nil, Coordinate.act, Coordinate.status_audit]
      · rwa [List.foldl_cons, List.foldl_nil, Disseminate.act,
          Disseminate.audit_untimed untimed lacking]
    · exact ⟨status, lacking⟩

theorem EquippedBy.complete (h : s.EquippedBy cmd) (tag : Tag) (completion : Completion) :
    (s.act (.complete tag completion)).EquippedBy cmd := by
  constructor
  · intro kind other tracked
    simp only [tracks_act, Act.creates, Bool.or_false] at tracked
    exact h.addressed kind other tracked
  · intro untimed
    obtain ⟨status, lacking⟩ := h.timed untimed
    rw [coordinateD_act, disseminateD_act, onCoordinate, onDisseminate]
    constructor
    · split
      · rwa [Coordinate.status_handed]
      · exact status
    · split
      · exact Disseminate.lacking_handed lacking tag completion
      · exact lacking

/-- How durable a command is does not matter. -/
theorem EquippedBy.raise (h : s.EquippedBy cmd) (durability : Durability) :
    s.EquippedBy (cmd.raiseDurability durability) := ⟨h.addressed, h.timed⟩

/-- Only a coordinate tracker has durability recorded. -/
theorem tracks_of_durable {tag : Tag} {completion : Completion} {sequel : Sequel}
    {durability : Durability} (h : (s.complete tag completion).2 = .ok (.resolved sequel))
    (hd : sequel.durable = some durability) : s.tracks .coordinate = true := by
  obtain ⟨c, _, -, -, -, hc, -⟩ := recovered_of_durable h hd
  simp [tracks, hc]

/-- A command that tells enough tells enough for its announcement too. -/
theorem EquippedBy.announced {t : TxnState} (h : s.EquippedBy cmd)
    (tracked : s.tracks .coordinate = true) (topology : Topology)
    (hc : t.coordinate = some s.coordinateD.durableGlobally)
    (hd : t.disseminate = some (s.disseminateD.durableGlobally cmd topology none)) :
    t.EquippedBy cmd := by
  have addressed := h.addressed .coordinate (by simp) tracked
  refine ⟨fun _ _ _ => addressed, fun untimed => ⟨?_, ?_⟩⟩
  · rw [coordinateD, hc, Option.getD_some]
    obtain ⟨done, e⟩ | ⟨-, e⟩ := s.coordinateD.durableGlobally_cases <;> rw [e]
    · simp [done]
    · simp
  · rw [disseminateD, hd, Option.getD_some]
    obtain ⟨-, e⟩ | ⟨-, -, e⟩ | ⟨-, _, none, -⟩ :=
      s.disseminateD.durableGlobally_cases cmd topology none
    · rw [e]
      exact (h.timed untimed).2
    · rw [e]
      exact (h.timed untimed).2
    · cases none

end TxnState

/-! ## Replicas -/

namespace Replica

/-- Every stored command tells all that the trackers of its transaction may come to ask for. -/
structure Equipped (r : Replica) : Prop where
  kept : r.Kept
  equipped : ∀ txn, (r.log.stateD txn).EquippedBy (r.command txn)

variable {r : Replica} {topology : Topology} {txn : TxnId}

/-- Nothing that is audited fails. -/
theorem Equipped.audit_ok {shard : ShardId} {node : NodeId} {run : List ShardLog.Act}
    (h : r.Equipped) (hlog : r.log = (ShardLog.machine shard node).after run) (topology : Topology)
    (txn : TxnId) : ∃ out, (r.audit topology txn).2 = .ok out ∧ out.faults = [] := by
  have own : (r.command txn).txn = txn := h.kept.command txn
  have sound := ShardLog.sound_after shard node run
  have stored : (r.command txn).txn = (r.log.stateD (r.command txn).txn).txn := by
    rw [hlog, (ShardLog.sound_stateD sound _).1]
  have ho : ∃ out,
      ((r.log.stateD (r.command txn).txn).audit (r.command txn) topology).2 = .ok out :=
    ⟨_, by rw [TxnState.audit_eq stored]⟩
  obtain ⟨out, ho⟩ := ho
  refine ⟨out, (r.log.audit_result topology (r.command txn)).trans ho, ?_⟩
  refine List.eq_nil_iff_forall_not_mem.2 fun fault hf => ?_
  obtain ⟨kind, failed⟩ := (TxnState.mem_faults stored ho).1 hf
  rw [own] at failed
  refine (h.equipped txn).planned ?_ ?_ topology kind fault failed
  · rw [hlog]
    exact ShardLog.justified_after shard node txn run
  · rw [hlog]
    exact ShardLog.named_after shard node txn run

theorem Equipped.audit (h : r.Equipped) (topology : Topology) (txn : TxnId) :
    (r.audit topology txn).1.Equipped := by
  refine ⟨h.kept, fun x => ?_⟩
  have own : (r.command txn).txn = txn := h.kept.command txn
  have does := r.log.does_audit topology (r.command txn) x
  rw [own] at does
  change ((r.log.audit topology (r.command txn)).1.stateD x).EquippedBy (r.command x)
  rw [does]
  split
  · subst x
    exact (h.equipped txn).audit topology
  · exact h.equipped x

/-- Durability is recorded of what a coordinate tracker follows, and the command stays one that
tells enough. -/
theorem Equipped.durableGlobally (h : r.Equipped) (topology : Topology)
    (tracked : (r.log.stateD txn).tracks .coordinate = true) (durability : Durability) :
    let r' := r.alter txn (·.raiseDurability durability)
    (r.log.durableGlobally topology (r'.command txn) none .home).2 = .ok () ∧
      ({ r' with
        log := (r.log.durableGlobally topology (r'.command txn) none .home).1 } :
          Replica).Equipped := by
  intro r'
  have stored (x : TxnId) : r'.command x =
      if x = txn then (r.command txn).raiseDurability durability else r.command x := by
    simp only [r', alter, command, SortedMap.get?_insert]
    split <;> rfl
  have own : (r'.command txn).txn = txn := by
    rw [stored, if_pos rfl]
    exact h.kept.command txn
  have before : (r.log.stateD txn).EquippedBy (r'.command txn) := by
    rw [stored, if_pos rfl]
    exact (h.equipped txn).raise durability
  obtain ⟨-, -, keys⟩ := before.addressed .coordinate (by simp) tracked
  have addressed : (r.log.outcomeKeys (r'.command txn)).isEmpty = false :=
    ShardLog.isEmpty_outcomeKeys (.inl keys)
  obtain ⟨coordinate, disseminate, -, -⟩ :=
    ShardLog.durableGlobally_home topology none (.inr addressed)
  have confined := r.log.confined_durableGlobally topology (r'.command txn) none .home
  rw [own] at coordinate disseminate confined
  refine ⟨ShardLog.durableGlobally_ok topology none .home (.inr addressed),
    h.kept.raise txn durability, fun x => ?_⟩
  by_cases hx : x = txn
  · subst hx
    exact before.announced tracked topology coordinate disseminate
  · have other : (r.log.durableGlobally topology (r'.command txn) none .home).1.stateD x =
        r.log.stateD x := by
      unfold ShardLog.stateD
      rw [confined.others x hx]
    have same : r'.command x = r.command x := by rw [stored, if_neg hx]
    change (ShardLog.stateD _ x).EquippedBy (r'.command x)
    rw [other, same]
    exact h.equipped x

/-- What the log accepts the replica accepts, a durable outcome included. -/
theorem Equipped.complete (h : r.Equipped) (topology : Topology) {tag : Tag}
    {completion : Completion} {resolution : Resolution Sequel}
    (ok : (r.log.complete txn tag completion).2 = .ok resolution) :
    (∃ resolution, (r.complete topology txn tag completion).2 = .ok resolution) ∧
      (r.complete topology txn tag completion).1.Equipped ∧
      r.log.SameTracked (r.complete topology txn tag completion).1.log := by
  have does := r.log.does_complete txn tag completion
  have same := r.log.sameTracked_complete txn tag completion
  have result := r.log.complete_result txn tag completion
  have equipped : ({ r with log := (r.log.complete txn tag completion).1 } : Replica).Equipped := by
    refine ⟨h.kept, fun x => ?_⟩
    change ((r.log.complete txn tag completion).1.stateD x).EquippedBy (r.command x)
    rw [does x]
    split
    · subst x
      exact (h.equipped txn).complete tag completion
    · exact h.equipped x
  unfold Replica.complete
  cases e : r.log.complete txn tag completion with
  | mk log outcome =>
    simp only [e] at does same result equipped ok ⊢
    subst ok
    obtain _ | ⟨followup, _ | durability⟩ := resolution
    · exact ⟨⟨_, rfl⟩, equipped, same⟩
    · exact ⟨⟨_, rfl⟩, equipped, same⟩
    · have coordinated : (r.log.stateD txn).tracks .coordinate = true := by
        obtain ⟨-, stale⟩ | resolved := result
        · cases stale
        · exact TxnState.tracks_of_durable resolved.symm rfl
      have tracked : (log.stateD txn).tracks .coordinate = true := by
        rw [does.own, List.foldl_cons, List.foldl_nil]
        exact TxnState.tracks_stays _ _ _ coordinated
      obtain ⟨ok, announced⟩ := equipped.durableGlobally topology tracked durability
      have own := (equipped.kept.raise txn durability).command txn
      have confined := log.confined_durableGlobally topology
        ((({ r with log } : Replica).alter txn (·.raiseDurability durability)).command txn) none
        .home
      rw [own] at confined
      have announcedSame := confined.sameTracked (ShardLog.isSome_of_tracks tracked)
      dsimp only [alter] at ok announced announcedSame ⊢
      generalize log.durableGlobally topology _ none .home = step at ok announced announcedSame ⊢
      obtain ⟨log', outcome⟩ := step
      cases ok
      exact ⟨⟨_, rfl⟩, announced, same.trans announcedSame⟩

end Replica

end TxnLiveness
