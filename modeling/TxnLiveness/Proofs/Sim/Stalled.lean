import TxnLiveness.Proofs.Node.Untroubled
import TxnLiveness.Sim.Scenario
/-!
# Stalled transactions are set up

However a transaction is to stall, the changes that bring a replica to it are accepted of a replica
that does not track it, and the command they store tells all that its trackers may come to ask for.
-/

namespace TxnLiveness

namespace Replica

variable {r r' r'' : Replica} {topology : Topology} {txn : TxnId}

/-! ## Admitting one transaction -/

/-- The replica has come, equipped, to track one transaction more. -/
structure Admits (r : Replica) (txn : TxnId) (r' : Replica) : Prop where
  equipped : r'.Equipped
  shard : r'.log.shard = r.log.shard
  tracked : ∀ x, (r'.log.get? x).isSome = (decide (x = txn) || (r.log.get? x).isSome)

/-- A command may be stored before its transaction is tracked. -/
theorem Equipped.put {cmd : Command} (h : r.Equipped) (untracked : r.log.get? cmd.txn = none) :
    (r.put cmd).Equipped := by
  refine ⟨h.kept.insert cmd, fun x => ?_⟩
  change (r.log.stateD x).EquippedBy _
  by_cases hx : x = cmd.txn
  · subst hx
    rw [ShardLog.stateD_of_get?_none untracked]
    exact TxnState.fresh_equippedBy _ _
  · have same : (r.put cmd).command x = r.command x := by
      simp [Replica.put, command, hx]
    rw [same]
    exact h.equipped x

theorem command_put (r : Replica) (cmd : Command) : (r.put cmd).command cmd.txn = cmd := by
  simp [Replica.put, command]

/-- An event that is accepted and leaves a tracker has its transaction tracked. -/
theorem Equipped.record {role : Role} {event : Event} (h : r.Equipped) (kind : TrackerKind)
    (ok : (r.log.record topology role event).2 = .ok ())
    (creates : event.creates role kind = true)
    (equipped : ((r.log.record topology role event).1.stateD event.txn).EquippedBy
      (r.command event.txn)) :
    r.Admits event.txn { r with log := (r.log.record topology role event).1 } := by
  have confined := r.log.confined_record topology role event
  refine ⟨⟨h.kept, fun x => ?_⟩, confined.shard, fun x => ?_⟩
  · change (ShardLog.stateD _ x).EquippedBy (r.command x)
    rw [r.log.does_record topology role event x]
    split
    · subst x
      rwa [← (r.log.does_record topology role event).own]
    · exact h.equipped x
  · by_cases hx : x = event.txn
    · subst hx
      have tracked :
          ((r.log.record topology role event).1.stateD event.txn).tracks kind = true := by
        rw [ShardLog.tracks_record, ok, creates]
        simp [Except.isOk, Except.toBool]
      simpa using ShardLog.isSome_of_tracks tracked
    · simp [confined.others x hx, hx]

/-- Admitting a transaction once more changes nothing about what is tracked. -/
theorem Admits.trans (h : r.Admits txn r') (k : r'.Admits txn r'') : r.Admits txn r'' := by
  refine ⟨k.equipped, k.shard.trans h.shard, fun x => ?_⟩
  rw [k.tracked, h.tracked]
  cases decide (x = txn) <;> rfl

theorem editAll_record {role : Role} {event : Event} (edits : List Edit)
    (ok : (r.log.record topology role event).2 = .ok ()) :
    r.editAll topology (.record role event :: edits) =
      ({ r with log := (r.log.record topology role event).1 } : Replica).editAll topology
        edits := by
  have edited : r.edit topology (.record role event) =
      ({ r with log := (r.log.record topology role event).1 }, .ok ()) := by
    simp only [edit, ok]
  rw [editAll, edited]

/-- A command is stored and an event told of its transaction, of which nothing is known yet. -/
theorem Equipped.introduce {cmd : Command} (h : r.Equipped) (topology : Topology) (role : Role)
    (event : Event) (own : event.txn = cmd.txn) (untracked : r.log.get? cmd.txn = none)
    (kind : TrackerKind) (ok : (r.log.record topology role event).2 = .ok ())
    (creates : event.creates role kind = true)
    (equipped :
      ((r.log.actsOf topology role event).foldl TxnState.act { txn := cmd.txn }).EquippedBy cmd)
    (edits : List Edit) :
    ∃ r', r.editAll topology (.put cmd :: .record role event :: edits) = r'.editAll topology edits ∧
      r.Admits cmd.txn r' ∧ r'.command cmd.txn = cmd := by
  have stored : (r.put cmd).command cmd.txn = cmd := command_put r cmd
  refine ⟨_, editAll_record edits ok, ?_, stored⟩
  have admitted := (h.put untracked).record kind ok creates ?_
  · rw [own] at admitted
    exact ⟨admitted.equipped, admitted.shard, admitted.tracked⟩
  · have state : ((r.log.record topology role event).1.stateD event.txn) =
        (r.log.actsOf topology role event).foldl TxnState.act { txn := cmd.txn } := by
      rw [(r.log.does_record topology role event).own, own, ShardLog.stateD_of_get?_none untracked]
    change ((r.log.record topology role event).1.stateD event.txn).EquippedBy _
    rw [state, own, stored]
    exact equipped

end Replica

namespace Sim

variable {r : Replica} {shard i : Nat}

/-- A command of a stalled transaction says where it is homed and whom it concerns. -/
theorem addressed_of_stalled {cmd : Command} (shard i : Nat)
    (home : cmd.homeKey = some (stalledHome shard i))
    (route : cmd.route = (stalledCommand shard i).route) :
    cmd.homeKey ≠ none ∧ cmd.route ≠ none ∧ cmd.footprint.isEmpty = false := by
  refine ⟨by simp [home], by simp [route, stalledCommand], ?_⟩
  have footprint : cmd.footprint =
      (Route.full (stalledHome shard i) (.ofKeys [stalledKey shard i])).participants := by
    simp only [Command.footprint, route, stalledCommand]
  rw [footprint]
  exact Footprint.isEmpty_eq_false_of_mem
    (Footprint.mem_withKey.2 (.inr (rfl : stalledHome shard i = stalledHome shard i)))

/-- A command that says when it executes lacks nothing. -/
theorem equipped_of_timed (cmd : Command) (shard i : Nat)
    (home : cmd.homeKey = some (stalledHome shard i))
    (route : cmd.route = (stalledCommand shard i).route) (timed : cmd.executeAt ≠ none)
    (s : TxnState) : s.EquippedBy cmd :=
  ⟨fun _ _ _ => addressed_of_stalled shard i home route, fun untimed => absurd untimed timed⟩

/-- A command need not say when it executes before its transaction is ready to. -/
theorem equipped_of_unready (cmd : Command) (shard i : Nat)
    (home : cmd.homeKey = some (stalledHome shard i))
    (route : cmd.route = (stalledCommand shard i).route) {s : TxnState}
    (unready : s.coordinateD.status ≠ .readyToExecute) (told : s.disseminateD.lacking = none) :
    s.EquippedBy cmd :=
  ⟨fun _ _ _ => addressed_of_stalled shard i home route, fun _ => ⟨unready, told⟩⟩

/-- The changes for a stalled transaction are all made. -/
theorem stall_admits (topology : Topology) (h : r.Equipped)
    (untracked : r.log.get? (stalledTxn shard i) = none) :
    ∃ r', r.editAll topology (stall shard i) = (r', .ok ()) ∧
      r.Admits (stalledTxn shard i) r' := by
  unfold stall
  cases Stall.ofIndex i with
  | coordinator =>
    let cmd : Command := { stalledCommand shard i with status := .preAccepted }
    obtain ⟨r', e, admits, -⟩ := h.introduce topology .home (.preAccepted cmd) rfl untracked
      .coordinate rfl rfl (equipped_of_unready cmd shard i rfl rfl (fun h => by cases h) rfl) []
    exact ⟨r', e, admits⟩
  | unheard =>
    let cmd : Command := { stalledCommand shard i with status := .preAccepted }
    obtain ⟨r', e, admits, -⟩ := h.introduce topology .nonHome (.preAccepted cmd) rfl untracked
      .delegation rfl rfl (equipped_of_unready cmd shard i rfl rfl (fun h => by cases h) rfl) []
    exact ⟨r', e, admits⟩
  | untold =>
    let time : Timestamp := ⟨epoch, (stalledTxn shard i).hlc + 1, localNode⟩
    let cmd : Command :=
      { stalledCommand shard i with
        status := .applied, durability := .durable, executeAt := some time }
    let persistedOn : Option (SortedSet NodeId) := some (.ofList [localNode])
    have equipped (s : TxnState) : s.EquippedBy cmd :=
      equipped_of_timed cmd shard i rfl rfl (Option.some_ne_none time) s
    obtain ⟨r', e, admits, stored⟩ := h.introduce topology .home (.executed cmd) rfl untracked
      .coordinate rfl rfl (equipped _)
      [.record .home (.durableGlobally cmd persistedOn)]
    -- The command has been applied here, so nothing has to be waited for.
    have ok : (r'.log.record topology .home (.durableGlobally cmd persistedOn)).2 = .ok () :=
      ShardLog.durableGlobally_ok topology persistedOn .home (.inl rfl)
    have told : ((r'.log.record topology .home (.durableGlobally cmd persistedOn)).1.stateD
        cmd.txn).EquippedBy (r'.command cmd.txn) := by
      rw [stored]
      exact equipped _
    exact ⟨_, e.trans (Replica.editAll_record [] ok),
      admits.trans (admits.equipped.record .disseminate ok rfl told)⟩
  | dependency =>
    let event : Event :=
      .waitingOn (stalledTxn shard i) .preApplied (.ofKeys [stalledKey shard i])
    have named : (Footprint.ofKeys [stalledKey shard i]).isEmpty = false :=
      Footprint.isEmpty_eq_false_of_mem (Footprint.mem_ofKeys.2 List.mem_cons_self)
    have ok : (r.log.record topology .nonHome event).2 = .ok () := by
      obtain ⟨none, -⟩ | ⟨-, log, e, -⟩ := r.log.block_cases (stalledTxn shard i) .preApplied
        (.ofKeys [stalledKey shard i])
      · rw [named] at none
        cases none
      · exact congrArg Prod.snd e
    have state : (r.log.record topology .nonHome event).1.stateD (stalledTxn shard i) =
        ({ txn := stalledTxn shard i } : TxnState).act
          (.block .preApplied (.ofKeys [stalledKey shard i])) := by
      have acts : r.log.actsOf topology .nonHome event =
          [.block .preApplied (.ofKeys [stalledKey shard i])] := by
        simp [event, ShardLog.actsOf, TxnState.blockActs, named]
      have own := (r.log.does_record topology .nonHome event).own
      rwa [acts, show event.txn = stalledTxn shard i from rfl,
        ShardLog.stateD_of_get?_none untracked] at own
    -- A blocking tracker has nothing to ask of the command.
    have told : ((r.log.record topology .nonHome event).1.stateD (stalledTxn shard i)).EquippedBy
        (r.command (stalledTxn shard i)) := by
      rw [state]
      refine ⟨fun kind other tracked => ?_, fun _ => ⟨fun h => (by cases h), rfl⟩⟩
      cases kind with
      | blocking => exact absurd rfl other
      | coordinate | disseminate | delegation => cases tracked
    exact ⟨_, Replica.editAll_record [] ok, h.record .blocking ok rfl told⟩
  | unapplied =>
    let time : Timestamp := ⟨epoch, (stalledTxn shard i).hlc + 1, localNode⟩
    let cmd : Command :=
      { stalledCommand shard i with
        status := .readyToExecute, durability := .durable, executeAt := some time }
    obtain ⟨r', e, admits, -⟩ := h.introduce topology .home (.readyToExecute cmd) rfl untracked
      .coordinate rfl rfl (equipped_of_timed cmd shard i rfl rfl (Option.some_ne_none time) _) []
    exact ⟨r', e, admits⟩

/-! ## Several stalled transactions -/

theorem stalledTxn_inj {j : Nat} (h : stalledTxn shard i = stalledTxn shard j) : i = j := by
  simp only [stalledTxn, TxnId.mk.injEq] at h
  omega

/-- One after the other, the changes for several stalled transactions leave a replica equipped that
tracks these besides what it tracked before. -/
theorem exists_prepares (topology : Topology) (shard : Nat) (indexes : List Nat)
    (distinct : indexes.Nodup) (h : r.Equipped)
    (untracked : ∀ i ∈ indexes, r.log.get? (stalledTxn shard i) = none) :
    ∃ log, r.Prepares topology log (indexes.map (stall shard)) ∧ log.shard = r.log.shard ∧
      ∀ x, (log.get? x).isSome =
        (decide (x ∈ indexes.map (stalledTxn shard)) || (r.log.get? x).isSome) := by
  induction indexes generalizing r with
  | nil => exact ⟨r.log, ⟨h, .refl _⟩, rfl, fun x => by simp⟩
  | cons i indexes ih =>
    obtain ⟨fresh, distinct⟩ := List.nodup_cons.1 distinct
    obtain ⟨r', e, admits⟩ := stall_admits topology h (untracked i List.mem_cons_self)
    have still : ∀ j ∈ indexes, r'.log.get? (stalledTxn shard j) = none := by
      intro j hj
      have other : stalledTxn shard j ≠ stalledTxn shard i := fun same =>
        fresh (stalledTxn_inj same ▸ hj)
      have tracked := admits.tracked (stalledTxn shard j)
      simpa [other, untracked j (List.mem_cons_of_mem _ hj)] using tracked
    obtain ⟨log, prepares, same, tracked⟩ := ih distinct admits.equipped still
    refine ⟨log, ⟨by rw [e], by rw [e]; exact prepares⟩, same.trans admits.shard, fun x => ?_⟩
    rw [tracked, admits.tracked, List.map_cons]
    grind

end Sim

end TxnLiveness
