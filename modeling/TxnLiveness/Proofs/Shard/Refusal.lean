import TxnLiveness.Proofs.Shard.Independence
/-!
# Refused status events

A status event is refused of a shard that cannot tell its role, or that should not coordinate and
does. What such an event reports is left unrecorded, with one exception: that a transaction has been
executed or invalidated is handed to its blocking tracker before the role is looked at, and what the
tracker waited for may be met by that.
-/

namespace TxnLiveness

/-- Whether the event reports the status of a command. -/
def Event.isStatus : Event → Bool
  | .preAccepted _ | .accepted _ | .committed _ | .readyToExecute _ | .executed _
  | .invalidated _ => true
  | _ => false

/-- What the event says is known of its transaction, whatever the role of the shard. -/
def Event.carried? : Event → Option Known
  | .executed _ => some .preApplied
  | .invalidated _ => some .invalidated
  | _ => none

namespace ShardLog

variable {log : ShardLog} {txn : TxnId} {event : Event} {fault : Fault}

/-! ## Knowledge that is handed on -/

theorem tracked_of_blocking {b : Blocking} (hb : (log.stateD txn).blocking = some b) :
    log.get? txn = some (log.stateD txn) := by
  cases hs : log.get? txn with
  | none =>
    rw [stateD_of_get?_none hs] at hb
    cases hb
  | some s => rw [stateD_of_get? hs]

theorem learn_of_blocking {b : Blocking} (known : Known)
    (hb : (log.stateD txn).blocking = some b) :
    log.learn txn known = log.withState txn ((log.stateD txn).withBlocking (b.learn known)) := by
  simp only [learn, tracked_of_blocking hb, hb]

theorem learn_of_unblocked (known : Known) (hb : (log.stateD txn).blocking = none) :
    log.learn txn known = log := by
  cases hs : log.get? txn with
  | none => simp [learn, hs]
  | some s =>
    rw [stateD_of_get? hs] at hb
    simp [learn, hs, hb]

/-! ## What a refusal leaves -/

theorem movedOn_refused {cmd : Command} {role : Role} {status : CoordinateStatus}
    {progress : Progress} (h : (log.movedOn cmd role status progress).2 = .error fault) :
    (log.movedOn cmd role status progress).1 = log := by
  unfold movedOn at h ⊢
  cases role with
  | home | nonHome => cases h
  | indeterminate => rfl

/-- Nothing is recorded of a refused status event but the knowledge that it carries. -/
theorem record_refused {topology : Topology} {role : Role} (status : event.isStatus = true)
    (h : (log.record topology role event).2 = .error fault) :
    (log.record topology role event).1 = event.carried?.elim log (log.learn event.txn) := by
  cases event with
  | preAccepted cmd =>
    cases role with
    | home | nonHome => cases h
    | indeterminate => rfl
  | accepted cmd => exact movedOn_refused h
  | committed cmd => exact movedOn_refused h
  | readyToExecute cmd => exact movedOn_refused h
  | executed cmd => exact movedOn_refused h
  | invalidated cmd =>
    simp only [record, invalidated] at h ⊢
    split at h
    · rename_i elsewhere
      rw [if_pos elsewhere]
      rfl
    · split at h <;> cases h
  | _ => cases status

/-- Something waits for the transaction, and needs no more than the event carries. -/
def Releases (log : ShardLog) (event : Event) : Prop :=
  ∃ known b, event.carried? = some known ∧ (log.stateD event.txn).blocking = some b ∧
    b.required.MetBy known ∧ b.progress ≠ .noneExpected

theorem carried_of_not_releases (h : ¬ log.Releases event) :
    event.carried?.elim log (log.learn event.txn) = log := by
  cases hk : event.carried? with
  | none => rfl
  | some known =>
    cases hb : (log.stateD event.txn).blocking with
    | none => exact learn_of_unblocked known hb
    | some b =>
      have settled : b.learn known = b := by
        unfold Blocking.learn
        split
        · rename_i met
          have quiet : b.progress = .noneExpected :=
            Decidable.byContradiction fun hp => h ⟨known, b, hk, hb, met, hp⟩
          rw [← quiet]
        · rfl
      have same : (log.stateD event.txn).withBlocking b = log.stateD event.txn := by
        rw [TxnState.withBlocking, ← hb]
      rw [Option.elim_some, learn_of_blocking known hb, settled, same]
      exact withState_self (tracked_of_blocking hb)

theorem carried_of_releases (h : log.Releases event) {b : Blocking}
    (hb : (log.stateD event.txn).blocking = some b) :
    event.carried?.elim log (log.learn event.txn) = log.withState event.txn
      ((log.stateD event.txn).withBlocking { b with progress := .noneExpected }) := by
  obtain ⟨known, b', hk, hb', met, -⟩ := h
  cases hb.symm.trans hb'
  rw [hk, Option.elim_some, learn_of_blocking known hb, Blocking.learn, if_pos met]

/-- A refused status event leaves no trace, unless what waits for the transaction needs no more than
the event carries: then it is not waited for any more, as if the event had been recorded. -/
theorem refused_status_traceless {topology : Topology} {role : Role}
    (status : event.isStatus = true) (refused : (log.record topology role event).2 = .error fault) :
    let log' := (log.record topology role event).1
    (log' = log ↔ ¬ log.Releases event) ∧
      ∀ b, log.Releases event → (log.stateD event.txn).blocking = some b →
        log' = log.withState event.txn
          ((log.stateD event.txn).withBlocking { b with progress := .noneExpected }) := by
  intro log'
  have recorded : log' = event.carried?.elim log (log.learn event.txn) :=
    record_refused status refused
  refine ⟨⟨fun same released => ?_, fun h => ?_⟩, fun b h hb => ?_⟩
  · obtain ⟨known, b, -, hb, -, hp⟩ := id released
    rw [recorded, carried_of_releases released hb] at same
    have after := congrArg (fun l => (l.stateD event.txn).blocking) same
    simp only [stateD_withState, if_true, TxnState.withBlocking, hb, Option.some.injEq] at after
    exact hp (congrArg Blocking.progress after).symm
  · rw [recorded]
    exact carried_of_not_releases h
  · rw [recorded]
    exact carried_of_releases h hb

/-- Something waits for a transaction that its home shard coordinates. A commit that is refused then
leaves no trace, but an invalidation that is refused ends the wait. -/
theorem refused_while_coordinated :
    let txn : TxnId := ⟨1, 1, 1⟩
    let topology : Topology := ⟨1, fun _ => true, fun _ _ _ => ∅⟩
    let log := (machine 0 1).after [.record topology .home (.witnessed txn ⟨[104]⟩),
      .record topology .home (.waitingOn txn .committed (.ofKeys [⟨[97]⟩]))]
    let commit := log.record topology .indeterminate (.committed { txn })
    let invalidation := log.record topology .nonHome (.invalidated { txn })
    commit.1 = log ∧ invalidation.1 ≠ log := by
  intro txn topology log commit invalidation
  have untold : ¬ log.Releases (.committed { txn }) := by
    rintro ⟨_, _, carried, -⟩
    cases carried
  have released : log.Releases (.invalidated { txn }) :=
    ⟨.invalidated, _, rfl, rfl, .inl rfl, by decide⟩
  have refused : commit.2 = .error (.indeterminateStatus .committed txn) := rfl
  have elsewhere : invalidation.2 = .error (.coordinatedElsewhere txn .nonHome) := rfl
  exact ⟨(refused_status_traceless rfl refused).1.2 untold,
    fun same => (refused_status_traceless rfl elsewhere).1.1 same released⟩

/-- A shard that cannot tell its role is told of an execution. It refuses, and yet does not wait for
the transaction any more. -/
theorem refused_execution_ends_wait :
    let txn : TxnId := ⟨1, 1, 1⟩
    let topology : Topology := ⟨1, fun _ => true, fun _ _ _ => ∅⟩
    let log := (machine 0 1).after
      [.record topology .nonHome (.waitingOn txn .preApplied (.ofKeys [⟨[97]⟩]))]
    let out := log.record topology .indeterminate (.executed { txn })
    out.2 = .error (.indeterminateStatus .readyToExecute txn) ∧
      (log.stateD txn).blocking.map (·.progress) = some .expected ∧
      (out.1.stateD txn).blocking.map (·.progress) = some .noneExpected := by
  intro txn topology log out
  exact ⟨rfl, rfl, rfl⟩

end ShardLog

end TxnLiveness
