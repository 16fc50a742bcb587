import TxnLiveness.Proofs.Footprint
import TxnLiveness.Proofs.Shard.Confined
import TxnLiveness.Proofs.Shard.Growth
/-!
# Records that are whole or not made

A block has to name keys, and a notice of global durability has to come with keys to learn the
outcome by, unless the transaction has been applied. That is checked before anything is written. So
what is refused leaves the log as it was, and of what is accepted nothing is left undone.
-/

namespace TxnLiveness

/-! ## One transaction -/

theorem Blocking.metBy_block (b : Blocking) (required : Known) {keys : Footprint}
    (h : keys.isEmpty = false) : required.MetBy (b.block required keys).1.required := by
  obtain ⟨he, -⟩ | ⟨-, met, e⟩ | ⟨-, -, e⟩ := b.block_cases required keys
  · rw [h] at he
    cases he
  · rw [e]
    exact met
  · rw [e]
    exact Known.metBy_merge_right _ _

/-- The transaction is waited for until `required` is known, on `keys` and maybe on more. -/
def TxnState.Awaits (s : TxnState) (required : Known) (keys : Footprint) : Prop :=
  ∃ b all, s.blocking = some b ∧ required.MetBy b.required ∧ b.keys = some all ∧
    ∀ key : Key, key ∈ keys → key ∈ all

/-- Who waits on some keys waits on any of them. -/
theorem TxnState.Awaits.mono {s : TxnState} {required : Known} {keys fewer : Footprint}
    (h : s.Awaits required keys) (sub : ∀ key : Key, key ∈ fewer → key ∈ keys) :
    s.Awaits required fewer := by
  obtain ⟨b, all, hb, met, named, listed⟩ := h
  exact ⟨b, all, hb, met, named, fun key hk => listed key (sub key hk)⟩

/-- A block is on all the keys that it names, besides those named before. -/
theorem TxnState.awaits_block (s : TxnState) (required : Known) {keys : Footprint}
    (h : keys.isEmpty = false) :
    (s.withBlocking (s.blockingD.block required keys).1).Awaits required keys := by
  have named : (s.blockingD.block required keys).1.keys =
      some (s.blockingD.keys.elim keys (·.union keys)) := by
    obtain ⟨he, -⟩ | ⟨-, -, e⟩ | ⟨-, -, e⟩ := s.blockingD.block_cases required keys
    · rw [h] at he
      cases he
    · rw [e]
    · rw [e]
  refine ⟨_, _, rfl, s.blockingD.metBy_block required h, named, fun key hk => ?_⟩
  cases s.blockingD.keys with
  | none => exact hk
  | some old => exact Footprint.mem_union.2 (.inr hk)

theorem Coordinate.done_durableGlobally (c : Coordinate) : c.durableGlobally.status = .done := by
  obtain ⟨hs, e⟩ | ⟨-, e⟩ := c.durableGlobally_cases <;> rw [e]
  exact hs

theorem DisseminateStatus.durable_or_done {status : DisseminateStatus} (h : durable ≤ status) :
    status = .durable ∨ status = .done := by
  cases status <;> revert h <;> decide

theorem Disseminate.durable_or_done_durableGlobally (d : Disseminate) (cmd : Command)
    (topology : Topology) (nodes : Option (SortedSet NodeId)) :
    (d.durableGlobally cmd topology nodes).status = .durable ∨
      (d.durableGlobally cmd topology nodes).status = .done := by
  rcases d.durableGlobally_cases cmd topology nodes with ⟨hs, e⟩ | ⟨-, -, e⟩ | ⟨-, set, -, e⟩ <;>
    rw [e]
  · exact .inr hs
  · exact .inl rfl
  · have ready := grows_ready { d with status := .durable, progress := .expected } cmd topology
    exact DisseminateStatus.durable_or_done (ready.trans (grows_persistedWhenReady _ set)).status

/-! ## One log -/

namespace ShardLog

variable {log : ShardLog} {cmd : Command}

theorem outcomeKeys_eq (log : ShardLog) (cmd : Command) : log.outcomeKeys cmd =
    if cmd.footprint.isEmpty then
      (log.stateD cmd.txn).homeKey.elim cmd.footprint cmd.footprint.withKey
    else cmd.footprint := by
  have remembered : (log.get? cmd.txn).bind (·.homeKey) = (log.stateD cmd.txn).homeKey := by
    unfold stateD
    cases log.get? cmd.txn <;> rfl
  unfold outcomeKeys
  rw [remembered]
  cases (log.stateD cmd.txn).homeKey <;> rfl

/-- There is no key to learn an outcome by exactly where the command has no footprint and no home
key is remembered. -/
theorem isEmpty_outcomeKeys_iff : (log.outcomeKeys cmd).isEmpty = true ↔
    cmd.footprint.isEmpty = true ∧ (log.stateD cmd.txn).homeKey = none := by
  rw [outcomeKeys_eq]
  cases hf : cmd.footprint.isEmpty with
  | false => simp [hf]
  | true =>
    cases hk : (log.stateD cmd.txn).homeKey with
    | none => simp [hf]
    | some key =>
      have listed : key ∈ cmd.footprint.withKey key := Footprint.mem_withKey.2 (.inr rfl)
      simp [Footprint.isEmpty_eq_false_of_mem listed]

/-- There is a key to learn an outcome by where the command has a footprint or the home key is
remembered. -/
theorem isEmpty_outcomeKeys
    (h : cmd.footprint.isEmpty = false ∨ (log.stateD cmd.txn).homeKey ≠ none) :
    (log.outcomeKeys cmd).isEmpty = false := by
  rw [← Bool.not_eq_true, isEmpty_outcomeKeys_iff]
  rintro ⟨hf, hk⟩
  obtain h | h := h
  · rw [hf] at h
    cases h
  · exact h hk

theorem mem_outcomeKeys {key : Key} (h : key ∈ cmd.footprint) : key ∈ log.outcomeKeys cmd := by
  rw [outcomeKeys_eq, Footprint.isEmpty_eq_false_of_mem h]
  exact h

theorem home_mem_outcomeKeys {key : Key} (h : (log.stateD cmd.txn).homeKey = some key)
    (hf : cmd.footprint.isEmpty = true) : key ∈ log.outcomeKeys cmd := by
  rw [outcomeKeys_eq, hf, h]
  exact Footprint.mem_withKey.2 (.inr rfl)

/-- A block that names a key is recorded. -/
theorem block_eq (log : ShardLog) (txn : TxnId) (required : Known) {keys : Footprint}
    (h : keys.isEmpty = false) : log.block txn required keys =
      (log.withState txn ((log.stateD txn).withBlocking
        ((log.stateD txn).blockingD.block required keys).1), .ok ()) := by
  obtain ⟨he, -⟩ | ⟨-, log', e, -⟩ := log.block_cases txn required keys
  · rw [h] at he
    cases he
  · have ok := congrArg Prod.snd e
    unfold block at ok ⊢
    simp only [h, Bool.false_eq_true, if_false] at ok ⊢
    rw [ok]

/-- The log with the outcome waited for that is known to be durable, unless it is known here. -/
def awaitOutcome (log : ShardLog) (cmd : Command) : ShardLog :=
  if cmd.hasBeen .preApplied then log
  else
    let s := log.stateD cmd.txn
    log.withState cmd.txn
      (s.withBlocking (s.blockingD.block .preApplied (log.outcomeKeys cmd)).1)

theorem awaitOutcome_of_applied (ha : cmd.hasBeen .preApplied = true) :
    log.awaitOutcome cmd = log :=
  if_pos ha

theorem stateD_awaitOutcome (ha : cmd.hasBeen .preApplied = false) :
    (log.awaitOutcome cmd).stateD cmd.txn = (log.stateD cmd.txn).withBlocking
      ((log.stateD cmd.txn).blockingD.block .preApplied (log.outcomeKeys cmd)).1 := by
  simp [awaitOutcome, ha, stateD_withState]

/-- Where the outcome is known or there is a key to learn it by, a notice of global durability is
taken: the outcome is waited for, and the home shard goes on to announce it. -/
theorem durableGlobally_eq (topology : Topology) (persistedOn : Option (SortedSet NodeId))
    (role : Role) (h : cmd.hasBeen .preApplied = true ∨ (log.outcomeKeys cmd).isEmpty = false) :
    log.durableGlobally topology cmd persistedOn role =
      (if role.isHome then
        let s := (log.awaitOutcome cmd).stateD cmd.txn
        (log.awaitOutcome cmd).withState cmd.txn
          ((s.withCoordinate s.coordinateD.durableGlobally).withDisseminate
            (s.disseminateD.durableGlobally cmd topology persistedOn))
      else log.awaitOutcome cmd, .ok ()) := by
  unfold durableGlobally awaitOutcome
  cases ha : cmd.hasBeen .preApplied with
  | true => cases role <;> rfl
  | false =>
    have keys := h.resolve_left (by simp [ha])
    simp only [Bool.false_eq_true, if_false, log.block_eq cmd.txn .preApplied keys]
    cases role <;> rfl

/-- The outcome of the command is still to be learned, and there is no key to learn it by. -/
def Unaddressed (log : ShardLog) (cmd : Command) : Prop :=
  cmd.hasBeen .preApplied = false ∧ cmd.footprint.isEmpty = true ∧
    (log.stateD cmd.txn).homeKey = none

theorem addressed_of_not (h : ¬ log.Unaddressed cmd) :
    cmd.hasBeen .preApplied = true ∨ (log.outcomeKeys cmd).isEmpty = false := by
  rw [← Bool.not_eq_true (log.outcomeKeys cmd).isEmpty, isEmpty_outcomeKeys_iff]
  cases ha : cmd.hasBeen .preApplied with
  | true => exact .inl rfl
  | false => exact .inr fun keyless => h ⟨ha, keyless⟩

/-- Global durability is refused where a replica that has to learn the outcome has no key to learn
it by. -/
theorem durableGlobally_refused (topology : Topology) (persistedOn : Option (SortedSet NodeId))
    (role : Role) (h : log.Unaddressed cmd) : log.durableGlobally topology cmd persistedOn role =
      (log, .error (.emptyKeySet cmd.txn)) := by
  have empty : (log.outcomeKeys cmd).isEmpty = true := isEmpty_outcomeKeys_iff.2 h.2
  simp [durableGlobally, block, h.1, empty]

/-- Global durability is recorded unless a replica that has to learn the outcome has no key to learn
it by. -/
theorem durableGlobally_ok (topology : Topology) (persistedOn : Option (SortedSet NodeId))
    (role : Role) (h : cmd.hasBeen .preApplied = true ∨ (log.outcomeKeys cmd).isEmpty = false) :
    (log.durableGlobally topology cmd persistedOn role).2 = .ok () :=
  congrArg Prod.snd (durableGlobally_eq topology persistedOn role h)

/-- What the home shard makes of a transaction that is durable: nothing is left to coordinate, it is
to be announced, and if it has not been applied here its outcome is waited for. -/
theorem durableGlobally_home (topology : Topology) (persistedOn : Option (SortedSet NodeId))
    (h : cmd.hasBeen .preApplied = true ∨ (log.outcomeKeys cmd).isEmpty = false) :
    let s := log.stateD cmd.txn
    let t := (log.durableGlobally topology cmd persistedOn .home).1.stateD cmd.txn
    t.coordinate = some s.coordinateD.durableGlobally ∧
      t.disseminate = some (s.disseminateD.durableGlobally cmd topology persistedOn) ∧
      (cmd.hasBeen .preApplied = false →
        ∃ b, t.blocking = some b ∧ Known.preApplied.MetBy b.required) ∧
      t.delegation = s.delegation := by
  intro s t
  have ht : t = (((log.awaitOutcome cmd).stateD cmd.txn).withCoordinate
      ((log.awaitOutcome cmd).stateD cmd.txn).coordinateD.durableGlobally).withDisseminate
        (((log.awaitOutcome cmd).stateD cmd.txn).disseminateD.durableGlobally cmd topology
          persistedOn) := by
    simp [t, durableGlobally_eq topology persistedOn .home h, Role.isHome, stateD_withState]
  cases ha : cmd.hasBeen .preApplied with
  | true =>
    rw [ht, awaitOutcome_of_applied ha]
    exact ⟨rfl, rfl, fun applied => Bool.noConfusion applied, rfl⟩
  | false =>
    have keys := h.resolve_left (by simp [ha])
    rw [ht, stateD_awaitOutcome ha]
    exact ⟨rfl, rfl, fun _ => ⟨_, rfl, s.blockingD.metBy_block .preApplied keys⟩, rfl⟩

/-- A block has been recorded, and nothing else has been done. -/
structure Blocked (log : ShardLog) (txn : TxnId) (required : Known) (keys : Footprint)
    (log' : ShardLog) : Prop where
  awaits : (log'.stateD txn).Awaits required keys
  alone : ∃ b, log' = log.withState txn ((log.stateD txn).withBlocking b)

theorem blocked_block {txn : TxnId} {keys : Footprint} (required : Known)
    (h : keys.isEmpty = false) :
    log.Blocked txn required keys (log.block txn required keys).1 := by
  rw [block_eq log txn required h]
  refine ⟨?_, _, rfl⟩
  rw [stateD_withState, if_pos rfl]
  exact TxnState.awaits_block _ required h

/-- What a notice of global durability leaves of a log that takes it. -/
structure Noticed (log : ShardLog) (cmd : Command) (role : Role) (log' : ShardLog) : Prop where
  others : ∀ x, x ≠ cmd.txn → log'.get? x = log.get? x
  /-- What has not been applied is waited for on the footprint of the command. -/
  awaits : cmd.hasBeen .preApplied = false → (log'.stateD cmd.txn).Awaits .preApplied cmd.footprint
  /-- Where the command has no footprint, it is waited for on the home key. -/
  awaitsHome : cmd.hasBeen .preApplied = false → cmd.footprint.isEmpty = true →
    ∃ key, (log.stateD cmd.txn).homeKey = some key ∧
      (log'.stateD cmd.txn).Awaits .preApplied (.ofKeys [key])
  /-- Off the home shard nothing else is done. -/
  alone : role ≠ .home → cmd.hasBeen .preApplied = false →
    ∃ b, log' = log.withState cmd.txn ((log.stateD cmd.txn).withBlocking b)
  idle : role ≠ .home → cmd.hasBeen .preApplied = true → log' = log
  /-- The home shard has stopped coordinating and announces, if it is not done with that. -/
  home : role = .home → ∃ c d, (log'.stateD cmd.txn).coordinate = some c ∧ c.status = .done ∧
    (log'.stateD cmd.txn).disseminate = some d ∧ (d.status = .durable ∨ d.status = .done)

/-- What has not been applied is waited for on every key that its outcome can be learned by. -/
theorem awaits_durableGlobally (topology : Topology) (persistedOn : Option (SortedSet NodeId))
    (role : Role) (ha : cmd.hasBeen .preApplied = false)
    (hk : (log.outcomeKeys cmd).isEmpty = false) :
    ((log.durableGlobally topology cmd persistedOn role).1.stateD cmd.txn).Awaits .preApplied
      (log.outcomeKeys cmd) := by
  have awaits :
      ((log.awaitOutcome cmd).stateD cmd.txn).Awaits .preApplied (log.outcomeKeys cmd) := by
    rw [stateD_awaitOutcome ha]
    exact TxnState.awaits_block _ .preApplied hk
  rw [durableGlobally_eq topology persistedOn role (.inr hk)]
  cases role with
  | home =>
    simp only [Role.isHome, decide_true, if_true, stateD_withState]
    exact awaits
  | nonHome | indeterminate => exact awaits

theorem noticed_durableGlobally (topology : Topology) (persistedOn : Option (SortedSet NodeId))
    (role : Role) (h : ¬ log.Unaddressed cmd) :
    log.Noticed cmd role (log.durableGlobally topology cmd persistedOn role).1 where
  others := (log.confined_durableGlobally topology cmd persistedOn role).others
  awaits ha := by
    have keys := (addressed_of_not h).resolve_left (by simp [ha])
    exact (awaits_durableGlobally topology persistedOn role ha keys).mono
      fun key hk => mem_outcomeKeys hk
  awaitsHome ha hf := by
    have keys := (addressed_of_not h).resolve_left (by simp [ha])
    cases hk : (log.stateD cmd.txn).homeKey with
    | none => exact absurd ⟨ha, hf, hk⟩ h
    | some key =>
      refine ⟨key, rfl, (awaits_durableGlobally topology persistedOn role ha keys).mono ?_⟩
      intro x hx
      obtain rfl : x = key := by simpa using hx
      exact home_mem_outcomeKeys hk hf
  alone hr ha := by
    rw [durableGlobally_eq topology persistedOn role (addressed_of_not h)]
    simp only [Role.isHome, hr, decide_false, awaitOutcome, ha, Bool.false_eq_true, if_false]
    exact ⟨_, rfl⟩
  idle hr ha := by
    rw [durableGlobally_eq topology persistedOn role (addressed_of_not h)]
    simp [Role.isHome, hr, awaitOutcome_of_applied ha]
  home hr := by
    rw [durableGlobally_eq topology persistedOn role (addressed_of_not h)]
    simp only [hr, Role.isHome, decide_true, if_true, stateD_withState]
    exact ⟨_, _, rfl, Coordinate.done_durableGlobally _, rfl,
      Disseminate.durable_or_done_durableGlobally _ cmd topology persistedOn⟩

/-- Blocks and notices of durability are recorded whole or not at all. They are refused exactly
where there is no key to wait on, and then the log stays as it was. -/
theorem whole_or_not_at_all (log : ShardLog) (topology : Topology) (role : Role) :
    (∀ txn required keys,
      let out := log.record topology role (.waitingOn txn required keys)
      (keys.isEmpty = true ∧ out = (log, .error (.emptyKeySet txn))) ∨
        (keys.isEmpty = false ∧ out.2 = .ok () ∧ log.Blocked txn required keys out.1)) ∧
    (∀ txn keys,
      let out := log.record topology role (.durableElsewhere txn keys)
      (keys.isEmpty = true ∧ out = (log, .error (.emptyKeySet txn))) ∨
        (keys.isEmpty = false ∧ out.2 = .ok () ∧ log.Blocked txn .preApplied keys out.1)) ∧
    ∀ cmd persistedOn,
      let out := log.record topology role (.durableGlobally cmd persistedOn)
      (log.Unaddressed cmd ∧ out = (log, .error (.emptyKeySet cmd.txn))) ∨
        (¬ log.Unaddressed cmd ∧ out.2 = .ok () ∧ log.Noticed cmd role out.1) := by
  have block (txn : TxnId) (required : Known) (keys : Footprint) :
      (keys.isEmpty = true ∧
          log.block txn required keys = (log, .error (.emptyKeySet txn))) ∨
        (keys.isEmpty = false ∧ (log.block txn required keys).2 = .ok () ∧
          log.Blocked txn required keys (log.block txn required keys).1) := by
    refine (log.block_cases txn required keys).imp id fun h => ?_
    obtain ⟨hk, log', e, -⟩ := h
    exact ⟨hk, congrArg Prod.snd e, blocked_block required hk⟩
  refine ⟨block, fun txn => block txn .preApplied, fun cmd persistedOn => ?_⟩
  by_cases h : log.Unaddressed cmd
  · exact .inl ⟨h, durableGlobally_refused topology persistedOn role h⟩
  · exact .inr ⟨h, durableGlobally_ok topology persistedOn role (addressed_of_not h),
      noticed_durableGlobally topology persistedOn role h⟩

end ShardLog

end TxnLiveness
