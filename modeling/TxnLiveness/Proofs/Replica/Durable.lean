import TxnLiveness.Proofs.Replica.Invalidation
import TxnLiveness.Proofs.Shard.Notice
import TxnLiveness.Proofs.Token
/-!
# What becomes of a durable recovery

A recovery may find the transaction durable. One completion then passes through the coordinator, the
stored command, the blocking tracker, the coordinator again and dissemination, one after the other.
Nothing on the way refuses, as long as the command has been applied here or there is a key to learn
the outcome by.
-/

namespace TxnLiveness

theorem Command.raiseDurability_durable (cmd : Command) :
    cmd.raiseDurability .durable = { cmd with durability := .durable } := by
  have top : max cmd.durability .durable = .durable := by cases cmd.durability <;> rfl
  rw [raiseDurability, top]

/-! ## One state -/

namespace TxnState

theorem durable_of_plain {r : Resolution Unit} {sequel : Sequel}
    (h : plain r = .resolved sequel) : sequel.durable = none := by
  cases r <;> cases h
  rfl

/-- A completion has something recorded only if it is a recovery that found the transaction
durable, and in time. -/
theorem recovered_of_durable {s : TxnState} {tag : Tag} {completion : Completion} {sequel : Sequel}
    {durability : Durability} (h : (s.complete tag completion).2 = .ok (.resolved sequel))
    (hd : sequel.durable = some durability) :
    ∃ c token, tag.tracker = .coordinate ∧ completion = .recovered (.ok token) ∧
      token.durability = .durable ∧ s.coordinate = some c ∧ c.status ≠ .done ∧
      c.accepts tag = true := by
  have unplain (r : Resolution Unit) (e : plain r = .resolved sequel) : False := by
    rw [durable_of_plain e] at hd
    cases hd
  unfold complete at h
  split at h
  case h_1 result hk =>
    split at h
    · cases h
    · rename_i c hc
      obtain ⟨-, e⟩ | ⟨hs, ha, _, _, e⟩ := c.recovered_cases tag result
      · simp [e] at h
      · have found : (c.recovered tag result).2 = .resolved (some durability) := by
          split at h <;> cases h
          rename_i e'
          rw [e']
          exact congrArg _ hd
        obtain ⟨token, rfl, durable⟩ := Coordinate.durable_of_recovered found
        exact ⟨c, token, hk, rfl, durable, hc, hs, ha⟩
  case h_3 =>
    split at h
    · cases h
    · split at h <;> cases h
      cases hd
  all_goals
    -- No other completion has anything recorded.
    (try split at h) <;> first | exact (unplain _ (Except.ok.inj h)).elim | cases h

/-- A recovery that finds the transaction durable in time has that recorded. -/
theorem complete_durable {s : TxnState} {c : Coordinate} {tag : Tag} {token : Token}
    (hk : tag.tracker = .coordinate) (hc : s.coordinate = some c) (hs : c.status ≠ .done)
    (taken : c.accepts tag = true) (durable : token.durability = .durable) :
    s.complete tag (.recovered (.ok token)) =
      (s.withCoordinate { c with progress := .expected, token := c.token.merge token },
        .ok (.resolved { durable := some .durable })) := by
  simp [complete, hk, hc, Coordinate.recovered_ok hs taken, durable]

end TxnState

/-! ## One log -/

namespace ShardLog

variable {log : ShardLog}

/-- A recovery that is waited for and finds the transaction durable has that recorded. A tracker
that waits is not done. -/
theorem complete_durable (sound : log.Sound) {txn : TxnId} {generation : Nat} {token : Token}
    (answers : log.probe txn .coordinate = ⟨true, generation⟩)
    (durable : token.durability = .durable) :
    ∃ c, (log.stateD txn).coordinate = some c ∧ c.status ≠ .done ∧
      log.complete txn ⟨.coordinate, generation⟩ (.recovered (.ok token)) =
        (log.withState txn ((log.stateD txn).withCoordinate
            { c with progress := .expected, token := c.token.merge token }),
          .ok (.resolved { durable := some .durable })) := by
  obtain ⟨s, hs, hp⟩ : ∃ s, log.get? txn = some s ∧ s.probe .coordinate = ⟨true, generation⟩ := by
    unfold probe at answers
    cases hs : log.get? txn with
    | none => simp [hs] at answers
    | some s => exact ⟨s, rfl, by simpa [hs] using answers⟩
  obtain ⟨c, hc, hp⟩ : ∃ c, s.coordinate = some c ∧ c.probe = ⟨true, generation⟩ := by
    unfold TxnState.probe at hp
    cases hc : s.coordinate with
    | none => simp [hc] at hp
    | some c => exact ⟨c, rfl, by simpa [hc] using hp⟩
  have undone : c.status ≠ .done := by
    intro hd
    have investigating : c.progress = .investigating := by
      simpa [Coordinate.probe] using congrArg Probe.investigating hp
    obtain h | h := (sound txn s hs).2 c hc hd <;> rw [investigating] at h <;> cases h
  have taken : c.accepts ⟨.coordinate, generation⟩ = true := by
    simp [c.accepts_eq, hp, Probe.answers]
  rw [stateD_of_get? hs]
  refine ⟨c, hc, undone, ?_⟩
  rw [complete_of_get? hs, TxnState.complete_durable rfl hc undone taken durable]

end ShardLog

/-! ## One replica -/

namespace Replica

/-- A replica has recorded that a recovery found a transaction durable. -/
structure Recorded (r r' : Replica) (txn : TxnId) (token : Token) : Prop where
  commands : ∀ x, r'.commands.get? x =
    if x = txn then some { r.command txn with durability := .durable } else r.commands.get? x
  others : ∀ x, x ≠ txn → r'.log.get? x = r.log.get? x
  coordinate : ∃ c, (r'.log.stateD txn).coordinate = some c ∧ c.status = .done ∧
    c.progress = .noneExpected ∧ token ≤ c.token
  disseminate : ∃ d, (r'.log.stateD txn).disseminate = some d ∧
    (d.status = .durable ∨ d.status = .done)
  /-- What has not been applied here is waited for. -/
  blocking : (r.command txn).hasBeen .preApplied = false →
    ∃ b, (r'.log.stateD txn).blocking = some b ∧ Known.preApplied.MetBy b.required
  delegation : (r'.log.stateD txn).delegation = (r.log.stateD txn).delegation

variable {r : Replica} {topology : Topology} {txn : TxnId}

/-- A completion leaves the commands alone unless it is a recovery that found the transaction
durable, and in time. -/
theorem commands_complete {tag : Tag} {result : Except RemoteFault Token}
    (h : (r.complete topology txn tag (.recovered result)).2 = .ok .stale ∨
      ∀ token, result = .ok token → token.durability ≠ .durable) :
    (r.complete topology txn tag (.recovered result)).1.commands = r.commands := by
  unfold complete at h ⊢
  cases hc : r.log.complete txn tag (.recovered result) with
  | mk log outcome =>
    obtain fault | _ | ⟨followup, durable⟩ := outcome
    · rfl
    · rfl
    · cases durable with
      | none => rfl
      | some durability =>
        simp only [hc] at h
        obtain h | h := h
        · split at h <;> cases h
        · have resolved : ((r.log.stateD txn).complete tag (.recovered result)).2 =
              .ok (.resolved ⟨followup, some durability⟩) := by
            obtain ⟨-, e⟩ | e := r.log.complete_result txn tag (.recovered result)
            · rw [hc] at e
              cases e
            · rw [← e, hc]
          obtain ⟨_, token, -, e, hd, -⟩ := TxnState.recovered_of_durable resolved rfl
          exact absurd hd (h token (Completion.recovered.inj e))

/-- Where the log resolves a completion with a durable outcome to record, the outcome is stored and
the log is told. What comes of that comes of the completion. -/
theorem complete_of_durable {tag : Tag} {completion : Completion} {log : ShardLog}
    {followup : Option Dispatch} {cmd : Command}
    (h : r.log.complete txn tag completion = (log, .ok (.resolved ⟨followup, some .durable⟩)))
    (hc : cmd = { r.command txn with durability := .durable }) :
    let told := log.durableGlobally topology cmd none .home
    r.complete topology txn tag completion =
      (⟨r.commands.insert txn cmd, told.1⟩, told.2.map fun _ => .resolved followup) := by
  have raised : (r.command txn).raiseDurability .durable = cmd := by
    rw [Command.raiseDurability_durable, hc]
  have alter : ({ r with log } : Replica).alter txn (·.raiseDurability .durable) =
      ⟨r.commands.insert txn cmd, log⟩ := by
    rw [← raised]
    rfl
  have stored : (⟨r.commands.insert txn cmd, log⟩ : Replica).command txn = cmd := by
    simp [command]
  unfold complete
  rw [h]
  dsimp only
  rw [alter, stored]
  generalize log.durableGlobally topology cmd none .home = told
  obtain ⟨log', fault | _⟩ := told <;> rfl

/-- A recovery that is waited for and finds the transaction durable is recorded in full. -/
theorem complete_recorded (sound : r.log.Sound) (kept : r.Kept) {generation : Nat} {token : Token}
    (answers : r.log.probe txn .coordinate = ⟨true, generation⟩)
    (durable : token.durability = .durable)
    (addressed : (r.command txn).hasBeen .preApplied = true ∨
      (r.command txn).footprint.isEmpty = false ∨ (r.log.stateD txn).homeKey ≠ none) :
    ∃ r', r.complete topology txn ⟨.coordinate, generation⟩ (.recovered (.ok token)) =
        (r', .ok (.resolved none)) ∧
      r.Recorded r' txn token := by
  obtain ⟨c, hc, undone, completed⟩ := ShardLog.complete_durable sound answers durable
  have own : (r.command txn).txn = txn := kept.command txn
  -- The log after the tracker has taken the completion, and the command as it is stored then.
  let s := (r.log.stateD txn).withCoordinate
    { c with progress := .expected, token := c.token.merge token }
  let log := r.log.withState txn s
  let cmd : Command := { r.command txn with durability := .durable }
  have state : log.stateD cmd.txn = s := by rw [ShardLog.stateD_withState, if_pos own]
  have addressed : cmd.hasBeen .preApplied = true ∨ (log.outcomeKeys cmd).isEmpty = false := by
    refine addressed.imp id fun h => ShardLog.isEmpty_outcomeKeys (h.imp id fun hk => ?_)
    rw [state]
    exact hk
  have ok := ShardLog.durableGlobally_ok topology none .home addressed
  obtain ⟨coordinate, disseminate, blocking, delegation⟩ :=
    ShardLog.durableGlobally_home topology none addressed
  have confined := log.confined_durableGlobally topology cmd none .home
  rw [state] at coordinate disseminate delegation
  rw [show cmd.txn = txn from own] at coordinate disseminate blocking delegation
  have taken : r.complete topology txn ⟨.coordinate, generation⟩ (.recovered (.ok token)) =
      (⟨r.commands.insert txn cmd, (log.durableGlobally topology cmd none .home).1⟩,
        .ok (.resolved none)) := by
    rw [complete_of_durable completed rfl, ok]
    rfl
  refine ⟨_, taken, ?_, ?_, ?_, ?_, blocking, delegation⟩
  · intro x
    exact SortedMap.get?_insert r.commands txn x cmd
  · intro x hx
    rw [confined.others x (by rwa [show cmd.txn = txn from own]), ShardLog.get?_withState,
      if_neg hx]
  · refine ⟨_, coordinate, ?_⟩
    obtain ⟨hd, -⟩ | ⟨-, e⟩ := s.coordinateD.durableGlobally_cases
    · exact absurd hd undone
    · rw [e]
      exact ⟨rfl, rfl, c.token.le_merge_right token⟩
  · refine ⟨_, disseminate, ?_⟩
    obtain ⟨hd, e⟩ | ⟨-, -, e⟩ | ⟨-, _, he, -⟩ :=
      s.disseminateD.durableGlobally_cases cmd topology none
    · rw [e]
      exact .inr hd
    · rw [e]
      exact .inl rfl
    · cases he

/-! ## Whole runs -/

/-- A recovery that is waited for and finds the transaction durable is recorded in full, if the
command has been applied here or there is a key to learn the outcome by. One that comes too late,
fails or does not find it durable leaves every command as it is. -/
theorem durable_recovery_recorded (shard : ShardId) (node : NodeId) (past : List Act)
    (topology : Topology) (txn : TxnId) (tag : Tag) (result : Except RemoteFault Token) :
    let r := (machine shard node).after past
    let out := r.complete topology txn tag (.recovered result)
    (∀ token, result = .ok token → token.durability = .durable →
      tag.tracker = .coordinate → r.log.probe txn .coordinate = ⟨true, tag.generation⟩ →
      ((r.command txn).hasBeen .preApplied = true ∨ (r.command txn).footprint.isEmpty = false ∨
        (r.log.stateD txn).homeKey ≠ none) →
      out.2 = .ok (.resolved none) ∧ r.Recorded out.1 txn token) ∧
    (out.2 = .ok .stale ∨ (∀ token, result = .ok token → token.durability ≠ .durable) →
      out.1.commands = r.commands) := by
  intro r out
  constructor
  · rintro token rfl durable tracker answers addressed
    obtain ⟨kind, generation⟩ := tag
    cases tracker
    obtain ⟨r', e, recorded⟩ := @complete_recorded r topology txn (sound_log_after shard node past)
      (kept_after shard node past) generation token answers durable addressed
    rw [show out = _ from e]
    exact ⟨rfl, recorded⟩
  · exact commands_complete

/-- The home shard has heard of a transaction, no more, and audits it until it recovers it. -/
def exampleRecovery : List Act :=
  [.audit exampleTopology exampleTxn, .audit exampleTopology exampleTxn,
    .record exampleTopology .home (.witnessed exampleTxn ⟨[97]⟩)]

/-- A recovery of a transaction that was never witnessed here has a durable command stored, unless
it was waited for no longer. -/
theorem durable_recovery_of_unwitnessed :
    let r := (machine 0 1).after exampleRecovery
    let token : Token := { durability := .durable, status := .applied }
    let out (generation : Nat) :=
      r.complete exampleTopology exampleTxn ⟨.coordinate, generation⟩ (.recovered (.ok token))
    r.commands.get? exampleTxn = none ∧
      ((out 1).2 = .ok (.resolved none) ∧ r.Recorded (out 1).1 exampleTxn token) ∧
      ((out 0).2 = .ok .stale ∧ (out 0).1.commands = r.commands) := by
  intro r token out
  have waited := (durable_recovery_recorded 0 1 exampleRecovery exampleTopology exampleTxn
    ⟨.coordinate, 1⟩ (.ok token)).1 token rfl rfl rfl rfl (.inr (.inr (by decide)))
  have late := (durable_recovery_recorded 0 1 exampleRecovery exampleTopology exampleTxn
    ⟨.coordinate, 0⟩ (.ok token)).2 (.inl rfl)
  exact ⟨rfl, waited, rfl, late⟩

end Replica

end TxnLiveness
