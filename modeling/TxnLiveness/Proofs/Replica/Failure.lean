import TxnLiveness.Proofs.Replica.Durable
import TxnLiveness.Proofs.Shard.FailFast
import TxnLiveness.Proofs.Shard.Independence
/-!
# What a failed completion leaves

A tracker that takes a completion is made ready for its next audit before anything can fail, and
what a recovery observed is kept whatever comes of it. So a completion fails in three ways, and only
one of them leaves the replica as it was.
-/

namespace TxnLiveness

/-! ## One state -/

namespace TxnState

variable {s s' : TxnState} {tag : Tag} {completion : Completion} {fault : Fault}

/-- A completion fails if the tracker takes none of its kind, or if it is a fruitless fetch and
there is nobody to invalidate with. -/
theorem complete_fault (h : s.complete tag completion = (s', .error fault)) :
    (completion.fits tag.tracker = false ∧ s' = s ∧
        fault = .wrongCompletion tag.tracker s.txn completion) ∨
      ∃ b known, tag.tracker = .blocking ∧ completion = .fetched (.ok known) ∧
        s.blocking = some b ∧ b.accepts tag = true ∧
        ¬ (known.definition = .known ∨ known.outcome = .invalidated) ∧
        ((b.asked = none ∧ s' = s.withBlocking { b with progress := .expected } ∧
            fault = .noAskedParticipants s.txn) ∨
          ∃ asked, b.asked = some asked ∧ asked.someKey? = none) := by
  cases hf : completion.fits tag.tracker with
  | false =>
    rw [complete_misfit hf] at h
    cases h
    exact .inl ⟨rfl, rfl, rfl⟩
  | true =>
    obtain ⟨result, hk, rfl, failed⟩ := fault_of_complete hf (congrArg Prod.snd h)
    cases hb : s.blocking with
    | none =>
      rw [blockingD, hb] at failed
      cases failed
    | some b =>
      rw [blockingD, hb, Option.getD_some] at failed
      simp only [complete, hk, hb] at h
      rcases b.fetched_cases s.txn tag result with
        ⟨-, e⟩ | ⟨-, _, -, e⟩ | ⟨-, _, -, -, e⟩ | ⟨ht, known, rfl, fruitless, he⟩
      · simp [e] at failed
      · simp [e] at failed
      · simp [e] at failed
      · refine .inr ⟨b, known, hk, rfl, rfl, ht, fruitless, ?_⟩
        obtain ⟨ha, e⟩ | ⟨asked, ha, key, -⟩ | ⟨_, _, -, -, e⟩ := he
        · rw [e] at h
          cases h
          exact .inl ⟨ha, rfl, rfl⟩
        · exact .inr ⟨asked, ha, key⟩
        · simp [e] at failed

/-- A fruitless fetch fails where nobody is remembered to have been asked. -/
theorem complete_unasked {b : Blocking} {known : Known} (hk : tag.tracker = .blocking)
    (hb : s.blocking = some b) (taken : b.accepts tag = true) (nobody : b.asked = none)
    (fruitless : ¬ (known.definition = .known ∨ known.outcome = .invalidated)) :
    s.complete tag (.fetched (.ok known)) =
      (s.withBlocking { b with progress := .expected }, .error (.noAskedParticipants s.txn)) := by
  simp [complete, hk, hb, Blocking.fetched, taken, fruitless, nobody]

end TxnState

/-! ## One log -/

namespace ShardLog

variable {shard : ShardId} {node : NodeId} {txn : TxnId} {tag : Tag}

/-- Nobody was asked under the tag of an investigation exactly if it is a proposal to invalidate. -/
theorem asked_eq_none_iff {run : List Act} (hk : tag.tracker = .blocking)
    (ht : (blockingAfter shard node txn run).accepts tag = true) :
    (blockingAfter shard node txn run).asked = none ↔
      ∃ d ∈ dispatchedIn shard node run, d.txn = txn ∧ d.tag = tag ∧
        ∃ participants, d.remediation = .invalidate participants := by
  simp only [Blocking.accepts, Bool.and_eq_true, decide_eq_true_eq] at ht
  obtain ⟨investigating, generation⟩ := ht
  have current : tag = ⟨.blocking, (blockingAfter shard node txn run).generation⟩ := by
    rw [← hk, generation]
  constructor
  · intro nobody
    obtain ⟨a, older, d, suffix, dispatched, own, dtag, asked, -, -⟩ :=
      begun_of_investigating investigating
    have hd := mem_dispatchedIn suffix dispatched
    have fits := fits_of_mem_dispatchedIn hd
    rw [dtag] at fits
    rw [nobody] at asked
    refine ⟨d, hd, own, dtag.trans current.symm, ?_⟩
    cases hr : d.remediation with
    | invalidate participants => exact ⟨participants, rfl⟩
    | fetchKnowledge =>
      rw [hr] at asked
      cases asked
    | _ =>
      rw [hr] at fits
      cases fits
  · rintro ⟨d, hd, own, dtag, participants, hr⟩
    have sent : d ∈ dispatchedFor shard node txn run := List.mem_filter.2 ⟨hd, by simpa using own⟩
    rw [(traced_after shard node txn run).asked investigating d sent (dtag.trans current), hr]
    rfl

end ShardLog

/-! ## One replica -/

namespace Replica

/-- How a completion fails and what it leaves, where `sent` has been dispatched before. -/
inductive Failed (sent : List Dispatch) (r : Replica) (txn : TxnId) (tag : Tag) :
    Completion → Fault → Replica → Prop
  /-- The tracker takes no such completion. Nothing changes. -/
  | misfit {completion : Completion} {s : TxnState} (tracked : r.log.get? txn = some s)
      (unfit : completion.fits tag.tracker = false) :
      Failed sent r txn tag completion (.wrongCompletion tag.tracker txn completion) r
  /-- A proposal to invalidate is answered by a fruitless fetch. It will be made again. -/
  | unasked {known : Known} {s : TxnState} {b : Blocking} (tracked : r.log.get? txn = some s)
      (blocking : s.blocking = some b) (tracker : tag.tracker = .blocking)
      (taken : b.accepts tag = true)
      (proposal : ∃ d ∈ sent, d.txn = txn ∧ d.tag = tag ∧
        ∃ participants, d.remediation = .invalidate participants)
      (fruitless : ¬ (known.definition = .known ∨ known.outcome = .invalidated)) :
      Failed sent r txn tag (.fetched (.ok known)) (.noAskedParticipants txn)
        ⟨r.commands, r.log.withState txn (s.withBlocking { b with progress := .expected })⟩
  /-- A recovery found the transaction durable, and there is no key to learn the outcome by. What
  was observed is kept. -/
  | unaddressed {token : Token} {s : TxnState} {c : Coordinate} (tracked : r.log.get? txn = some s)
      (coordinate : s.coordinate = some c) (tracker : tag.tracker = .coordinate)
      (undone : c.status ≠ .done) (taken : c.accepts tag = true)
      (durable : token.durability = .durable)
      (unaddressed : r.log.Unaddressed (r.command txn)) :
      Failed sent r txn tag (.recovered (.ok token)) (.emptyKeySet txn)
        ⟨r.commands.insert txn { r.command txn with durability := .durable },
          r.log.withState txn (s.withCoordinate
            { c with progress := .expected, token := c.token.merge token })⟩

variable {r r' : Replica} {s : TxnState} {topology : Topology} {txn : TxnId} {tag : Tag}
  {completion : Completion} {fault : Fault}

/-- What fails in the state of the transaction fails the completion. -/
theorem complete_of_error {s' : TxnState} (hs : r.log.get? txn = some s)
    (h : s.complete tag completion = (s', .error fault)) :
    r.complete topology txn tag completion =
      (⟨r.commands, r.log.withState txn s'⟩, .error fault) := by
  simp [complete, ShardLog.complete_of_get? hs, h]

section Recovered

variable {c : Coordinate} {token : Token} (kept : r.Kept) (hs : r.log.get? txn = some s)
  (hk : tag.tracker = .coordinate) (hc : s.coordinate = some c) (undone : c.status ≠ .done)
  (taken : c.accepts tag = true) (durable : token.durability = .durable)

include hs hk hc undone taken durable in
/-- A recovery that found the transaction durable is stored, and fails or not as the log takes the
notice of it. -/
theorem complete_of_recovered :
    let cmd := { r.command txn with durability := .durable }
    let log := r.log.withState txn
      (s.withCoordinate { c with progress := .expected, token := c.token.merge token })
    let told := log.durableGlobally topology cmd none .home
    r.complete topology txn tag (.recovered (.ok token)) =
      (⟨r.commands.insert txn cmd, told.1⟩, told.2.map fun _ => .resolved none) := by
  have resolved := ShardLog.complete_of_get? hs tag (.recovered (.ok token))
  rw [TxnState.complete_durable hk hc undone taken durable] at resolved
  exact complete_of_durable resolved rfl

include kept hs in
/-- Whether the log takes the notice does not depend on how durable the command is stored, nor on
what the coordinate tracker has observed. -/
theorem unaddressed_iff (c : Coordinate) : (r.log.withState txn (s.withCoordinate c)).Unaddressed
      { r.command txn with durability := .durable } ↔ r.log.Unaddressed (r.command txn) := by
  simp only [ShardLog.Unaddressed, kept.command txn, ShardLog.stateD_withState,
    ShardLog.stateD_of_get? hs, if_true]
  rfl

include kept hs hk hc undone taken durable

theorem complete_unaddressed (h : r.log.Unaddressed (r.command txn)) :
    r.complete topology txn tag (.recovered (.ok token)) =
      (⟨r.commands.insert txn { r.command txn with durability := .durable },
          r.log.withState txn (s.withCoordinate
            { c with progress := .expected, token := c.token.merge token })⟩,
        .error (.emptyKeySet txn)) := by
  have refused := ShardLog.durableGlobally_refused topology none .home
    ((unaddressed_iff kept hs { c with progress := .expected, token := c.token.merge token }).2 h)
  rw [show Command.txn _ = txn from kept.command txn] at refused
  rw [complete_of_recovered hs hk hc undone taken durable, refused]
  rfl

theorem complete_addressed (h : ¬ r.log.Unaddressed (r.command txn)) :
    (r.complete topology txn tag (.recovered (.ok token))).2 = .ok (.resolved none) := by
  have told := ShardLog.durableGlobally_ok topology none .home (ShardLog.addressed_of_not
    (mt (unaddressed_iff kept hs { c with
      progress := .expected, token := c.token.merge token }).1 h))
  rw [complete_of_recovered hs hk hc undone taken durable]
  simp only [told]
  rfl

end Recovered

section Runs

variable {shard : ShardId} {node : NodeId} {past : List Act}

/-- The tracker that is there after a run is the one that runs of the log tell of. -/
theorem blockingAfter_of_get? {b : Blocking}
    (hs : ((machine shard node).after past).log.get? txn = some s) (hb : s.blocking = some b) :
    ShardLog.blockingAfter shard node txn (logRun shard node past) = b := by
  rw [← blockingAfter_eq, blockingAfter, ShardLog.stateD_of_get? hs, TxnState.blockingD, hb,
    Option.getD_some]

theorem complete_of_failed (h : ((machine shard node).after past).Failed
      (ShardLog.dispatchedIn shard node (logRun shard node past)) txn tag completion fault r') :
    ((machine shard node).after past).complete topology txn tag completion =
      (r', .error fault) := by
  have sound := sound_log_after shard node past
  cases h with
  | misfit tracked unfit =>
    rw [complete_of_error tracked (TxnState.complete_misfit unfit), ShardLog.withState_self tracked,
      (sound txn _ tracked).1]
  | unasked tracked blocking tracker taken proposal fruitless =>
    have e := blockingAfter_of_get? tracked blocking
    have nobody := (ShardLog.asked_eq_none_iff tracker (e.symm ▸ taken)).2 proposal
    rw [e] at nobody
    refine complete_of_error tracked ?_
    rw [TxnState.complete_unasked tracker blocking taken nobody fruitless, (sound txn _ tracked).1]
  | unaddressed tracked coordinate tracker undone taken durable unaddressed =>
    exact complete_unaddressed (kept_after shard node past) tracked tracker coordinate undone taken
      durable unaddressed

theorem failed_of_error {s' : TxnState}
    (hs : ((machine shard node).after past).log.get? txn = some s)
    (h : s.complete tag completion = (s', .error fault)) :
    ((machine shard node).after past).Failed
      (ShardLog.dispatchedIn shard node (logRun shard node past)) txn tag completion fault
      ⟨((machine shard node).after past).commands,
        ((machine shard node).after past).log.withState txn s'⟩ := by
  have own : s.txn = txn := (sound_log_after shard node past txn s hs).1
  obtain ⟨unfit, rfl, rfl⟩ | ⟨b, known, hk, rfl, hb, taken, fruitless, nobody⟩ :=
    TxnState.complete_fault h
  · rw [ShardLog.withState_self hs, own]
    exact .misfit hs unfit
  · have e := blockingAfter_of_get? hs hb
    obtain ⟨nobody, rfl, rfl⟩ | ⟨asked, ha, keyless⟩ := nobody
    · have proposal := (ShardLog.asked_eq_none_iff hk (e.symm ▸ taken)).1 (e.symm ▸ nobody)
      rw [own]
      exact .unasked hs hb hk taken proposal fruitless
    · -- Whoever was asked in a run has a key.
      have traced := ShardLog.traced_after shard node txn (logRun shard node past)
      exact absurd keyless (traced.key asked (by rw [e]; exact ha))

theorem failed_of_complete
    (h : ((machine shard node).after past).complete topology txn tag completion =
      (r', .error fault)) :
    ((machine shard node).after past).Failed
      (ShardLog.dispatchedIn shard node (logRun shard node past)) txn tag completion fault r' := by
  have kept := kept_after shard node past
  cases hs : ((machine shard node).after past).log.get? txn with
  | none => simp [complete, ShardLog.complete, hs] at h
  | some s =>
    cases hc : s.complete tag completion with
    | mk s' outcome =>
      obtain failure | _ | sequel := outcome
      · rw [complete_of_error hs hc] at h
        cases h
        exact failed_of_error hs hc
      · simp [complete, ShardLog.complete_of_get? hs, hc] at h
      · cases hd : sequel.durable with
        | none => simp [complete, ShardLog.complete_of_get? hs, hc, hd] at h
        | some durability =>
          obtain ⟨c, token, hk, rfl, durable, coordinate, undone, taken⟩ :=
            TxnState.recovered_of_durable (congrArg Prod.snd hc) hd
          by_cases unaddressed : ((machine shard node).after past).log.Unaddressed
              (((machine shard node).after past).command txn)
          · rw [complete_unaddressed kept hs hk coordinate undone taken durable unaddressed] at h
            cases h
            exact .unaddressed hs coordinate hk undone taken durable unaddressed
          · have resolved : (((machine shard node).after past).complete topology txn tag
                (.recovered (.ok token))).2 = .ok (.resolved none) :=
              complete_addressed kept hs hk coordinate undone taken durable unaddressed
            rw [h] at resolved
            cases resolved

/-- After every run a completion fails in exactly three ways. It is none that its tracker takes, and
nothing changes, or it is taken and ends what is under way as if it had not failed. All that is left
undone is to propose an invalidation again, or to wait for an outcome without a key to learn it
by. -/
theorem completion_fails_iff (shard : ShardId) (node : NodeId) (past : List Act)
    (topology : Topology) (txn : TxnId) (tag : Tag) (completion : Completion) (fault : Fault)
    (r' : Replica) :
    ((machine shard node).after past).complete topology txn tag completion = (r', .error fault) ↔
      ((machine shard node).after past).Failed
        (ShardLog.dispatchedIn shard node (logRun shard node past)) txn tag completion fault r' :=
  ⟨failed_of_complete, complete_of_failed⟩

/-- A transaction is recovered at a home key that its command tells. By the time the recovery finds
it durable, the command has been replaced by one without. The completion fails, and the command is
durable and the recovery over nonetheless. -/
theorem failed_recovery_kept :
    let r := (machine 0 1).after [.put { txn := exampleTxn },
      .audit exampleTopology exampleTxn, .audit exampleTopology exampleTxn,
      .record exampleTopology .home (.accepted { txn := exampleTxn }),
      .put { txn := exampleTxn, homeKey := some ⟨[104]⟩ }]
    let out := r.complete exampleTopology exampleTxn ⟨.coordinate, 1⟩
      (.recovered (.ok { durability := .durable, status := .applied }))
    out.2 = .error (.emptyKeySet exampleTxn) ∧
      ((r.command exampleTxn).durability = .notDurable ∧
        (out.1.command exampleTxn).durability = .durable) ∧
      ((r.log.stateD exampleTxn).coordinateD.progress = .investigating ∧
        (out.1.log.stateD exampleTxn).coordinateD.progress = .expected) ∧
      ((r.log.stateD exampleTxn).coordinateD.token = .none ∧
        (out.1.log.stateD exampleTxn).coordinateD.token =
          { durability := .durable, status := .applied }) := by
  intro r out
  exact ⟨rfl, ⟨rfl, rfl⟩, ⟨rfl, rfl⟩, rfl, rfl⟩

end Runs

end Replica

end TxnLiveness
