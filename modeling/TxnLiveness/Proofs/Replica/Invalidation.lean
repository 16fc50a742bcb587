import TxnLiveness.Proofs.Replica.Run
import TxnLiveness.Proofs.Shard.Blocked
/-!
# What is proposed for invalidation

A replica proposes to invalidate a transaction when a fetch comes back without its definition. What
it knows of the transaction itself was looked at when the fetch was dispatched and is not looked at
again. A reply that is behind the replica therefore has it propose to invalidate what it knows to be
decided.
-/

namespace TxnLiveness

namespace Command

/-- Whether the command is committed and not invalidated. -/
def Decided (cmd : Command) : Prop := .committed ≤ cmd.status ∧ cmd.status ≤ .applied

instance (cmd : Command) : Decidable cmd.Decided := inferInstanceAs (Decidable (_ ∧ _))

/-- Whether a reply to a fetch is not behind the command: it covers what the command knows, and
knows the definition of what is durable. -/
def CoveredBy (cmd : Command) (reply : Known) : Prop :=
  cmd.known ≤ reply ∧ (cmd.durability = .durable → reply.definition = .known)

instance (cmd : Command) (reply : Known) : Decidable (cmd.CoveredBy reply) :=
  inferInstanceAs (Decidable (_ ∧ (_ → _)))

theorem definition_of_decided {cmd : Command} (h : cmd.Decided) :
    cmd.known.definition = .known := by
  obtain ⟨lower, upper⟩ := h
  unfold known
  cases hs : cmd.status <;> rw [hs] at lower upper <;>
    first | rfl | exact absurd lower (by decide) | exact absurd upper (by decide)

/-- What a reply that is not behind knows no definition of is neither durable nor decided. -/
theorem CoveredBy.undecided {cmd : Command} {reply : Known} (h : cmd.CoveredBy reply)
    (hr : reply.definition ≠ .known) : cmd.durability ≠ .durable ∧ ¬ cmd.Decided := by
  refine ⟨fun hd => hr (h.2 hd), fun hd => hr ?_⟩
  have covered : cmd.known.definition ≤ reply.definition := h.1.1
  rw [definition_of_decided hd] at covered
  cases hk : reply.definition with
  | known => rfl
  | unknown =>
    rw [hk] at covered
    exact absurd covered (by decide)

end Command

namespace TxnState

variable {s : TxnState} {d : Dispatch}

/-- An audit has the blocking tracker fetch what the command does not know. -/
theorem fetch_of_audit {cmd : Command} {topology : Topology}
    (hd : d ∈ s.dispatched (.audit cmd topology)) (hk : d.tag.tracker = .blocking) :
    ¬ s.blockingD.required.MetBy cmd.known ∧
      ∃ keys, d = s.blockingD.fetchOf s.txn cmd topology keys := by
  by_cases own : cmd.txn = s.txn
  · have planned : d ∈ (s.dispatched (.audit cmd topology)).filter (·.tag.tracker = .blocking) :=
      List.mem_filter.2 ⟨hd, by simpa using hk⟩
    rw [filter_dispatched_audit topology own, plan_blocking] at planned
    unfold Audit.dispatchOf at planned
    split at planned
    · rename_i e
      obtain ⟨unmet, keys, -, rfl⟩ := Blocking.audit_plans e
      exact ⟨unmet, keys, List.mem_singleton.1 planned⟩
    · cases planned
  · rw [dispatched, audit_wrong own] at hd
    cases hd

/-- What is planned after a completion is an invalidation by those who were asked: the completion
ends the fetch under way, and whoever was asked knows no definition. -/
theorem fruitless_of_followup {tag : Tag} {completion : Completion}
    (hd : d ∈ s.dispatched (.complete tag completion)) :
    ∃ reply asked key, completion = .fetched (.ok reply) ∧
      tag = ⟨.blocking, s.blockingD.generation⟩ ∧ s.blockingD.progress = .investigating ∧
      s.blockingD.asked = some asked ∧ reply.definition ≠ .known ∧ reply.outcome ≠ .invalidated ∧
      d.remediation = .invalidate (asked.withKey key) := by
  obtain ⟨result, hk, rfl, e⟩ := s.fetched_of_followup hd
  obtain ⟨taken, reply, asked, key, rfl, fruitless, ha, -, rfl⟩ := Blocking.fetched_plans e
  simp only [Blocking.accepts, Bool.and_eq_true, decide_eq_true_eq] at taken
  refine ⟨reply, asked, key, rfl, ?_, taken.1, ha, fun hn => fruitless (.inl hn),
    fun hn => fruitless (.inr hn), rfl⟩
  rw [← hk, taken.2]

end TxnState

namespace Replica

section Runs

variable (shard : ShardId) (node : NodeId)

/-- The blocking tracker of a transaction after a run of a replica. -/
def blockingAfter (txn : TxnId) (run : List Act) : Blocking :=
  (((machine shard node).after run).log.stateD txn).blockingD

/-- A fetch was dispatched in an audit that found the command stored then to know too little, and
has been waited for ever since. -/
def AwaitsFetch (past : List Act) (txn : TxnId) (tag : Tag) : Prop :=
  ∃ topology older fetch, .audit topology txn :: older <:+ past ∧
    fetch ∈ ((machine shard node).after older).planned (.audit topology txn) ∧
    fetch.txn = txn ∧ fetch.tag = tag ∧
    ¬ (blockingAfter shard node txn older).required.MetBy
      (((machine shard node).after older).command txn).known ∧
    ∀ run, .audit topology txn :: older <:+ run → run <:+ past →
      (blockingAfter shard node txn run).progress = .investigating

theorem blockingAfter_eq (txn : TxnId) (run : List Act) : blockingAfter shard node txn run =
    ShardLog.blockingAfter shard node txn (logRun shard node run) := by
  rw [blockingAfter, log_after]
  rfl

theorem sound_log_after (run : List Act) : ((machine shard node).after run).log.Sound := by
  rw [log_after]
  exact ShardLog.sound_after shard node _

variable {shard node}

/-- What is planned for a transaction is planned on its state, in an audit against the command
stored then or after a completion. -/
theorem acted_of_planned {past : List Act} {a : Act} {d : Dispatch}
    (hd : d ∈ ((machine shard node).after past).planned a) :
    (∃ topology, a = .audit topology d.txn ∧
      d ∈ (((machine shard node).after past).log.stateD d.txn).dispatched
        (.audit (((machine shard node).after past).command d.txn) topology)) ∨
    ∃ topology tag completion, a = .complete topology d.txn tag completion ∧
      d ∈ (((machine shard node).after past).log.stateD d.txn).dispatched
        (.complete tag completion) := by
  have sound := sound_log_after shard node past
  obtain ⟨topology, txn, rfl, sent⟩ | ⟨topology, txn, tag, completion, rfl, sent⟩ :=
    dispatched_of_planned hd
  · obtain ⟨_, _, ha, own, sent⟩ | ⟨_, _, ha, -⟩ := ShardLog.mem_dispatched sound sent <;> cases ha
    rw [(kept_after shard node past).command txn] at own
    subst own
    exact .inl ⟨topology, rfl, sent⟩
  · obtain ⟨_, _, ha, -⟩ | ⟨_, _, ha, sent⟩ := ShardLog.mem_dispatched sound sent <;> cases ha
    exact .inr ⟨topology, tag, completion, rfl, sent⟩

/-- Whoever investigates and remembers whom it asked waits for a fetch. -/
theorem awaitsFetch_of_investigating {past : List Act} {txn : TxnId} {asked : Participants}
    (hp : (blockingAfter shard node txn past).progress = .investigating)
    (ha : (blockingAfter shard node txn past).asked = some asked) :
    AwaitsFetch shard node past txn
      ⟨.blocking, (blockingAfter shard node txn past).generation⟩ := by
  rw [blockingAfter_eq] at hp ha
  obtain ⟨a, before, fetch, began, sent, own, tag, hasked, -, since⟩ :=
    ShardLog.begun_of_investigating hp
  subst own
  rw [ha] at hasked
  obtain ⟨topology, cmd, rfl, own, planned⟩ | ⟨tag, completion, rfl, followup⟩ :=
    ShardLog.mem_dispatched (ShardLog.sound_after shard node before) sent
  · obtain ⟨older, began', stored, rfl⟩ := audit_of_logRun began
    rw [own] at began' stored
    subst stored
    refine ⟨topology, older, fetch, began', ?_, rfl, ?_, ?_, fun run hr hr' => ?_⟩
    · rw [← log_after] at sent
      exact sent
    · rw [blockingAfter_eq]
      exact tag
    · rw [blockingAfter_eq]
      exact (TxnState.fetch_of_audit planned (by rw [tag])).1
    · rw [blockingAfter_eq]
      refine since _ (.trans ?_ (logRun_suffix hr)) (logRun_suffix hr')
      exact List.suffix_rfl
  · -- Whoever is asked to invalidate is not remembered as being asked to reply.
    obtain ⟨_, asked', key, -, -, -, -, -, -, hr⟩ := TxnState.fruitless_of_followup followup
    rw [hr] at hasked
    cases hasked

/-- An invalidation is planned only when a fetch that was waited for ends with the reply that nobody
knows the definition. If the reply is not behind the command that is stored when the invalidation is
planned, then this is neither durable nor decided. -/
theorem invalidation_after_fruitless_fetch {past : List Act} {a : Act} {d : Dispatch}
    {participants : Participants} (hd : d ∈ ((machine shard node).after past).planned a)
    (hr : d.remediation = .invalidate participants) :
    ∃ topology tag reply, a = .complete topology d.txn tag (.fetched (.ok reply)) ∧
      reply.definition ≠ .known ∧ reply.outcome ≠ .invalidated ∧
      AwaitsFetch shard node past d.txn tag ∧
      ((((machine shard node).after past).command d.txn).CoveredBy reply →
        (((machine shard node).after past).command d.txn).durability ≠ .durable ∧
          ¬ (((machine shard node).after past).command d.txn).Decided) := by
  obtain ⟨topology, rfl, planned⟩ | ⟨topology, tag, completion, rfl, followup⟩ :=
    acted_of_planned hd
  · -- An audit plans no invalidation.
    have fits := TxnState.fits_of_mem_dispatched planned
    rw [hr] at fits
    obtain ⟨-, keys, e⟩ := TxnState.fetch_of_audit planned (Remediation.fits_invalidate.1 fits)
    rw [e] at hr
    cases hr
  · obtain ⟨reply, asked, key, rfl, rfl, hp, ha, definition, outcome, -⟩ :=
      TxnState.fruitless_of_followup followup
    exact ⟨topology, _, reply, rfl, definition, outcome, awaitsFetch_of_investigating hp ha,
      fun covered => covered.undecided definition⟩

end Runs

/-- The transaction that is invalidated below. -/
def exampleTxn : TxnId := ⟨1, 1, 1⟩

def exampleTopology : Topology := ⟨1, fun _ => true, fun _ _ _ => ∅⟩

/-- Something waits for the transaction, which two audits find not to be witnessed. -/
def exampleFetch : List Act :=
  [.audit exampleTopology exampleTxn, .audit exampleTopology exampleTxn,
    .record exampleTopology .nonHome (.waitingOn exampleTxn .preApplied (.ofKeys [⟨[97]⟩]))]

/-- Nobody who was asked knows anything of the transaction. -/
def exampleReply : Act :=
  .complete exampleTopology exampleTxn ⟨.blocking, 1⟩ (.fetched (.ok .nothing))

def exampleInvalidation : Dispatch :=
  ⟨exampleTxn, ⟨.blocking, 2⟩, .invalidate (.bare (.ofKeys [⟨[97]⟩]))⟩

/-- What nobody has witnessed is proposed for invalidation. -/
theorem invalidation_of_unwitnessed :
    let r := (machine 0 1).after exampleFetch
    exampleInvalidation ∈ r.planned exampleReply ∧ (r.command exampleTxn).CoveredBy .nothing ∧
      (r.command exampleTxn).durability ≠ .durable ∧ ¬ (r.command exampleTxn).Decided := by
  intro r
  have planned : exampleInvalidation ∈ r.planned exampleReply := .head _
  have covered : (r.command exampleTxn).CoveredBy .nothing := by decide
  obtain ⟨_, _, reply, e, -, -, -, safe⟩ := invalidation_after_fruitless_fetch planned rfl
  cases e
  exact ⟨planned, covered, safe covered⟩

/-- A transaction that is committed and durable here by the time of the reply is proposed for
invalidation as well. -/
theorem invalidation_of_decided :
    let cmd : Command := { txn := exampleTxn, status := .committed, durability := .durable }
    let past := .record exampleTopology .nonHome (.committed cmd) :: .put cmd :: exampleFetch
    let r := (machine 0 1).after past
    exampleInvalidation ∈ r.planned exampleReply ∧ r.command exampleTxn = cmd ∧
      (r.command exampleTxn).durability = .durable ∧ (r.command exampleTxn).Decided :=
  ⟨.head _, rfl, rfl, by decide⟩

end Replica

end TxnLiveness
