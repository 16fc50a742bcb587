import TxnLiveness.Tracker.Blocking
/-!
# What the blocking tracker's operations can do

One statement for each operation lists all of its outcomes, each with its condition.
-/

namespace TxnLiveness.Blocking

/-- A block is refused, covered already, or joined to the requirement and waited for. -/
theorem block_cases (b : Blocking) (required : Known) (keys : Footprint) :
    (keys.isEmpty = true ∧ b.block required keys = (b, .error .unnamedBlock)) ∨
      (keys.isEmpty = false ∧ required.MetBy b.required ∧ b.block required keys =
        ({ b with keys := some (b.keys.elim keys (·.union keys)) }, .ok ())) ∨
      (keys.isEmpty = false ∧ ¬ required.MetBy b.required ∧ b.block required keys =
        ({ b with
            keys := some (b.keys.elim keys (·.union keys))
            required := b.required.merge required
            progress := .expected }, .ok ())) := by
  unfold block
  by_cases hk : keys.isEmpty = true
  · simp [hk]
  · by_cases hm : required.MetBy b.required <;> simp [hk, hm]

@[simp] theorem learn_required (b : Blocking) (known : Known) :
    (b.learn known).required = b.required := by
  unfold learn
  split <;> rfl

@[simp] theorem learn_keys (b : Blocking) (known : Known) : (b.learn known).keys = b.keys := by
  unfold learn
  split <;> rfl

/-- The dispatch of an audit that escalates. -/
def fetchOf (b : Blocking) (txn : TxnId) (cmd : Command) (topology : Topology)
    (keys : Footprint) : Dispatch :=
  let executeAt := if cmd.hasBeen .preCommitted then cmd.executeAt else none
  ⟨txn, ⟨.blocking, b.generation + 1⟩, .fetchKnowledge b.required
    (.merge cmd.route keys) executeAt (max (executeAt.elim txn.epoch (·.epoch)) topology.current)⟩

/-- An audit waits, finds the requirement met, fails for want of keys, or plans a fetch. -/
theorem audit_cases (b : Blocking) (txn : TxnId) (cmd : Command) (topology : Topology) :
    (b.progress ≠ .noProgress ∧
        b.audit txn cmd topology = ({ b with progress := b.progress.advance }, .ok none)) ∨
      (b.progress = .noProgress ∧ b.required.MetBy cmd.known ∧
        b.audit txn cmd topology = ({ b with progress := .noneExpected }, .ok none)) ∨
      (b.progress = .noProgress ∧ ¬ b.required.MetBy cmd.known ∧ b.keys = none ∧
        b.audit txn cmd topology =
          ({ b with progress := .investigating }, .error (.noRecordedKeys txn))) ∨
      (b.progress = .noProgress ∧ ¬ b.required.MetBy cmd.known ∧ ∃ keys, b.keys = some keys ∧
        b.audit txn cmd topology =
          ({ b with
              progress := .investigating
              asked := some (.merge cmd.route keys)
              generation := b.generation + 1 }, .ok (some (b.fetchOf txn cmd topology keys)))) := by
  unfold audit
  by_cases hp : b.progress = .noProgress
  · by_cases hm : b.required.MetBy cmd.known
    · simp [hp, hm]
    · cases hk : b.keys <;> simp [hp, hm, fetchOf]
  · simp [hp]

/-- Whatever an audit plans is a fetch of what the command does not know yet. -/
theorem audit_plans {b : Blocking} {txn : TxnId} {cmd : Command} {topology : Topology}
    {d : Dispatch} (h : (b.audit txn cmd topology).2 = .ok (some d)) :
    ¬ b.required.MetBy cmd.known ∧
      ∃ keys, b.keys = some keys ∧ d = b.fetchOf txn cmd topology keys := by
  rcases b.audit_cases txn cmd topology with
    ⟨-, e⟩ | ⟨-, -, e⟩ | ⟨-, -, -, e⟩ | ⟨-, unmet, keys, hk, e⟩ <;> rw [e] at h
  · cases h
  · cases h
  · cases h
  · cases h
    exact ⟨unmet, keys, hk, rfl⟩

/-- The end of a fetch is stale, failed, brought what can be learned, or was fruitless. Then the
transaction is handed over for invalidation, if it is still known whom to ask. -/
theorem fetched_cases (b : Blocking) (txn : TxnId) (tag : Tag)
    (result : Except RemoteFault Known) :
    (b.accepts tag = false ∧ b.fetched txn tag result = (b, .ok .stale)) ∨
      (b.accepts tag = true ∧ ∃ fault, result = .error fault ∧
        b.fetched txn tag result = ({ b with progress := .expected }, .ok (.resolved none))) ∨
      (b.accepts tag = true ∧ ∃ known, result = .ok known ∧
        (known.definition = .known ∨ known.outcome = .invalidated) ∧
        b.fetched txn tag result =
          ({ b with progress := .expected }.learn known, .ok (.resolved none))) ∨
      (b.accepts tag = true ∧ ∃ known, result = .ok known ∧
        ¬ (known.definition = .known ∨ known.outcome = .invalidated) ∧
        ((b.asked = none ∧ b.fetched txn tag result =
            ({ b with progress := .expected }, .error (.noAskedParticipants txn))) ∨
          (∃ asked, b.asked = some asked ∧ asked.someKey? = none ∧ b.fetched txn tag result =
            ({ b with progress := .expected, asked := none }, .error (.noInvalidationKey txn))) ∨
          ∃ asked key, b.asked = some asked ∧ asked.someKey? = some key ∧
            b.fetched txn tag result =
              ({ b with
                  progress := .investigating
                  asked := none
                  generation := b.generation + 1 },
                .ok (.resolved (some ⟨txn, ⟨.blocking, b.generation + 1⟩,
                  .invalidate (asked.withKey key)⟩))))) := by
  unfold fetched
  by_cases ht : b.accepts tag = true
  · cases result with
    | error fault => simp [ht]
    | ok known =>
      by_cases hk : known.definition = .known ∨ known.outcome = .invalidated
      · simp [ht, hk]
      · have := not_or.1 hk
        cases ha : b.asked with
        | none => simpa [ht, hk] using this
        | some asked => cases hs : asked.someKey? <;> simpa [ht, hk, hs] using this
  · simp [ht]

/-- Whatever the end of a fetch plans is an invalidation of what nobody asked can define. -/
theorem fetched_plans {b : Blocking} {txn : TxnId} {tag : Tag}
    {result : Except RemoteFault Known} {d : Dispatch}
    (h : (b.fetched txn tag result).2 = .ok (.resolved (some d))) :
    b.accepts tag = true ∧ ∃ known asked key, result = .ok known ∧
      ¬ (known.definition = .known ∨ known.outcome = .invalidated) ∧
      b.asked = some asked ∧ asked.someKey? = some key ∧
      d = ⟨txn, ⟨.blocking, b.generation + 1⟩, .invalidate (asked.withKey key)⟩ := by
  rcases b.fetched_cases txn tag result with
    ⟨-, e⟩ | ⟨-, _, -, e⟩ | ⟨-, _, -, -, e⟩ | ⟨taken, known, rfl, fruitless, he⟩
  · simp [e] at h
  · simp [e] at h
  · simp [e] at h
  · obtain ⟨-, e⟩ | ⟨_, -, -, e⟩ | ⟨asked, key, ha, hs, e⟩ := he
    · simp [e] at h
    · simp [e] at h
    · rw [e] at h
      cases h
      exact ⟨taken, known, asked, key, rfl, fruitless, ha, hs, rfl⟩

/-- The end of an invalidation is stale, or nothing is left to do, or it is tried again. -/
theorem invalidated_cases (b : Blocking) (tag : Tag) (result : Except RemoteFault Token) :
    (b.accepts tag = false ∧ b.invalidated tag result = (b, .stale)) ∨
      (b.accepts tag = true ∧ ∃ progress, (progress = .done ∨ progress = .expected) ∧
        b.invalidated tag result = ({ b with progress }, .resolved ())) := by
  unfold invalidated
  by_cases ht : b.accepts tag = true
  · right
    refine ⟨ht, ?_⟩
    simp only [ht, Bool.not_true, Bool.false_eq_true, if_false]
    split
    · exact ⟨.done, .inl rfl, rfl⟩
    · exact ⟨.expected, .inr rfl, rfl⟩
  · simp [ht]

/-! ## Only a block changes the keys -/

@[simp] theorem audit_keys (b : Blocking) (txn : TxnId) (cmd : Command) (topology : Topology) :
    (b.audit txn cmd topology).1.keys = b.keys := by
  rcases b.audit_cases txn cmd topology with
    ⟨-, e⟩ | ⟨-, -, e⟩ | ⟨-, -, -, e⟩ | ⟨-, -, keys, -, e⟩ <;> rw [e]

@[simp] theorem fetched_keys (b : Blocking) (txn : TxnId) (tag : Tag)
    (result : Except RemoteFault Known) : (b.fetched txn tag result).1.keys = b.keys := by
  rcases b.fetched_cases txn tag result with
    ⟨-, e⟩ | ⟨-, _, -, e⟩ | ⟨-, known, -, -, e⟩ | ⟨-, _, -, -, he⟩
  · rw [e]
  · rw [e]
  · rw [e]
    exact learn_keys _ _
  · obtain ⟨-, e⟩ | ⟨_, -, -, e⟩ | ⟨_, _, -, -, e⟩ := he <;> rw [e]

@[simp] theorem invalidated_keys (b : Blocking) (tag : Tag)
    (result : Except RemoteFault Token) : (b.invalidated tag result).1.keys = b.keys := by
  obtain ⟨-, e⟩ | ⟨-, _, -, e⟩ := b.invalidated_cases tag result <;> rw [e]

end TxnLiveness.Blocking
