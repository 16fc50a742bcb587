import TxnLiveness.Tracker.Coordinate
/-!
# What the coordinate tracker's operations can do

One statement for each operation lists all of its outcomes, each with its condition.
-/

namespace TxnLiveness.Coordinate

theorem reach_cases (c : Coordinate) (status : CoordinateStatus) (progress : Progress) :
    c.reach status progress = c ∨
      (c.status < status ∧ c.reach status progress = { c with status, progress }) := by
  unfold reach
  by_cases h : c.status < status
  · exact .inr ⟨h, if_pos h⟩
  · exact .inl (if_neg h)

theorem durableGlobally_cases (c : Coordinate) :
    (c.status = .done ∧ c.durableGlobally = c) ∨
      (c.status ≠ .done ∧
        c.durableGlobally = { c with status := .done, progress := .noneExpected }) := by
  unfold durableGlobally
  by_cases h : c.status = .done <;> simp [h]

/-- An audit waits, fails, or dispatches what was planned under a new generation. -/
theorem audit_cases (c : Coordinate) (txn : TxnId) (cmd : Command) (homeKey : Option Key) :
    (c.progress ≠ .noProgress ∧
        c.audit txn cmd homeKey = ({ c with progress := c.progress.advance }, .ok none)) ∨
      (c.progress = .noProgress ∧
        ∃ fault, { c with progress := .investigating }.plan txn cmd homeKey = .error fault ∧
          c.audit txn cmd homeKey = ({ c with progress := .investigating }, .error fault)) ∨
      (c.progress = .noProgress ∧
        ∃ remediation,
          { c with progress := .investigating }.plan txn cmd homeKey = .ok remediation ∧
          c.audit txn cmd homeKey =
            ({ c with progress := .investigating, generation := c.generation + 1 },
              .ok (some ⟨txn, ⟨.coordinate, c.generation + 1⟩, remediation⟩))) := by
  unfold audit
  by_cases hp : c.progress = .noProgress
  · cases hplan : { c with progress := .investigating }.plan txn cmd homeKey <;> simp [hp, hplan]
  · simp [hp]

/-- What is planned is either to fetch the transaction or to recover it. -/
theorem plan_cases {c : Coordinate} {txn : TxnId} {cmd : Command} {homeKey : Option Key}
    {remediation : Remediation} (h : c.plan txn cmd homeKey = .ok remediation) :
    (∃ route time, cmd.route = some route ∧ cmd.executeAt = some time ∧
        remediation = .fetchToApply .preApplied route time time.epoch) ∨
      ∃ key, homeKey.or cmd.homeKey = some key ∧
        remediation = .recover key cmd.route c.token := by
  unfold plan at h
  split at h
  · cases h
  · split at h
    · split at h
      · cases h
      · cases h
      · cases h
        exact .inl ⟨_, _, ‹_›, ‹_›, rfl⟩
    · split at h
      · cases h
      · cases h
        exact .inr ⟨_, ‹_›, rfl⟩

theorem fetched_cases (c : Coordinate) (tag : Tag) :
    (c.accepts tag = false ∧ c.fetched tag = (c, .stale)) ∨
      (c.accepts tag = true ∧
        c.fetched tag = ({ c with progress := .expected }, .resolved ())) := by
  unfold fetched
  cases h : c.accepts tag <;> simp

/-- The end of a recovery is stale once the tracker is done, or it resolves and may have found the
transaction durable. -/
theorem recovered_cases (c : Coordinate) (tag : Tag) (result : Except RemoteFault Token) :
    ((c.status = .done ∨ c.accepts tag = false) ∧ c.recovered tag result = (c, .stale)) ∨
      (c.status ≠ .done ∧ c.accepts tag = true ∧ ∃ token durable, c.recovered tag result =
        ({ c with progress := .expected, token }, .resolved durable)) := by
  unfold recovered
  by_cases hs : c.status = .done
  · simp [hs]
  · cases ha : c.accepts tag
    · simp
    · refine .inr ⟨hs, rfl, ?_⟩
      cases result with
      | error fault => exact ⟨c.token, none, by simp [hs]⟩
      | ok token => exact ⟨c.token.merge token, _, by simp [hs, observe]; rfl⟩

/-- A recovery that succeeds in time has its token merged, and its durability is to be recorded if
that is global. -/
theorem recovered_ok {c : Coordinate} {tag : Tag} (hs : c.status ≠ .done)
    (ha : c.accepts tag = true) (token : Token) : c.recovered tag (.ok token) =
      ({ c with progress := .expected, token := c.token.merge token },
        .resolved (if token.durability = .durable then some .durable else none)) := by
  simp [recovered, hs, ha, observe]

/-- Only a recovery that found the transaction durable has anything recorded. -/
theorem durable_of_recovered {c : Coordinate} {tag : Tag} {result : Except RemoteFault Token}
    {durability : Durability} (h : (c.recovered tag result).2 = .resolved (some durability)) :
    ∃ token, result = .ok token ∧ token.durability = .durable := by
  unfold recovered at h
  split at h
  · cases h
  · cases result with
    | error fault => cases h
    | ok token =>
      by_cases hd : token.durability = .durable
      · exact ⟨token, rfl, hd⟩
      · simp [hd] at h

end TxnLiveness.Coordinate
