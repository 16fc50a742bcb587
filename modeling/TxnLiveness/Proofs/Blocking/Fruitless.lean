import TxnLiveness.Proofs.Blocking.Underway
import TxnLiveness.Proofs.Footprint.Algebra
/-!
# Invalidation after a fruitless fetch

Where a fetch comes back from everyone asked without the definition and without an invalidation,
the same participants are asked to invalidate, under a tag of its own. Nothing else leads to an
invalidation, whatever was told or audited while the fetch was under way.
-/

namespace TxnLiveness

namespace Participants

variable {p : Participants} {k x : Key}

theorem mem_withKey : x ∈ (p.withKey k).footprint ↔ x ∈ p.footprint ∨ x = k := by
  cases p <;> exact Footprint.mem_withKey

/-- Listing the key that names them does not change which key that is. -/
theorem someKey?_withKey (h : p.someKey? = some k) : (p.withKey k).someKey? = some k := by
  cases p with
  | route r => exact h
  | bare f =>
    have listed : f.withKey k = f := if_pos (Footprint.mem_of_someKey? h)
    rw [withKey, listed]
    exact h

/-- Everyone asked is reached, and the key that names them is one of theirs: the home key of a
route, and otherwise the key that the footprint asked yields. -/
structure Follows (p asked : Participants) : Prop where
  covers : ∀ k, k ∈ asked.footprint → k ∈ p.footprint
  named : ∃ key, p.someKey? = some key ∧ key ∈ p.footprint ∧
    match asked with
    | .route r => key = r.homeKey
    | .bare f => f.someKey? = some key

theorem follows_withKey (h : p.someKey? = some k) : (p.withKey k).Follows p where
  covers x hx := mem_withKey.2 (.inl hx)
  named := by
    refine ⟨k, someKey?_withKey h, mem_withKey.2 (.inr rfl), ?_⟩
    cases p with
    | route r => exact (Option.some.inj h).symm
    | bare f => exact h

end Participants

namespace Blocking

variable {b : Blocking} {past : List Act} {a : Act}

/-- A dispatch comes under a tag above all that were sent, is under way from then on, and the tag
of the dispatch before it is never accepted again. -/
structure Supersedes (past : List Act) (a : Act) (d e : Dispatch) : Prop where
  fresh : e.tag.tracker = .blocking ∧ ∀ s ∈ sent past, s.tag.generation < e.tag.generation
  underway : underway? (a :: past) = some e
  accepted : (machine.after (a :: past)).accepts e.tag = true
  refused : ∀ later, (machine.after (later ++ a :: past)).accepts d.tag = false

/-! ## What is dispatched -/

theorem dispatched_audit {txn : TxnId} {cmd : Command} {topology : Topology} {d : Dispatch}
    (hd : d ∈ b.dispatched (.audit txn cmd topology)) :
    (b.audit txn cmd topology).2 = .ok (some d) := by
  rw [dispatched] at hd
  split at hd
  · rename_i planned e
    rw [e, Option.mem_toList.1 hd]
  · cases hd

theorem dispatched_fetched {txn : TxnId} {tag : Tag} {result : Except RemoteFault Known}
    {d : Dispatch} (hd : d ∈ b.dispatched (.fetched txn tag result)) :
    (b.fetched txn tag result).2 = .ok (.resolved (some d)) := by
  rw [dispatched] at hd
  split at hd
  · rename_i planned e
    rw [e, Option.mem_toList.1 hd]
  · cases hd

theorem sent_cases {run : List Act} {d : Dispatch} (hd : d ∈ sent run) :
    (∃ required asked executeAt epoch,
      d.remediation = .fetchKnowledge required asked executeAt epoch) ∨
      ∃ p, d.remediation = .invalidate p := by
  induction run with
  | nil => cases hd
  | cons a past ih =>
    obtain hd | hd := List.mem_append.1 hd
    · cases a with
      | audit txn cmd topology =>
        obtain ⟨-, keys, -, rfl⟩ := audit_plans (dispatched_audit hd)
        exact .inl ⟨_, _, _, _, rfl⟩
      | fetched txn tag result =>
        obtain ⟨-, known, asked, key, -, -, -, -, rfl⟩ := fetched_plans (dispatched_fetched hd)
        exact .inr ⟨_, rfl⟩
      | block | learn | invalidated => cases hd
    · exact ih hd

/-- If what is delivered answers the dispatch under way, that is a fetch, and the tracker remembers
whom it asked. -/
theorem fetch_underway {txn : TxnId} {d : Dispatch} {result : Except RemoteFault Known}
    (due : Due past (.fetched txn d.tag result)) (h : underway? past = some d) :
    ∃ required asked executeAt epoch key,
      d.remediation = .fetchKnowledge required asked executeAt epoch ∧
        (machine.after past).asked = some asked ∧ asked.someKey? = some key := by
  obtain ⟨e, he, same, answers⟩ := due _ _ rfl
  have own := asked_of_underway h (mem_sent_of_underway h) rfl
  have remembered : ∃ asked, (machine.after past).asked = some asked := by
    rw [asked_of_underway h he same]
    obtain ⟨_, asked, _, _, hr⟩ | ⟨p, hr⟩ := sent_cases he <;> rw [hr] at answers ⊢
    · exact ⟨asked, rfl⟩
    · cases answers
  obtain ⟨asked, ha⟩ := remembered
  obtain ⟨key, hs⟩ := Option.ne_none_iff_exists'.1 ((traced_after past).key asked ha)
  rw [ha] at own
  obtain ⟨required, _, executeAt, epoch, hr⟩ | ⟨p, hr⟩ := sent_cases (mem_sent_of_underway h) <;>
    rw [hr] at own
  · cases own
    exact ⟨required, asked, executeAt, epoch, key, hr, ha, hs⟩
  · cases own

/-! ## What the end of a fetch does -/

theorem fetched_fruitless {txn : TxnId} {tag : Tag} {known : Known} {asked : Participants}
    {key : Key} (taken : b.accepts tag = true) (unknown : known.definition = .unknown)
    (valid : known.outcome ≠ .invalidated) (ha : b.asked = some asked)
    (hs : asked.someKey? = some key) :
    (b.fetched txn tag (.ok known)).2 = .ok (.resolved (some
      ⟨txn, ⟨.blocking, b.generation + 1⟩, .invalidate (asked.withKey key)⟩)) := by
  simp [fetched, taken, unknown, valid, ha, hs]

/-- A fetch that failed, or brought the definition or an invalidation, plans nothing and leaves the
tracker waiting unless what it brought meets the requirement. -/
theorem fetched_otherwise (txn : TxnId) {tag : Tag} {result : Except RemoteFault Known}
    (taken : b.accepts tag = true) :
    (∀ known, result = .ok known → known.definition = .known ∨ known.outcome = .invalidated) →
      (b.fetched txn tag result).2 = .ok (.resolved none) ∧
        (b.fetched txn tag result).1.progress =
          match result with
          | .ok known => if b.required.MetBy known then .noneExpected else .expected
          | .error _ => .expected := by
  intro h
  cases result with
  | error fault => simp [fetched, taken]
  | ok known =>
    have fruitful := h known rfl
    by_cases met : b.required.MetBy known <;> simp [fetched, taken, fruitful, learn, met]

/-! ## Whole runs -/

/-- Of all acts, exactly the fruitless end of the fetch under way plans an invalidation. -/
theorem invalidates_iff (due : Due past a) :
    (∃ e ∈ (machine.after past).dispatched a, ∃ p, e.remediation = .invalidate p) ↔
      ∃ txn d known, underway? past = some d ∧ a = .fetched txn d.tag (.ok known) ∧
        known.definition = .unknown ∧ known.outcome ≠ .invalidated := by
  constructor
  · rintro ⟨e, he, p, hr⟩
    cases a with
    | audit txn cmd topology =>
      obtain ⟨-, keys, -, rfl⟩ := audit_plans (dispatched_audit he)
      cases hr
    | fetched txn tag result =>
      obtain ⟨taken, known, asked, key, rfl, fruitless, -⟩ := fetched_plans (dispatched_fetched he)
      obtain ⟨d₀, hd₀, same, -⟩ := due _ _ rfl
      obtain ⟨d, hu, rfl⟩ := (accepts_iff ⟨d₀, hd₀, same⟩).1 taken
      obtain ⟨undefined, valid⟩ := not_or.1 fruitless
      refine ⟨txn, d, known, hu, rfl, ?_, valid⟩
      cases hk : known.definition with
      | unknown => rfl
      | known => exact absurd hk undefined
    | block | learn | invalidated => cases he
  · rintro ⟨txn, d, known, hu, rfl, unknown, valid⟩
    obtain ⟨_, asked, _, _, key, -, ha, hs⟩ := fetch_underway due hu
    have taken := (accepts_iff ⟨d, mem_sent_of_underway hu, rfl⟩).2 ⟨d, hu, rfl⟩
    refine ⟨⟨txn, ⟨.blocking, (machine.after past).generation + 1⟩,
      .invalidate (asked.withKey key)⟩, ?_, _, rfl⟩
    rw [dispatched, fetched_fruitless taken unknown valid ha hs]
    exact List.mem_singleton_self _

/-- An invalidation goes to whom the fetch under way was addressed and takes its place. -/
theorem invalidation_of_dispatched (due : Due past a) {e : Dispatch} {p : Participants}
    (he : e ∈ (machine.after past).dispatched a) (hr : e.remediation = .invalidate p) :
    ∃ required asked executeAt epoch d, underway? past = some d ∧
      d.remediation = .fetchKnowledge required asked executeAt epoch ∧ p.Follows asked ∧
      Supersedes past a d e := by
  obtain ⟨txn, d, known, hu, rfl, -, -⟩ := (invalidates_iff due).1 ⟨e, he, p, hr⟩
  obtain ⟨required, asked, executeAt, epoch, key, fetch, ha, hs⟩ := fetch_underway due hu
  obtain ⟨-, _, asked', key', -, -, ha', hs', rfl⟩ := fetched_plans (dispatched_fetched he)
  obtain rfl : asked = asked' := Option.some.inj (ha.symm.trans ha')
  obtain rfl : asked.withKey key' = p := Remediation.invalidate.inj hr
  obtain ⟨underway, investigating, generation, tag⟩ := underway_of_dispatched he
  have bounded : ∀ s ∈ sent past, s.tag.generation ≤ (machine.after past).generation :=
    fun s hs => (traced_after past).bounded s hs (tracker_of_mem_sent hs)
  refine ⟨required, asked, executeAt, epoch, d, hu, fetch, Participants.follows_withKey hs', ?_⟩
  refine ⟨⟨rfl, fun s hs => Nat.lt_succ_of_le (bounded s hs)⟩, underway, ?_, ?_⟩
  · simp only [accepts, investigating, generation, decide_true, Bool.and_self]
  · apply not_accepts_of_lt
    rw [generation]
    exact Nat.lt_succ_of_le (bounded d (mem_sent_of_underway hu))

/-- An invalidation is planned exactly where the fetch under way comes back without the definition
and without an invalidation. It is addressed to whom the fetch was, can be sent to the key that
names them, and supersedes the fetch. Any other end of the fetch under way plans nothing, and the
tracker waits on unless it has learned what it needs. -/
theorem invalidates_exactly_when_fruitless (due : Due past a) :
    ((∃ e ∈ (machine.after past).dispatched a, ∃ p, e.remediation = .invalidate p) ↔
        ∃ txn d known, underway? past = some d ∧ a = .fetched txn d.tag (.ok known) ∧
          known.definition = .unknown ∧ known.outcome ≠ .invalidated) ∧
      (∀ e ∈ (machine.after past).dispatched a, ∀ p, e.remediation = .invalidate p →
        ∃ required asked executeAt epoch d, underway? past = some d ∧
          d.remediation = .fetchKnowledge required asked executeAt epoch ∧ p.Follows asked ∧
          Supersedes past a d e) ∧
      (∀ txn d result, underway? past = some d → a = .fetched txn d.tag result →
        (∀ known, result = .ok known →
          known.definition = .known ∨ known.outcome = .invalidated) →
        (machine.after past).dispatched a = [] ∧
          (machine.after (a :: past)).progress =
            match result with
            | .ok known =>
              if (machine.after past).required.MetBy known then .noneExpected else .expected
            | .error _ => .expected) := by
  refine ⟨invalidates_iff due, fun e he p hr => invalidation_of_dispatched due he hr, ?_⟩
  rintro txn d result hu rfl otherwise
  have taken := (accepts_iff ⟨d, mem_sent_of_underway hu, rfl⟩).2 ⟨d, hu, rfl⟩
  obtain ⟨none, progress⟩ := fetched_otherwise txn taken otherwise
  refine ⟨?_, progress⟩
  rw [dispatched, none]
  rfl

/-- More is blocked while the fetch goes along a partial route without its home key, which comes
back with the time of execution alone. -/
theorem invalidates_along_partial_route :
    let route : Route := .partly ⟨[104]⟩ (.ofKeys [⟨[120]⟩])
    let cmd : Command := { txn := ⟨1, 1, 1⟩, route }
    let topology : Topology := ⟨4, fun _ => true, fun _ _ _ => ∅⟩
    let asked : Participants := .route (.partly ⟨[104]⟩ (.ofKeys [⟨[97]⟩, ⟨[120]⟩]))
    let fetch : Dispatch := ⟨cmd.txn, ⟨.blocking, 1⟩, .fetchKnowledge .preApplied asked none 4⟩
    let past : List Act := [.block .committed (.ofKeys [⟨[98]⟩]), .audit cmd.txn cmd topology,
      .audit cmd.txn cmd topology, .block .preApplied (.ofKeys [⟨[97]⟩])]
    let a : Act := .fetched cmd.txn ⟨.blocking, 1⟩ (.ok .timed)
    Due past a ∧ ∃ e ∈ (machine.after past).dispatched a, ∃ p, e.remediation = .invalidate p ∧
      p.Follows asked ∧ Supersedes past a fetch e := by
  intro route cmd topology asked fetch past a
  have hu : underway? past = some fetch := rfl
  have due : Due past a := by
    rintro tag completion ⟨⟩
    exact ⟨fetch, mem_sent_of_underway hu, rfl, rfl⟩
  obtain ⟨planned, addressed, -⟩ := invalidates_exactly_when_fruitless due
  obtain ⟨e, he, p, hr⟩ := planned.2 ⟨cmd.txn, fetch, .timed, hu, rfl, rfl, nofun⟩
  obtain ⟨_, _, _, _, d, hd, fetched, follows, supersedes⟩ := addressed e he p hr
  obtain rfl : fetch = d := Option.some.inj (hu.symm.trans hd)
  cases fetched
  exact ⟨due, e, he, p, hr, follows, supersedes⟩

end Blocking

end TxnLiveness
