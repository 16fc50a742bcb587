import TxnLiveness.Proofs.Blocking.Underway
/-!
# What a fetch asks for

A fetch asks for knowledge that meets everything required so far, and it asks whoever owns a key
that something has been blocked on, along the route where the command has one.
-/

namespace TxnLiveness.Blocking

/-- The keys that an act tells the tracker of, unless it is refused. -/
def told (b : Blocking) : Act → List Footprint
  | .block required keys =>
    match (b.block required keys).2 with
    | .ok () => [keys]
    | .error _ => []
  | _ => []

/-- The sets of keys recorded in a run. -/
def footprints (run : List Act) : List Footprint := machine.collect told run

variable {b : Blocking} {run : List Act}

/-- An act either tells of no keys and leaves those recorded, or joins to them what it tells of. -/
theorem keys_act (b : Blocking) (a : Act) :
    (b.told a = [] ∧ (b.act a).keys = b.keys) ∨
      ∃ keys, b.told a = [keys] ∧ (b.act a).keys = some (b.keys.elim keys (·.union keys)) := by
  cases a with
  | block required keys =>
    simp only [told, act]
    obtain ⟨-, e⟩ | ⟨-, -, e⟩ | ⟨-, -, e⟩ := b.block_cases required keys <;> rw [e]
    · exact .inl ⟨rfl, rfl⟩
    · exact .inr ⟨keys, rfl, rfl⟩
    · exact .inr ⟨keys, rfl, rfl⟩
  | learn | audit | fetched | invalidated => exact .inl ⟨rfl, by simp [act]⟩

/-- The tracker keeps exactly the keys that some recorded set covers. -/
theorem keys_after (run : List Act) (k : Key) :
    (∃ f, (machine.after run).keys = some f ∧ k ∈ f) ↔ ∃ f ∈ footprints run, k ∈ f := by
  induction run with
  | nil => simp [footprints, machine]
  | cons a past ih =>
    simp only [footprints, Machine.collect_cons, Machine.after_cons, machine_step] at ih ⊢
    obtain ⟨none, kept⟩ | ⟨keys, one, joined⟩ := (machine.after past).keys_act a
    · rw [none, kept]
      exact ih
    · rw [one, joined]
      simp only [List.singleton_append, List.mem_cons, exists_eq_or_imp, ← ih]
      cases (machine.after past).keys with
      | none => simp
      | some f => simp [Or.comm]

/-- Whom a fetch has to reach: every key of a recorded set, along the route where one is known.
A full route is taken as it is. -/
def Reaches (told : List Footprint) (route : Option Route) (participants : Participants) : Prop :=
  match route with
  | none => ∃ f, participants = .bare f ∧ ∀ k, k ∈ f ↔ ∃ keys ∈ told, k ∈ keys
  | some ⟨homeKey, .partly, known⟩ =>
    ∃ f, participants = .route ⟨homeKey, .partly, f⟩ ∧
      ∀ k, k ∈ f ↔ k ∈ known ∨ ∃ keys ∈ told, k ∈ keys
  | some ⟨homeKey, .full, known⟩ => participants = .route ⟨homeKey, .full, known⟩

theorem reaches_merge {told : List Footprint} {keys : Footprint} (route : Option Route)
    (h : ∀ k, k ∈ keys ↔ ∃ f ∈ told, k ∈ f) : Reaches told route (.merge route keys) := by
  obtain _ | ⟨homeKey, _ | _, known⟩ := route
  · exact ⟨keys, rfl, h⟩
  · exact rfl
  · exact ⟨known.union keys, rfl, fun k => by rw [Footprint.mem_union, h k]⟩

/-- What the fetch that an audit dispatches after a run has to ask for, of whom and in which
epoch. -/
structure Asks (run : List Act) (txn : TxnId) (cmd : Command) (topology : Topology)
    (required : Known) (participants : Participants) (executeAt : Option Timestamp)
    (epoch : Epoch) : Prop where
  covers : ∀ r ∈ requirements run, r.MetBy required
  unknown : ¬ required.MetBy cmd.known
  reaches : Reaches (footprints run) cmd.route participants
  timed : executeAt = if cmd.hasBeen .preCommitted then cmd.executeAt else none
  latest : epoch = max topology.current (executeAt.elim txn.epoch (·.epoch))

/-- What an audit dispatches is a fetch that asks for everything required so far, which the command
does not know yet, of everyone that something was blocked on, in the latest epoch that matters. -/
theorem fetch_asks_for_everything {run : List Act} {txn : TxnId} {cmd : Command}
    {topology : Topology} {d : Dispatch}
    (h : ((machine.after run).audit txn cmd topology).2 = .ok (some d)) :
    ∃ required participants executeAt epoch,
      d.txn = txn ∧ d.remediation = .fetchKnowledge required participants executeAt epoch ∧
        Asks run txn cmd topology required participants executeAt epoch := by
  obtain ⟨unmet, keys, hk, rfl⟩ := audit_plans h
  have told (k : Key) : k ∈ keys ↔ ∃ f ∈ footprints run, k ∈ f := by
    rw [← keys_after, hk]
    simp
  exact ⟨_, _, _, _, rfl, rfl, (remembers run).covered, unmet, reaches_merge cmd.route told,
    rfl, Nat.max_comm _ _⟩

/-- Blocked twice, on a key and on a range, the second time on what is required already, for a
command that is to execute in an epoch gone by and has a partial route. -/
theorem fetch_asks_along_partial_route :
    let range : KeyRange := ⟨⟨[99]⟩, ⟨[101]⟩, by decide⟩
    let route : Route := .partly ⟨[104]⟩ (.ofKeys [⟨[120]⟩])
    let whole : Route :=
      .partly ⟨[104]⟩ ((Footprint.ofKeys [⟨[97]⟩, ⟨[120]⟩]).union (.ofRanges [range]))
    let cmd : Command :=
      { txn := ⟨1, 1, 1⟩, status := .preCommitted, route, executeAt := some ⟨2, 5, 1⟩ }
    let topology : Topology := ⟨4, fun _ => true, fun _ _ _ => ∅⟩
    let run : List Act := [.audit cmd.txn cmd topology, .block .committed (.ofRanges [range]),
      .block .preApplied (.ofKeys [⟨[97]⟩])]
    let d : Dispatch := ⟨cmd.txn, ⟨.blocking, 1⟩,
      .fetchKnowledge .preApplied (.route whole) (some ⟨2, 5, 1⟩) 4⟩
    ((machine.after run).audit cmd.txn cmd topology).2 = .ok (some d) ∧
      ∃ required participants executeAt epoch,
        d.txn = cmd.txn ∧
          d.remediation = .fetchKnowledge required participants executeAt epoch ∧
          Asks run cmd.txn cmd topology required participants executeAt epoch :=
  ⟨rfl, fetch_asks_for_everything rfl⟩

end TxnLiveness.Blocking
