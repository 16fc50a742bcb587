import TxnLiveness.Proofs.Shard.Tracker
import TxnLiveness.Proofs.Token
/-!
# What recoveries are seeded with

The token of a transaction is merged from what its home shard was told of and what its recoveries
found, and from nothing else. It is therefore the largest of these in every component, in whatever
order and however often they came, and recoveries are seeded with more and more.
-/

namespace TxnLiveness

/-- The token of the command that a status event is about. -/
def Event.token? : Event → Option Token
  | .preAccepted cmd | .accepted cmd | .committed cmd | .readyToExecute cmd | .executed cmd
  | .invalidated cmd => some cmd.token
  | _ => none

/-- The token that a recovery is seeded with. -/
def Remediation.seed? : Remediation → Option Token
  | .recover _ _ token => some token
  | _ => none

/-! ## One tracker -/

namespace Coordinate

variable (c : Coordinate)

theorem reach_token (status : CoordinateStatus) (progress : Progress) :
    (c.reach status progress).token = c.token := by
  obtain e | ⟨-, e⟩ := c.reach_cases status progress <;> rw [e]

theorem durableGlobally_token : c.durableGlobally.token = c.token := by
  obtain ⟨-, e⟩ | ⟨-, e⟩ := c.durableGlobally_cases <;> rw [e]

theorem audit_token (txn : TxnId) (cmd : Command) (homeKey : Option Key) :
    (c.audit txn cmd homeKey).1.token = c.token := by
  rcases c.audit_cases txn cmd homeKey with ⟨-, e⟩ | ⟨-, _, -, e⟩ | ⟨-, _, -, e⟩ <;> rw [e]

theorem fetched_token (tag : Tag) : (c.fetched tag).1.token = c.token := by
  obtain ⟨-, e⟩ | ⟨-, e⟩ := c.fetched_cases tag <;> rw [e]

theorem recovered_error_token (tag : Tag) (fault : RemoteFault) :
    (c.recovered tag (.error fault)).1.token = c.token := by
  unfold recovered
  split <;> rfl

/-- A recovery that is not stale has its token merged. -/
theorem recovered_ok_token (tag : Tag) (token : Token) :
    (c.recovered tag (.ok token)).1.token =
      match (c.recovered tag (.ok token)).2 with
      | .stale => c.token
      | .resolved _ => c.token.merge token := by
  unfold recovered
  split <;> rfl

end Coordinate

/-! ## One state -/

namespace TxnState

/-- The token that recoveries of the transaction are seeded with. -/
def seed (s : TxnState) : Token := s.coordinateD.token

/-- The tokens that an act of an event has observed. -/
def Act.tokens : Act → List Token
  | .reachFor cmd _ _ => [cmd.token]
  | .observe token => [token]
  | _ => []

/-- The token that a recovery has found, unless it is stale. -/
def found (s : TxnState) (tag : Tag) : Completion → List Token
  | .recovered (.ok token) =>
    match (s.complete tag (.recovered (.ok token))).2 with
    | .ok (.resolved _) => [token]
    | _ => []
  | _ => []

theorem seed_recordable {s : TxnState} {a : Act} (h : s.Recordable a) :
    (s.act a).seed = a.tokens.foldl Token.merge s.seed := by
  cases a with
  | reach status progress => exact s.coordinateD.reach_token status progress
  | reachFor cmd status progress =>
    exact congrArg (Token.merge · cmd.token) (s.coordinateD.reach_token status progress)
  | stopCoordinating => exact s.coordinateD.durableGlobally_token
  | observe | audit | complete => cases h
  | _ => rfl

theorem seed_allRecordable {s : TxnState} {acts : List Act} (h : s.AllRecordable acts) :
    (acts.foldl act s).seed = (acts.flatMap Act.tokens).foldl Token.merge s.seed := by
  induction acts generalizing s with
  | nil => rfl
  | cons a acts ih =>
    rw [List.flatMap_cons, List.foldl_append, ← seed_recordable h.1]
    exact ih h.2

theorem seed_audit (s : TxnState) (cmd : Command) (topology : Topology) :
    (s.act (.audit cmd topology)).seed = s.seed := by
  simp only [seed, coordinateD_act, onCoordinate]
  split
  · exact s.coordinateD.audit_token _ _ _
  · rfl

/-- Only a coordinate tracker takes recoveries. -/
theorem found_eq_nil {s : TxnState} {tag : Tag} (h : tag.tracker ≠ .coordinate)
    (completion : Completion) : s.found tag completion = [] := by
  unfold found
  split
  · rename_i token
    have misfit : Completion.fits (.recovered (.ok token)) tag.tracker = false := by
      cases hk : tag.tracker <;> first | rfl | exact absurd hk h
    rw [complete_misfit misfit]
  · rfl

/-- A transaction that is not tracked takes no recovery. -/
theorem found_fresh (txn : TxnId) (tag : Tag) (completion : Completion) :
    ({ txn } : TxnState).found tag completion = [] := by
  by_cases h : tag.tracker = .coordinate
  · unfold found
    split
    · simp [complete, h]
    · rfl
  · exact found_eq_nil h completion

theorem seed_recovered {s : TxnState} {tag : Tag} (h : tag.tracker = .coordinate)
    (result : Except RemoteFault Token) :
    (s.coordinateD.recovered tag result).1.token =
      (s.found tag (.recovered result)).foldl Token.merge s.seed := by
  cases result with
  | error fault => exact s.coordinateD.recovered_error_token tag fault
  | ok token =>
    rw [Coordinate.recovered_ok_token]
    simp only [found, complete, h, seed, coordinateD]
    cases s.coordinate with
    | none => rfl
    | some c =>
      simp only [Option.getD_some]
      cases c.recovered tag (.ok token) with
      | mk c' resolution => cases resolution <;> rfl

theorem seed_complete (s : TxnState) (tag : Tag) (completion : Completion) :
    (s.act (.complete tag completion)).seed =
      (s.found tag completion).foldl Token.merge s.seed := by
  simp only [seed, coordinateD_act, onCoordinate]
  split
  · rename_i h
    cases completion with
    | recovered result => exact seed_recovered h result
    | fetched result => exact s.coordinateD.fetched_token tag
    | invalidated | informedHome | acknowledged | roundFinished => rfl
  · rename_i h
    rw [found_eq_nil h]
    rfl

/-- Every recovery is seeded with the token. -/
theorem seed_of_mem_dispatched {s : TxnState} {a : Act} {d : Dispatch} (hd : d ∈ s.dispatched a)
    {token : Token} (hr : d.remediation.seed? = some token) : token = s.seed := by
  obtain ⟨key, route, hr⟩ : ∃ key route, d.remediation = .recover key route token := by
    cases h : d.remediation <;> rw [h] at hr <;> cases hr
    exact ⟨_, _, rfl⟩
  cases a with
  | audit cmd topology =>
    by_cases own : cmd.txn = s.txn
    · have ho : ∃ out, (s.audit cmd topology).2 = .ok out := ⟨_, by rw [audit_eq own]⟩
      obtain ⟨out, ho⟩ := ho
      rw [dispatched, ho] at hd
      obtain ⟨kind, hd⟩ := (mem_dispatches own ho).1 hd
      have planned := audit_planned topology own kind
      have fits := planned.fits_of_mem hd
      rw [planned.tracker_of_mem hd, hr] at fits
      cases kind with
      | coordinate =>
        rw [plan_coordinate] at hd
        rcases s.coordinateD.audit_cases s.txn cmd s.homeKey with
          ⟨-, e⟩ | ⟨-, _, -, e⟩ | ⟨-, remediation, hp, e⟩ <;> rw [e] at hd
        · cases hd
        · cases hd
        · rw [Audit.dispatchOf, List.mem_singleton] at hd
          subst hd
          obtain ⟨_, _, -, -, rfl⟩ | ⟨_, -, rfl⟩ := Coordinate.plan_cases hp <;> cases hr
          rfl
      | blocking | disseminate | delegation => cases fits
    · rw [dispatched, audit_wrong own] at hd
      cases hd
  | complete tag completion =>
    obtain ⟨hk, -, fits⟩ := followups_sound hd
    obtain ⟨_, hb, -⟩ := s.fetched_of_followup hd
    rw [hb, hr] at fits
    cases fits
  | _ => cases hd

end TxnState

/-! ## One log -/

namespace ShardLog

open TxnState

/-- The token that recoveries of a transaction are seeded with. -/
def seed (log : ShardLog) (txn : TxnId) : Token := (log.stateD txn).seed

/-- The token of a transaction that an act observes: of the command of a status event that the home
shard accepts, or of a recovery that is not stale. -/
def observed (log : ShardLog) (txn : TxnId) : Act → List Token
  | .record topology .home event =>
    match (log.record topology .home event).2 with
    | .ok () => if event.txn = txn then event.token?.toList else []
    | .error _ => []
  | .complete x tag (.recovered (.ok token)) =>
    match (log.complete x tag (.recovered (.ok token))).2 with
    | .ok (.resolved _) => if x = txn then [token] else []
    | _ => []
  | _ => []

theorem tokens_learnActs (s : TxnState) (known : Known) :
    (s.learnActs known).flatMap Act.tokens = [] := by
  unfold learnActs
  split <;> rfl

theorem tokens_followActs (cmd : Command) (role : Role) (status : CoordinateStatus)
    (otherwise : DelegationStatus) : (followActs cmd role status otherwise).flatMap Act.tokens =
      if role.isHome then [cmd.token] else [] := by
  unfold followActs
  split <;> rfl

theorem tokens_moveActs (s : TxnState) (cmd : Command) (role : Role) (status : CoordinateStatus) :
    (s.moveActs cmd role status).flatMap Act.tokens = if role.isHome then [cmd.token] else [] := by
  unfold moveActs
  split
  · cases role with
    | indeterminate => rfl
    | home | nonHome => contradiction
  · rw [List.flatMap_append, List.flatMap_cons, tokens_followActs]
    split
    · rw [tokens_learnActs]
      rfl
    · rfl

/-- The acts of an event observe the token of its command if the shard is the home shard. -/
theorem tokens_actsOf (log : ShardLog) (topology : Topology) (role : Role) (event : Event) :
    (log.actsOf topology role event).flatMap Act.tokens =
      if role.isHome then event.token?.toList else [] := by
  cases event with
  | witnessed | durableLocally => cases role <;> rfl
  | preAccepted cmd => cases role <;> rfl
  | accepted cmd => exact tokens_moveActs _ cmd role _
  | committed cmd => exact tokens_moveActs _ cmd role _
  | readyToExecute cmd => exact tokens_moveActs _ cmd role _
  | executed cmd =>
    simp only [actsOf, List.flatMap_append, tokens_learnActs, tokens_moveActs, List.nil_append]
    rfl
  | invalidated cmd =>
    simp only [actsOf, List.flatMap_append, tokens_learnActs, List.nil_append]
    cases role with
    | home => rfl
    | nonHome | indeterminate => split <;> rfl
  | durableGlobally cmd persistedOn =>
    simp only [actsOf]
    split <;> (try split) <;> cases role <;> rfl
  | durableElsewhere txn keys | waitingOn txn required keys =>
    simp only [actsOf, blockActs]
    split <;> cases role <;> rfl

/-- The home shard accepts every status event. -/
theorem record_home_ok (log : ShardLog) (topology : Topology) {event : Event} {token : Token}
    (h : event.token? = some token) : (log.record topology .home event).2 = .ok () := by
  cases event <;> first | rfl | cases h

theorem observed_record (log : ShardLog) (txn : TxnId) (topology : Topology) (role : Role)
    (event : Event) : log.observed txn (.record topology role event) =
      if event.txn = txn ∧ role.isHome = true then event.token?.toList else [] := by
  cases role with
  | nonHome | indeterminate => simp [observed, Role.isHome]
  | home =>
    cases ht : event.token? with
    | none =>
      simp only [observed, ht]
      split <;> simp
    | some token => simp [observed, ht, record_home_ok log topology ht, Role.isHome]

theorem observed_complete (log : ShardLog) (txn x : TxnId) (tag : Tag) (completion : Completion) :
    log.observed txn (.complete x tag completion) =
      if x = txn then (log.stateD x).found tag completion else [] := by
  obtain ⟨hs, e⟩ | e := log.complete_result x tag completion
  · rw [stateD_of_get?_none hs, found_fresh, ite_self]
    unfold observed
    split
    · rename_i ha
      cases ha
    · rename_i ha
      cases ha
      rw [e]
    · rfl
  · unfold observed found
    cases completion with
    | recovered result =>
      cases result with
      | error fault => simp
      | ok token =>
        dsimp only
        rw [e]
        split <;> simp
    | fetched | invalidated | informedHome | acknowledged | roundFinished => simp

theorem seed_act (log : ShardLog) (a : Act) (txn : TxnId) :
    (log.act a).seed txn = (log.observed txn a).foldl Token.merge (log.seed txn) := by
  cases a with
  | record topology role event =>
    rw [observed_record, seed, act, log.does_record topology role event txn]
    by_cases hx : txn = event.txn
    · subst hx
      rw [if_pos rfl, seed_allRecordable (log.allRecordable_actsOf topology role event),
        tokens_actsOf]
      simp [seed]
    · simp [hx, Ne.symm hx, seed]
  | audit topology cmd =>
    rw [seed, act, log.does_audit topology cmd txn]
    split
    · exact seed_audit _ cmd topology
    · rfl
  | complete x tag completion =>
    rw [observed_complete, seed, act, log.does_complete x tag completion txn]
    by_cases hx : txn = x
    · subst hx
      rw [if_pos rfl, if_pos rfl]
      exact seed_complete _ tag completion
    · simp [hx, Ne.symm hx, seed]

/-! ## Runs -/

section Runs

variable (shard : ShardId) (node : NodeId) (txn : TxnId)

/-- The token of a transaction after a run. -/
def seedAfter (run : List Act) : Token := ((machine shard node).after run).seed txn

/-- The tokens of a transaction that were observed in a run, latest first. -/
def observedIn (run : List Act) : List Token :=
  (machine shard node).collect (fun log a => log.observed txn a) run

/-- The seeds of a transaction's recoveries in a run, latest first. -/
def seedsIn (run : List Act) : List Token :=
  (dispatchedFor shard node txn run).filterMap (·.remediation.seed?)

variable {shard node txn}

theorem largestOf_observed (run : List Act) :
    Token.LargestOf (.none :: observedIn shard node txn run) (seedAfter shard node txn run) := by
  induction run with
  | nil => exact .singleton _
  | cons a past ih =>
    rw [seedAfter, Machine.after_cons, machine_step, seed_act]
    refine (ih.foldl _).congr fun t => ?_
    simp only [observedIn, Machine.collect_cons, List.mem_append, List.mem_cons]
    exact or_left_comm

theorem seedAfter_le_cons (shard : ShardId) (node : NodeId) (txn : TxnId) (a : Act)
    (past : List Act) :
    seedAfter shard node txn past ≤ seedAfter shard node txn (a :: past) := by
  refine (largestOf_observed past).le_of_subset (largestOf_observed (a :: past)) fun t ht => ?_
  simp only [observedIn, Machine.collect_cons, List.mem_cons, List.mem_append] at ht ⊢
  exact ht.imp_right .inr

/-- A recovery is seeded with the token that the run has arrived at. -/
theorem seed_of_dispatched {past : List Act} {a : Act} {d : Dispatch}
    (hd : d ∈ ((machine shard node).after past).dispatched a) (ht : d.txn = txn) {token : Token}
    (hr : d.remediation.seed? = some token) : token = seedAfter shard node txn past := by
  subst ht
  obtain ⟨_, _, -, -, hd⟩ | ⟨_, _, -, hd⟩ := mem_dispatched (sound_after shard node past) hd
  · exact TxnState.seed_of_mem_dispatched hd hr
  · exact TxnState.seed_of_mem_dispatched hd hr

/-- An act adds to the seeds none but the token that it found. -/
theorem seedsIn_cons (shard : ShardId) (node : NodeId) (txn : TxnId) (a : Act) (past : List Act) :
    ∃ fresh : List Token,
    seedsIn shard node txn (a :: past) = fresh ++ seedsIn shard node txn past ∧
      ∀ token ∈ fresh, token = seedAfter shard node txn past := by
  refine ⟨_, by rw [seedsIn, dispatchedFor_cons, List.filterMap_append]; rfl, fun token h => ?_⟩
  obtain ⟨d, hd, hr⟩ := List.mem_filterMap.1 h
  obtain ⟨hd, ht⟩ := List.mem_filter.1 hd
  exact seed_of_dispatched hd (by simpa using ht) hr

theorem le_seedAfter_of_mem {run : List Act} {token : Token}
    (h : token ∈ seedsIn shard node txn run) : token ≤ seedAfter shard node txn run := by
  induction run with
  | nil => cases h
  | cons a past ih =>
    obtain ⟨fresh, e, same⟩ := seedsIn_cons shard node txn a past
    rw [e] at h
    have grown := seedAfter_le_cons shard node txn a past
    obtain h | h := List.mem_append.1 h
    · exact same token h ▸ grown
    · exact Token.le_trans (ih h) grown

theorem seedsIn_rising (run : List Act) :
    (seedsIn shard node txn run).Pairwise fun later earlier => earlier ≤ later := by
  induction run with
  | nil => exact .nil
  | cons a past ih =>
    obtain ⟨fresh, e, same⟩ := seedsIn_cons shard node txn a past
    rw [e]
    refine List.pairwise_append.2 ⟨List.pairwise_of_forall_mem_list ?_, ih, ?_⟩
    · intro later hl earlier he
      rw [same later hl, same earlier he]
      exact Token.le_refl _
    · intro later hl earlier he
      exact same later hl ▸ le_seedAfter_of_mem he

/-- After every run the token of a transaction is the largest, in each component, of those observed.
It depends on which these are and not on their order, every recovery is seeded with it, and later
recoveries are seeded with no less than earlier ones. -/
theorem seeded_with_everything_observed (shard : ShardId) (node : NodeId) (txn : TxnId)
    (past : List Act) :
    Token.LargestOf (.none :: observedIn shard node txn past) (seedAfter shard node txn past) ∧
      (∀ other, (∀ token, token ∈ observedIn shard node txn other ↔
          token ∈ observedIn shard node txn past) →
        seedAfter shard node txn other = seedAfter shard node txn past) ∧
      (∀ a, ∀ d ∈ ((machine shard node).after past).dispatched a, d.txn = txn →
        ∀ key route token, d.remediation = .recover key route token →
          token = seedAfter shard node txn past) ∧
      (seedsIn shard node txn past).Pairwise fun later earlier => earlier ≤ later := by
  refine ⟨largestOf_observed past, fun other same => ?_, ?_, seedsIn_rising past⟩
  · refine (largestOf_observed other).eq_of_mem_iff (largestOf_observed past) fun token => ?_
    rw [List.mem_cons, List.mem_cons, same]
  · intro a d hd ht key route token hr
    exact seed_of_dispatched hd ht (by rw [hr]; rfl)

end Runs

end ShardLog

end TxnLiveness
