import TxnLiveness.Proofs.Node.Step
/-!
# What the tasks of a node do

A task replaces the replica of its store and launches what the replica has dispatched. From that
follows what it does to every tracker of the node.
-/

namespace TxnLiveness

/-- Whether the dispatch carries the tag of a tracker of the transaction. -/
def Dispatch.carries (txn : TxnId) (tag : Tag) (d : Dispatch) : Bool := d.txn = txn && d.tag = tag

/-- What there is to report of a step whose result nobody waits for. -/
def failuresOf {α : Type} : Except Fault α → List Failure
  | .error fault => [.fault fault]
  | .ok _ => []

/-- What there is to report of a task of the user: the fault of its changes, or how it ends. -/
def Ending.failures (ending : Ending) : Except Fault Unit → List Failure
  | .error fault => [.fault fault]
  | .ok () =>
    match ending with
    | .returned => []
    | .failed message => [.raised message]
    | .panicked p => [.panicked p]

namespace Node

variable {n m : Node} {i : Nat} {s : Store}

/-! ## Launching -/

/-- The flights of what a store dispatches, numbered from `id` on. -/
def flightsOf (i : Nat) : Nat → List Dispatch → List Flight
  | _, [] => []
  | id, d :: ds => ⟨id, i, d.txn, d.tag, .launched d.remediation⟩ :: flightsOf i (id + 1) ds

theorem mem_flightsOf {id : Nat} {ds : List Dispatch} {f : Flight} (h : f ∈ flightsOf i id ds) :
    id ≤ f.id ∧ f.id < id + ds.length ∧ f.store = i ∧
      ∃ d ∈ ds, f.tag = d.tag ∧ f.stage = .launched d.remediation := by
  induction ds generalizing id with
  | nil => cases h
  | cons d ds ih =>
    rw [List.length_cons]
    obtain rfl | h := List.mem_cons.1 h
    · exact ⟨Nat.le_refl _, by simp, rfl, d, List.mem_cons_self, rfl, rfl⟩
    · obtain ⟨hl, hu, hs, x, hx, hd⟩ := ih h
      exact ⟨by omega, by omega, hs, x, List.mem_cons_of_mem _ hx, hd⟩

/-- A flight stays as it is when others are launched. -/
theorem flight?_of_launched {id : Nat} (h : id < n.launched) {ds : List Dispatch}
    (hm : m.flights = n.flights ++ flightsOf i n.launched ds) : m.flight? id = n.flight? id := by
  have later : (flightsOf i n.launched ds).find? (·.id = id) = none := by
    refine List.find?_eq_none.2 fun f hf => ?_
    have := (mem_flightsOf hf).1
    simp only [decide_eq_true_eq]
    omega
  rw [flight?, hm, List.find?_append, later, Option.or_none, flight?]

@[simp] theorem length_flightsOf (i id : Nat) (ds : List Dispatch) :
    (flightsOf i id ds).length = ds.length := by
  induction ds generalizing id with
  | nil => rfl
  | cons d ds ih => rw [flightsOf, List.length_cons, List.length_cons, ih]

theorem pairwise_flightsOf (i id : Nat) (ds : List Dispatch) :
    (flightsOf i id ds).Pairwise fun f g => f.id ≠ g.id := by
  induction ds generalizing id with
  | nil => exact .nil
  | cons d ds ih =>
    refine List.pairwise_cons.2 ⟨fun g hg => ?_, ih _⟩
    have := (mem_flightsOf hg).1
    dsimp only
    omega

theorem countP_flightsOf (i id : Nat) (ds : List Dispatch) (j : Nat) (txn : TxnId) (tag : Tag) :
    (flightsOf i id ds).countP (·.carries j txn tag) =
      if i = j then ds.countP (·.carries txn tag) else 0 := by
  induction ds generalizing id with
  | nil => simp [flightsOf]
  | cons d ds ih =>
    rw [flightsOf, List.countP_cons, List.countP_cons, ih]
    by_cases hi : i = j <;> simp [Flight.carries, Dispatch.carries, hi]

/-- Launches what a store dispatches, one after the other. -/
def launchAll (n : Node) (i : Nat) (ds : List Dispatch) : Node :=
  ds.foldl (fun n d => n.launch i d) n

theorem launchAll_eq (n : Node) (i : Nat) (ds : List Dispatch) :
    (n.launchAll i ds).stores = n.stores ∧
      (n.launchAll i ds).flights =
        n.flights ++ flightsOf i n.launched (if n.isAlive i then ds else []) ∧
      (n.launchAll i ds).launched = n.launched + (if n.isAlive i then ds else []).length ∧
      (n.launchAll i ds).reports = n.reports ∧
      (n.launchAll i ds).counters.ticks = n.counters.ticks := by
  unfold launchAll
  induction ds generalizing n with
  | nil => simp [flightsOf]
  | cons d ds ih =>
    obtain ⟨ihs, ihf, ihl, ihr, iht⟩ := ih (n.launch i d)
    rw [List.foldl_cons, ihs, ihf, ihl, ihr, iht]
    cases alive : n.isAlive i with
    | false => simp [launch, alive]
    | true =>
      -- The flight that is launched holds a handle of its own.
      have still : (n.launch i d).isAlive i = true := by
        simp only [launch, alive, if_true]
        simp [isAlive]
      have ticks : (n.counters.launch d.remediation).ticks = n.counters.ticks := by
        cases d.remediation <;> rfl
      rw [still]
      simp [launch, alive, flightsOf, ticks, Nat.add_comm, Nat.add_left_comm]

/-- Reports failures of a shard one after the other. -/
def reportAll (n : Node) (shard : ShardId) (failures : List Failure) : Node :=
  failures.foldl (fun n f => n.report shard f) n

theorem reportAll_eq (n : Node) (shard : ShardId) (failures : List Failure) :
    (n.reportAll shard failures).stores = n.stores ∧
      (n.reportAll shard failures).flights = n.flights ∧
      (n.reportAll shard failures).launched = n.launched ∧
      (n.reportAll shard failures).reports = n.reports ++ failures.map (⟨shard, ·⟩) ∧
      (n.reportAll shard failures).counters.ticks = n.counters.ticks := by
  unfold reportAll
  induction failures generalizing n with
  | nil => simp
  | cons f failures ih =>
    obtain ⟨ihs, ihf, ihl, ihr, iht⟩ := ih (n.report shard f)
    rw [List.foldl_cons, ihs, ihf, ihl, ihr, iht]
    simp [report, Counters.uncaught]

/-! ## Running -/

/-- A task has replaced the replica at a place and launched what was dispatched. -/
structure Ran (n : Node) (i : Nat) (r : Replica) (ds : List Dispatch) (m : Node) : Prop where
  stores : m.stores = (n.modifyStore i ({ · with replica := r })).stores
  flights : m.flights = n.flights ++ flightsOf i n.launched ds
  launched : m.launched = n.launched + ds.length

namespace Ran

variable {r : Replica} {ds : List Dispatch}

theorem getElem?_stores (h : n.Ran i r ds m) (hs : n.stores[i]? = some s) (j : Nat) :
    m.stores[j]? = if i = j then some { s with replica := r } else n.stores[j]? := by
  rw [h.stores, getElem?_modifyStore]
  split
  · subst j
    rw [hs]
    rfl
  · rfl

theorem probe (h : n.Ran i r ds m) (hs : n.stores[i]? = some s) (j : Nat) (txn : TxnId)
    (kind : TrackerKind) :
    m.probe j txn kind = if i = j then r.log.probe txn kind else n.probe j txn kind := by
  unfold Node.probe
  rw [h.getElem?_stores hs]
  split <;> rfl

/-- What is launched comes to be underway. -/
theorem underway (h : n.Ran i r ds m) (j : Nat) (txn : TxnId) (tag : Tag) :
    m.underway j txn tag =
      n.underway j txn tag + if i = j then ds.countP (·.carries txn tag) else 0 := by
  have queued : m.queued j txn tag = n.queued j txn tag := by
    have : m.queued j txn tag = (n.modifyStore i ({ · with replica := r })).queued j txn tag := by
      rw [Node.queued, h.stores]
      rfl
    rw [this, queued_modifyStore (f := ({ · with replica := r })) fun _ => rfl]
  rw [Node.underway, Node.underway, queued, Node.running, h.flights, List.countP_append,
    countP_flightsOf, Node.running]
  omega

/-- The flights with later numbers are those that were launched. -/
theorem filter_launched (h : n.Ran i r ds m) (hn : n.Sound) :
    m.flights.filter (n.launched ≤ ·.id) = flightsOf i n.launched ds := by
  have old : n.flights.filter (n.launched ≤ ·.id) = [] :=
    List.filter_eq_nil_iff.2 fun f hf => by simpa using hn.numbered f hf
  have new : (flightsOf i n.launched ds).filter (n.launched ≤ ·.id) = flightsOf i n.launched ds :=
    List.filter_eq_self.2 fun f hf => by simpa using (mem_flightsOf hf).1
  rw [h.flights, List.filter_append, old, new, List.nil_append]

theorem countP_launched (h : n.Ran i r ds m) (hn : n.Sound) (j : Nat) (txn : TxnId) (tag : Tag) :
    (m.flights.filter (n.launched ≤ ·.id)).countP (·.carries j txn tag) =
      if i = j then ds.countP (·.carries txn tag) else 0 := by
  rw [h.filter_launched hn, countP_flightsOf]

theorem sound (h : n.Ran i r ds m) (hn : n.Sound) (hs : n.stores[i]? = some s)
    (hr : r.log.Sound) (hd : ∀ d ∈ ds, d.remediation.fits d.tag.tracker = true) : m.Sound := by
  have replaced : (n.modifyStore i ({ · with replica := r })).Sound :=
    sound_modifyStore hn fun s _ hs => ⟨hs.held, hr, hs.queue⟩
  have inside : i < n.stores.length := (List.getElem?_eq_some_iff.1 hs).1
  refine ⟨?_, fun f hf => ?_, fun f hf => ?_, fun f hf => ?_, ?_⟩
  · rw [h.stores]
    exact replaced.stores
  · rw [h.flights] at hf
    rw [h.launched]
    obtain hf | hf := List.mem_append.1 hf
    · exact Nat.lt_add_right _ (hn.numbered f hf)
    · exact (mem_flightsOf hf).2.1
  · rw [h.flights] at hf
    rw [h.stores, length_modifyStore]
    obtain hf | hf := List.mem_append.1 hf
    · exact hn.returning f hf
    · rw [(mem_flightsOf hf).2.2.1]
      exact inside
  · rw [h.flights] at hf
    obtain hf | hf := List.mem_append.1 hf
    · exact hn.fitting f hf
    · obtain ⟨-, -, -, d, hd', ht, hst⟩ := mem_flightsOf hf
      rw [ht, hst]
      exact hd d hd'
  · rw [h.flights]
    refine List.pairwise_append.2 ⟨hn.distinct, pairwise_flightsOf .., fun f hf g hg => ?_⟩
    have := hn.numbered f hf
    have := (mem_flightsOf hg).1
    omega

end Ran

/-- The replica at a place is another, and so many audits have been counted. -/
structure Replaced (n : Node) (i : Nat) (r : Replica) (ticks : Nat) (m : Node) : Prop where
  stores : m.stores = (n.modifyStore i ({ · with replica := r })).stores
  flights : m.flights = n.flights
  launched : m.launched = n.launched
  reports : m.reports = n.reports
  ticks : m.counters.ticks = n.counters.ticks + ticks

theorem replaced_modifyStore (n : Node) (i : Nat) (r : Replica) :
    n.Replaced i r 0 (n.modifyStore i ({ · with replica := r })) := ⟨rfl, rfl, rfl, rfl, rfl⟩

namespace Replaced

variable {r : Replica} {ticks : Nat}

theorem getElem?_stores (h : n.Replaced i r ticks m) (hs : n.stores[i]? = some s) :
    m.stores[i]? = some { s with replica := r } := by
  rw [h.stores, getElem?_modifyStore, if_pos rfl, hs]
  rfl

theorem isAlive (h : n.Replaced i r ticks m) : m.isAlive i = n.isAlive i := by
  have held : m.stores[i]?.any (·.held) = n.stores[i]?.any (·.held) := by
    rw [h.stores, getElem?_modifyStore, if_pos rfl]
    cases n.stores[i]? <;> rfl
  rw [Node.isAlive, held, h.flights, Node.isAlive]

/-- Launching from a store that is alive, and reporting whatever failed. -/
theorem ran (h : n.Replaced i r ticks m) {ds : List Dispatch}
    (launches : n.isAlive i = true ∨ ds = []) (shard : ShardId) (failures : List Failure) :
    n.Ran i r ds ((m.launchAll i ds).reportAll shard failures) := by
  have all : (if m.isAlive i then ds else []) = ds := by
    rw [h.isAlive]
    obtain alive | rfl := launches
    · rw [alive, if_pos rfl]
    · split <;> rfl
  obtain ⟨ls, lf, ll, -, -⟩ := m.launchAll_eq i ds
  obtain ⟨rs, rf, rl, -, -⟩ := (m.launchAll i ds).reportAll_eq shard failures
  rw [all, h.flights, h.launched] at lf
  rw [all, h.launched] at ll
  exact ⟨rs.trans (ls.trans h.stores), rf.trans lf, rl.trans ll⟩

end Replaced

theorem isAlive_of_held (hs : n.stores[i]? = some s) (hh : s.held = true) :
    n.isAlive i = true := by simp [isAlive, hs, hh]

theorem reportAt_eq_reportAll (hs : n.stores[i]? = some s) (failure : Failure) :
    n.reportAt i failure = n.reportAll s.shard [failure] := by
  simp only [reportAt, hs, reportAll, List.foldl_cons, List.foldl_nil]

/-! ## Work -/

theorem run_work (hs : n.stores[i]? = some s) (topology : Topology) (listing : Listing)
    (edits : List Edit) (ending : Ending) :
    n.run topology listing i (.work edits ending) =
      (n.modifyStore i ({ · with replica := (s.replica.editAll topology edits).1 })).reportAll
        (s.replica.editAll topology edits).1.log.shard
        (ending.failures (s.replica.editAll topology edits).2) := by
  have there := (n.replaced_modifyStore i (s.replica.editAll topology edits).1).getElem?_stores hs
  simp only [run, perform, hs]
  generalize s.replica.editAll topology edits = step at there
  obtain ⟨r, fault | _⟩ := step
  · exact reportAt_eq_reportAll there (.fault fault)
  · cases ending with
    | returned => rfl
    | failed message => exact reportAt_eq_reportAll there (.raised message)
    | panicked p => exact reportAt_eq_reportAll there (.panicked p)

theorem ran_work (hs : n.stores[i]? = some s) (topology : Topology) (listing : Listing)
    (edits : List Edit) (ending : Ending) :
    n.Ran i (s.replica.editAll topology edits).1 []
      (n.run topology listing i (.work edits ending)) := by
  rw [run_work hs]
  exact (n.replaced_modifyStore i _).ran (.inr rfl) _ _

/-! ## Audits -/

/-- The replica that an audit leaves, in a node that has counted the audit. -/
def ticked (n : Node) (topology : Topology) (i : Nat) (txn : TxnId) (s : Store) : Node :=
  { n with counters := n.counters.tick }.modifyStore i
    ({ · with replica := (s.replica.audit topology txn).1 })

theorem replaced_ticked (n : Node) (topology : Topology) (i : Nat) (txn : TxnId) (s : Store) :
    n.Replaced i (s.replica.audit topology txn).1 1 (n.ticked topology i txn s) :=
  ⟨rfl, rfl, rfl, rfl, rfl⟩

/-- An audit launches every dispatch before it reports a fault. -/
theorem run_audit (hs : n.stores[i]? = some s) (topology : Topology) (listing : Listing)
    (txn : TxnId) {out : Audit} (ho : (s.replica.audit topology txn).2 = .ok out) :
    n.run topology listing i (.audit txn) =
      ((n.ticked topology i txn s).launchAll i out.dispatches).reportAll s.shard
        (out.faults.map (.audit txn)) := by
  simp only [run, audit, hs, ho, orReport, ticked, launchAll, reportAll, List.foldl_map]

/-- An audit launches every dispatch and reports every fault. -/
theorem ran_audit (hs : n.stores[i]? = some s) (hh : s.held = true) (topology : Topology)
    (listing : Listing) (txn : TxnId) {out : Audit}
    (ho : (s.replica.audit topology txn).2 = .ok out) :
    n.Ran i (s.replica.audit topology txn).1 out.dispatches
        (n.run topology listing i (.audit txn)) ∧
      ∀ fault ∈ out.faults,
        ⟨s.shard, .audit txn fault⟩ ∈ (n.run topology listing i (.audit txn)).reports := by
  rw [run_audit hs topology listing txn ho]
  refine ⟨(n.replaced_ticked ..).ran (.inl (isAlive_of_held hs hh)) _ _, fun fault hf => ?_⟩
  rw [(reportAll_eq ..).2.2.2.1, List.map_map]
  exact List.mem_append_right _ (List.mem_map.2 ⟨fault, hf, rfl⟩)

/-! ## Completions -/

/-- The replica that a completion leaves, in a node that has counted the completion if it failed or
is stale. -/
def completed (n : Node) (topology : Topology) (i : Nat) (txn : TxnId) (tag : Tag)
    (completion : Completion) (s : Store) : Node :=
  let n := if completion.isFailure then { n with counters := n.counters.remoteFailure } else n
  let n := n.modifyStore i
    ({ · with replica := (s.replica.complete topology txn tag completion).1 })
  match (s.replica.complete topology txn tag completion).2 with
  | .ok .stale => { n with counters := n.counters.stale }
  | _ => n

theorem replaced_completed (n : Node) (topology : Topology) (i : Nat) (txn : TxnId) (tag : Tag)
    (completion : Completion) (s : Store) :
    n.Replaced i (s.replica.complete topology txn tag completion).1 0
      (n.completed topology i txn tag completion s) := by
  unfold completed
  dsimp only
  split <;> split <;> exact ⟨rfl, rfl, rfl, rfl, rfl⟩

theorem run_complete (hs : n.stores[i]? = some s) (topology : Topology) (listing : Listing)
    (txn : TxnId) (tag : Tag) (completion : Completion) :
    n.run topology listing i (.complete txn tag completion) =
      ((n.completed topology i txn tag completion s).launchAll i
        (Replica.followup? (s.replica.complete topology txn tag completion).2).toList).reportAll
          (s.replica.complete topology txn tag completion).1.log.shard
          (failuresOf (s.replica.complete topology txn tag completion).2) := by
  have there := (n.replaced_completed topology i txn tag completion s).getElem?_stores hs
  unfold completed at there ⊢
  simp only [run, complete, hs]
  generalize s.replica.complete topology txn tag completion = step at there
  obtain ⟨r, fault | _ | _ | followup⟩ := step
  · exact reportAt_eq_reportAll there (.fault fault)
  · rfl
  · rfl
  · rfl

theorem ran_complete (hs : n.stores[i]? = some s) (hh : s.held = true) (topology : Topology)
    (listing : Listing) (txn : TxnId) (tag : Tag) (completion : Completion) :
    n.Ran i (s.replica.complete topology txn tag completion).1
      (Replica.followup? (s.replica.complete topology txn tag completion).2).toList
      (n.run topology listing i (.complete txn tag completion)) := by
  rw [run_complete hs]
  exact (n.replaced_completed ..).ran (.inl (isAlive_of_held hs hh)) _ _

end Node

end TxnLiveness
