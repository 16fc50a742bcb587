import TxnLiveness.Proofs.Node.Awaited
import TxnLiveness.Proofs.Replica.Run
import TxnLiveness.Proofs.Shard.FailFast
/-!
# Where flights and completions come from

Whatever a node has in flight for a store was dispatched by the log of that store, and whatever is
queued to complete it is of the kind that was asked for. So no completion that a node ever queues is
refused by the log it is handed to.
-/

namespace TxnLiveness

open ShardLog (dispatchedIn dispatchedIn_subset)

/-- Whether a flight in this stage carries out the remediation. -/
def Stage.Serves (txn : TxnId) (remediation : Remediation) : Stage → Prop
  | .launched first => first = remediation
  | .calling call => ∃ epoch, remediation.errand txn = .single epoch call
  | .announcing _ => ∃ round, remediation.errand txn = .round round

/-- Whether the flight carries out one of the dispatches. -/
def Flight.StemsFrom (ds : List Dispatch) (f : Flight) : Prop :=
  ∃ remediation, ⟨f.txn, f.tag, remediation⟩ ∈ ds ∧ f.stage.Serves f.txn remediation

/-- Whether the task, if it completes anything, completes one of the dispatches. -/
def Task.StemsFrom (ds : List Dispatch) : Task → Prop
  | .complete txn tag completion =>
    ∃ remediation, ⟨txn, tag, remediation⟩ ∈ ds ∧ completion.suits remediation = true
  | _ => True

section Stems

variable {f : Flight} {ds more : List Dispatch} {txn : TxnId} {remediation : Remediation}

theorem Flight.StemsFrom.mono (h : f.StemsFrom ds) (sub : ds ⊆ more) : f.StemsFrom more := by
  obtain ⟨remediation, hd, serves⟩ := h
  exact ⟨remediation, sub hd, serves⟩

theorem Task.StemsFrom.mono {task : Task} (h : task.StemsFrom ds) (sub : ds ⊆ more) :
    task.StemsFrom more := by
  cases task with
  | complete txn tag completion =>
    obtain ⟨remediation, hd, suits⟩ := h
    exact ⟨remediation, sub hd, suits⟩
  | _ => trivial

/-- An answer makes a completion of the kind that was asked for. -/
theorem Call.completion_suits {call : Call} {a : Answer} {completion : Completion}
    {epoch : Option Epoch} (h : call.completion? a = some completion)
    (he : remediation.errand txn = .single epoch call) : completion.suits remediation = true := by
  cases remediation <;> cases he <;> obtain e | _ | _ | _ := a <;> cases h <;> rfl

theorem announces_of_round {round : Round} (h : remediation.errand txn = .round round) :
    (∀ node, (Completion.acknowledged node).suits remediation = true) ∧
      Completion.roundFinished.suits remediation = true := by
  cases remediation <;> cases h
  exact ⟨fun _ => rfl, rfl⟩

/-- A flight completes what it stems from. -/
theorem Flight.StemsFrom.completes {completion : Completion} (h : f.StemsFrom ds)
    (suits : ∀ remediation, f.stage.Serves f.txn remediation →
      completion.suits remediation = true) :
    (Task.complete f.txn f.tag completion).StemsFrom ds := by
  obtain ⟨remediation, hd, serves⟩ := h
  exact ⟨remediation, hd, suits remediation serves⟩

end Stems

namespace Node

variable {n m o : Node} {i : Nat} {s : Store}

/-! ## What is passed on -/

/-- The flights and tasks of one node stem from whatever those of another stem from. -/
structure Inherits (n m : Node) : Prop where
  stores : ∀ i s', m.stores[i]? = some s' → ∃ s, n.stores[i]? = some s ∧
    s'.replica.log = s.replica.log ∧ ∀ task ∈ s'.queue, ∀ ds, (∀ t ∈ s.queue, t.StemsFrom ds) →
      (∀ f ∈ n.flights, f.store = i → f.StemsFrom ds) → task.StemsFrom ds
  flights : ∀ g ∈ m.flights, ∃ f ∈ n.flights, g.store = f.store ∧
    ∀ ds, f.StemsFrom ds → g.StemsFrom ds

theorem Inherits.trans (h : n.Inherits m) (k : m.Inherits o) : n.Inherits o := by
  constructor
  · intro i s'' hs''
    obtain ⟨s', hs', log', queue'⟩ := k.stores i s'' hs''
    obtain ⟨s, hs, log, queue⟩ := h.stores i s' hs'
    refine ⟨s, hs, log'.trans log, fun task ht ds queued flown => ?_⟩
    refine queue' task ht ds (fun t ht' => queue t ht' ds queued flown) fun g hg hi => ?_
    obtain ⟨f, hf, same, stems⟩ := h.flights g hg
    exact stems ds (flown f hf (same.symm.trans hi))
  · intro g hg
    obtain ⟨f', hf', same', stems'⟩ := k.flights g hg
    obtain ⟨f, hf, same, stems⟩ := h.flights f' hf'
    exact ⟨f, hf, same'.trans same, fun ds hds => stems' ds (stems ds hds)⟩

/-- Nothing is added to any store or in flight. -/
theorem inherits_of_sub (hs : m.stores = n.stores) (hf : m.flights ⊆ n.flights) :
    n.Inherits m := by
  constructor
  · intro i s h
    rw [hs] at h
    exact ⟨s, h, rfl, fun task ht _ queued _ => queued task ht⟩
  · exact fun g hg => ⟨g, hf hg, rfl, fun _ h => h⟩

theorem Inherits.refl (n : Node) : n.Inherits n := inherits_of_sub rfl (List.Subset.refl _)

theorem inherits_modifyStore (n : Node) (i : Nat) {f : Store → Store}
    (log : ∀ s, (f s).replica.log = s.replica.log)
    (queue : ∀ s, ∀ task ∈ (f s).queue, ∀ ds, (∀ t ∈ s.queue, t.StemsFrom ds) →
      (∀ g ∈ n.flights, g.store = i → g.StemsFrom ds) → task.StemsFrom ds) :
    n.Inherits (n.modifyStore i f) := by
  refine ⟨fun j s' hs' => ?_, fun g hg => ⟨g, hg, rfl, fun _ h => h⟩⟩
  rw [getElem?_modifyStore] at hs'
  split at hs'
  · subst j
    obtain ⟨s, hs, rfl⟩ := Option.map_eq_some_iff.1 hs'
    exact ⟨s, hs, log s, queue s⟩
  · exact ⟨s', hs', rfl, fun task ht _ queued _ => queued task ht⟩

/-- Tasks that complete nothing come to the end of a queue. -/
theorem inherits_append (n : Node) (i : Nat) {tasks : Store → List Task}
    (h : ∀ s, ∀ task ∈ tasks s, ∀ ds, task.StemsFrom ds) :
    n.Inherits (n.modifyStore i fun s => { s with queue := s.queue ++ tasks s }) := by
  refine inherits_modifyStore n i (fun _ => rfl) fun s task ht ds queued _ => ?_
  obtain ht | ht := List.mem_append.1 ht
  · exact queued task ht
  · exact h s task ht ds

theorem inherits_enqueue (n : Node) (i : Nat) {task : Task} (h : ∀ ds, task.StemsFrom ds) :
    n.Inherits (n.enqueue i task) :=
  inherits_append n i fun _ _ ht => List.mem_singleton.1 ht ▸ h

/-- A completion of a flight comes to the end of the queue of its store. -/
theorem inherits_complete {f : Flight} (hf : f ∈ n.flights) {completion : Completion}
    (suits : ∀ remediation, f.stage.Serves f.txn remediation →
      completion.suits remediation = true) :
    n.Inherits (n.enqueue f.store (.complete f.txn f.tag completion)) := by
  refine inherits_modifyStore n f.store (fun _ => rfl) fun s task ht ds queued flown => ?_
  obtain ht | ht := List.mem_append.1 ht
  · exact queued task ht
  · rw [List.mem_singleton.1 ht]
    exact (flown f hf rfl).completes suits

theorem inherits_abandon (n : Node) (id : Nat) : n.Inherits (n.abandon id) :=
  inherits_of_sub rfl fun _ hg => (List.mem_filter.1 hg).1

theorem inherits_land {f : Flight} (hf : f ∈ n.flights) {completion : Completion}
    (suits : ∀ remediation, f.stage.Serves f.txn remediation →
      completion.suits remediation = true) :
    n.Inherits (n.land f completion) :=
  -- The flight is given up last, so that its completion can be traced to it.
  (inherits_complete hf suits).trans (inherits_abandon _ f.id)

theorem inherits_setStage (hn : n.Sound) {f : Flight} (hf : f ∈ n.flights) {stage : Stage}
    (serves : ∀ remediation, f.stage.Serves f.txn remediation →
      stage.Serves f.txn remediation) :
    n.Inherits (n.setStage f.id stage) := by
  refine ⟨fun i s hs => ⟨s, hs, rfl, fun task ht _ queued _ => queued task ht⟩, fun g hg => ?_⟩
  obtain ⟨x, hx, rfl⟩ := List.mem_map.1 hg
  split
  · rename_i hid
    obtain rfl := eq_of_id hn.distinct hx hf hid
    refine ⟨x, hx, rfl, fun ds hds => ?_⟩
    obtain ⟨remediation, hd, before⟩ := hds
    exact ⟨remediation, hd, serves remediation before⟩
  · exact ⟨x, hx, rfl, fun _ h => h⟩

/-! ## Flights -/

theorem inherits_goOn (hn : n.Sound) {f : Flight} (hf : f ∈ n.flights)
    (announces : ∀ remediation, f.stage.Serves f.txn remediation →
      ∃ round, remediation.errand f.txn = .round round) (round : Round) :
    n.Inherits (n.goOn f round).1 := by
  unfold goOn
  dsimp only
  split
  · refine inherits_land hf fun remediation serves => ?_
    obtain ⟨_, he⟩ := announces remediation serves
    exact (announces_of_round he).2
  · exact inherits_setStage hn hf announces

theorem inherits_failUncalled {f : Flight} (hf : f ∈ n.flights) {call : Call}
    (calls : ∀ remediation, f.stage.Serves f.txn remediation →
      ∃ epoch, remediation.errand f.txn = .single epoch call) (fault : RemoteFault) :
    n.Inherits (n.failUncalled f call fault) := by
  unfold failUncalled
  cases hc : call.completion? (.error fault) with
  | none => exact .refl n
  | some completion =>
    refine inherits_land hf fun remediation serves => ?_
    obtain ⟨_, he⟩ := calls remediation serves
    exact Call.completion_suits hc he

theorem inherits_depart (hn : n.Sound) (topology : Topology) (id : Nat) :
    n.Inherits (n.depart topology id).1 := by
  unfold depart
  split
  · rename_i f hid
    obtain ⟨hf, rfl⟩ := mem_of_flight? hid
    split
    · rename_i launched hs
      -- A flight that has not started serves just what was launched.
      have only {errand : Errand} (he : launched.errand f.txn = errand) (remediation : Remediation)
          (serves : f.stage.Serves f.txn remediation) : remediation.errand f.txn = errand := by
        rw [hs] at serves
        rw [← show launched = remediation from serves, he]
      split
      · rename_i round he
        exact inherits_goOn hn hf (fun r serves => ⟨round, only he r serves⟩) round
      · rename_i epoch call he
        have calls (r : Remediation) (serves : f.stage.Serves f.txn r) :
            ∃ epoch, r.errand f.txn = .single epoch call := ⟨epoch, only he r serves⟩
        split
        · exact inherits_setStage hn hf calls
        · exact inherits_failUncalled hf calls _
    · exact .refl n
  · exact .refl n

theorem inherits_countTimeout (n : Node) (a : Answer) : n.Inherits (n.countTimeout a) := by
  unfold countTimeout
  split
  · exact inherits_of_sub rfl (List.Subset.refl _)
  · exact .refl n

theorem inherits_expire (n : Node) (id : Nat) (fault : RemoteFault) :
    n.Inherits (n.expire id fault) := by
  unfold expire
  split
  · rename_i f hid
    obtain ⟨hf, rfl⟩ := mem_of_flight? hid
    split
    · rename_i launched hs
      split
      · rename_i epoch call he
        refine (inherits_countTimeout n _).trans
          (inherits_failUncalled (by simpa using hf) (fun remediation serves => ?_) fault)
        rw [hs] at serves
        rw [← show launched = remediation from serves]
        exact ⟨_, he⟩
      · exact .refl n
    · exact .refl n
  · exact .refl n

theorem inherits_answer (hn : n.Sound) (id : Nat) (call : Call) (a : Answer) :
    n.Inherits (n.answer id call a).1 := by
  unfold answer
  split
  · rename_i f hid
    obtain ⟨hf, rfl⟩ := mem_of_flight? hid
    split
    · rename_i asked call hs
      split
      · rename_i same
        subst same
        split
        · rename_i completion hc
          refine (inherits_countTimeout n a).trans
            (inherits_land (by simpa using hf) fun remediation serves => ?_)
          rw [hs] at serves
          obtain ⟨_, he⟩ := serves
          exact Call.completion_suits hc he
        · exact .refl n
      · exact .refl n
    · rename_i round target notice hs
      have announces (remediation : Remediation) (serves : f.stage.Serves f.txn remediation) :
          ∃ round, remediation.errand f.txn = .round round := by
        rw [hs] at serves
        exact serves
      split
      · dsimp only
        split
        · have told : n.Inherits
              (n.enqueue f.store (.complete f.txn f.tag (.acknowledged target))) :=
            inherits_complete hf fun remediation serves => by
              obtain ⟨_, he⟩ := announces remediation serves
              exact (announces_of_round he).1 target
          have sound :
              (n.enqueue f.store (.complete f.txn f.tag (.acknowledged target))).Sound := by
            have fitting := hn.fitting f hf
            rw [hs] at fitting
            refine sound_enqueue hn ?_
            rw [Task.fits, show f.tag.tracker = .disseminate by simpa [Stage.fits] using fitting]
            rfl
          exact told.trans (inherits_goOn sound hf announces _)
        · rename_i fault
          have counted := steady_countTimeout hn (.error fault)
          have failed : (n.countTimeout (.error fault)).Inherits
              { n.countTimeout (.error fault) with
                counters := (n.countTimeout (.error fault)).counters.remoteFailure } :=
            inherits_of_sub rfl (List.Subset.refl _)
          have steady : (n.countTimeout (.error fault)).Steady { n.countTimeout (.error fault) with
              counters := (n.countTimeout (.error fault)).counters.remoteFailure } :=
            steady_of_eq counted.sound rfl rfl rfl
          exact ((inherits_countTimeout n _).trans failed).trans
            (inherits_goOn steady.sound (by simpa using hf) announces _)
      · exact .refl n
    · exact .refl n
  · exact .refl n

/-! ## Sourced nodes -/

/-- Each store's log has been through a run that dispatched all that is in flight for the store and
all that its queued tasks complete. -/
def Sourced (n : Node) : Prop :=
  ∀ i s, n.stores[i]? = some s → ∃ shard node run,
    s.replica.log = (ShardLog.machine shard node).after run ∧
      (∀ f ∈ n.flights, f.store = i → f.StemsFrom (dispatchedIn shard node run)) ∧
      ∀ task ∈ s.queue, task.StemsFrom (dispatchedIn shard node run)

theorem Sourced.inherits (h : n.Sourced) (k : n.Inherits m) : m.Sourced := by
  intro i s' hs'
  obtain ⟨s, hs, log, queue⟩ := k.stores i s' hs'
  obtain ⟨shard, node, run, hrun, flown, queued⟩ := h i s hs
  refine ⟨shard, node, run, log.trans hrun, fun g hg hi => ?_,
    fun task ht => queue task ht _ queued flown⟩
  obtain ⟨f, hf, same, stems⟩ := k.flights g hg
  exact stems _ (flown f hf (same.symm.trans hi))

/-- One log goes on from another by acts that make the dispatches. -/
def Emits (log : ShardLog) (ds : List Dispatch) (log' : ShardLog) : Prop :=
  ∃ acts : List ShardLog.Act, log' = acts.foldl ShardLog.act log ∧
    ∀ shard node run, log = (ShardLog.machine shard node).after run →
      ds ⊆ dispatchedIn shard node (acts.reverse ++ run)

theorem emits_edit (r : Replica) (topology : Topology) (e : Edit) :
    ∃ acts : List ShardLog.Act, (r.edit topology e).1.log = acts.foldl ShardLog.act r.log := by
  cases e with
  | put | alter => exact ⟨[], rfl⟩
  | record role event => exact ⟨[.record topology role event], rfl⟩
  | attempt role event => exact ⟨[.record topology role event], rfl⟩

theorem emits_editAll (r : Replica) (topology : Topology) (edits : List Edit) :
    Emits r.log [] (r.editAll topology edits).1.log := by
  have acted : ∃ acts : List ShardLog.Act,
      (r.editAll topology edits).1.log = acts.foldl ShardLog.act r.log := by
    induction edits generalizing r with
    | nil => exact ⟨[], rfl⟩
    | cons e edits ih =>
      obtain ⟨first, edited⟩ := emits_edit r topology e
      unfold Replica.editAll
      split
      · rename_i r' he
        rw [he] at edited
        obtain ⟨rest, log⟩ := ih r'
        refine ⟨first ++ rest, ?_⟩
        rw [log, List.foldl_append, ← edited]
      · rename_i r' fault he
        rw [he] at edited
        exact ⟨first, edited⟩
  obtain ⟨acts, log⟩ := acted
  exact ⟨acts, log, fun _ _ _ _ => List.nil_subset _⟩

theorem emits_audit (r : Replica) (topology : Topology) (txn : TxnId) {out : Audit}
    (ho : (r.audit topology txn).2 = .ok out) :
    Emits r.log out.dispatches (r.audit topology txn).1.log := by
  refine ⟨[.audit topology (r.command txn)], rfl, ?_⟩
  rintro shard node run hlog d hd
  refine List.mem_append_left _ ?_
  have audited : (r.log.audit topology (r.command txn)).2 = .ok out := ho
  change d ∈ ((ShardLog.machine shard node).after run).dispatched _
  rw [← hlog, ShardLog.dispatched, audited]
  exact hd

theorem emits_complete (r : Replica) (topology : Topology) (txn : TxnId) (tag : Tag)
    (completion : Completion) :
    Emits r.log (Replica.followup? (r.complete topology txn tag completion).2).toList
      (r.complete topology txn tag completion).1.log := by
  obtain ⟨log, -, follows⟩ := r.complete_outcome topology txn tag completion
  refine ⟨.complete txn tag completion ::
    r.durableActs topology txn (r.log.complete txn tag completion).2, log, ?_⟩
  rintro shard node run hlog d hd
  rw [List.reverse_cons, List.append_assoc]
  refine dispatchedIn_subset _ _ (List.mem_append_left _ ?_)
  change d ∈ ((ShardLog.machine shard node).after run).dispatched _
  rw [← hlog]
  exact follows d (Option.mem_toList.1 hd)

theorem stems_of_mem_flightsOf {id : Nat} {ds : List Dispatch} {f : Flight}
    (hf : f ∈ flightsOf i id ds) : f.store = i ∧ f.StemsFrom ds := by
  induction ds generalizing id with
  | nil => cases hf
  | cons d ds ih =>
    obtain rfl | hf := List.mem_cons.1 hf
    · exact ⟨rfl, d.remediation, List.mem_cons_self, rfl⟩
    · obtain ⟨same, stems⟩ := ih hf
      exact ⟨same, stems.mono (List.subset_cons_self _ _)⟩

/-- A task that runs goes on from the log of its store. -/
theorem Sourced.ran {r : Replica} {ds : List Dispatch} (h : n.Sourced)
    (hs : n.stores[i]? = some s) (ran : n.Ran i r ds m) (emits : Emits s.replica.log ds r.log) :
    m.Sourced := by
  intro j s' hs'
  rw [ran.getElem?_stores hs] at hs'
  split at hs'
  · subst j
    cases hs'
    obtain ⟨shard, node, run, hlog, flown, queued⟩ := h i s hs
    obtain ⟨acts, log, sent⟩ := emits
    refine ⟨shard, node, acts.reverse ++ run, ?_, fun f hf hi => ?_, fun task ht => ?_⟩
    · rw [Machine.after_reverse_append, ← hlog]
      exact log
    · rw [ran.flights] at hf
      obtain hf | hf := List.mem_append.1 hf
      · exact (flown f hf hi).mono (dispatchedIn_subset _ _)
      · exact (stems_of_mem_flightsOf hf).2.mono (sent shard node run hlog)
    · exact (queued task ht).mono (dispatchedIn_subset _ _)
  · rename_i hij
    obtain ⟨shard, node, run, hlog, flown, queued⟩ := h j s' hs'
    refine ⟨shard, node, run, hlog, fun f hf hj => ?_, queued⟩
    rw [ran.flights] at hf
    obtain hf | hf := List.mem_append.1 hf
    · exact flown f hf hj
    · exact absurd ((stems_of_mem_flightsOf hf).1.symm.trans hj) hij

/-! ## Every act -/

theorem inherits_popped {task : Task} {queue : List Task} (hs : n.stores[i]? = some s)
    (hq : s.queue = task :: queue) : n.Inherits (n.popped i queue) := by
  refine ⟨fun j s' hs' => ?_, fun g hg => ⟨g, hg, rfl, fun _ h => h⟩⟩
  rw [getElem?_stores_popped hs] at hs'
  split at hs'
  · subst j
    cases hs'
    refine ⟨s, hs, rfl, fun t ht _ queued _ => queued t ?_⟩
    rw [hq]
    exact List.mem_cons_of_mem _ ht
  · exact ⟨s', hs', rfl, fun t ht _ queued _ => queued t ht⟩

theorem Sourced.runNext (h : n.Sourced) (hn : n.Sound) (topology : Topology) (listing : Listing)
    (i : Nat) :
    (n.runNext topology listing i).Sourced := by
  obtain ⟨idle, -⟩ | ⟨s, task, queue, hs, hq, e⟩ := n.runNext_cases topology listing i
  · rwa [idle]
  have popped := h.inherits (inherits_popped hs hq)
  have hs' : (n.popped i queue).stores[i]? = some { s with queue } := getElem?_popped hs
  have held := (hn.stores i s hs).held
  rw [e]
  cases task with
  | work edits ending =>
    exact popped.ran hs' (ran_work hs' topology listing edits ending)
      (emits_editAll s.replica topology edits)
  | audit txn =>
    obtain ⟨out, ho, -⟩ := ShardLog.audit_ok (hn.stores i s hs).log topology (s.replica.command txn)
    exact popped.ran hs' (ran_audit hs' held topology listing txn ho).1
      (emits_audit s.replica topology txn ho)
  | auditAll =>
    simp only [run]
    split
    · refine popped.inherits (inherits_append _ i fun s task ht ds => ?_)
      obtain ⟨txn, -, rfl⟩ := List.mem_map.1 ht
      trivial
    · exact popped
  | complete txn tag completion =>
    exact popped.ran hs' (ran_complete hs' held topology listing txn tag completion)
      (emits_complete s.replica topology txn tag completion)

theorem Sourced.auditRound (h : n.Sourced) : n.auditRound.1.Sourced := by
  have queued (live : List Nat) (n : Node) :
      n.Inherits (live.foldl (fun n i => n.enqueue i .auditAll) n) := by
    induction live generalizing n with
    | nil => exact .refl n
    | cons i live ih =>
      have harmless (ds : List Dispatch) : Task.auditAll.StemsFrom ds := trivial
      exact (inherits_enqueue n i harmless).trans (ih _)
  exact h.inherits ((queued n.audited n).trans (inherits_of_sub rfl (List.Subset.refl _)))

theorem Sourced.addStore (h : n.Sourced) (hn : n.Sound) (shard : ShardId) :
    (n.addStore shard).Sourced := by
  intro i s hs
  rw [Node.addStore, List.getElem?_append] at hs
  split at hs
  · exact h i s hs
  · rename_i hi
    obtain rfl := List.mem_singleton.1 (List.mem_of_getElem? hs)
    -- Nothing is in flight for a store that was not there.
    refine ⟨shard, n.id, [], rfl, fun f hf hstore => ?_, fun task ht => by cases ht⟩
    have := hn.returning f hf
    omega

theorem Sourced.act (h : n.Sourced) (hn : n.Sound) (a : Act) : (n.act a).Sourced := by
  cases a with
  | addStore shard => exact h.addStore hn shard
  | register i => exact h.inherits (inherits_of_sub rfl (List.Subset.refl _))
  | work i edits ending => exact h.inherits (inherits_enqueue n i fun _ => trivial)
  | auditAll i => exact h.inherits (inherits_enqueue n i fun _ => trivial)
  | auditRound => exact h.auditRound
  | runNext i topology listing => exact h.runNext hn topology listing i
  | depart id topology => exact h.inherits (inherits_depart hn topology id)
  | expire id fault => exact h.inherits (inherits_expire n id fault)
  | answer id call a => exact h.inherits (inherits_answer hn id call a)

/-- What a node has queued of completions, the logs that they are for accept. -/
theorem Sourced.accepts (h : n.Sourced) (hs : n.stores[i]? = some s) {txn : TxnId} {tag : Tag}
    {completion : Completion} (hq : .complete txn tag completion ∈ s.queue) :
    ∃ resolution, (s.replica.log.complete txn tag completion).2 = .ok resolution := by
  obtain ⟨shard, node, run, hlog, -, queued⟩ := h i s hs
  obtain ⟨remediation, hd, suits⟩ := queued _ hq
  rw [hlog]
  exact (ShardLog.unfailing shard node run).complete _ hd completion suits

/-! ## Runs -/

theorem sourced_after (id : NodeId) (fanout : Nat) (run : List Act) :
    ((machine id fanout).after run).Sourced := by
  induction run with
  | nil => intro i s hs; cases hs
  | cons a past ih => exact ih.act (sound_after id fanout past) a

/-- Whatever a node has gone through, the completions that it has queued are accepted by the logs
that they are for. -/
theorem queued_completion_accepted (id : NodeId) (fanout : Nat) (run : List Act)
    (hs : ((machine id fanout).after run).stores[i]? = some s) {txn : TxnId} {tag : Tag}
    {completion : Completion} (hq : .complete txn tag completion ∈ s.queue) :
    ∃ resolution, (s.replica.log.complete txn tag completion).2 = .ok resolution :=
  (sourced_after id fanout run).accepts hs hq

end Node

end TxnLiveness
