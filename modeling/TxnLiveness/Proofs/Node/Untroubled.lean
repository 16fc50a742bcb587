import TxnLiveness.Proofs.Node.Accounts
import TxnLiveness.Proofs.Node.Driven
import TxnLiveness.Proofs.Node.Queueing
import TxnLiveness.Proofs.Node.Sourced
import TxnLiveness.Proofs.Replica.Equipped
/-!
# Nodes on which nothing fails

A node whose user has queued nothing but work that succeeds, and leaves equipped replicas behind,
has no failure to report, however it is driven from then on. For what is queued besides is the
node's own: audits, which do not fail on equipped replicas, and completions of what was dispatched.
-/

namespace TxnLiveness

/-- Whether the node's user has queued the task. -/
def Task.isWork : Task → Bool
  | .work .. => true
  | _ => false

/-- Whether there is nothing to report of the task once it has run. -/
def Task.Succeeds (topology : Topology) (r : Replica) : Task → Prop
  | .work edits ending => (r.editAll topology edits).2 = .ok () ∧ ending = .returned
  | .audit txn => ∃ out, (r.audit topology txn).2 = .ok out ∧ out.faults = []
  | .auditAll => True
  | .complete txn tag completion =>
    ∃ resolution, (r.complete topology txn tag completion).2 = .ok resolution

/-- Whether such pieces of work succeed one after the other and leave an equipped replica that
tracks what `log` tracks. -/
def Replica.Prepares (topology : Topology) (log : ShardLog) (r : Replica) :
    List (List Edit) → Prop
  | [] => r.Equipped ∧ log.SameTracked r.log
  | edits :: works => (r.editAll topology edits).2 = .ok () ∧
      (r.editAll topology edits).1.Prepares topology log works

/-- First in the queue is the work that prepares the replica, in `bound` pieces at most, and the
node's own tasks come behind it. -/
def Store.Prepared (topology : Topology) (log : ShardLog) (bound : Nat) (s : Store) : Prop :=
  ∃ works rest, works.length ≤ bound ∧ s.queue = works.map (.work · .returned) ++ rest ∧
    (∀ task ∈ rest, task.isWork = false) ∧ s.replica.Prepares topology log works

namespace Store.Prepared

variable {s : Store} {topology : Topology} {log : ShardLog} {bound bound' : Nat}

theorem mono (h : s.Prepared topology log bound) (le : bound ≤ bound') :
    s.Prepared topology log bound' := by
  obtain ⟨works, rest, few, prepared⟩ := h
  exact ⟨works, rest, Nat.le_trans few le, prepared⟩

/-- There is no more work in a queue than there are tasks. -/
theorem of_length (h : s.Prepared topology log bound) :
    s.Prepared topology log s.queue.length := by
  obtain ⟨works, rest, -, queue, prepared⟩ := h
  refine ⟨works, rest, ?_, queue, prepared⟩
  rw [queue, List.length_append, List.length_map]
  omega

/-- A store with no work left is equipped. -/
theorem equipped (h : s.Prepared topology log 0) :
    s.replica.Equipped ∧ log.SameTracked s.replica.log := by
  obtain ⟨works, rest, none, -, -, prepares⟩ := h
  obtain rfl := List.eq_nil_of_length_eq_zero (Nat.le_zero.1 none)
  exact prepares

end Store.Prepared

namespace Node

variable {n m o : Node} {i : Nat} {s : Store} {topology : Topology} {listing : Listing}
  {logs : Nat → ShardLog}
  {bound bound' : Nat → Nat}

/-! ## All but the running of tasks -/

/-- Nothing has happened to a node but that tasks of its own have come to the ends of queues. -/
structure Lengthens (n m : Node) : Prop where
  reports : m.reports = n.reports
  stores : ∀ i : Nat, ∃ tasks : List Task, (∀ task ∈ tasks, task.isWork = false) ∧
    m.stores[i]? = n.stores[i]?.map fun s => { s with queue := s.queue ++ tasks }

theorem lengthens_of_eq (hs : m.stores = n.stores) (hr : m.reports = n.reports) :
    n.Lengthens m :=
  ⟨hr, fun i => ⟨[], by simp, by rw [hs]; cases n.stores[i]? <;> simp⟩⟩

theorem Queues.lengthens {p : Task → Prop} (h : n.Queues p m)
    (own : ∀ task, p task → task.isWork = false) : n.Lengthens m := by
  refine ⟨h.reports, fun i => ?_⟩
  obtain ⟨tasks, kind, hm⟩ := h.stores i
  exact ⟨tasks, fun task ht => own task (kind task ht), hm⟩

theorem isWork_of_isCompletion {task : Task} (h : task.IsCompletion) : task.isWork = false := by
  obtain ⟨txn, tag, completion, rfl⟩ := h
  rfl

theorem lengthens_depart (n : Node) (topology : Topology) (id : Nat) :
    n.Lengthens (n.depart topology id).1 :=
  (queues_depart n topology id).lengthens fun _ => isWork_of_isCompletion

theorem lengthens_answer (n : Node) (id : Nat) (call : Call) (a : Answer) :
    n.Lengthens (n.answer id call a).1 :=
  (queues_answer n id call a).lengthens fun _ => isWork_of_isCompletion

theorem lengthens_auditRound (n : Node) : n.Lengthens n.auditRound.1 :=
  (queues_auditRound n).lengthens fun _ e => e ▸ rfl

/-! ## Reports -/

/-- A task that succeeds reports nothing. -/
theorem reports_run {task : Task} (hs : n.stores[i]? = some s)
    (ok : task.Succeeds topology s.replica) :
    (n.run topology listing i task).reports = n.reports := by
  cases task with
  | work edits ending =>
    obtain ⟨ok, rfl⟩ := ok
    simp only [run, perform, hs, ok]
    rfl
  | audit txn =>
    obtain ⟨out, ok, faultless⟩ := ok
    rw [run_audit hs topology listing txn ok, faultless]
    exact (launchAll_eq ..).2.2.2.1
  | auditAll =>
    simp only [run]
    split <;> rfl
  | complete txn tag completion =>
    obtain ⟨resolution, ok⟩ := ok
    have counted := n.replaced_completed topology i txn tag completion s
    rw [run_complete hs, ok]
    exact ((launchAll_eq ..).2.2.2.1).trans counted.reports

/-! ## Untroubled nodes -/

/-- Nothing has been reported, and every store is equipped or about to be. -/
structure Untroubled (topology : Topology) (logs : Nat → ShardLog) (bound : Nat → Nat)
    (n : Node) : Prop where
  sound : n.Sound
  sourced : n.Sourced
  stores : ∀ (i : Nat) (s : Store), n.stores[i]? = some s →
    s.Prepared topology (logs i) (bound i)
  reports : n.reports = []
  uncaught : n.counters.uncaughtErrors = 0

theorem Untroubled.mono (h : n.Untroubled topology logs bound)
    (le : ∀ (i : Nat) (s : Store), n.stores[i]? = some s →
      s.Prepared topology (logs i) (bound i) → s.Prepared topology (logs i) (bound' i)) :
    n.Untroubled topology logs bound' :=
  { h with stores := fun i s hs => le i s hs (h.stores i s hs) }

theorem uncaught_of_books {faults : List RemoteFault} (h : n.Books m faults)
    (before : n.reports = []) (none : n.counters.uncaughtErrors = 0) (after : m.reports = []) :
    m.counters.uncaughtErrors = 0 := by
  have uncaught := h.uncaught
  rw [before, none, after] at uncaught
  simpa using uncaught

theorem Untroubled.lengthens {faults : List RemoteFault} (h : n.Untroubled topology logs bound)
    (sound : m.Sound) (sourced : m.Sourced) (books : n.Books m faults) (k : n.Lengthens m) :
    m.Untroubled topology logs bound := by
  have reports := k.reports.trans h.reports
  refine ⟨sound, sourced, fun i s' hs' => ?_, reports,
    uncaught_of_books books h.reports h.uncaught reports⟩
  obtain ⟨tasks, own, hm⟩ := k.stores i
  rw [hm] at hs'
  obtain ⟨s, hs, rfl⟩ := Option.map_eq_some_iff.1 hs'
  obtain ⟨works, rest, few, queue, own', prepares⟩ := h.stores i s hs
  refine ⟨works, rest ++ tasks, few, ?_, fun task ht => ?_, prepares⟩
  · rw [← List.append_assoc, ← queue]
  · exact (List.mem_append.1 ht).elim (own' task) (own task)

section Running

variable {task : Task} {queue : List Task} (h : n.Untroubled topology logs bound)
  (hs : n.stores[i]? = some s) (hq : s.queue = task :: queue)

include h hs hq

/-- Whatever an untroubled node runs next succeeds. -/
theorem Untroubled.succeeds : task.Succeeds topology s.replica := by
  obtain ⟨works, rest, -, e, own, prepares⟩ := h.stores i s hs
  rw [hq] at e
  cases works with
  | cons edits works =>
    obtain ⟨rfl, -⟩ := List.cons.inj e
    exact ⟨prepares.1, rfl⟩
  | nil =>
    obtain rfl : task :: queue = rest := e
    have equipped := prepares.1
    cases task with
    | work edits ending => cases own _ List.mem_cons_self
    | audit txn =>
      obtain ⟨shard, node, run, hlog, -, -⟩ := h.sourced i s hs
      exact equipped.audit_ok hlog topology txn
    | auditAll => trivial
    | complete txn tag completion =>
      obtain ⟨resolution, ok⟩ := h.sourced.accepts hs (hq ▸ List.mem_cons_self)
      exact (equipped.complete topology ok).1

/-- A store that has run a task is prepared by what work is left. -/
theorem Untroubled.store_runNext : ∃ s' : Store, s'.Prepared topology (logs i) (bound i - 1) ∧
    ∀ j, (n.runNext topology listing i).stores[j]? = if i = j then some s' else n.stores[j]? := by
  have held := (h.sound.stores i s hs).held
  have hs' : (n.popped i queue).stores[i]? = some { s with queue } := getElem?_popped hs
  have ran {r : Replica} {ds : List Dispatch}
      (hr : (n.popped i queue).Ran i r ds ((n.popped i queue).run topology listing i task))
      (j : Nat) :
      (n.runNext topology listing i).stores[j]? =
        if i = j then some { s with queue, replica := r } else n.stores[j]? := by
    rw [runNext_eq hs hq, hr.getElem?_stores hs', getElem?_stores_popped hs]
    split <;> rfl
  obtain ⟨works, rest, few, e, own, prepares⟩ := h.stores i s hs
  rw [hq] at e
  cases works with
  | cons edits works =>
    obtain ⟨rfl, rfl⟩ := List.cons.inj e
    rw [List.length_cons] at few
    exact ⟨_, ⟨works, rest, by omega, rfl, own, prepares.2⟩,
      ran (ran_work hs' topology listing edits _)⟩
  | nil =>
    obtain rfl : task :: queue = rest := e
    obtain ⟨equipped, same⟩ := prepares
    have own' : ∀ t ∈ queue, t.isWork = false := fun t ht => own t (List.mem_cons_of_mem _ ht)
    cases task with
    | work edits ending => cases own _ List.mem_cons_self
    | audit txn =>
      obtain ⟨out, ok, -⟩ := h.succeeds hs hq
      exact ⟨_, ⟨[], queue, Nat.zero_le _, rfl, own', equipped.audit topology txn,
        same.trans (s.replica.log.sameTracked_audit topology _)⟩,
        ran (ran_audit hs' held topology listing txn ok).1⟩
    | auditAll =>
      have alive : (n.popped i queue).isAlive i = true := by simp [isAlive, hs', held]
      refine ⟨{ s with queue := queue ++ (listing.list s.replica.log.txns).map .audit },
        ⟨[], _, Nat.zero_le _, rfl, fun t ht => ?_, equipped, same⟩, fun j => ?_⟩
      · obtain ht | ht := List.mem_append.1 ht
        · exact own' t ht
        · obtain ⟨txn, -, rfl⟩ := List.mem_map.1 ht
          rfl
      · rw [runNext_eq hs hq]
        simp only [run, alive, if_true, getElem?_modifyStore]
        rw [getElem?_stores_popped hs]
        split <;> rfl
    | complete txn tag completion =>
      obtain ⟨resolution, ok⟩ := h.sourced.accepts hs (hq ▸ List.mem_cons_self)
      obtain ⟨-, equipped', same'⟩ := equipped.complete topology ok
      exact ⟨_, ⟨[], queue, Nat.zero_le _, rfl, own', equipped', same.trans same'⟩,
        ran (ran_complete hs' held topology listing txn tag completion)⟩

end Running

theorem Untroubled.runNext (h : n.Untroubled topology logs bound) (listing : Listing) (i : Nat) :
    (n.runNext topology listing i).Untroubled topology logs fun j =>
      if i = j then bound j - 1 else bound j := by
  obtain ⟨idle, dry⟩ | ⟨s, task, queue, hs, hq, e⟩ := n.runNext_cases topology listing i
  · rw [idle]
    refine h.mono fun j s hs prepared => ?_
    split
    · subst j
      have dried := prepared.of_length
      rw [dry s hs] at dried
      exact dried.mono (Nat.zero_le _)
    · exact prepared
  · have reports : (n.runNext topology listing i).reports = [] := by
      have hs' : (n.popped i queue).stores[i]? = some { s with queue } := getElem?_popped hs
      have ok := h.succeeds hs hq
      rw [e]
      exact (reports_run hs' ok).trans h.reports
    obtain ⟨s', prepared, stores⟩ := h.store_runNext hs hq
    refine ⟨(act_effect h.sound (.runNext i topology listing)).1,
      h.sourced.runNext h.sound topology listing i,
      fun j t ht => ?_, reports,
      uncaught_of_books (books_runNext n topology listing i) h.reports h.uncaught reports⟩
    rw [stores] at ht
    split
    · subst j
      rw [if_pos rfl] at ht
      cases ht
      exact prepared
    · rename_i hij
      rw [if_neg hij] at ht
      exact h.stores j t ht

/-- Nothing that a timeline does to its node troubles it. -/
theorem Untroubled.step (h : n.Untroubled topology logs bound)
    (step : Timeline.Step topology n m) : m.Untroubled topology logs bound := by
  cases step with
  | auditRound =>
    exact h.lengthens (act_effect h.sound .auditRound).1 h.sourced.auditRound
      (books_act h.sound .auditRound) (lengthens_auditRound n)
  | runNext i listing =>
    refine (h.runNext listing i).mono fun j s _ prepared => prepared.mono ?_
    split <;> omega
  | depart id =>
    exact h.lengthens (steady_depart h.sound topology id).sound
      (h.sourced.inherits (inherits_depart h.sound topology id)) (books_depart h.sound topology id)
      (lengthens_depart n topology id)
  | answer id call a =>
    exact h.lengthens (steady_answer h.sound id call a).sound
      (h.sourced.inherits (inherits_answer h.sound id call a)) (books_answer h.sound id call a)
      (lengthens_answer n id call a)
  | abandon id =>
    have entered : n.Books (n.abandon id) [] := ⟨rfl, rfl, rfl, rfl⟩
    exact h.lengthens (sound_abandon h.sound id) (h.sourced.inherits (inherits_abandon n id))
      entered (lengthens_of_eq rfl rfl)

theorem length_eq_of_isSome {l l' : List Store} (h : ∀ i : Nat, l'[i]?.isSome = l[i]?.isSome) :
    l'.length = l.length := by
  have short := h l.length
  have long := h l'.length
  simp at short long
  omega

theorem Lengthens.length (h : n.Lengthens m) : m.stores.length = n.stores.length := by
  refine length_eq_of_isSome fun i => ?_
  obtain ⟨tasks, -, e⟩ := h.stores i
  rw [e, Option.isSome_map]

theorem Untroubled.length_runNext (h : n.Untroubled topology logs bound) (listing : Listing)
    (i : Nat) :
    (n.runNext topology listing i).stores.length = n.stores.length := by
  obtain ⟨idle, -⟩ | ⟨s, task, queue, hs, hq, -⟩ := n.runNext_cases topology listing i
  · rw [idle]
  · obtain ⟨s', -, stores⟩ := h.store_runNext hs hq
    refine length_eq_of_isSome fun j => ?_
    rw [stores]
    split
    · subst j
      rw [hs]
      rfl
    · rfl

theorem Untroubled.length_step (h : n.Untroubled topology logs bound)
    (step : Timeline.Step topology n m) : m.stores.length = n.stores.length := by
  cases step with
  | auditRound => exact (lengthens_auditRound n).length
  | runNext i listing => exact h.length_runNext listing i
  | depart id => exact (lengthens_depart n topology id).length
  | answer id call a => exact (lengthens_answer n id call a).length
  | abandon id => rfl

theorem Untroubled.steps (h : n.Untroubled topology logs bound)
    (steps : Relation.ReflTransGen (Timeline.Step topology) n m) :
    m.Untroubled topology logs bound ∧ m.stores.length = n.stores.length := by
  induction steps with
  | refl => exact ⟨h, rfl⟩
  | tail _ step ih => exact ⟨ih.1.step step, (ih.1.length_step step).trans ih.2⟩

/-! ## Running queues dry -/

theorem Untroubled.runQueued (h : n.Untroubled topology logs bound) (listing : Listing) (i : Nat) :
    (n.runQueued topology listing i).Untroubled topology logs fun j =>
      if i = j then 0 else bound j := by
  have runs (tasks : List Task) (n : Node)
      (h : n.Untroubled topology logs fun j => if i = j then tasks.length else bound j) :
      (tasks.foldl (fun n _ => n.runNext topology listing i) n).Untroubled topology logs fun j =>
        if i = j then 0 else bound j := by
    induction tasks generalizing n with
    | nil => exact h
    | cons task tasks ih =>
      refine ih _ ((h.runNext listing i).mono fun j s _ prepared => prepared.mono ?_)
      rw [List.length_cons]
      split <;> omega
  refine runs _ n (h.mono fun j s hs prepared => ?_)
  split
  · subst j
    rw [hs]
    exact prepared.of_length
  · exact prepared

/-- A node that has run its queues dry has no work left. -/
theorem Untroubled.drain (h : n.Untroubled topology logs bound) (listing : Listing) :
    (n.drain topology listing).Untroubled topology logs fun _ => 0 := by
  have drained (places : List Nat) (n : Node) (bound : Nat → Nat)
      (h : n.Untroubled topology logs bound) :
      (places.foldl (fun n i => n.drainStore topology listing i) n).Untroubled topology logs
        fun j => if j ∈ places then 0 else bound j := by
    induction places generalizing n bound with
    | nil => simpa using h
    | cons i places ih =>
      refine (ih _ _ ((h.runQueued listing i).runQueued listing i)).mono fun j s _ prepared => ?_
      refine prepared.mono ?_
      grind
  -- Where there is no store there is no work to begin with.
  have within : n.Untroubled topology logs fun j => if j < n.stores.length then bound j else 0 := by
    refine h.mono fun j s hs prepared => ?_
    rw [if_pos (List.getElem?_eq_some_iff.1 hs).1]
    exact prepared
  refine (drained _ n _ within).mono fun j s _ prepared => prepared.mono ?_
  simp only [List.mem_range]
  split <;> omega

end Node

end TxnLiveness
