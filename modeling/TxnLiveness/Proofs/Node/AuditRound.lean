import TxnLiveness.Proofs.Node.Awaited
import TxnLiveness.Proofs.Node.Drain
/-!
# Rounds of audits

A round of audits brings a snapshot to the queue of every registered store that is alive. When the
queues have run dry, each of these stores has audited every transaction once that it tracked when
its snapshot ran, behind all that was queued before, and besides only what was due to be audited
already. No failure keeps a later task from running.
-/

namespace TxnLiveness

/-- Whether the task queues an audit of every transaction. -/
def Task.isSnapshot : Task → Bool
  | .auditAll => true
  | _ => false

/-- Whether the task audits one transaction or every one. -/
def Task.audits (task : Task) : Bool := task.isAudit || task.isSnapshot

namespace Node

variable {n m : Node} {i : Nat}

/-! ## The queues when the round begins -/

theorem queueAt_foldl_enqueue (hi : i < n.stores.length) (task : Task) (places : List Nat) :
    (places.foldl (fun n j => n.enqueue j task) n).queueAt i =
      n.queueAt i ++ List.replicate (places.count i) task := by
  induction places generalizing n with
  | nil => simp
  | cons j places ih =>
    have still : i < (n.enqueue j task).stores.length := by rwa [enqueue, length_modifyStore]
    rw [List.foldl_cons, ih still]
    by_cases hj : j = i
    · subst hj
      rw [queueAt_enqueue n hi, if_pos rfl, List.count_cons_self, List.replicate_succ,
        List.append_assoc, List.singleton_append]
    · have other : (n.enqueue j task).queueAt i = n.queueAt i := by
        rw [queueAt, enqueue, getElem?_modifyStore, if_neg hj, queueAt]
      rw [other, List.count_cons_of_ne hj]

/-- A round brings one snapshot to the queue of every store that is audited. -/
theorem queueAt_auditRound (distinct : n.registry.Nodup) (hi : i < n.stores.length) :
    n.auditRound.1.queueAt i =
      n.queueAt i ++ if i ∈ n.audited then [.auditAll] else [] := by
  have once : n.audited.Nodup := distinct.filter _
  have queued := queueAt_foldl_enqueue hi .auditAll n.audited
  rw [once.count] at queued
  refine queued.trans ?_
  split <;> rfl

theorem queueAt_auditRound_of_le (hi : n.stores.length ≤ i) : n.auditRound.1.queueAt i = [] := by
  obtain ⟨tasks, -, stores⟩ := n.queues_auditRound.stores i
  rw [queueAt, stores, List.getElem?_eq_none hi]
  rfl

theorem queueAt_prefix_auditRound (n : Node) (i : Nat) :
    n.queueAt i <+: n.auditRound.1.queueAt i := by
  obtain ⟨tasks, -, queue⟩ := n.queues_auditRound.queueAt i
  exact ⟨tasks, queue.symm⟩

theorem soundLogs_auditRound (logs : n.SoundLogs) : n.auditRound.1.SoundLogs :=
  (n.queues_auditRound.advances logs).logs

theorem isAlive_enqueue (n : Node) (j : Nat) (task : Task) (i : Nat) :
    (n.enqueue j task).isAlive i = n.isAlive i := by
  unfold isAlive enqueue
  rw [getElem?_modifyStore]
  split
  · cases n.stores[i]? <;> rfl
  · rfl

theorem isAlive_auditRound (n : Node) (i : Nat) : n.auditRound.1.isAlive i = n.isAlive i := by
  have queued (places : List Nat) (n : Node) :
      (places.foldl (fun n j => n.enqueue j .auditAll) n).isAlive i = n.isAlive i := by
    induction places generalizing n with
    | nil => rfl
    | cons j places ih => exact (ih _).trans (n.isAlive_enqueue j .auditAll i)
  exact queued n.audited n

/-! ## The snapshot -/

theorem flows_run (logs : n.SoundLogs) {run : List Act}
    (dry : (n.onward.after run).queueAt i = []) :
    ∃ arrived, (turnsAt (n.onward.told turnsOf run) i).map (·.task) = n.queueAt i ++ arrived := by
  have advances : n.Advances (fun _ => True) _ (n.onward.after run) :=
    advances_run logs fun _ _ _ _ => trivial
  obtain ⟨arrived, -, flow, -, -⟩ := advances.queues i
  rw [dry, List.append_nil] at flow
  exact ⟨arrived, flow.symm⟩

/-- After a turn come those of what is queued behind it, and then those of what it has queued. -/
theorem map_task_of_split (logs : n.SoundLogs) {run : List Act}
    (dry : (n.onward.after run).queueAt i = []) {before rest : List Turn} {t : Turn}
    (turns : turnsAt (n.onward.told turnsOf run) i = before ++ t :: rest) :
    ∃ arrived, rest.map (·.task) = t.store.queue ++ (t.queued ++ arrived) := by
  -- The act that takes the turn splits the run.
  have single (m : Node) (a : Act) : (turnsAt (m.turnsOf a) i).length ≤ 1 :=
    Nat.le_trans (List.length_filter_le ..) (m.length_turnsOf_le a)
  have told : n.onward.told (fun m a => turnsAt (m.turnsOf a) i) run = before ++ t :: rest :=
    (n.onward.filter_told turnsOf (·.place = i) run).symm.trans turns
  obtain ⟨later, a, past, rfl, -, one, rfl⟩ := n.onward.told_split single told
  have taken : t ∈ turnsAt ((n.onward.after past).turnsOf a) i := one ▸ List.mem_singleton_self _
  obtain ⟨mem, place⟩ := List.mem_filter.1 taken
  obtain rfl : t.place = i := by simpa using place
  obtain ⟨topology, listing, s, task, queue, rfl, hs, hq, next⟩ := eq_next_of_mem mem
  have queued := queueAt_runNext hs hq topology listing (soundLogs_run logs past) t.place
  rw [if_pos rfl, ← next] at queued
  have behind : t.store.queue = queue := by rw [next]; rfl
  rw [← n.onward.after_onward] at dry
  obtain ⟨arrived, rest⟩ :=
    flows_run (soundLogs_run logs (.runNext t.place topology listing :: past)) dry
  refine ⟨arrived, ?_⟩
  rw [← List.append_assoc, behind, ← queued]
  exact (congrArg _ (Machine.filter_told ..).symm).trans rest

/-- What a snapshot queues has its turns right after all that was queued when the snapshot ran. -/
theorem exists_snapshot (logs : n.SoundLogs) {queue : List Task}
    (start : n.queueAt i = queue ++ [.auditAll]) {run : List Act}
    (dry : (n.onward.after run).queueAt i = []) :
    ∃ (before : List Turn) (snapshot : Turn) (behind audits later : List Turn),
      turnsAt (n.onward.told turnsOf run) i =
        before ++ snapshot :: (behind ++ (audits ++ later)) ∧
      before.map (·.task) = queue ∧ snapshot.task = .auditAll ∧
      behind.map (·.task) = snapshot.store.queue ∧ audits.map (·.task) = snapshot.queued := by
  obtain ⟨arrived, tasks⟩ := flows_run logs dry
  rw [start, List.append_assoc, List.singleton_append] at tasks
  obtain ⟨before, rest, turns, hbefore, hrest⟩ := List.map_eq_append_iff.1 tasks
  obtain ⟨snapshot, rest, rfl, hsnapshot, -⟩ := List.map_eq_cons_iff.1 hrest
  obtain ⟨arrived, tasks⟩ := map_task_of_split logs dry turns
  obtain ⟨behind, rest, rfl, hbehind, hrest⟩ := List.map_eq_append_iff.1 tasks
  obtain ⟨audits, later, rfl, haudits, -⟩ := List.map_eq_append_iff.1 hrest
  exact ⟨before, snapshot, behind, audits, later, turns, hbefore, hsnapshot, hbehind, haudits⟩

/-! ## Counting audits -/

theorem filter_isAudit_of_quiet {tasks : List Task} (h : ∀ task ∈ tasks, task.audits = false) :
    tasks.filter Task.isAudit = [] := by
  refine List.filter_eq_nil_iff.2 fun task ht => ?_
  have := h task ht
  simp_all [Task.audits]

/-- Turns none of which is a snapshot's queue nothing. -/
theorem flatMap_queued_of_map_task {turns : List Turn} {tasks : List Task}
    (h : turns.map (·.task) = tasks) (unlisted : ∀ task ∈ tasks, task.isSnapshot = false) :
    turns.flatMap (·.queued) = [] := by
  refine List.flatMap_eq_nil_iff.2 fun t ht => Turn.queued_of_ne_auditAll fun he => ?_
  have := unlisted t.task (h ▸ List.mem_map_of_mem ht)
  simp [he, Task.isSnapshot] at this

section Flows

variable {turns : List Turn} {queue : List Task}
  (h : Flows (fun task => task.audits = false) turns queue [])

include h

/-- Every audit was queued to begin with or by a snapshot. -/
theorem Flows.perm_audits :
    ((turns.map (·.task)).filter Task.isAudit).Perm
      (queue.filter Task.isAudit ++ turns.flatMap (·.queued)) := by
  obtain ⟨arrived, brought, flow, perm, quiet⟩ := h
  have queued : (turns.flatMap (·.queued)).filter Task.isAudit = turns.flatMap (·.queued) := by
    refine List.filter_eq_self.2 fun task ht => ?_
    obtain ⟨t, -, ht⟩ := List.mem_flatMap.1 ht
    exact Turn.isAudit_of_mem_queued ht
  have audits := perm.filter Task.isAudit
  rw [List.filter_append, filter_isAudit_of_quiet quiet, queued, List.nil_append] at audits
  rw [← List.append_nil (turns.map _), ← flow, List.filter_append]
  exact audits.append_left _

/-- Every snapshot was queued to begin with, so later turns queue nothing. -/
theorem Flows.flatMap_queued :
    turns.flatMap (·.queued) = (turns.take queue.length).flatMap (·.queued) := by
  obtain ⟨arrived, brought, flow, perm, quiet⟩ := h
  have unlisted : ∀ task ∈ arrived, task.isSnapshot = false := by
    intro task ht
    obtain ht | ht := List.mem_append.1 (perm.mem_iff.1 ht)
    · have := quiet task ht
      simp_all [Task.audits]
    · obtain ⟨t, -, ht⟩ := List.mem_flatMap.1 ht
      have := Turn.isAudit_of_mem_queued ht
      cases task <;> simp_all [Task.isAudit, Task.isSnapshot]
  have rest : (turns.drop queue.length).map (·.task) = arrived := by
    rw [List.map_drop, ← List.append_nil (turns.map _), ← flow, List.drop_left]
  have parts := congrArg (List.flatMap (·.queued)) (List.take_append_drop queue.length turns)
  rw [List.flatMap_append, flatMap_queued_of_map_task rest unlisted, List.append_nil] at parts
  exact parts.symm

end Flows

theorem length_flatMap_congr {α β γ : Type} {l : List α} {f : α → List β} {g : α → List γ}
    (h : ∀ a ∈ l, (f a).length = (g a).length) : (l.flatMap f).length = (l.flatMap g).length := by
  rw [List.length_flatMap, List.length_flatMap, List.map_congr_left h]

/-- Each turn comes at one place. -/
theorem countP_eq_length_turnsAt {p : Turn → Bool} {places : List Nat} (distinct : places.Nodup)
    {turns : List Turn} (placed : ∀ t ∈ turns, p t = true → t.place ∈ places) :
    turns.countP p = (places.flatMap fun i => (turnsAt turns i).filter p).length := by
  induction places generalizing turns with
  | nil =>
    refine List.countP_eq_zero.2 fun t ht hp => ?_
    cases placed t ht hp
  | cons i places ih =>
    obtain ⟨fresh, distinct⟩ := List.nodup_cons.1 distinct
    rw [List.countP_eq_countP_filter_add turns p (·.place = i), List.flatMap_cons,
      List.length_append, List.countP_eq_length_filter, turnsAt]
    generalize hother : turns.filter (fun t => !decide (t.place = i)) = other
    have elsewhere : other.countP p =
        (places.flatMap fun j => (turnsAt other j).filter p).length :=
      ih distinct fun t ht hp => by grind
    rw [elsewhere]
    refine congrArg _ (length_flatMap_congr fun j hj => ?_)
    have same : turnsAt other j = turnsAt turns j := by
      rw [← hother, turnsAt, List.filter_filter, turnsAt]
      refine List.filter_congr fun t _ => ?_
      grind
    rw [same]

/-- Where the audits at each place are known, so is how many there are in all. -/
theorem countP_isAudit_eq_length {places : List Nat} (distinct : places.Nodup) {turns : List Turn}
    {audits : Nat → List Task} (none : ∀ i, i ∉ places → audits i = [])
    (perm : ∀ i, (((turnsAt turns i).map (·.task)).filter Task.isAudit).Perm (audits i)) :
    turns.countP (·.task.isAudit) = (places.flatMap audits).length := by
  have count (i : Nat) :
      ((turnsAt turns i).filter (·.task.isAudit)).length = (audits i).length := by
    have same := (perm i).length_eq
    rwa [List.filter_map, List.length_map] at same
  have placed : ∀ t ∈ turns, t.task.isAudit = true → t.place ∈ places := by
    intro t ht audits
    refine Decidable.byContradiction fun other => ?_
    have unaudited := count t.place
    rw [none _ other, List.length_nil, List.length_eq_zero_iff] at unaudited
    exact List.filter_eq_nil_iff.1 unaudited t (List.mem_filter.2 ⟨ht, by simp⟩) audits
  rw [countP_eq_length_turnsAt distinct placed]
  exact length_flatMap_congr fun i _ => count i

/-! ## The round -/

/-- The turns of an audited store: of the tasks that were queued before the round, of the snapshot,
of what came behind the snapshot before it ran, of an audit of every transaction that is tracked
when it runs, and later ones. -/
def Covers (s : Store) (tracked : List TxnId) (turns : List Turn) : Prop :=
  ∃ (before : List Turn) (snapshot : Turn) (behind audits later : List Turn),
    turns = before ++ snapshot :: (behind ++ (audits ++ later)) ∧
    before.map (·.task) = s.queue ∧ snapshot.task = .auditAll ∧
    behind.map (·.task) = snapshot.store.queue ∧ audits.map (·.task) = tracked.map .audit ∧
    tracked.Nodup ∧ ∀ txn, txn ∈ tracked ↔
      snapshot.alive = true ∧ (snapshot.store.replica.log.get? txn).isSome = true

/-- The turns taken in a run that a round of audits begins. -/
def roundTurns (n : Node) (run : List Act) : List Turn := n.auditRound.1.onward.told turnsOf run

/-- The node after a run that a round of audits begins. -/
def roundEnd (n : Node) (run : List Act) : Node := n.auditRound.1.onward.after run

/-- The audits at a place that a round does not add: those that were queued before it, and those
that the snapshots queued before it have queued. -/
def pendingAudits (n : Node) (run : List Act) (i : Nat) : List Task :=
  (n.queueAt i).filter Task.isAudit ++
    ((turnsAt (n.roundTurns run) i).take (n.queueAt i).length).flatMap (·.queued)

/-- Nothing in a run but turns queues audits. -/
def BringsNoAudits (run : List Act) : Prop :=
  ∀ a ∈ run, ∀ task, a.Brings task → task.audits = false

theorem RunsTasks.bringsNoAudits {run : List Act} (h : RunsTasks run) : BringsNoAudits run := by
  intro a ha task brings
  obtain ⟨i, topology, listing, rfl⟩ := h a ha
  exact brings.elim

/-- What a round of audits comes to in a run that leaves no task queued. -/
structure RoundDone (n : Node) (run : List Act) (tracked : Nat → List TxnId) : Prop where
  covers : ∀ i ∈ n.audited, ∀ s : Store, n.stores[i]? = some s →
    Covers s (tracked i) (turnsAt (n.roundTurns run) i)
  /-- The round adds no audits where nothing is audited. -/
  unaudited : ∀ i, i ∉ n.audited → tracked i = []
  /-- What was queued has its turns in that order, whatever fails. -/
  ran : ∀ i, n.queueAt i <+: (turnsAt (n.roundTurns run) i).map (·.task)
  /-- A turn finds the shard that there was, and alive if the user holds a handle. -/
  found : ∀ t ∈ n.roundTurns run, ∀ s : Store, n.stores[t.place]? = some s →
    t.store.shard = s.shard ∧ (s.held = true → t.alive = true)
  /-- A turn finds a store alive that was, if nothing but tasks runs. -/
  alive : RunsTasks run → ∀ t ∈ n.roundTurns run, n.isAlive t.place = true → t.alive = true
  /-- What is launched is what turns have dispatched, each once. -/
  launches : (n.auditRound.1.onward.told launchesOf run).map Flight.load =
    (n.roundTurns run).flatMap (·.loads)
  /-- What is reported is what has failed in turns, each failure once. -/
  reports : (n.roundEnd run).reports = n.reports ++ (n.roundTurns run).flatMap (·.reports)
  ticks : (n.roundEnd run).counters.ticks =
    n.counters.ticks + (n.roundTurns run).countP (·.task.isAudit)
  /-- The audits are those that were pending and those that snapshots have queued. -/
  audits : BringsNoAudits run → ∀ i,
    (((turnsAt (n.roundTurns run) i).map (·.task)).filter Task.isAudit).Perm
      ((n.queueAt i).filter Task.isAudit ++ (turnsAt (n.roundTurns run) i).flatMap (·.queued))
  /-- The round adds one audit of every transaction to those that were pending. -/
  added : BringsNoAudits run →
    (∀ i, (((turnsAt (n.roundTurns run) i).map (·.task)).filter Task.isAudit).Perm
      (n.pendingAudits run i ++ (tracked i).map .audit)) ∧
    (n.roundEnd run).counters.ticks = n.counters.ticks +
      ((List.range n.stores.length).flatMap fun i =>
        n.pendingAudits run i ++ (tracked i).map .audit).length
  /-- If none were pending, the audits are those of the round. -/
  once : BringsNoAudits run → (∀ i, ∀ task ∈ n.queueAt i, task.audits = false) →
    (∀ i, (((turnsAt (n.roundTurns run) i).map (·.task)).filter Task.isAudit).Perm
      ((tracked i).map .audit)) ∧
    (n.roundEnd run).counters.ticks =
      n.counters.ticks + (n.audited.flatMap tracked).length

section Round

variable {run : List Act}

theorem flows_round (logs : n.SoundLogs) (dry : (n.roundEnd run).queueAt i = [])
    (alone : BringsNoAudits run) :
    Flows (fun task => task.audits = false) (turnsAt (n.roundTurns run) i)
      (n.auditRound.1.queueAt i) [] := by
  have flows := (advances_run (soundLogs_auditRound logs) alone).queues i
  rwa [← roundEnd, dry, ← roundTurns] at flows

theorem perm_audits_round (logs : n.SoundLogs) (dry : (n.roundEnd run).queueAt i = [])
    (alone : BringsNoAudits run) :
    (((turnsAt (n.roundTurns run) i).map (·.task)).filter Task.isAudit).Perm
      ((n.queueAt i).filter Task.isAudit ++ (turnsAt (n.roundTurns run) i).flatMap (·.queued)) := by
  obtain ⟨tasks, snapshots, queue⟩ := n.queues_auditRound.queueAt i
  have unaudited : tasks.filter Task.isAudit = [] :=
    List.filter_eq_nil_iff.2 fun task ht => by simp [snapshots task ht, Task.isAudit]
  have perm := (flows_round logs dry alone).perm_audits
  rwa [queue, List.filter_append, unaudited, List.append_nil] at perm

theorem queueAt_prefix_roundTurns (logs : n.SoundLogs) (dry : (n.roundEnd run).queueAt i = []) :
    n.queueAt i <+: (turnsAt (n.roundTurns run) i).map (·.task) := by
  obtain ⟨arrived, tasks⟩ := flows_run (soundLogs_auditRound logs) dry
  exact (n.queueAt_prefix_auditRound i).trans ⟨arrived, tasks.symm⟩

/-- Where nothing that audits was queued, no audits were pending. -/
theorem pendingAudits_of_quiet (logs : n.SoundLogs) (dry : (n.roundEnd run).queueAt i = [])
    (quiet : ∀ task ∈ n.queueAt i, task.audits = false) : n.pendingAudits run i = [] := by
  have front : ((turnsAt (n.roundTurns run) i).take (n.queueAt i).length).map (·.task) =
      n.queueAt i := by
    rw [List.map_take]
    exact (List.prefix_iff_eq_take.1 (queueAt_prefix_roundTurns logs dry)).symm
  have unlisted : ∀ task ∈ n.queueAt i, task.isSnapshot = false := by
    intro task ht
    have := quiet task ht
    simp_all [Task.audits]
  rw [pendingAudits, filter_isAudit_of_quiet quiet, flatMap_queued_of_map_task front unlisted,
    List.append_nil]

/-- What the round adds to the audits of one store: at an audited store, what its snapshot
tracks. -/
theorem exists_tracked (logs : n.SoundLogs) (distinct : n.registry.Nodup)
    (dry : (n.roundEnd run).queueAt i = []) :
    ∃ tracked : List TxnId,
      (i ∈ n.audited → ∀ s, n.stores[i]? = some s →
        Covers s tracked (turnsAt (n.roundTurns run) i)) ∧
      (¬(i ∈ n.audited ∧ i < n.stores.length) → tracked = []) ∧
      (BringsNoAudits run →
        (((turnsAt (n.roundTurns run) i).map (·.task)).filter Task.isAudit).Perm
          (n.pendingAudits run i ++ tracked.map .audit)) := by
  by_cases here : i ∈ n.audited ∧ i < n.stores.length
  · obtain ⟨audited, hi⟩ := here
    have start := queueAt_auditRound distinct hi
    rw [if_pos audited] at start
    obtain ⟨before, snapshot, behind, audits, later, turns, hbefore, hsnapshot, hbehind, haudits⟩ :=
      exists_snapshot (soundLogs_auditRound logs) start dry
    have queued := snapshot.queued_of_auditAll hsnapshot
    have length : (n.queueAt i).length = before.length := by rw [← hbefore, List.length_map]
    refine ⟨snapshot.tracked, fun _ s hs => ?_, fun h => absurd ⟨audited, hi⟩ h, fun alone => ?_⟩
    · have before_eq : before.map (·.task) = s.queue := by rw [hbefore, queueAt, hs]; rfl
      exact ⟨before, snapshot, behind, audits, later, turns, before_eq, hsnapshot, hbehind,
        haudits.trans queued, snapshot.nodup_tracked, fun _ => Turn.mem_tracked_iff⟩
    · have perm := perm_audits_round logs dry alone
      have all := (flows_round logs dry alone).flatMap_queued
      rw [start, List.length_append, List.length_singleton, length] at all
      rw [all] at perm
      have next (rest : List Turn) : (before ++ snapshot :: rest).take (before.length + 1) =
          (before ++ snapshot :: rest).take before.length ++ [snapshot] := by
        rw [List.take_add_one]
        simp
      rw [pendingAudits, List.append_assoc, ← queued, length]
      rw [roundTurns, turns] at perm ⊢
      rwa [next, List.flatMap_append, List.flatMap_singleton] at perm
  · have start : n.auditRound.1.queueAt i = n.queueAt i := by
      by_cases hi : i < n.stores.length
      · rw [queueAt_auditRound distinct hi, if_neg fun h => here ⟨h, hi⟩, List.append_nil]
      · rw [queueAt_auditRound_of_le (Nat.le_of_not_lt hi), queueAt,
          List.getElem?_eq_none (Nat.le_of_not_lt hi)]
        rfl
    refine ⟨[], fun audited s hs => ?_, fun _ => rfl, fun alone => ?_⟩
    · exact absurd ⟨audited, (List.getElem?_eq_some_iff.1 hs).1⟩ here
    · have perm := perm_audits_round logs dry alone
      have all := (flows_round logs dry alone).flatMap_queued
      rw [start] at all
      rwa [all, ← pendingAudits, ← List.append_nil (n.pendingAudits run i)] at perm

/-- Whatever is queued and whatever fails, and whatever else happens meanwhile, once the queues have
run dry each registered store that is alive has audited every transaction that it tracked when its
snapshot ran, once more than was pending already, and all that its audits planned is launched and
all that failed is reported. -/
theorem audits_every_tracked_transaction_once (n : Node) (logs : n.SoundLogs)
    (distinct : n.registry.Nodup) :
    (∀ topology listing, ∃ places : List Nat,
      RunsTasks (places.map (.runNext · topology listing)) ∧
      BringsNoAudits (places.map (.runNext · topology listing)) ∧
      n.roundEnd (places.map (.runNext · topology listing)) =
        n.auditRound.1.drain topology listing ∧
      (n.auditRound.1.drain topology listing).isIdle = true) ∧
    ∀ run, (n.roundEnd run).isIdle = true → ∃ tracked, n.RoundDone run tracked := by
  have logs' := soundLogs_auditRound logs
  refine ⟨fun topology listing => ?_, fun run dry => ?_⟩
  · obtain ⟨places, drained⟩ := n.auditRound.1.runsTo_drain topology listing
    have tasks := runsTasks_runNext topology listing places
    exact ⟨places, tasks, tasks.bringsNoAudits, drained, isIdle_drain logs' topology listing⟩
  have dry (i : Nat) : (n.roundEnd run).queueAt i = [] := isIdle_iff.1 dry i
  obtain ⟨tracked, htracked⟩ := Classical.axiomOfChoice fun i =>
    exists_tracked logs distinct (dry i)
  have unaudited (i : Nat) (h : i ∉ n.audited) : tracked i = [] :=
    (htracked i).2.1 fun here => h here.1
  have advances : n.Advances (fun _ => True) (n.roundTurns run) (n.roundEnd run) :=
    ((n.queues_auditRound.advances logs).mono fun _ _ => trivial).trans
      (advances_run logs' fun _ _ _ _ => trivial)
  refine ⟨tracked, ?covers, unaudited, ?ran, advances.found, ?alive, load_launches_run logs' run,
    advances.reports, advances.ticks, ?audits, ?added, ?once⟩
  case covers => exact fun i => (htracked i).1
  case ran => exact fun i => queueAt_prefix_roundTurns logs (dry i)
  case alive =>
    intro tasks t ht h
    exact (alive_of_runsTasks logs' tasks).2 t ht ((n.isAlive_auditRound t.place).trans h)
  case audits => exact fun alone i => perm_audits_round logs (dry i) alone
  case added =>
    intro alone
    have perm (i : Nat) := (htracked i).2.2 alone
    refine ⟨perm, ?_⟩
    rw [advances.ticks]
    refine congrArg _ (countP_isAudit_eq_length List.nodup_range (fun i hi => ?_) perm)
    have none : n.stores[i]? = none := List.getElem?_eq_none (by simpa using hi)
    have untracked : tracked i = [] := (htracked i).2.1 fun here => hi (List.mem_range.2 here.2)
    have unqueued : n.queueAt i = [] := by rw [queueAt, none]; rfl
    rw [untracked, pendingAudits, unqueued]
    rfl
  case once =>
    intro alone quiet
    have perm (i : Nat) : (((turnsAt (n.roundTurns run) i).map (·.task)).filter Task.isAudit).Perm
        ((tracked i).map .audit) := by
      have perm := (htracked i).2.2 alone
      rwa [pendingAudits_of_quiet logs (dry i) (quiet i)] at perm
    refine ⟨perm, ?_⟩
    have count := countP_isAudit_eq_length (distinct.filter _)
      (fun i hi => by rw [unaudited i hi]; rfl) perm
    rw [advances.ticks, count]
    exact congrArg _ (length_flatMap_congr fun i _ => List.length_map _)

end Round

def exampleTopology : Topology := ⟨1, fun _ => true, fun _ _ _ => ∅⟩

/-- A node with two stores. The first tracks two transactions, of which the second has no home key,
and has audited them before. A task that panics and one that fails are queued. -/
def exampleStores : Node :=
  (machine 1 2).after
    ([.work 1 [] (.failed "disk full"), .work 0 [] (.panicked .other)] ++
      List.replicate 5 (.runNext 0 exampleTopology .ascending) ++
      [.auditAll 0, .work 0 [.record .home (.preAccepted { txn := ⟨1, 1, 2⟩ })] .returned,
        .work 0 [.record .home (.witnessed ⟨1, 1, 1⟩ ⟨[104]⟩)] .returned,
        .register 1, .register 0, .addStore 8, .addStore 7])

def exampleTurns : List Act :=
  ([0, 0, 1, 0, 1, 0] : List Nat).map (.runNext · exampleTopology .ascending)

theorem quiet_exampleStores (i : Nat) (task : Task) (ht : task ∈ exampleStores.queueAt i) :
    task.audits = false := by
  match i with
  | 0 => exact (by decide : ∀ task ∈ exampleStores.queueAt 0, task.audits = false) task ht
  | 1 => exact (by decide : ∀ task ∈ exampleStores.queueAt 1, task.audits = false) task ht
  | i + 2 => cases ht

/-- The first transaction is recovered, and the second reported besides the two tasks. -/
theorem two_transactions_audited :
    exampleStores.SoundLogs ∧ exampleStores.registry.Nodup ∧
      (exampleStores.roundEnd exampleTurns).isIdle = true ∧ BringsNoAudits exampleTurns ∧
      (∀ i, ∀ task ∈ exampleStores.queueAt i, task.audits = false) ∧
      (∃ tracked, exampleStores.RoundDone exampleTurns tracked) ∧
      (exampleStores.roundEnd exampleTurns).counters.ticks = exampleStores.counters.ticks + 2 ∧
      (exampleStores.auditRound.1.onward.told launchesOf exampleTurns).length = 1 ∧
      (exampleStores.roundEnd exampleTurns).reports.map (·.shard) = [7, 8, 7] :=
  have logs : exampleStores.SoundLogs := (sound_after 1 2 _).soundLogs
  have distinct : exampleStores.registry.Nodup := by decide
  ⟨logs, distinct, rfl, (runsTasks_runNext exampleTopology .ascending _).bringsNoAudits,
    quiet_exampleStores,
    (audits_every_tracked_transaction_once exampleStores logs distinct).2 exampleTurns rfl,
    rfl, rfl, rfl⟩

/-- A node with one store, registered once, that tracks one transaction and has nothing queued. -/
def exampleStore : Node :=
  (machine 1 2).after [.runNext 0 exampleTopology .ascending,
    .work 0 [.record .home (.witnessed ⟨1, 1, 1⟩ ⟨[104]⟩)] .returned, .register 0, .addStore 7]

/-- Where a snapshot is pending, or an audit, the only transaction is audited twice and the audits
that are counted are two. -/
theorem pending_audits_come_on_top :
    let txn : TxnId := ⟨1, 1, 1⟩
    let listed := exampleStore.enqueue 0 .auditAll
    let queued := exampleStore.enqueue 0 (.audit txn)
    let turns : List Act := List.replicate 4 (.runNext 0 exampleTopology .ascending)
    (exampleStore.registry = [0] ∧ exampleStore.isAlive 0 = true ∧ exampleStore.isIdle = true ∧
        exampleStore.stores.map (·.replica.log.txns) = [[txn]]) ∧
      (listed.roundEnd turns = listed.auditRound.1.drain exampleTopology .ascending ∧
        (listed.roundEnd turns).isIdle = true ∧
        (listed.roundEnd turns).stores.map (·.replica.log.txns) = [[txn]] ∧
        ((listed.roundTurns turns).map (·.task)).filter Task.isAudit = [.audit txn, .audit txn] ∧
        (listed.roundEnd turns).counters.ticks = listed.counters.ticks + 2) ∧
      queued.roundEnd turns = queued.auditRound.1.drain exampleTopology .ascending ∧
        (queued.roundEnd turns).isIdle = true ∧
        (queued.roundEnd turns).stores.map (·.replica.log.txns) = [[txn]] ∧
        ((queued.roundTurns turns).map (·.task)).filter Task.isAudit = [.audit txn, .audit txn] ∧
        (queued.roundEnd turns).counters.ticks = queued.counters.ticks + 2 :=
  ⟨⟨rfl, rfl, rfl, rfl⟩, ⟨rfl, rfl, rfl, rfl, rfl⟩, rfl, rfl, rfl, rfl, rfl⟩

end Node

end TxnLiveness
