import TxnLiveness.Proofs.Node.Queueing
import TxnLiveness.Proofs.Node.Underway
import TxnLiveness.Proofs.Shard.Confined
/-!
# What a store's turns do

A store runs its tasks one at a time, in the order in which they were queued. What a turn queues,
launches and reports is read off the task and the store that it finds. Nothing but turns launches
remediations, audits or reports failures.
-/

namespace TxnLiveness

/-- Whether the task audits one transaction. -/
def Task.isAudit : Task → Bool
  | .audit _ => true
  | _ => false

/-- All of a flight but its number. -/
def Flight.load (f : Flight) : Nat × TxnId × Tag × Stage := (f.store, f.txn, f.tag, f.stage)

/-! ## Shards -/

theorem Replica.shard_editAll (r : Replica) (topology : Topology) (edits : List Edit) :
    (r.editAll topology edits).1.log.shard = r.log.shard := by
  have shard_edit (r : Replica) (e : Edit) : (r.edit topology e).1.log.shard = r.log.shard := by
    cases e with
    | put cmd => rfl
    | alter txn change => rfl
    | record role event | attempt role event =>
      exact (r.log.confined_record topology role event).shard
  induction edits generalizing r with
  | nil => rfl
  | cons e edits ih =>
    have shard := shard_edit r e
    unfold editAll
    split <;> rename_i step <;> rw [step] at shard
    · exact (ih _).trans shard
    · exact shard

theorem Replica.shard_complete (r : Replica) (topology : Topology) (txn : TxnId) (tag : Tag)
    (completion : Completion) :
    (r.complete topology txn tag completion).1.log.shard = r.log.shard := by
  have completed := (r.log.confined_complete txn tag completion).shard
  unfold complete
  generalize r.log.complete txn tag completion = step at completed
  obtain ⟨log, fault | _ | sequel⟩ := step
  · exact completed
  · exact completed
  · dsimp only
    split
    · exact completed
    · rename_i durability _
      have told (cmd : Command) :=
        (log.confined_durableGlobally topology cmd none .home).shard.trans completed
      split <;> rename_i step <;> exact (congrArg (·.1.shard) step).symm.trans (told _)

namespace Node

/-- A task that a store runs, and how the task finds things. -/
structure Turn where
  place : Nat
  /-- The store, which no longer has the task queued. -/
  store : Store
  /-- Whether anyone holds a handle of the store. -/
  alive : Bool
  topology : Topology
  /-- The order in which the store lists the transactions that it tracks. -/
  listing : Listing
  task : Task

namespace Turn

/-- What the trackers of a transaction plan when it is audited, one after the other. -/
def plans (t : Turn) (txn : TxnId) : List (Except Fault (Option Dispatch)) :=
  TrackerKind.inOrder.map (t.store.replica.log.plan t.topology (t.store.replica.command txn))

/-- The failures of the task that nobody waits for. -/
def failures (t : Turn) : List Failure :=
  match t.task with
  | .work edits ending => ending.failures (t.store.replica.editAll t.topology edits).2
  | .audit txn => ((t.plans txn).flatMap Audit.faultOf).map (.audit txn)
  | .auditAll => []
  | .complete txn tag completion =>
    failuresOf (t.store.replica.complete t.topology txn tag completion).2

def reports (t : Turn) : List Report := t.failures.map (⟨t.store.shard, ·⟩)

/-- What the task dispatches. -/
def dispatches (t : Turn) : List Dispatch :=
  match t.task with
  | .audit txn => (t.plans txn).flatMap Audit.dispatchOf
  | .complete txn tag completion =>
    (Replica.followup? (t.store.replica.complete t.topology txn tag completion).2).toList
  | _ => []

/-- What is launched, which is nothing if the store is going away. -/
def launched (t : Turn) : List Dispatch := if t.alive then t.dispatches else []

/-- The transactions that a snapshot lists, which are none if the store is going away. -/
def tracked (t : Turn) : List TxnId :=
  if t.alive then t.listing.list t.store.replica.log.txns else []

/-- The tasks that the task queues. -/
def queued (t : Turn) : List Task :=
  match t.task with
  | .auditAll => t.tracked.map .audit
  | _ => []

theorem queued_of_auditAll {t : Turn} (ht : t.task = .auditAll) :
    t.queued = t.tracked.map .audit := by rw [queued, ht]

theorem nodup_tracked (t : Turn) : t.tracked.Nodup := by
  unfold tracked
  split
  · exact (t.listing.perm _).nodup_iff.2 (SortedMap.nodup_keys _)
  · exact .nil

theorem mem_tracked_iff {t : Turn} {txn : TxnId} :
    txn ∈ t.tracked ↔ t.alive = true ∧ (t.store.replica.log.get? txn).isSome = true := by
  have tracks : txn ∈ t.listing.list t.store.replica.log.txns ↔ _ :=
    (t.listing.perm _).mem_iff.trans SortedMap.mem_keys_iff
  unfold tracked
  split <;> rename_i alive
  · exact tracks.trans (and_iff_right alive).symm
  · simp [alive]

theorem isAudit_of_mem_queued {t : Turn} {task : Task} (h : task ∈ t.queued) :
    task.isAudit = true := by
  unfold queued at h
  split at h
  · obtain ⟨txn, -, rfl⟩ := List.mem_map.1 h
    rfl
  · cases h

theorem queued_of_ne_auditAll {t : Turn} (h : t.task ≠ .auditAll) : t.queued = [] := by
  unfold queued
  split
  · exact absurd ‹_› h
  · rfl

/-- The flights that are launched, but for their numbers. -/
def loads (t : Turn) : List (Nat × TxnId × Tag × Stage) :=
  t.launched.map fun d => (t.place, d.txn, d.tag, .launched d.remediation)

/-- What a turn does to the node that has its task taken from the queue. -/
structure Does (t : Turn) (n m : Node) : Prop where
  stores : ∃ r : Replica, r.log.Sound ∧ r.log.shard = t.store.shard ∧
    m.stores = (n.modifyStore t.place fun s =>
      { s with replica := r, queue := s.queue ++ t.queued }).stores
  flights : m.flights = n.flights ++ flightsOf t.place n.launched t.launched
  reports : m.reports = n.reports ++ t.reports
  ticks : m.counters.ticks = n.counters.ticks + t.task.isAudit.toNat

end Turn

variable {n m : Node} {i : Nat} {s : Store}

/-- What becomes of a store matters only for the store that is there. -/
theorem modifyStore_congr {f g : Store → Store} (h : ∀ s, n.stores[i]? = some s → f s = g s) :
    n.modifyStore i f = n.modifyStore i g := by
  have stores : n.stores.modify i f = n.stores.modify i g := by
    refine List.ext_getElem? fun j => ?_
    rw [List.getElem?_modify, List.getElem?_modify]
    cases hs : n.stores[j]? with
    | none => rfl
    | some s =>
      by_cases hij : i = j
      · subst hij
        simp [h s hs]
      · simp [hij]
  rw [modifyStore, stores, modifyStore]

theorem modifyStore_eq_self {f : Store → Store} (h : ∀ s, n.stores[i]? = some s → f s = s) :
    n.modifyStore i f = n := by
  have same : n.modifyStore i (fun s => s) = n :=
    congrArg ({ n with stores := · }) (List.modify_id ..)
  exact (modifyStore_congr h).trans same

section Run

variable {t : Turn} (hs : n.stores[t.place]? = some t.store)

/-- A turn that replaces the replica, launches what it dispatches and reports its failures. -/
theorem does_of_replaced {r : Replica} (alive : t.alive = n.isAlive t.place)
    (quiet : t.queued = []) (sound : r.log.Sound) (shard : r.log.shard = t.store.shard)
    (h : n.Replaced t.place r t.task.isAudit.toNat m) :
    t.Does n ((m.launchAll t.place t.dispatches).reportAll t.store.shard t.failures) := by
  obtain ⟨ls, lf, -, lr, lt⟩ := m.launchAll_eq t.place t.dispatches
  obtain ⟨rs, rf, -, rr, rt⟩ :=
    (m.launchAll t.place t.dispatches).reportAll_eq t.store.shard t.failures
  refine ⟨⟨r, sound, shard, ?_⟩, ?_, ?_, ?_⟩
  · rw [rs, ls, h.stores, quiet]
    simp only [List.append_nil]
  · rw [rf, lf, h.flights, h.launched, h.isAlive, ← alive]
    rfl
  · rw [rr, lr, h.reports]
    rfl
  · rw [rt, lt, h.ticks]

include hs

theorem does_work (sound : t.store.replica.log.Sound) (alive : t.alive = n.isAlive t.place)
    {edits : List Edit} {ending : Ending} (ht : t.task = .work edits ending) :
    t.Does n (n.run t.topology t.listing t.place t.task) := by
  have shard : (t.store.replica.editAll t.topology edits).1.log.shard = t.store.shard :=
    t.store.replica.shard_editAll t.topology edits
  have failures : t.failures = ending.failures (t.store.replica.editAll t.topology edits).2 := by
    simp only [Turn.failures, ht]
  have dispatches : t.dispatches = [] := by simp only [Turn.dispatches, ht]
  have does := does_of_replaced alive (by simp only [Turn.queued, ht])
    ((t.store.replica.quiet_editAll t.topology edits).sound sound) shard
    (by rw [ht]; exact n.replaced_modifyStore t.place _)
  rw [dispatches, failures] at does
  rw [ht, run_work hs, shard]
  exact does

theorem does_audit (sound : t.store.replica.log.Sound) (alive : t.alive = n.isAlive t.place)
    {txn : TxnId} (ht : t.task = .audit txn) :
    t.Does n (n.run t.topology t.listing t.place t.task) := by
  have collects : (t.store.replica.audit t.topology txn).2 =
      .ok ⟨t.dispatches, (t.plans txn).flatMap Audit.faultOf⟩ := by
    simp only [Turn.dispatches, ht, Turn.plans, List.flatMap_map]
    exact ShardLog.audit_collects sound t.topology (t.store.replica.command txn)
  have sound' : (t.store.replica.audit t.topology txn).1.log.Sound :=
    ShardLog.audit_sound sound t.topology (t.store.replica.command txn)
  have shard : (t.store.replica.audit t.topology txn).1.log.shard = t.store.shard :=
    (t.store.replica.log.confined_act (.audit t.topology (t.store.replica.command txn))).shard
  have failures : t.failures = ((t.plans txn).flatMap Audit.faultOf).map (.audit txn) := by
    simp only [Turn.failures, ht]
  have does := does_of_replaced alive (by simp only [Turn.queued, ht]) sound' shard
    (by rw [ht]; exact n.replaced_ticked t.topology t.place txn t.store)
  rw [failures] at does
  rw [ht, run_audit hs t.topology t.listing txn collects]
  exact does

theorem does_complete (sound : t.store.replica.log.Sound) (alive : t.alive = n.isAlive t.place)
    {txn : TxnId} {tag : Tag} {completion : Completion}
    (ht : t.task = .complete txn tag completion) :
    t.Does n (n.run t.topology t.listing t.place t.task) := by
  have shard : (t.store.replica.complete t.topology txn tag completion).1.log.shard =
      t.store.shard := t.store.replica.shard_complete t.topology txn tag completion
  have dispatches : t.dispatches = (Replica.followup?
      (t.store.replica.complete t.topology txn tag completion).2).toList := by
    simp only [Turn.dispatches, ht]
  have failures : t.failures =
      failuresOf (t.store.replica.complete t.topology txn tag completion).2 := by
    simp only [Turn.failures, ht]
  have does := does_of_replaced alive (by simp only [Turn.queued, ht])
    (Replica.complete_cases sound t.topology txn tag completion).2 shard
    (by rw [ht]; exact n.replaced_completed t.topology t.place txn tag completion t.store)
  rw [dispatches, failures] at does
  rw [ht, run_complete hs, shard]
  exact does

theorem does_auditAll (sound : t.store.replica.log.Sound) (alive : t.alive = n.isAlive t.place)
    (ht : t.task = .auditAll) : t.Does n (n.run t.topology t.listing t.place t.task) := by
  have unticked : t.task.isAudit.toNat = 0 := by
    simp only [ht]
    rfl
  have unlaunched : t.launched = [] := by simp [Turn.launched, Turn.dispatches, ht]
  have unreported : t.reports = [] := by simp only [Turn.reports, Turn.failures, ht, List.map_nil]
  have queued :
      t.queued = if n.isAlive t.place then
        (t.listing.list t.store.replica.log.txns).map .audit else [] := by
    simp only [Turn.queued, ht, Turn.tracked, alive]
    split <;> rfl
  have stores : (n.run t.topology t.listing t.place t.task).stores = (n.modifyStore t.place fun s =>
      { s with replica := t.store.replica, queue := s.queue ++ t.queued }).stores := by
    simp only [ht, run, queued]
    split
    · exact congrArg Node.stores (modifyStore_congr fun s he => by cases hs.symm.trans he; rfl)
    · refine congrArg Node.stores (modifyStore_eq_self fun s he => ?_).symm
      cases hs.symm.trans he
      simp only [List.append_nil]
  refine ⟨⟨t.store.replica, sound, rfl, stores⟩, ?_, ?_, ?_⟩
  · rw [unlaunched, ht, flightsOf, List.append_nil, run]
    split <;> rfl
  · rw [unreported, ht, List.append_nil, run]
    split <;> rfl
  · rw [unticked, ht, run]
    split <;> rfl

/-- Every task does what its turn says. -/
theorem does_run (sound : t.store.replica.log.Sound) (alive : t.alive = n.isAlive t.place) :
    t.Does n (n.run t.topology t.listing t.place t.task) := by
  cases ht : t.task with
  | work edits ending => exact ht ▸ does_work hs sound alive ht
  | audit txn => exact ht ▸ does_audit hs sound alive ht
  | auditAll => exact ht ▸ does_auditAll hs sound alive ht
  | complete txn tag completion => exact ht ▸ does_complete hs sound alive ht

end Run

/-! ## Acts -/

/-- The turn that runs the next task in the queue of a store. -/
def Turn.next (n : Node) (i : Nat) (s : Store) (topology : Topology) (listing : Listing)
    (task : Task) (queue : List Task) : Turn :=
  ⟨i, { s with queue }, n.isAlive i, topology, listing, task⟩

/-- The turn that an act takes. -/
def turnsOf (n : Node) : Act → List Turn
  | .runNext i topology listing =>
    match n.stores[i]? with
    | some s =>
      match s.queue with
      | task :: queue => [.next n i s topology listing task queue]
      | [] => []
    | none => []
  | _ => []

theorem length_turnsOf_le (n : Node) (a : Act) : (n.turnsOf a).length ≤ 1 := by
  unfold turnsOf
  repeat' split
  all_goals simp

/-- The flights that an act adds to those that there are. -/
def launchesOf (n : Node) (a : Act) : List Flight := (n.act a).flights.drop n.flights.length

/-- Which tasks an act can bring to a queue from outside. -/
def Act.Brings : Act → Task → Prop
  | .work _ edits ending, task => task = .work edits ending
  | .auditAll _, task | .auditRound, task => task = .auditAll
  | .depart .., task | .expire .., task | .answer .., task => task.IsCompletion
  | .addStore _, _ | .register _, _ | .runNext .., _ => False

/-- The logs of the stores are sound. -/
def SoundLogs (n : Node) : Prop :=
  ∀ (i : Nat) (s : Store), n.stores[i]? = some s → s.replica.log.Sound

theorem Sound.soundLogs (h : n.Sound) : n.SoundLogs := fun i s hs => (h.stores i s hs).log

/-- The turns that were taken at a place. -/
def turnsAt (turns : List Turn) (i : Nat) : List Turn := turns.filter (·.place = i)

@[simp] theorem turnsAt_nil (i : Nat) : turnsAt [] i = [] := rfl

@[simp] theorem turnsAt_append (turns later : List Turn) (i : Nat) :
    turnsAt (turns ++ later) i = turnsAt turns i ++ turnsAt later i := List.filter_append ..

/-- What was in a queue, and what came to its end from turns or from outside, has had its turn or is
still there, in that order. -/
def Flows (brings : Task → Prop) (turns : List Turn) (before after : List Task) : Prop :=
  ∃ arrived brought : List Task, before ++ arrived = turns.map (·.task) ++ after ∧
    arrived.Perm (brought ++ turns.flatMap (·.queued)) ∧ ∀ task ∈ brought, brings task

theorem Flows.trans {p : Task → Prop} {turns later : List Turn} {before mid after : List Task}
    (h : Flows p turns before mid) (k : Flows p later mid after) :
    Flows p (turns ++ later) before after := by
  obtain ⟨first, brought, hq, hperm, kind⟩ := h
  obtain ⟨second, brought', kq, kperm, kind'⟩ := k
  refine ⟨first ++ second, brought ++ brought', ?_, ?_, fun task ht => ?_⟩
  · rw [← List.append_assoc, hq, List.append_assoc, kq, List.map_append, List.append_assoc]
  · refine (hperm.append kperm).trans ?_
    simp only [List.flatMap_append, List.append_assoc]
    exact (List.perm_append_comm_assoc ..).append_left brought
  · exact (List.mem_append.1 ht).elim (kind task) (kind' task)

/-- What some turns, and tasks that come from outside, make of a node. -/
structure Advances (n : Node) (brings : Task → Prop) (turns : List Turn) (m : Node) : Prop where
  logs : m.SoundLogs
  stores : ∀ (i : Nat) (s : Store), n.stores[i]? = some s →
    ∃ t : Store, m.stores[i]? = some t ∧ t.shard = s.shard ∧ (s.held = true → t.held = true)
  /-- A turn finds the shard that there was, and alive if the user holds a handle. -/
  found : ∀ t ∈ turns, ∀ s : Store, n.stores[t.place]? = some s →
    t.store.shard = s.shard ∧ (s.held = true → t.alive = true)
  reports : m.reports = n.reports ++ turns.flatMap (·.reports)
  ticks : m.counters.ticks = n.counters.ticks + turns.countP (·.task.isAudit)
  queues : ∀ i, Flows brings (turnsAt turns i) (n.queueAt i) (m.queueAt i)

namespace Advances

variable {p : Task → Prop} {turns later : List Turn} {o : Node}

theorem trans (h : n.Advances p turns m) (k : m.Advances p later o) :
    n.Advances p (turns ++ later) o := by
  refine ⟨k.logs, fun i s hs => ?_, fun t ht s hs => ?_, ?_, ?_, fun i => ?_⟩
  · obtain ⟨s', hs', shard, held⟩ := h.stores i s hs
    obtain ⟨s'', hs'', shard', held'⟩ := k.stores i s' hs'
    exact ⟨s'', hs'', shard'.trans shard, fun hh => held' (held hh)⟩
  · obtain ht | ht := List.mem_append.1 ht
    · exact h.found t ht s hs
    · obtain ⟨s', hs', shard, held⟩ := h.stores t.place s hs
      obtain ⟨shard', alive⟩ := k.found t ht s' hs'
      exact ⟨shard'.trans shard, fun hh => alive (held hh)⟩
  · rw [k.reports, h.reports, List.flatMap_append, List.append_assoc]
  · rw [k.ticks, h.ticks, List.countP_append, Nat.add_assoc]
  · rw [turnsAt_append]
    exact (h.queues i).trans (k.queues i)

theorem mono {q : Task → Prop} (h : n.Advances p turns m) (imp : ∀ task, p task → q task) :
    n.Advances q turns m := by
  refine ⟨h.logs, h.stores, h.found, h.reports, h.ticks, fun i => ?_⟩
  obtain ⟨arrived, brought, flow, perm, kind⟩ := h.queues i
  exact ⟨arrived, brought, flow, perm, fun task ht => imp task (kind task ht)⟩

end Advances

theorem Queues.advances {p : Task → Prop} (h : n.Queues p m) (logs : n.SoundLogs) :
    n.Advances p [] m := by
  refine ⟨fun i s hs => ?_, fun i s hs => ?_, by simp, by simpa using h.reports,
    by simpa using h.ticks, fun i => ?_⟩
  · obtain ⟨tasks, -, hm⟩ := h.stores i
    rw [hm] at hs
    obtain ⟨t, ht, rfl⟩ := Option.map_eq_some_iff.1 hs
    exact logs i t ht
  · obtain ⟨tasks, -, hm⟩ := h.stores i
    rw [hm, hs]
    exact ⟨_, rfl, rfl, fun hh => hh⟩
  · obtain ⟨tasks, kind, hm⟩ := h.queueAt i
    exact ⟨tasks, tasks, by simp [hm], by simp, kind⟩

theorem advances_addStore (logs : n.SoundLogs) (shard : ShardId) (p : Task → Prop) :
    n.Advances p [] (n.addStore shard) := by
  have stores := n.getElem?_addStore shard
  refine ⟨fun i s hs => ?_, fun i s hs => ?_, by simp, by simp [addStore], by simp [addStore],
    fun i => ?_⟩
  · obtain e | ⟨-, e⟩ := stores i <;> rw [e] at hs
    · exact logs i s hs
    · cases hs
      intro txn state untracked
      cases untracked
  · obtain e | ⟨hn, -⟩ := stores i
    · exact ⟨s, e.trans hs, rfl, fun hh => hh⟩
    · rw [hn] at hs
      cases hs
  · refine ⟨[], [], ?_, by simp, by simp⟩
    obtain e | ⟨hn, e⟩ := stores i <;> simp [queueAt, e]
    simp [hn]

section Turn

variable {task : Task} {queue : List Task} (hs : n.stores[i]? = some s)
  (hq : s.queue = task :: queue) (topology : Topology) (listing : Listing)

include hs hq

theorem turnsOf_runNext :
    n.turnsOf (.runNext i topology listing) = [.next n i s topology listing task queue] := by
  simp only [turnsOf, hs, hq]

theorem does_runNext (logs : n.SoundLogs) :
    (Turn.next n i s topology listing task queue).Does (n.popped i queue)
      (n.runNext topology listing i) := by
  have alive : (n.popped i queue).isAlive i = n.isAlive i := by
    simp only [isAlive, getElem?_popped hs, hs, Option.any_some]
    rfl
  rw [runNext_eq hs hq]
  exact does_run (t := .next n i s topology listing task queue) (getElem?_popped hs) (logs i s hs)
    alive.symm

theorem getElem?_runNext (logs : n.SoundLogs) :
    ∃ r : Replica, r.log.Sound ∧ r.log.shard = s.shard ∧ ∀ j : Nat,
      (n.runNext topology listing i).stores[j]? =
        if i = j then
          some { s with
            replica := r, queue := queue ++ (Turn.next n i s topology listing task queue).queued }
        else n.stores[j]? := by
  obtain ⟨r, sound, shard, stores⟩ := (does_runNext hs hq topology listing logs).stores
  have place : (Turn.next n i s topology listing task queue).place = i := rfl
  refine ⟨r, sound, shard, fun j => ?_⟩
  rw [stores, place, getElem?_modifyStore, getElem?_stores_popped hs]
  split <;> rfl

/-- What a turn queues comes behind what has been queued. -/
theorem queueAt_runNext (logs : n.SoundLogs) (j : Nat) :
    (n.runNext topology listing i).queueAt j =
      if i = j then queue ++ (Turn.next n i s topology listing task queue).queued
      else n.queueAt j := by
  obtain ⟨r, -, -, stores⟩ := getElem?_runNext hs hq topology listing logs
  rw [queueAt, stores]
  split <;> rfl

theorem advances_runNext (logs : n.SoundLogs) (p : Task → Prop) :
    n.Advances p (n.turnsOf (.runNext i topology listing)) (n.runNext topology listing i) := by
  have does := does_runNext hs hq topology listing logs
  obtain ⟨r, sound, shard, stores⟩ := getElem?_runNext hs hq topology listing logs
  rw [turnsOf_runNext hs hq]
  refine ⟨fun j s' hs' => ?_, fun j s' hs' => ?_, ?_, ?_, ?_, fun j => ?_⟩
  · rw [stores] at hs'
    split at hs'
    · cases hs'
      exact sound
    · exact logs j s' hs'
  · rw [stores]
    split
    · subst j
      cases hs.symm.trans hs'
      exact ⟨_, rfl, shard, fun hh => hh⟩
    · exact ⟨s', hs', rfl, fun hh => hh⟩
  · intro t ht s' hs'
    obtain rfl := List.mem_singleton.1 ht
    cases hs.symm.trans hs'
    refine ⟨rfl, fun hh => ?_⟩
    simp only [Turn.next, isAlive, hs, Option.any_some, hh, Bool.true_or]
  · rw [does.reports, List.flatMap_singleton]
    rfl
  · rw [does.ticks, List.countP_singleton]
    cases (Turn.next n i s topology listing task queue).task.isAudit <;> rfl
  · rw [queueAt_runNext hs hq topology listing logs]
    by_cases hj : i = j
    · have here : turnsAt [Turn.next n i s topology listing task queue] j =
          [.next n i s topology listing task queue] := by simp [turnsAt, Turn.next, hj]
      have before : n.queueAt j = task :: queue := by rw [← hj, queueAt, hs]; exact hq
      rw [here, before, if_pos hj]
      exact ⟨_, [], rfl, by simp, by simp⟩
    · have elsewhere : turnsAt [Turn.next n i s topology listing task queue] j = [] := by
        simp [turnsAt, Turn.next, hj]
      rw [elsewhere, if_neg hj]
      exact ⟨[], [], by simp, .nil, by simp⟩

end Turn

/-- An act brings tasks of its kind to the queues, or adds a store, or has a task run. -/
theorem act_cases (n : Node) (a : Act) :
    n.turnsOf a = [] ∧ n.Queues a.Brings (n.act a) ∨ (∃ shard, a = .addStore shard) ∨
      ∃ i topology listing s task queue, a = .runNext i topology listing ∧ n.stores[i]? = some s ∧
        s.queue = task :: queue := by
  cases a with
  | addStore shard => exact .inr (.inl ⟨shard, rfl⟩)
  | register i => exact .inl ⟨rfl, queues_of_eq _ rfl rfl rfl .refl⟩
  | work i edits ending => exact .inl ⟨rfl, queues_enqueue n i rfl⟩
  | auditAll i => exact .inl ⟨rfl, queues_enqueue n i rfl⟩
  | auditRound => exact .inl ⟨rfl, n.queues_auditRound⟩
  | runNext i topology listing =>
    obtain ⟨idle, empty⟩ | ⟨s, task, queue, hs, hq, -⟩ := n.runNext_cases topology listing i
    · refine .inl ⟨?_, ?_⟩
      · cases hs : n.stores[i]? with
        | none => simp only [turnsOf, hs]
        | some s => simp only [turnsOf, hs, empty s hs]
      · rw [act, idle]
        exact .refl _ n
    · exact .inr (.inr ⟨i, topology, listing, s, task, queue, rfl, hs, hq⟩)
  | depart id topology => exact .inl ⟨rfl, n.queues_depart topology id⟩
  | expire id fault => exact .inl ⟨rfl, n.queues_expire id fault⟩
  | answer id call a => exact .inl ⟨rfl, n.queues_answer id call a⟩

theorem eq_next_of_mem {a : Act} {t : Turn} (ht : t ∈ n.turnsOf a) :
    ∃ topology listing s task queue, a = .runNext t.place topology listing ∧
      n.stores[t.place]? = some s ∧ s.queue = task :: queue ∧
      t = .next n t.place s topology listing task queue := by
  obtain ⟨none, -⟩ | ⟨shard, rfl⟩ | ⟨i, topology, listing, s, task, queue, rfl, hs, hq⟩ :=
    n.act_cases a
  · rw [none] at ht
    cases ht
  · cases ht
  · rw [turnsOf_runNext hs hq] at ht
    obtain rfl := List.mem_singleton.1 ht
    exact ⟨topology, listing, s, task, queue, rfl, hs, hq, rfl⟩

theorem advances_act (logs : n.SoundLogs) (a : Act) :
    n.Advances a.Brings (n.turnsOf a) (n.act a) := by
  obtain ⟨none, queues⟩ | ⟨shard, rfl⟩ | ⟨i, topology, listing, s, task, queue, rfl, hs, hq⟩ :=
    n.act_cases a
  · rw [none]
    exact queues.advances logs
  · exact advances_addStore logs shard _
  · exact advances_runNext hs hq topology listing logs _

theorem map_load_flightsOf (i id : Nat) (ds : List Dispatch) :
    (flightsOf i id ds).map Flight.load =
      ds.map fun d => (i, d.txn, d.tag, .launched d.remediation) := by
  induction ds generalizing id with
  | nil => rfl
  | cons d ds ih => rw [flightsOf, List.map_cons, ih, List.map_cons, Flight.load]

/-- Only a turn launches remediations. -/
theorem load_launchesOf (logs : n.SoundLogs) (a : Act) :
    (n.launchesOf a).map Flight.load = (n.turnsOf a).flatMap (·.loads) := by
  unfold launchesOf
  obtain ⟨none, queues⟩ | ⟨shard, rfl⟩ | ⟨i, topology, listing, s, task, queue, rfl, hs, hq⟩ :=
    n.act_cases a
  · rw [none, List.drop_eq_nil_of_le queues.flights]
    rfl
  · rw [act, addStore, List.drop_length]
    rfl
  · have flights := (does_runNext hs hq topology listing logs).flights
    rw [act, flights, turnsOf_runNext hs hq, List.flatMap_singleton, Turn.loads]
    exact (congrArg _ List.drop_left).trans (map_load_flightsOf ..)

/-! ## Runs -/

theorem advances_run (logs : n.SoundLogs) {p : Task → Prop} {run : List Act}
    (brings : ∀ a ∈ run, ∀ task, a.Brings task → p task) :
    n.Advances p (n.onward.told turnsOf run) (n.onward.after run) := by
  induction run with
  | nil => exact (Queues.refl p n).advances logs
  | cons a past ih =>
    have before := ih fun b hb => brings b (List.mem_cons_of_mem _ hb)
    exact before.trans ((advances_act before.logs a).mono (brings a List.mem_cons_self))

theorem soundLogs_run (logs : n.SoundLogs) (run : List Act) : (n.onward.after run).SoundLogs :=
  (advances_run (p := fun _ => True) logs fun _ _ _ _ => trivial).logs

theorem load_launches_run (logs : n.SoundLogs) (run : List Act) :
    (n.onward.told launchesOf run).map Flight.load =
      (n.onward.told turnsOf run).flatMap (·.loads) := by
  induction run with
  | nil => rfl
  | cons a past ih =>
    rw [Machine.told_cons, Machine.told_cons, List.map_append, List.flatMap_append, ih,
      load_launchesOf (soundLogs_run logs past)]

end Node

end TxnLiveness
