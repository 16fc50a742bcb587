import TxnLiveness.Proofs.Node.Turn
/-!
# Running queues dry

Draining a node runs what is queued in its stores and what that queues in turn, which is audits only
and queues nothing more. So the queues are empty in the end, however a store lists its transactions.
A store that is alive stays so while nothing but tasks runs.
-/

namespace TxnLiveness.Node

variable {n m : Node} {i : Nat}

theorem isIdle_iff : n.isIdle = true ↔ ∀ i, n.queueAt i = [] := by
  rw [isIdle, List.all_eq_true]
  constructor
  · intro empty i
    unfold queueAt
    cases hs : n.stores[i]? with
    | none => rfl
    | some s => exact List.isEmpty_iff.1 (empty s (List.mem_of_getElem? hs))
  · intro empty s hs
    obtain ⟨i, hs⟩ := List.mem_iff_getElem?.1 hs
    have := empty i
    rw [queueAt, hs] at this
    exact List.isEmpty_iff.2 this

section RunsTo

variable {topology : Topology} {listing : Listing}

/-- Tasks have run and nothing else has happened. -/
def RunsTo (topology : Topology) (listing : Listing) (n m : Node) : Prop :=
  ∃ places : List Nat, n.onward.after (places.map (.runNext · topology listing)) = m

theorem RunsTo.refl (topology : Topology) (listing : Listing) (n : Node) :
    n.RunsTo topology listing n := ⟨[], rfl⟩

theorem RunsTo.trans {o : Node} (h : n.RunsTo topology listing m)
    (k : m.RunsTo topology listing o) : n.RunsTo topology listing o := by
  obtain ⟨places, rfl⟩ := h
  obtain ⟨later, rfl⟩ := k
  refine ⟨later ++ places, ?_⟩
  rw [List.map_append, ← Machine.after_onward]
  rfl

theorem runsTo_foldl {α : Type} {f : Node → α → Node}
    (h : ∀ (n : Node) a, n.RunsTo topology listing (f n a)) (n : Node) (l : List α) :
    n.RunsTo topology listing (l.foldl f n) := by
  induction l generalizing n with
  | nil => exact .refl topology listing n
  | cons a l ih => exact (h n a).trans (ih _)

theorem RunsTo.logs (h : n.RunsTo topology listing m) (logs : n.SoundLogs) : m.SoundLogs := by
  obtain ⟨places, rfl⟩ := h
  exact soundLogs_run logs _

end RunsTo

theorem runsTo_runQueued (n : Node) (topology : Topology) (listing : Listing) (i : Nat) :
    n.RunsTo topology listing (n.runQueued topology listing i) :=
  runsTo_foldl (fun _ _ => ⟨[i], rfl⟩) n _

theorem runsTo_drainStore (n : Node) (topology : Topology) (listing : Listing) (i : Nat) :
    n.RunsTo topology listing (n.drainStore topology listing i) :=
  (n.runsTo_runQueued topology listing i).trans (runsTo_runQueued _ topology listing i)

theorem runsTo_drain (n : Node) (topology : Topology) (listing : Listing) :
    n.RunsTo topology listing (n.drain topology listing) :=
  runsTo_foldl (fun n i => n.runsTo_drainStore topology listing i) n _

theorem exists_store_of_queueAt {task : Task} {queue : List Task}
    (h : n.queueAt i = task :: queue) :
    ∃ s, n.stores[i]? = some s ∧ s.queue = task :: queue := by
  unfold queueAt at h
  cases hs : n.stores[i]? with
  | none => simp [hs] at h
  | some s => exact ⟨s, rfl, by simpa [hs] using h⟩

/-- The tasks at the head of a queue have their turns one after the other. -/
theorem advances_front (logs : n.SoundLogs) (topology : Topology) (listing : Listing)
    {front back : List Task} (h : n.queueAt i = front ++ back) :
    ∃ turns : List Turn, turns.map (·.task) = front ∧ (∀ t ∈ turns, t.place = i) ∧
      n.Advances (fun _ => False) turns
        (front.foldl (fun n _ => n.runNext topology listing i) n) := by
  induction front generalizing n back with
  | nil => exact ⟨[], rfl, by simp, (Queues.refl _ n).advances logs⟩
  | cons task front ih =>
    rw [List.cons_append] at h
    obtain ⟨s, hs, hq⟩ := exists_store_of_queueAt h
    have step := advances_runNext hs hq topology listing logs fun _ => False
    rw [turnsOf_runNext hs hq] at step
    have rest := queueAt_runNext hs hq topology listing logs i
    rw [if_pos rfl, List.append_assoc] at rest
    obtain ⟨turns, tasks, here, later⟩ := ih step.logs rest
    refine ⟨_, ?_, ?_, step.trans later⟩
    · rw [List.map_append, tasks]
      rfl
    · simpa [Turn.next] using here

/-- What is left of a queue that is run once is what its turns have queued. Others stay as they
are. -/
theorem advances_runQueued (logs : n.SoundLogs) (topology : Topology) (listing : Listing)
    (i : Nat) :
    ∃ turns : List Turn, turns.map (·.task) = n.queueAt i ∧
      ((n.runQueued topology listing i).queueAt i).Perm (turns.flatMap (·.queued)) ∧
      ∀ j, i ≠ j → (n.runQueued topology listing i).queueAt j = n.queueAt j := by
  obtain ⟨turns, tasks, here, advances⟩ :=
    advances_front logs topology listing (List.append_nil (n.queueAt i)).symm
  have run : (n.queueAt i).foldl (fun n _ => n.runNext topology listing i) n =
      n.runQueued topology listing i := rfl
  rw [run] at advances
  have unbrought {brought : List Task} (h : ∀ task ∈ brought, False) : brought = [] :=
    List.eq_nil_iff_forall_not_mem.2 h
  refine ⟨turns, tasks, ?_, fun j hj => ?_⟩
  · have own : turnsAt turns i = turns := List.filter_eq_self.2 fun t ht => by simp [here t ht]
    obtain ⟨arrived, brought, flow, perm, none⟩ := advances.queues i
    rw [own, tasks] at flow
    rw [own, unbrought none] at perm
    rwa [List.append_cancel_left flow] at perm
  · have none : turnsAt turns j = [] := List.filter_eq_nil_iff.2 fun t ht => by simp [here t ht, hj]
    obtain ⟨arrived, brought, flow, perm, unsent⟩ := advances.queues j
    rw [none, unbrought unsent] at perm
    rw [none, perm.eq_nil, List.append_nil] at flow
    exact flow.symm

theorem queueAt_drainStore (logs : n.SoundLogs) (topology : Topology) (listing : Listing)
    (i j : Nat) :
    (n.drainStore topology listing i).queueAt j = if i = j then [] else n.queueAt j := by
  have logs' : (n.runQueued topology listing i).SoundLogs :=
    (n.runsTo_runQueued topology listing i).logs logs
  obtain ⟨turns, -, left, others⟩ := advances_runQueued logs topology listing i
  obtain ⟨audits, tasks, left', others'⟩ := advances_runQueued logs' topology listing i
  unfold drainStore
  split
  · subst j
    -- The second time over only audits run, which queue nothing.
    have silent : audits.flatMap (·.queued) = [] := by
      refine List.flatMap_eq_nil_iff.2 fun t ht => Turn.queued_of_ne_auditAll fun he => ?_
      have queued : t.task ∈ turns.flatMap (·.queued) :=
        left.mem_iff.1 (tasks ▸ List.mem_map_of_mem ht)
      obtain ⟨source, -, hs⟩ := List.mem_flatMap.1 queued
      have := Turn.isAudit_of_mem_queued hs
      simp [he, Task.isAudit] at this
    rw [silent] at left'
    exact left'.eq_nil
  · rename_i hij
    rw [others' j hij, others j hij]

theorem queueAt_foldl_drainStore (logs : n.SoundLogs) (topology : Topology) (listing : Listing)
    (places : List Nat) {j : Nat} (h : j ∈ places ∨ n.queueAt j = []) :
    (places.foldl (fun n i => n.drainStore topology listing i) n).queueAt j = [] := by
  induction places generalizing n with
  | nil => exact h.resolve_left List.not_mem_nil
  | cons i places ih =>
    refine ih ((n.runsTo_drainStore topology listing i).logs logs) ?_
    rw [queueAt_drainStore logs]
    grind

/-- Draining a node leaves no task queued anywhere. -/
theorem isIdle_drain (logs : n.SoundLogs) (topology : Topology) (listing : Listing) :
    (n.drain topology listing).isIdle = true := by
  refine isIdle_iff.2 fun i => queueAt_foldl_drainStore logs topology listing _ ?_
  by_cases hi : i < n.stores.length
  · exact .inl (List.mem_range.2 hi)
  · exact .inr (by simp [queueAt, List.getElem?_eq_none (Nat.le_of_not_lt hi)])

/-! ## Handles -/

/-- A task that runs gives up no handle. -/
theorem isAlive_runNext (logs : n.SoundLogs) (topology : Topology) (listing : Listing) (j : Nat)
    (h : n.isAlive i = true) : (n.runNext topology listing j).isAlive i = true := by
  obtain ⟨idle, -⟩ | ⟨s, task, queue, hs, hq, -⟩ := n.runNext_cases topology listing j
  · rwa [idle]
  obtain ⟨r, -, -, stores⟩ := getElem?_runNext hs hq topology listing logs
  have flights := (does_runNext hs hq topology listing logs).flights
  have kept : ∀ f ∈ n.flights, f ∈ (n.runNext topology listing j).flights := fun f hf =>
    flights ▸ List.mem_append_left _ hf
  rw [isAlive, Bool.or_eq_true] at h ⊢
  refine h.imp (fun held => ?_) fun flown => ?_
  · rw [stores]
    split
    · subst j
      simpa [hs] using held
    · exact held
  · obtain ⟨f, hf, here⟩ := List.any_eq_true.1 flown
    exact List.any_eq_true.2 ⟨f, kept f hf, here⟩

/-- Nothing but tasks runs. -/
def RunsTasks (run : List Act) : Prop :=
  ∀ a ∈ run, ∃ i topology listing, a = .runNext i topology listing

theorem runsTasks_runNext (topology : Topology) (listing : Listing) (places : List Nat) :
    RunsTasks (places.map (.runNext · topology listing)) := by
  intro a ha
  obtain ⟨i, -, rfl⟩ := List.mem_map.1 ha
  exact ⟨i, topology, listing, rfl⟩

/-- While nothing but tasks runs, a store that was alive is found alive. -/
theorem alive_of_runsTasks (logs : n.SoundLogs) {run : List Act} (tasks : RunsTasks run) :
    (∀ i, n.isAlive i = true → (n.onward.after run).isAlive i = true) ∧
      ∀ t ∈ n.onward.told turnsOf run, n.isAlive t.place = true → t.alive = true := by
  induction run with
  | nil => exact ⟨fun i h => h, fun t ht => by cases ht⟩
  | cons a past ih =>
    obtain ⟨still, found⟩ := ih fun b hb => tasks b (List.mem_cons_of_mem _ hb)
    refine ⟨fun i h => ?_, fun t ht h => ?_⟩
    · obtain ⟨j, topology, listing, rfl⟩ := tasks a List.mem_cons_self
      exact isAlive_runNext (soundLogs_run logs past) topology listing j (still i h)
    · obtain ht | ht := List.mem_append.1 ht
      · exact found t ht h
      · obtain ⟨topology, listing, s, task, queue, -, -, -, next⟩ := eq_next_of_mem ht
        rw [next]
        exact still t.place h

end TxnLiveness.Node
