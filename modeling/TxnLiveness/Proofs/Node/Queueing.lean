import TxnLiveness.Proofs.Node.Step
/-!
# How queues grow

Only the running of tasks takes anything from a queue. Whatever else happens on a node brings tasks
to the ends of queues, and of a kind that depends on what happens: work of the user, audits, or
completions of what has been in flight.
-/

namespace TxnLiveness

def Task.IsCompletion (task : Task) : Prop :=
  ∃ txn tag completion, task = .complete txn tag completion

namespace Node

/-- Tasks of a kind have come to the ends of queues. Nothing else has become of the stores, nothing
has been launched, nothing audited and nothing reported. -/
structure Queues (p : Task → Prop) (n m : Node) : Prop where
  reports : m.reports = n.reports
  ticks : m.counters.ticks = n.counters.ticks
  flights : m.flights.length ≤ n.flights.length
  stores : ∀ i : Nat, ∃ tasks : List Task, (∀ task ∈ tasks, p task) ∧
    m.stores[i]? = n.stores[i]?.map fun s => { s with queue := s.queue ++ tasks }

variable {p : Task → Prop} {n m o : Node}

theorem queues_of_eq (p : Task → Prop) (hs : m.stores = n.stores) (hr : m.reports = n.reports)
    (ht : m.counters.ticks = n.counters.ticks) (hf : m.flights.length ≤ n.flights.length) :
    n.Queues p m :=
  ⟨hr, ht, hf, fun i => ⟨[], by simp, by rw [hs]; cases n.stores[i]? <;> simp⟩⟩

theorem Queues.refl (p : Task → Prop) (n : Node) : n.Queues p n := queues_of_eq p rfl rfl rfl .refl

theorem Queues.trans (h : n.Queues p m) (k : m.Queues p o) : n.Queues p o := by
  refine ⟨k.reports.trans h.reports, k.ticks.trans h.ticks, Nat.le_trans k.flights h.flights,
    fun i => ?_⟩
  obtain ⟨first, kind, hm⟩ := h.stores i
  obtain ⟨second, kind', ho⟩ := k.stores i
  refine ⟨first ++ second, fun task ht => ?_, ?_⟩
  · exact (List.mem_append.1 ht).elim (kind task) (kind' task)
  · rw [ho, hm]
    cases n.stores[i]? <;> simp

theorem Queues.queueAt (h : n.Queues p m) (i : Nat) :
    ∃ tasks, (∀ task ∈ tasks, p task) ∧ m.queueAt i = n.queueAt i ++ tasks := by
  obtain ⟨tasks, kind, hm⟩ := h.stores i
  cases hs : n.stores[i]? with
  | none => exact ⟨[], by simp, by simp [Node.queueAt, hm, hs]⟩
  | some s => exact ⟨tasks, kind, by simp [Node.queueAt, hm, hs]⟩

theorem queues_enqueue (n : Node) (i : Nat) {task : Task} (h : p task) :
    n.Queues p (n.enqueue i task) := by
  refine ⟨rfl, rfl, .refl, fun j => ?_⟩
  rw [enqueue, getElem?_modifyStore]
  split
  · exact ⟨[task], by simpa using h, rfl⟩
  · exact ⟨[], by simp, by simp⟩

/-! ## Flights -/

theorem queues_land (n : Node) (f : Flight) (completion : Completion) :
    n.Queues Task.IsCompletion (n.land f completion) :=
  have abandoned := queues_of_eq Task.IsCompletion (n := n) (m := n.abandon f.id) rfl rfl rfl
    (List.length_filter_le _ _)
  abandoned.trans (queues_enqueue _ f.store ⟨_, _, _, rfl⟩)

theorem queues_setStage (n : Node) (id : Nat) (stage : Stage) :
    n.Queues Task.IsCompletion (n.setStage id stage) :=
  queues_of_eq _ rfl rfl rfl (Nat.le_of_eq (List.length_map _))

theorem queues_goOn (n : Node) (f : Flight) (round : Round) :
    n.Queues Task.IsCompletion (n.goOn f round).1 := by
  unfold goOn
  dsimp only
  split
  · exact queues_land n f .roundFinished
  · exact queues_setStage n f.id _

theorem queues_failUncalled (n : Node) (f : Flight) (call : Call) (fault : RemoteFault) :
    n.Queues Task.IsCompletion (n.failUncalled f call fault) := by
  unfold failUncalled
  cases call.completion? (.error fault) with
  | none => exact .refl _ n
  | some completion => exact queues_land n f completion

theorem queues_depart (n : Node) (topology : Topology) (id : Nat) :
    n.Queues Task.IsCompletion (n.depart topology id).1 := by
  unfold depart
  repeat' split
  all_goals first
    | exact .refl _ n
    | exact queues_goOn n _ _
    | exact queues_failUncalled n _ _ _
    | exact queues_setStage n _ _

theorem queues_countTimeout (n : Node) (a : Answer) :
    n.Queues Task.IsCompletion (n.countTimeout a) := by
  unfold countTimeout
  split
  · exact queues_of_eq _ rfl rfl rfl .refl
  · exact .refl _ n

theorem queues_expire (n : Node) (id : Nat) (fault : RemoteFault) :
    n.Queues Task.IsCompletion (n.expire id fault) := by
  unfold expire
  repeat' split
  all_goals first
    | exact .refl _ n
    | exact (queues_countTimeout n _).trans (queues_failUncalled _ _ _ _)

theorem queues_answer (n : Node) (id : Nat) (call : Call) (a : Answer) :
    n.Queues Task.IsCompletion (n.answer id call a).1 := by
  unfold answer
  split
  · split
    · split
      · split
        · exact (queues_countTimeout n a).trans (queues_land _ _ _)
        · exact .refl _ n
      · exact .refl _ n
    · split
      · dsimp only
        split
        · exact (queues_enqueue n _ ⟨_, _, _, rfl⟩).trans (queues_goOn _ _ _)
        · rename_i fault
          have counted : n.Queues Task.IsCompletion { n.countTimeout (.error fault) with
              counters := (n.countTimeout (.error fault)).counters.remoteFailure } :=
            (queues_countTimeout n (.error fault)).trans (queues_of_eq _ rfl rfl rfl .refl)
          exact counted.trans (queues_goOn _ _ _)
      · exact .refl _ n
    · exact .refl _ n
  · exact .refl _ n

/-! ## Audits -/

theorem queues_auditRound (n : Node) : n.Queues (· = .auditAll) n.auditRound.1 := by
  have queued (live : List Nat) (n : Node) :
      n.Queues (· = .auditAll) (live.foldl (fun n i => n.enqueue i .auditAll) n) := by
    induction live generalizing n with
    | nil => exact .refl _ n
    | cons i live ih => exact (queues_enqueue (p := (· = .auditAll)) n i rfl).trans (ih _)
  exact (queued n.audited n).trans (queues_of_eq _ rfl rfl rfl .refl)

end Node

end TxnLiveness
