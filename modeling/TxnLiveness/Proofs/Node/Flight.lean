import TxnLiveness.Proofs.Node.Accounts
/-!
# What flights have to do with each other

Nothing changes how many calls an announcement may have under way at a time. A flight that waits for
no epoch stays as it is until it is started or one of its calls is answered, whatever else happens
on its node.
-/

namespace TxnLiveness.Node

variable {n m : Node} {i : Nat}

/-! ## The limit -/

theorem fanout_launch (n : Node) (i : Nat) (d : Dispatch) : (n.launch i d).fanout = n.fanout := by
  unfold launch
  split <;> rfl

theorem fanout_reportAt (n : Node) (i : Nat) (failure : Failure) :
    (n.reportAt i failure).fanout = n.fanout := by
  unfold reportAt
  split <;> rfl

theorem fanout_foldl {α : Type} {f : Node → α → Node}
    (h : ∀ (n : Node) a, (f n a).fanout = n.fanout) (n : Node) (l : List α) :
    (l.foldl f n).fanout = n.fanout := by
  induction l generalizing n with
  | nil => rfl
  | cons a l ih => exact (ih _).trans (h n a)

theorem fanout_orReport (i : Nat) (step : Node × Except Fault Unit) :
    (orReport i step).fanout = step.1.fanout := by
  obtain ⟨m, _ | _⟩ := step
  · exact fanout_reportAt m i _
  · rfl

theorem fanout_run (n : Node) (topology : Topology) (listing : Listing) (i : Nat) (task : Task) :
    (n.run topology listing i task).fanout = n.fanout := by
  cases task with
  | work edits ending =>
    have performed : (n.perform topology i edits).1.fanout = n.fanout := by
      unfold perform
      split <;> rfl
    simp only [run]
    split <;> simp_all [fanout_reportAt]
  | audit txn =>
    refine (fanout_orReport i _).trans ?_
    unfold audit
    split
    · rfl
    · dsimp only
      split
      · rfl
      · rename_i s _ _ out _
        have launched := fanout_foldl (fun n d => fanout_launch n i d)
        have reported := fanout_foldl (f := fun n f => n.report s.shard (.audit txn f))
          fun _ _ => rfl
        exact (reported _ out.faults).trans (launched _ out.dispatches)
  | auditAll =>
    simp only [run]
    split <;> rfl
  | complete txn tag completion =>
    refine (fanout_orReport i _).trans ?_
    unfold complete
    split
    · rfl
    · have counted : (if completion.isFailure = true then
          { n with counters := n.counters.remoteFailure } else n).fanout = n.fanout := by
        split <;> rfl
      dsimp only
      split <;> first | exact counted | exact (fanout_launch _ i _).trans counted

theorem fanout_countTimeout (n : Node) (a : Answer) : (n.countTimeout a).fanout = n.fanout := by
  unfold countTimeout
  split <;> rfl

theorem stores_countTimeout (n : Node) (a : Answer) : (n.countTimeout a).stores = n.stores := by
  unfold countTimeout
  split <;> rfl

theorem remoteFailures_countTimeout (n : Node) (a : Answer) :
    (n.countTimeout a).counters.remoteFailures = n.counters.remoteFailures := by
  unfold countTimeout
  split <;> rfl

theorem fanout_goOn (n : Node) (f : Flight) (round : Round) :
    (n.goOn f round).1.fanout = n.fanout := by
  unfold goOn
  dsimp only
  split <;> rfl

theorem fanout_failUncalled (n : Node) (f : Flight) (call : Call) (fault : RemoteFault) :
    (n.failUncalled f call fault).fanout = n.fanout := by
  unfold failUncalled
  cases call.completion? (.error fault) <;> rfl

theorem fanout_act (n : Node) (a : Act) : (n.act a).fanout = n.fanout := by
  cases a with
  | addStore shard => rfl
  | register i => rfl
  | work i edits ending => rfl
  | auditAll i => rfl
  | auditRound => exact fanout_foldl (f := fun n i => n.enqueue i .auditAll) (fun _ _ => rfl) n _
  | runNext i topology listing =>
    obtain ⟨idle, -⟩ | ⟨s, task, queue, -, -, e⟩ := n.runNext_cases topology listing i
    · exact congrArg Node.fanout idle
    · exact (congrArg Node.fanout e).trans (fanout_run _ topology listing i task)
  | depart id topology =>
    simp only [act, depart]
    repeat' split
    all_goals first | rfl | exact fanout_goOn .. | exact fanout_failUncalled ..
  | expire id fault =>
    simp only [act, expire]
    repeat' split
    all_goals first | rfl | exact (fanout_failUncalled ..).trans (fanout_countTimeout ..)
  | answer id call a =>
    simp only [act, answer]
    repeat' split
    all_goals first
      | rfl
      | exact fanout_countTimeout ..
      | exact fanout_goOn ..
      | exact (fanout_goOn ..).trans (fanout_countTimeout ..)


/-! ## Other flights -/

/-- Whether the act starts a flight or answers a call of it. -/
def Act.drives (id : Nat) : Act → Bool
  | .depart x _ | .answer x _ _ => x = id
  | _ => false

@[simp] theorem flight?_countTimeout (n : Node) (a : Answer) (id : Nat) :
    (n.countTimeout a).flight? id = n.flight? id := by
  rw [flight?, flights_countTimeout, flight?]

theorem flight?_goOn {f : Flight} {id : Nat} (h : f.id ≠ id) (round : Round) :
    (n.goOn f round).1.flight? id = n.flight? id := by
  unfold goOn
  dsimp only
  split
  · exact (n.flight?_land f _ id).trans (if_neg h)
  · exact (n.flight?_setStage f.id id _).trans (if_neg h)

theorem flight?_failUncalled {f : Flight} {id : Nat} (h : f.id ≠ id) (call : Call)
    (fault : RemoteFault) : (n.failUncalled f call fault).flight? id = n.flight? id := by
  unfold failUncalled
  cases call.completion? (.error fault) with
  | none => rfl
  | some completion => exact (n.flight?_land f completion id).trans (if_neg h)

theorem flight?_depart {x id : Nat} (h : x ≠ id) (topology : Topology) :
    (n.depart topology x).1.flight? id = n.flight? id := by
  unfold depart
  split
  · rename_i f hf
    obtain ⟨-, rfl⟩ := mem_of_flight? hf
    repeat' split
    all_goals first
      | rfl
      | exact flight?_goOn h _
      | exact flight?_failUncalled h _ _
      | exact (n.flight?_setStage f.id id _).trans (if_neg h)
  · rfl

theorem flight?_expire {x id : Nat} (h : x ≠ id) (fault : RemoteFault) :
    (n.expire x fault).flight? id = n.flight? id := by
  unfold expire
  split
  · rename_i f hf
    obtain ⟨-, rfl⟩ := mem_of_flight? hf
    repeat' split
    all_goals first
      | rfl
      | exact (flight?_failUncalled h _ _).trans (flight?_countTimeout n _ id)
  · rfl

theorem flight?_answer {x id : Nat} (h : x ≠ id) (call : Call) (a : Answer) :
    (n.answer x call a).1.flight? id = n.flight? id := by
  unfold answer
  split
  · rename_i f hf
    obtain ⟨-, rfl⟩ := mem_of_flight? hf
    repeat' split
    all_goals first
      | rfl
      | exact flight?_goOn h _
      | exact (flight?_goOn h _).trans (flight?_countTimeout n _ id)
      | exact (flight?_land _ f _ id).trans ((if_neg h).trans (flight?_countTimeout n _ id))
  · rfl

/-- Running tasks launches flights and leaves those there are as they are. -/
theorem flight?_runNext (hn : n.Sound) {id : Nat} (hid : id < n.launched) (topology : Topology)
    (listing : Listing) (i : Nat) : (n.runNext topology listing i).flight? id = n.flight? id := by
  obtain ⟨idle, -⟩ | ⟨s, task, queue, hs, hq, e⟩ := n.runNext_cases topology listing i
  · rw [idle]
  · have hs' : (n.popped i queue).stores[i]? = some { s with queue } := getElem?_popped hs
    have held := (hn.stores i s hs).held
    rw [e]
    have ran {r : Replica} {ds : List Dispatch}
        (h : (n.popped i queue).Ran i r ds ((n.popped i queue).run topology listing i task)) :
        ((n.popped i queue).run topology listing i task).flight? id = n.flight? id :=
      flight?_of_launched (n := n.popped i queue) hid h.flights
    cases task with
    | work edits ending => exact ran (ran_work hs' topology listing edits ending)
    | auditAll =>
      simp only [run]
      split <;> rfl
    | audit txn =>
      obtain ⟨out, ho, -⟩ :=
        ShardLog.audit_ok (hn.stores i s hs).log topology (s.replica.command txn)
      exact ran (ran_audit hs' held topology listing txn ho).1
    | complete txn tag completion =>
      exact ran (ran_complete hs' held topology listing txn tag completion)

/-- A flight that waits for no epoch stays as it is until an act drives it. -/
theorem flight?_act (hn : n.Sound) {id : Nat} (hid : id < n.launched) {a : Act}
    (hd : a.drives id = false) (he : ∀ f, n.flight? id = some f → f.epoch? = none) :
    (n.act a).flight? id = n.flight? id := by
  cases a with
  | addStore shard => rfl
  | register i => rfl
  | work i edits ending => rfl
  | auditAll i => rfl
  | auditRound =>
    have queued (n : Node) (l : List Nat) :
        (l.foldl (fun n i => n.enqueue i .auditAll) n).flight? id = n.flight? id := by
      induction l generalizing n with
      | nil => rfl
      | cons i l ih => exact ih _
    exact queued n _
  | runNext i topology listing => exact flight?_runNext hn hid topology listing i
  | depart x topology => exact flight?_depart (by simpa [Act.drives] using hd) topology
  | expire x fault =>
    by_cases hx : x = id
    · subst hx
      have unmoved : n.expire x fault = n := by
        unfold expire
        split
        · rename_i f hf
          have none := he f hf
          unfold Flight.epoch? at none
          grind
        · rfl
      exact congrArg (·.flight? x) unmoved
    · exact flight?_expire hx fault
  | answer x call a => exact flight?_answer (by simpa [Act.drives] using hd) call a

end TxnLiveness.Node
