import Mathlib.Algebra.Ring.Nat
import TxnLiveness.Proofs.Node.Awaited
/-!
# What the counters count

A failed operation is counted when its completion runs and a failed announcement when it is heard
of, while a timeout is counted at once. So the books of a node balance at all times if failed
completions that are still queued are counted too.
-/

namespace TxnLiveness

/-! ## Failures -/

def RemoteFault.isTimeout : RemoteFault → Bool
  | .timedOut .. => true
  | _ => false

/-- Whether a call is an operation of its own, of which a completion comes. -/
def Call.isOperation : Call → Bool
  | .informDurable .. => false
  | _ => true

/-- The fault that an answer brings. -/
def Answer.faults : Answer → List RemoteFault
  | .error fault => [fault]
  | .ok _ => []

/-- Whether a flight in this stage waits for the call. -/
def Stage.awaits : Stage → Call → Bool
  | .calling asked, call => asked = call && call.isOperation
  | .announcing round, .informDurable target _ => target ∈ round.active
  | _, _ => false

/-- The epoch that a flight makes sure of before it makes its call. -/
def Flight.epoch? (f : Flight) : Option Epoch :=
  match f.stage with
  | .launched remediation =>
    match remediation.errand f.txn with
    | .single epoch _ => epoch
    | .round _ => none
  | _ => none

/-- Whether the task completes an operation that failed. -/
def Task.failed : Task → Bool
  | .complete _ _ completion => completion.isFailure
  | _ => false

namespace Node

/-- The fault with which an act ends an operation or a single announcement. -/
def failure? (n : Node) : Act → Option RemoteFault
  | .depart id topology =>
    ((n.flight? id).bind (·.epoch?)).bind fun epoch =>
      match topology.awaitEpoch epoch with
      | .error fault => some fault
      | .ok () => none
  | .expire id fault => ((n.flight? id).bind (·.epoch?)).map fun _ => fault
  | .answer id call (.error fault) =>
    if (n.flight? id).any (·.stage.awaits call) then some fault else none
  | _ => none

/-- How many failed operations are still to be counted. -/
def uncounted (n : Node) : Nat := (n.stores.map fun s => s.queue.countP (·.failed)).sum

/-- The books of one node come of those of another by entering launches, reports and failures. -/
structure Books (n m : Node) (faults : List RemoteFault) : Prop where
  escalations : m.counters.escalations + n.launched = n.counters.escalations + m.launched
  uncaught : m.counters.uncaughtErrors + n.reports.length =
    n.counters.uncaughtErrors + m.reports.length
  failures : m.counters.remoteFailures + m.uncounted =
    n.counters.remoteFailures + n.uncounted + faults.length
  timeouts : m.counters.remoteTimeouts =
    n.counters.remoteTimeouts + faults.countP (·.isTimeout)

variable {n m o : Node} {i : Nat} {s : Store} {faults more : List RemoteFault}

theorem Books.refl (n : Node) : n.Books n [] := ⟨rfl, rfl, rfl, rfl⟩

theorem Books.trans (h : n.Books m faults) (k : m.Books o more) : n.Books o (faults ++ more) := by
  obtain ⟨he, hu, hf, ht⟩ := h
  obtain ⟨ke, ku, kf, kt⟩ := k
  refine ⟨?_, ?_, ?_, ?_⟩
  · omega
  · omega
  · rw [List.length_append]
    omega
  · rw [List.countP_append]
    omega

/-- Entries that hold no failure. -/
theorem Books.then (h : n.Books m faults) (k : m.Books o []) : n.Books o faults := by
  simpa using h.trans k

/-- The order of the entries does not matter. -/
theorem Books.perm (h : n.Books m faults) (p : faults.Perm more) : n.Books m more :=
  ⟨h.escalations, h.uncaught, p.length_eq ▸ h.failures, p.countP_eq _ ▸ h.timeouts⟩

/-! ## Queues -/

theorem sum_map_modify (l : List Store) (g : Store → Nat) (f : Store → Store)
    (h : l[i]? = some s) : ((l.modify i f).map g).sum + g s = (l.map g).sum + g (f s) := by
  induction l generalizing i with
  | nil => simp at h
  | cons t l ih =>
    cases i with
    | zero =>
      cases h
      simp only [List.modify_zero_cons, List.map_cons, List.sum_cons]
      omega
    | succ i =>
      have rest := ih h
      simp only [List.modify_succ_cons, List.map_cons, List.sum_cons]
      omega

theorem modifyStore_of_none (h : n.stores[i]? = none) (f : Store → Store) :
    n.modifyStore i f = n := by
  rw [modifyStore, List.modify_eq_self (by simpa using h)]

theorem uncounted_modifyStore (hs : n.stores[i]? = some s) (f : Store → Store) :
    (n.modifyStore i f).uncounted + s.queue.countP (·.failed) =
      n.uncounted + (f s).queue.countP (·.failed) :=
  sum_map_modify n.stores _ f hs

/-- Only what comes of failed operations matters of the queues. -/
theorem books_modifyStore (n : Node) (i : Nat) {f : Store → Store}
    (h : ∀ s, (f s).queue.countP (·.failed) = s.queue.countP (·.failed)) :
    n.Books (n.modifyStore i f) [] := by
  refine ⟨rfl, rfl, ?_, rfl⟩
  cases hs : n.stores[i]? with
  | none => rw [modifyStore_of_none hs]; rfl
  | some s =>
    have moved := uncounted_modifyStore hs f
    rw [h s] at moved
    have same : (n.modifyStore i f).counters = n.counters := rfl
    rw [same, List.length_nil]
    omega

theorem uncounted_enqueue (n : Node) (hi : i < n.stores.length) {task : Task}
    (h : task.failed = true) : (n.enqueue i task).uncounted = n.uncounted + 1 := by
  have moved := uncounted_modifyStore (List.getElem?_eq_getElem hi)
    fun s => { s with queue := s.queue ++ [task] }
  rw [List.countP_append, List.countP_singleton, if_pos h] at moved
  rw [enqueue]
  omega

theorem books_append (n : Node) (i : Nat) {tasks : Store → List Task}
    (h : ∀ s, ∀ task ∈ tasks s, task.failed = false) :
    n.Books (n.modifyStore i fun s => { s with queue := s.queue ++ tasks s }) [] := by
  refine books_modifyStore n i fun s => ?_
  have none : (tasks s).countP (·.failed) = 0 :=
    List.countP_eq_zero.2 fun task ht => by simp [h s task ht]
  rw [List.countP_append, none, Nat.add_zero]

theorem books_enqueue (n : Node) (i : Nat) {task : Task} (h : task.failed = false) :
    n.Books (n.enqueue i task) [] :=
  books_append n i fun _ _ ht => List.mem_singleton.1 ht ▸ h

/-! ## Launches and reports -/

theorem books_launch (n : Node) (i : Nat) (d : Dispatch) : n.Books (n.launch i d) [] := by
  unfold launch
  split
  · obtain ⟨txn, tag, remediation⟩ := d
    refine ⟨?_, ?_, ?_, ?_⟩
    · cases remediation <;> simp only [Counters.launch, Counters.escalations] <;> omega
    all_goals cases remediation <;> rfl
  · exact .refl n

theorem books_report (n : Node) (shard : ShardId) (failure : Failure) :
    n.Books (n.report shard failure) [] := by
  refine ⟨rfl, ?_, rfl, rfl⟩
  simp only [report, Counters.uncaught, List.length_append, List.length_singleton]
  omega

theorem books_reportAt (n : Node) (i : Nat) (failure : Failure) :
    n.Books (n.reportAt i failure) [] := by
  unfold reportAt
  split
  · exact books_report n _ failure
  · exact .refl n

theorem books_foldl {α : Type} {f : Node → α → Node} (h : ∀ (n : Node) a, n.Books (f n a) [])
    (n : Node) (l : List α) : n.Books (l.foldl f n) [] := by
  induction l generalizing n with
  | nil => exact .refl n
  | cons a l ih => exact (h n a).then (ih _)

/-! ## Tasks -/

theorem books_perform (n : Node) (topology : Topology) (i : Nat) (edits : List Edit) :
    n.Books (n.perform topology i edits).1 [] := by
  unfold perform
  split
  · exact .refl n
  · exact books_modifyStore n i fun _ => rfl

theorem books_audit (n : Node) (topology : Topology) (i : Nat) (txn : TxnId) :
    n.Books (n.audit topology i txn).1 [] := by
  unfold audit
  split
  · exact .refl n
  · rename_i s hs
    have ticked : n.Books { n with counters := n.counters.tick } [] := ⟨rfl, rfl, rfl, rfl⟩
    have replaced := ticked.then
      (books_modifyStore _ i (f := ({ · with replica := (s.replica.audit topology txn).1 }))
        fun _ => rfl)
    dsimp only
    split
    · exact replaced
    · exact (replaced.then (books_foldl (fun n d => books_launch n i d) _ _)).then
        (books_foldl (fun n f => books_report n _ _) _ _)

/-- Counts a task that completes an operation that failed. -/
def counting (n : Node) (task : Task) : Node :=
  if task.failed then { n with counters := n.counters.remoteFailure } else n

theorem books_complete (hs : n.stores[i]? = some s) (topology : Topology) (txn : TxnId) (tag : Tag)
    (completion : Completion) :
    (n.counting (.complete txn tag completion)).Books (n.complete topology i txn tag completion).1
      [] := by
  simp only [complete, hs]
  generalize s.replica.complete topology txn tag completion = step
  obtain ⟨r, result⟩ := step
  have replaced := books_modifyStore (n.counting (.complete txn tag completion)) i
    (f := ({ · with replica := r })) fun _ => rfl
  obtain fault | _ | _ | d := result
  · exact replaced
  · exact replaced.then ⟨rfl, rfl, rfl, rfl⟩
  · exact replaced
  · exact replaced.then (books_launch _ i d)

theorem books_orReport {result : Node × Except Fault Unit} (h : n.Books result.1 []) (i : Nat) :
    n.Books (orReport i result) [] := by
  obtain ⟨m, _ | _⟩ := result
  · exact h.then (books_reportAt m i _)
  · exact h

/-- A task that runs enters no failure, other than that which it completes. -/
theorem books_run (hs : n.stores[i]? = some s) (topology : Topology) (listing : Listing)
    (task : Task) :
    (n.counting task).Books (n.run topology listing i task) [] := by
  cases task with
  | work edits ending =>
    have performed := books_perform n topology i edits
    simp only [run]
    generalize n.perform topology i edits = step at performed
    obtain ⟨m, _ | _⟩ := step
    · exact performed.then (books_reportAt m i _)
    · cases ending with
      | returned => exact performed
      | failed message => exact performed.then (books_reportAt m i _)
      | panicked p => exact performed.then (books_reportAt m i _)
  | audit txn => exact books_orReport (books_audit n topology i txn) i
  | auditAll =>
    simp only [run]
    split
    · refine books_append n i fun s task ht => ?_
      obtain ⟨txn, -, rfl⟩ := List.mem_map.1 ht
      rfl
    · exact .refl n
  | complete txn tag completion =>
    exact books_orReport (books_complete hs topology txn tag completion) i

/-- A failed operation is counted as its task leaves the queue. -/
theorem books_counting {task : Task} {queue : List Task} (hs : n.stores[i]? = some s)
    (hq : s.queue = task :: queue) : n.Books ((n.popped i queue).counting task) [] := by
  have moved := uncounted_modifyStore hs ({ · with queue })
  rw [hq, List.countP_cons] at moved
  dsimp only at moved
  unfold counting popped
  cases failed : task.failed with
  | true =>
    refine ⟨rfl, rfl, ?_, rfl⟩
    change n.counters.remoteFailures + 1 + (n.modifyStore i ({ · with queue })).uncounted =
      n.counters.remoteFailures + n.uncounted
    rw [if_pos failed] at moved
    omega
  | false =>
    refine ⟨rfl, rfl, ?_, rfl⟩
    change n.counters.remoteFailures + (n.modifyStore i ({ · with queue })).uncounted =
      n.counters.remoteFailures + n.uncounted
    rw [failed, if_neg Bool.false_ne_true] at moved
    omega

theorem books_runNext (n : Node) (topology : Topology) (listing : Listing) (i : Nat) :
    n.Books (n.runNext topology listing i) [] := by
  obtain ⟨idle, -⟩ | ⟨s, task, queue, hs, hq, e⟩ := n.runNext_cases topology listing i
  · rw [idle]
    exact .refl n
  · rw [e]
    exact (books_counting hs hq).then (books_run (getElem?_popped hs) topology listing task)

/-! ## Flights -/

/-- What holds of a call that a flight makes: a fault completes it and counts as a failure. -/
theorem Call.completion_error {call : Call} (h : call.isOperation = true) (fault : RemoteFault) :
    ∃ completion, call.completion? (.error fault) = some completion ∧
      completion.isFailure = true := by
  cases call with
  | informDurable => cases h
  | _ => exact ⟨_, rfl, rfl⟩

/-- An operation that fails is entered when its flight lands. -/
theorem books_fail (hn : n.Sound) {f : Flight} (hf : f ∈ n.flights) {completion : Completion}
    (hc : completion.isFailure = true) (fault : RemoteFault) :
    n.Books ((n.countTimeout (.error fault)).land f completion) [fault] := by
  have queued := uncounted_enqueue (n.abandon f.id) (hn.returning f hf)
    (show (Task.complete f.txn f.tag completion).failed = true from hc)
  have failures : n.counters.remoteFailures + (n.land f completion).uncounted =
      n.counters.remoteFailures + n.uncounted + 1 := by
    rw [land, queued, Nat.add_assoc]
    rfl
  cases fault <;> exact ⟨rfl, rfl, failures, rfl⟩

theorem books_land (n : Node) (f : Flight) {completion : Completion}
    (h : completion.isFailure = false) : n.Books (n.land f completion) [] :=
  have abandoned : n.Books (n.abandon f.id) [] := ⟨rfl, rfl, rfl, rfl⟩
  abandoned.then (books_enqueue _ f.store h)

theorem books_goOn (n : Node) (f : Flight) (round : Round) : n.Books (n.goOn f round).1 [] := by
  unfold goOn
  dsimp only
  split
  · exact books_land n f rfl
  · exact ⟨rfl, rfl, rfl, rfl⟩

/-- A call that a single errand makes is an operation. -/
theorem Remediation.isOperation_of_single {remediation : Remediation} {txn : TxnId}
    {epoch : Option Epoch} {call : Call} (h : remediation.errand txn = .single epoch call) :
    call.isOperation = true := by
  cases remediation <;> cases h <;> rfl

theorem books_failUncalled (hn : n.Sound) {f : Flight} (hf : f ∈ n.flights) {call : Call}
    (hc : call.isOperation = true) (fault : RemoteFault) :
    n.Books ((n.countTimeout (.error fault)).failUncalled f call fault) [fault] := by
  obtain ⟨completion, e, failed⟩ := Call.completion_error hc fault
  simp only [failUncalled, e, Option.map_some, Option.getD_some]
  exact books_fail hn hf failed fault

/-- An epoch that is not known is no matter of time. -/
theorem countTimeout_awaitEpoch (n : Node) {topology : Topology} {epoch : Epoch}
    {fault : RemoteFault} (h : topology.awaitEpoch epoch = .error fault) :
    n.countTimeout (.error fault) = n := by
  unfold Topology.awaitEpoch at h
  split at h <;> cases h
  rfl

theorem books_depart (hn : n.Sound) (topology : Topology) (id : Nat) :
    n.Books (n.depart topology id).1 (n.failure? (.depart id topology)).toList := by
  simp only [depart, failure?]
  cases hid : n.flight? id with
  | none => exact .refl n
  | some f =>
    obtain ⟨hf, rfl⟩ := mem_of_flight? hid
    simp only [Option.bind_some, Flight.epoch?]
    cases f.stage with
    | calling | announcing => exact .refl n
    | launched remediation =>
      dsimp only
      cases he : remediation.errand f.txn with
      | round round => exact books_goOn n f round
      | single epoch call =>
        cases epoch with
        | none => exact ⟨rfl, rfl, rfl, rfl⟩
        | some epoch =>
          simp only [Option.elim_some, Option.bind_some]
          cases ha : topology.awaitEpoch epoch with
          | ok => exact ⟨rfl, rfl, rfl, rfl⟩
          | error fault =>
            have entered :=
              books_failUncalled hn hf (Remediation.isOperation_of_single he) fault
            rwa [countTimeout_awaitEpoch n ha] at entered

theorem books_expire (hn : n.Sound) (id : Nat) (fault : RemoteFault) :
    n.Books (n.expire id fault) (n.failure? (.expire id fault)).toList := by
  simp only [expire, failure?]
  cases hid : n.flight? id with
  | none => exact .refl n
  | some f =>
    obtain ⟨hf, rfl⟩ := mem_of_flight? hid
    simp only [Option.bind_some, Flight.epoch?]
    cases f.stage with
    | calling | announcing => exact .refl n
    | launched remediation =>
      dsimp only
      cases he : remediation.errand f.txn with
      | round round => exact .refl n
      | single epoch call =>
        cases epoch with
        | none => exact .refl n
        | some epoch => exact books_failUncalled hn hf (Remediation.isOperation_of_single he) fault

/-- An answer to the call of a single errand. -/
theorem books_completion (hn : n.Sound) {f : Flight} (hf : f ∈ n.flights) {call : Call}
    {a : Answer} {completion : Completion} (h : call.completion? a = some completion) :
    n.Books ((n.countTimeout a).land f completion) a.faults := by
  cases a with
  | ok reply =>
    refine books_land n f ?_
    cases call <;> cases reply <;> cases h <;> rfl
  | error fault =>
    refine books_fail hn hf ?_ fault
    cases call <;> cases h <;> rfl

/-- Every fault completes an operation. -/
theorem Call.faults_of_incomplete {call : Call} {a : Answer} (h : call.completion? a = none)
    (hc : call.isOperation = true) : a.faults = [] := by
  cases a with
  | ok => rfl
  | error fault =>
    obtain ⟨completion, e, -⟩ := Call.completion_error hc fault
    rw [h] at e
    cases e

theorem isOperation_of_completion {call : Call} {a : Answer} {completion : Completion}
    (h : call.completion? a = some completion) : call.isOperation = true := by
  cases call with
  | informDurable => cases a <;> cases h
  | _ => rfl

/-- A single announcement that fails is entered at once. -/
theorem books_countFailure (n : Node) (fault : RemoteFault) :
    n.Books { n.countTimeout (.error fault) with
      counters := (n.countTimeout (.error fault)).counters.remoteFailure } [fault] := by
  have failures : n.counters.remoteFailures + 1 + n.uncounted =
      n.counters.remoteFailures + n.uncounted + 1 := by omega
  cases fault <;> exact ⟨rfl, rfl, failures, rfl⟩

theorem failure?_answer {f : Flight} {id : Nat} (h : n.flight? id = some f) (call : Call)
    (a : Answer) : (n.failure? (.answer id call a)).toList =
      if f.stage.awaits call then a.faults else [] := by
  cases a with
  | ok => simp [failure?, Answer.faults]
  | error fault =>
    simp only [failure?, h, Option.any_some, Answer.faults]
    split <;> rfl

theorem books_answer (hn : n.Sound) (id : Nat) (call : Call) (a : Answer) :
    n.Books (n.answer id call a).1 (n.failure? (.answer id call a)).toList := by
  unfold answer
  split
  · rename_i f hid
    rw [failure?_answer hid]
    obtain ⟨hf, rfl⟩ := mem_of_flight? hid
    split
    · rename_i asked call hs
      rw [hs, Stage.awaits]
      split
      · rename_i same
        subst same
        split
        · rename_i completion hc
          simpa [isOperation_of_completion hc] using books_completion hn hf hc
        · rename_i hc
          cases operation : call.isOperation with
          | true => simpa [operation, Call.faults_of_incomplete hc operation] using Books.refl n
          | false => simpa [operation] using Books.refl n
      · rename_i other
        simpa [other] using Books.refl n
    · rename_i round target notice hs
      rw [hs, Stage.awaits]
      split
      · rename_i active
        simp only [active, decide_true, if_true]
        cases a with
        | ok reply => exact (books_enqueue n f.store rfl).then (books_goOn _ f _)
        | error fault => exact (books_countFailure n fault).then (books_goOn _ f _)
      · rename_i inactive
        simpa [inactive] using Books.refl n
    · rename_i call _ _ hcalling hannouncing
      have unasked : f.stage.awaits call = false := by
        cases hs : f.stage with
        | launched => rfl
        | calling asked => exact (hcalling asked hs).elim
        | announcing round =>
          cases call with
          | informDurable target notice => exact (hannouncing round target notice hs rfl).elim
          | _ => rfl
      simpa [unasked] using Books.refl n
  · rename_i hid
    have none : n.failure? (.answer id call a) = none := by
      cases a <;> simp [failure?, hid]
    rw [none]
    exact .refl n

/-! ## Every act -/

theorem books_act (hn : n.Sound) (a : Act) : n.Books (n.act a) (n.failure? a).toList := by
  cases a with
  | addStore shard =>
    refine ⟨rfl, rfl, ?_, rfl⟩
    have empty : (n.addStore shard).uncounted = n.uncounted := by
      simp [uncounted, addStore]
    change n.counters.remoteFailures + (n.addStore shard).uncounted = _
    rw [empty]
    rfl
  | register i => exact ⟨rfl, rfl, rfl, rfl⟩
  | work i edits ending => exact books_enqueue n i rfl
  | auditAll i => exact books_enqueue n i rfl
  | auditRound =>
    have counted : Task.auditAll.failed = false := rfl
    have queued := books_foldl (fun n i => books_enqueue n i counted) n n.audited
    exact queued.then ⟨rfl, rfl, rfl, rfl⟩
  | runNext i topology listing => exact books_runNext n topology listing i
  | depart id topology => exact books_depart hn topology id
  | expire id fault => exact books_expire hn id fault
  | answer id call a => exact books_answer hn id call a

/-- The flights that a task launches are what the number of launches grows by. -/
theorem launched_runNext {task : Task} {queue : List Task} (hn : n.Sound)
    (hs : n.stores[i]? = some s) (hq : s.queue = task :: queue) (topology : Topology)
    (listing : Listing) :
    (n.act (.runNext i topology listing)).launched =
      n.launched + (n.launchedBy (.runNext i topology listing)).length := by
  have hpopped := sound_popped hs hq hn
  have hs' : (n.popped i queue).stores[i]? = some { s with queue } := getElem?_popped hs
  have held := (hn.stores i s hs).held
  have ran {r : Replica} {ds : List Dispatch}
      (h : (n.popped i queue).Ran i r ds ((n.popped i queue).run topology listing i task)) :
      (n.act (.runNext i topology listing)).launched =
        n.launched + (n.launchedBy (.runNext i topology listing)).length := by
    rw [← runNext_eq hs hq] at h
    have flights : n.launchedBy (.runNext i topology listing) = flightsOf i n.launched ds :=
      h.filter_launched hpopped
    rw [flights, length_flightsOf]
    exact h.launched
  cases task with
  | work edits ending => exact ran (ran_work hs' topology listing edits ending)
  | auditAll =>
    have steady := (steady_popped hs hq hn fun _ _ => rfl).trans
      (steady_auditAll hpopped topology listing i)
    rw [← runNext_eq hs hq] at steady
    rw [launchedBy_of_steady steady]
    exact steady.launched
  | audit txn =>
    obtain ⟨out, ho, -⟩ :=
      ShardLog.audit_ok (hn.stores i s hs).log topology (s.replica.command txn)
    exact ran (ran_audit hs' held topology listing txn ho).1
  | complete txn tag completion =>
    exact ran (ran_complete hs' held topology listing txn tag completion)

theorem launched_act (hn : n.Sound) (a : Act) :
    (n.act a).launched = n.launched + (n.launchedBy a).length := by
  have steady {a : Act} (h : n.Steady (n.act a)) :
      (n.act a).launched = n.launched + (n.launchedBy a).length := by
    rw [launchedBy_of_steady h]
    exact h.launched
  cases a with
  | addStore shard => exact steady (steady_addStore hn shard)
  | register i => exact steady (steady_of_eq hn rfl rfl rfl)
  | work i edits ending => exact steady (steady_enqueue hn i rfl fun _ _ => rfl)
  | auditAll i => exact steady (steady_enqueue hn i rfl fun _ _ => rfl)
  | auditRound => exact steady (steady_auditRound hn)
  | runNext i topology listing =>
    obtain ⟨idle, -⟩ | ⟨s, task, queue, hs, hq, -⟩ := n.runNext_cases topology listing i
    · have idle : n.act (.runNext i topology listing) = n := idle
      exact steady (idle.symm ▸ .refl hn)
    · exact launched_runNext hn hs hq topology listing
  | depart id topology => exact steady (steady_depart hn topology id)
  | expire id fault => exact steady (steady_expire hn id fault)
  | answer id call a => exact steady (steady_answer hn id call a)

/-! ## Whole runs -/

section Run

variable (id : NodeId) (fanout : Nat)

/-- The faults of the operations and single announcements that failed in a run, latest first. -/
def faultsIn (run : List Act) : List RemoteFault :=
  (machine id fanout).collect (fun n a => (n.failure? a).toList) run

/-- What the counters of a node count in a run. -/
structure Accounts (run : List Act) (n : Node) : Prop where
  escalations : n.counters.escalations = (launches id fanout run).length
  uncaught : n.counters.uncaughtErrors = n.reports.length
  /-- A failed operation is counted once its completion has run. -/
  failures : n.counters.remoteFailures + n.uncounted = (faultsIn id fanout run).length
  timeouts : n.counters.remoteTimeouts = (faultsIn id fanout run).countP (·.isTimeout)
  settled : (∀ s ∈ n.stores, s.queue = []) →
    n.counters.remoteFailures = (faultsIn id fanout run).length ∧
      n.counters.remoteTimeouts ≤ n.counters.remoteFailures

variable {id fanout}

theorem launched_after (run : List Act) :
    ((machine id fanout).after run).launched = (launches id fanout run).length := by
  induction run with
  | nil => rfl
  | cons a past ih =>
    have grown := launched_act (sound_after id fanout past) a
    rw [ih, Nat.add_comm] at grown
    rw [launches, Machine.collect_cons, List.length_append]
    exact grown

theorem books_after (run : List Act) :
    Books { id, fanout } ((machine id fanout).after run) (faultsIn id fanout run) := by
  induction run with
  | nil => exact .refl _
  | cons a past ih =>
    have entered := ih.trans (books_act (sound_after id fanout past) a)
    exact entered.perm List.perm_append_comm

theorem uncounted_eq_zero {n : Node} (h : ∀ s ∈ n.stores, s.queue = []) : n.uncounted = 0 := by
  have none : ∀ owed ∈ n.stores.map fun s => s.queue.countP (·.failed), owed = 0 := by
    intro owed ho
    obtain ⟨s, hs, rfl⟩ := List.mem_map.1 ho
    rw [h s hs]
    rfl
  exact List.sum_eq_zero_iff_forall_eq_nat.2 none

/-- The books balance at all times. Once every queue has run dry, each operation and each single
announcement that failed has been counted once. -/
theorem counters_exact (id : NodeId) (fanout : Nat) (run : List Act) :
    Accounts id fanout run ((machine id fanout).after run) := by
  have books : Books { id, fanout } ((machine id fanout).after run) (faultsIn id fanout run) :=
    books_after run
  obtain ⟨launched, uncaught, failed, timeouts⟩ := books
  rw [launched_after] at launched
  have failures : ((machine id fanout).after run).counters.remoteFailures +
      ((machine id fanout).after run).uncounted = (faultsIn id fanout run).length :=
    failed.trans (Nat.zero_add _)
  have timeouts : ((machine id fanout).after run).counters.remoteTimeouts =
      (faultsIn id fanout run).countP (·.isTimeout) := timeouts.trans (Nat.zero_add _)
  refine ⟨launched.trans (Nat.zero_add _), uncaught.trans (Nat.zero_add _), failures, timeouts,
    fun dry => ?_⟩
  rw [uncounted_eq_zero dry, Nat.add_zero] at failures
  refine ⟨failures, ?_⟩
  rw [failures, timeouts]
  exact List.countP_le_length

end Run

end Node

end TxnLiveness
