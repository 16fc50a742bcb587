import TxnLiveness.Proofs.Investigation.Replica
import TxnLiveness.Proofs.Machine
import TxnLiveness.Proofs.Node.Frame
/-!
# What can happen to a node

Stores are added and audited, tasks are queued and run, and remediations make their calls and are
answered, in any order. Only the running of a task begins or ends anything. All else either queues
tasks or moves a remediation from its flight to the queue of its store.
-/

namespace TxnLiveness.Node

/-- What can happen to a node whose user never gives up a handle. -/
inductive Act
  | addStore (shard : ShardId)
  | register (i : Nat)
  /-- The user queues a task. -/
  | work (i : Nat) (edits : List Edit) (ending : Ending)
  | auditAll (i : Nat)
  /-- The registry queues an audit on every store it knows. -/
  | auditRound
  | runNext (i : Nat) (topology : Topology) (listing : Listing)
  | depart (id : Nat) (topology : Topology)
  | expire (id : Nat) (fault : RemoteFault)
  /-- A call of a flight is answered, or its time is up. -/
  | answer (id : Nat) (call : Call) (a : Answer)

def act (n : Node) : Act → Node
  | .addStore shard => n.addStore shard
  | .register i => n.register i
  | .work i edits ending => n.enqueue i (.work edits ending)
  | .auditAll i => n.enqueue i .auditAll
  | .auditRound => n.auditRound.1
  | .runNext i topology listing => n.runNext topology listing i
  | .depart id topology => (n.depart topology id).1
  | .expire id fault => n.expire id fault
  | .answer id call a => (n.answer id call a).1

/-- A node from its creation on. -/
def machine (id : NodeId) (fanout : Nat) : Machine Node Act := ⟨{ id, fanout }, act⟩

/-- A node from a moment on. -/
def onward (n : Node) : Machine Node Act := ⟨n, act⟩

variable {n : Node}

/-! ## Queueing -/

theorem getElem?_addStore (n : Node) (shard : ShardId) (i : Nat) :
    (n.addStore shard).stores[i]? = n.stores[i]? ∨
      (n.stores[i]? = none ∧ (n.addStore shard).stores[i]? =
        some { replica := { log := { shard, node := n.id } } }) := by
  unfold addStore
  rw [List.getElem?_append]
  split
  · exact .inl rfl
  · rename_i hi
    have hn : n.stores[i]? = none := by simpa using hi
    obtain e | e := Nat.eq_zero_or_pos (i - n.stores.length)
    · exact .inr ⟨hn, by rw [e]; rfl⟩
    · refine .inl ?_
      rw [hn, List.getElem?_eq_none]
      exact e

theorem steady_addStore (h : n.Sound) (shard : ShardId) : n.Steady (n.addStore shard) := by
  have fresh : ({ replica := { log := { shard, node := n.id } } } : Store).Sound :=
    ⟨rfl, fun _ _ h => (nomatch h), fun _ h => (nomatch h)⟩
  have stores := n.getElem?_addStore shard
  refine ⟨fun i txn kind => ?_, fun i txn tag => ?_, rfl, fun i s hs => ?_, h.numbered, ?_,
    h.fitting, h.distinct⟩
  · unfold probe
    obtain e | ⟨hn, e⟩ := stores i <;> rw [e]
    rw [hn]
    rfl
  · have queued : (n.addStore shard).queued i txn tag = n.queued i txn tag := by
      unfold queued
      obtain e | ⟨hn, e⟩ := stores i <;> rw [e]
      rw [hn]
      rfl
    rw [underway, underway, queued]
    rfl
  · obtain e | ⟨-, e⟩ := stores i <;> rw [e] at hs
    · exact h.stores i s hs
    · cases hs
      exact fresh
  · intro f hf
    have := h.returning f hf
    simp only [addStore, List.length_append, List.length_singleton]
    omega

theorem steady_auditRound (h : n.Sound) : n.Steady n.auditRound.1 := by
  have queued (live : List Nat) (n : Node) (h : n.Sound) :
      n.Steady (live.foldl (fun n i => n.enqueue i .auditAll) n) := by
    induction live generalizing n with
    | nil => exact .refl h
    | cons i live ih =>
      have first : n.Steady (n.enqueue i .auditAll) := steady_enqueue h i rfl fun _ _ => rfl
      exact first.trans (ih _ first.sound)
  have steady := queued n.audited n h
  exact steady.trans (steady_of_eq steady.sound rfl rfl rfl)

/-! ## Flights -/

@[simp] theorem flights_countTimeout (n : Node) (a : Answer) :
    (n.countTimeout a).flights = n.flights := by
  unfold countTimeout
  split <;> rfl

theorem steady_countTimeout (h : n.Sound) (a : Answer) : n.Steady (n.countTimeout a) := by
  unfold countTimeout
  split
  · exact steady_of_eq h rfl rfl rfl
  · exact .refl h

theorem steady_goOn (h : n.Sound) {f : Flight} (hf : f ∈ n.flights)
    (hk : f.tag.tracker = .disseminate) (round : Round) : n.Steady (n.goOn f round).1 := by
  unfold goOn
  dsimp only
  split
  · exact steady_land h hf (by rw [hk]; rfl) rfl
  · exact steady_setStage h hf (by simp [Stage.fits, hk])

theorem steady_failUncalled (h : n.Sound) {f : Flight} (hf : f ∈ n.flights) {call : Call}
    (hc : call.fits f.tag.tracker = true) (fault : RemoteFault) :
    n.Steady (n.failUncalled f call fault) := by
  unfold failUncalled
  cases he : call.completion? (.error fault) with
  | none => exact .refl h
  | some completion =>
    obtain ⟨hfits, hfin⟩ := Call.completion_fits he hc
    exact steady_land h hf hfits hfin

theorem errand_fits_of_launched (h : n.Sound) {f : Flight} (hf : f ∈ n.flights)
    {remediation : Remediation} (hs : f.stage = .launched remediation) :
    (remediation.errand f.txn).fits f.tag.tracker = true := by
  have fitting := h.fitting f hf
  rw [hs] at fitting
  exact Remediation.errand_fits f.txn fitting

theorem steady_depart (h : n.Sound) (topology : Topology) (id : Nat) :
    n.Steady (n.depart topology id).1 := by
  unfold depart
  split
  · rename_i f hid
    obtain ⟨hf, rfl⟩ := mem_of_flight? hid
    split
    · rename_i remediation hs
      have fits := errand_fits_of_launched h hf hs
      split
      · rename_i round he
        rw [he] at fits
        exact steady_goOn h hf (by simpa [Errand.fits] using fits) round
      · rename_i epoch call he
        rw [he] at fits
        split
        · exact steady_setStage h hf fits
        · exact steady_failUncalled h hf fits _
    · exact .refl h
  · exact .refl h

theorem steady_expire (h : n.Sound) (id : Nat) (fault : RemoteFault) :
    n.Steady (n.expire id fault) := by
  unfold expire
  split
  · rename_i f hid
    obtain ⟨hf, rfl⟩ := mem_of_flight? hid
    split
    · rename_i remediation hs
      have fits := errand_fits_of_launched h hf hs
      split
      · rename_i epoch call he
        rw [he] at fits
        have counted := steady_countTimeout h (.error fault)
        exact counted.trans (steady_failUncalled counted.sound (by simpa using hf) fits fault)
      · exact .refl h
    · exact .refl h
  · exact .refl h

theorem steady_answer (h : n.Sound) (id : Nat) (call : Call) (a : Answer) :
    n.Steady (n.answer id call a).1 := by
  unfold answer
  split
  · rename_i f hid
    obtain ⟨hf, rfl⟩ := mem_of_flight? hid
    have fitting := h.fitting f hf
    split
    · rename_i asked call hs
      rw [hs] at fitting
      split
      · rename_i e
        subst e
        split
        · rename_i completion hc
          obtain ⟨hfits, hfin⟩ := Call.completion_fits hc fitting
          have counted := steady_countTimeout h a
          exact counted.trans (steady_land counted.sound (by simpa using hf) hfits hfin)
        · exact .refl h
      · exact .refl h
    · rename_i round target _ hs
      rw [hs] at fitting
      have hk : f.tag.tracker = .disseminate := by simpa [Stage.fits] using fitting
      split
      · dsimp only
        split
        · have told : n.Steady
              (n.enqueue f.store (.complete f.txn f.tag (.acknowledged target))) :=
            steady_enqueue h f.store (by rw [Task.fits, hk]; rfl)
              fun txn tag => by simp [Task.ends, Completion.isFinal]
          exact told.trans (steady_goOn told.sound hf hk _)
        · rename_i e
          have counted := steady_countTimeout h (.error e)
          have failed : n.Steady { n.countTimeout (.error e) with
              counters := (n.countTimeout (.error e)).counters.remoteFailure } :=
            counted.trans (steady_of_eq counted.sound rfl rfl rfl)
          exact failed.trans (steady_goOn failed.sound (by simpa using hf) hk _)
      · exact .refl h
    · exact .refl h
  · exact .refl h

end TxnLiveness.Node
