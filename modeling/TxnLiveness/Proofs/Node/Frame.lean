import TxnLiveness.Node.Basic
import TxnLiveness.Proofs.Investigation.ShardLog
/-!
# What is underway on a node

The remediation of a tag is underway while a flight carries it or a task that ends it is queued. The
primitives of a node are described by what they do to the probes of its trackers and to what is
underway.
-/

namespace TxnLiveness

/-! ## Kinds -/

/-- Whether a call is one that a tracker of this kind asks for. -/
def Call.fits : Call → TrackerKind → Bool
  | .recover .., .coordinate | .fetch .., .coordinate => true
  | .fetch .., .blocking | .invalidate .., .blocking => true
  | .informHome .., .delegation | .informDurable .., .disseminate => true
  | _, _ => false

def Stage.fits : Stage → TrackerKind → Bool
  | .launched remediation, kind => remediation.fits kind
  | .calling call, kind => call.fits kind
  | .announcing _, kind => kind = .disseminate

def Errand.fits : Errand → TrackerKind → Bool
  | .single _ call, kind => call.fits kind
  | .round _, kind => kind = .disseminate

theorem Remediation.errand_fits {remediation : Remediation} {kind : TrackerKind} (txn : TxnId)
    (h : remediation.fits kind = true) : (remediation.errand txn).fits kind = true := by
  cases remediation <;> cases kind <;> first | rfl | cases h

/-- An answer makes a final completion of the call's kind. -/
theorem Call.completion_fits {call : Call} {a : Answer} {completion : Completion}
    {kind : TrackerKind} (h : call.completion? a = some completion) (hc : call.fits kind = true) :
    completion.fits kind = true ∧ completion.isFinal = true := by
  obtain e | _ | _ | _ := a <;> cases call <;> cases h <;> cases kind <;>
    first | exact ⟨rfl, rfl⟩ | cases hc

def Task.fits : Task → Bool
  | .complete _ tag completion => completion.fits tag.tracker
  | _ => true

/-- Whether the flight carries the tag of a tracker that a store keeps for a transaction. -/
def Flight.carries (i : Nat) (txn : TxnId) (tag : Tag) (f : Flight) : Bool :=
  f.store = i && f.txn = txn && f.tag = tag

/-- Whether the task ends the remediation that the tag names. -/
def Task.ends (txn : TxnId) (tag : Tag) : Task → Bool
  | .complete x t completion => x = txn && t = tag && completion.isFinal
  | _ => false

/-- A store that the user holds, with a sound log and completions that fit their tags. -/
structure Store.Sound (s : Store) : Prop where
  held : s.held = true
  log : s.replica.log.Sound
  queue : ∀ task ∈ s.queue, task.fits = true

namespace Node

variable {n : Node} {i : Nat}

/-- The probe of a tracker that the store at a place keeps for a transaction. -/
def probe (n : Node) (i : Nat) (txn : TxnId) (kind : TrackerKind) : Probe :=
  (n.stores[i]?.map (·.replica.log.probe txn kind)).getD {}

/-- How many flights carry the tag. -/
def running (n : Node) (i : Nat) (txn : TxnId) (tag : Tag) : Nat :=
  n.flights.countP (·.carries i txn tag)

/-- How many queued tasks end the remediation that the tag names. -/
def queued (n : Node) (i : Nat) (txn : TxnId) (tag : Tag) : Nat :=
  (n.stores[i]?.map (·.queue.countP (·.ends txn tag))).getD 0

def underway (n : Node) (i : Nat) (txn : TxnId) (tag : Tag) : Nat :=
  n.running i txn tag + n.queued i txn tag

/-! ## Sound nodes -/

/-- Every store is sound, and every flight has a number of its own, a store to return to and a stage
that fits its tag. -/
structure Sound (n : Node) : Prop where
  stores : ∀ (i : Nat) (s : Store), n.stores[i]? = some s → s.Sound
  numbered : ∀ f ∈ n.flights, f.id < n.launched
  returning : ∀ f ∈ n.flights, f.store < n.stores.length
  fitting : ∀ f ∈ n.flights, f.stage.fits f.tag.tracker = true
  distinct : n.flights.Pairwise fun f g => f.id ≠ g.id

/-- A change by which nothing begins, nothing ends and nothing is launched. -/
structure Steady (n m : Node) : Prop where
  probe : ∀ i txn kind, m.probe i txn kind = n.probe i txn kind
  underway : ∀ i txn tag, m.underway i txn tag = n.underway i txn tag
  launched : m.launched = n.launched
  sound : m.Sound

theorem Steady.refl (h : n.Sound) : n.Steady n := ⟨fun _ _ _ => rfl, fun _ _ _ => rfl, rfl, h⟩

theorem Steady.trans {m o : Node} (h : n.Steady m) (k : m.Steady o) : n.Steady o :=
  ⟨fun i txn kind => (k.probe i txn kind).trans (h.probe i txn kind),
    fun i txn tag => (k.underway i txn tag).trans (h.underway i txn tag),
    k.launched.trans h.launched, k.sound⟩

/-! ## Stores -/

@[simp] theorem getElem?_modifyStore (n : Node) (i : Nat) (f : Store → Store) (j : Nat) :
    (n.modifyStore i f).stores[j]? = if i = j then n.stores[j]?.map f else n.stores[j]? := by
  simp only [modifyStore, List.getElem?_modify]
  split
  · simp
  · simp

@[simp] theorem length_modifyStore (n : Node) (i : Nat) (f : Store → Store) :
    (n.modifyStore i f).stores.length = n.stores.length := by simp [modifyStore]

theorem sound_modifyStore (h : n.Sound) {f : Store → Store}
    (hf : ∀ s : Store, n.stores[i]? = some s → s.Sound → (f s).Sound) :
    (n.modifyStore i f).Sound := by
  refine ⟨fun j s hs => ?_, h.numbered, ?_, h.fitting, h.distinct⟩
  · rw [getElem?_modifyStore] at hs
    split at hs
    · subst j
      obtain ⟨t, ht, rfl⟩ := Option.map_eq_some_iff.1 hs
      exact hf t ht (h.stores i t ht)
    · exact h.stores j s hs
  · intro f hf
    rw [length_modifyStore]
    exact h.returning f hf

theorem probe_modifyStore {f : Store → Store} (hf : ∀ s, (f s).replica = s.replica) :
    (n.modifyStore i f).probe = n.probe := by
  funext j txn kind
  unfold probe
  rw [getElem?_modifyStore]
  split
  · cases n.stores[j]? with
    | none => rfl
    | some s => simp [hf]
  · rfl

theorem queued_modifyStore {f : Store → Store} (hf : ∀ s, (f s).queue = s.queue) :
    (n.modifyStore i f).queued = n.queued := by
  funext j txn tag
  unfold queued
  rw [getElem?_modifyStore]
  split
  · cases n.stores[j]? with
    | none => rfl
    | some s => simp [hf]
  · rfl

/-- A change of nothing but counters, reports or the registry. -/
theorem steady_of_eq {m : Node} (h : n.Sound) (hs : m.stores = n.stores)
    (hf : m.flights = n.flights) (hl : m.launched = n.launched) : n.Steady m := by
  refine ⟨fun i txn kind => ?_, fun i txn tag => ?_, hl, ?_, ?_, ?_, ?_, ?_⟩
  · rw [probe, probe, hs]
  · rw [underway, running, queued, hs, hf]
    rfl
  · rw [hs]
    exact h.stores
  · rw [hf, hl]
    exact h.numbered
  · rw [hf, hs]
    exact h.returning
  · rw [hf]
    exact h.fitting
  · rw [hf]
    exact h.distinct

/-! ## Queues -/

/-- The tasks in the queue at a place, the next one first. -/
def queueAt (n : Node) (i : Nat) : List Task := (n.stores[i]?.map (·.queue)).getD []

theorem queueAt_append (n : Node) {i : Nat} {s : Store} (hs : n.stores[i]? = some s)
    (tasks : Store → List Task) (j : Nat) :
    (n.modifyStore i fun s => { s with queue := s.queue ++ tasks s }).queueAt j =
      n.queueAt j ++ if i = j then tasks s else [] := by
  unfold queueAt
  rw [getElem?_modifyStore]
  split
  · subst j
    rw [hs]
    rfl
  · rw [List.append_nil]

theorem queueAt_enqueue (n : Node) {i : Nat} (hi : i < n.stores.length) (task : Task) (j : Nat) :
    (n.enqueue i task).queueAt j = n.queueAt j ++ if i = j then [task] else [] :=
  n.queueAt_append (List.getElem?_eq_getElem hi) (fun _ => [task]) j

theorem sound_enqueue (h : n.Sound) {task : Task} (hf : task.fits = true) :
    (n.enqueue i task).Sound := by
  refine sound_modifyStore h fun s _ hs => ⟨hs.held, hs.log, fun t ht => ?_⟩
  obtain ht | ht := List.mem_append.1 ht
  · exact hs.queue t ht
  · rw [List.mem_singleton.1 ht]
    exact hf

@[simp] theorem probe_enqueue (n : Node) (i : Nat) (task : Task) :
    (n.enqueue i task).probe = n.probe := probe_modifyStore fun _ => rfl

theorem queued_enqueue (n : Node) {i : Nat} (hi : i < n.stores.length) (task : Task) (j : Nat)
    (txn : TxnId) (tag : Tag) : (n.enqueue i task).queued j txn tag =
      n.queued j txn tag + if i = j then (task.ends txn tag).toNat else 0 := by
  unfold queued enqueue
  rw [getElem?_modifyStore]
  split
  · subst j
    rw [List.getElem?_eq_getElem hi]
    cases he : task.ends txn tag <;> simp [List.countP_append, he]
  · rfl

/-- Tasks that end nothing come to the end of a queue. -/
theorem steady_append (h : n.Sound) (i : Nat) {tasks : Store → List Task}
    (hf : ∀ s, ∀ task ∈ tasks s, task.fits = true ∧ ∀ txn tag, task.ends txn tag = false) :
    n.Steady (n.modifyStore i fun s => { s with queue := s.queue ++ tasks s }) := by
  generalize hm : (n.modifyStore i fun s => { s with queue := s.queue ++ tasks s }) = m
  have probe : m.probe = n.probe := hm ▸ probe_modifyStore (by simp)
  have queued (j : Nat) (txn : TxnId) (tag : Tag) : m.queued j txn tag = n.queued j txn tag := by
    have ends (s : Store) : (tasks s).countP (·.ends txn tag) = 0 :=
      List.countP_eq_zero.2 fun task ht => by simp [(hf s task ht).2]
    unfold Node.queued
    rw [← hm, getElem?_modifyStore]
    split
    · cases n.stores[j]? with
      | none => rfl
      | some s => simp [List.countP_append, ends]
    · rfl
  refine ⟨fun j txn kind => by rw [probe], fun j txn tag => ?_, by rw [← hm]; rfl, ?_⟩
  · rw [underway, underway, queued, ← hm]
    rfl
  · rw [← hm]
    refine sound_modifyStore h fun s _ hs => ⟨hs.held, hs.log, fun task ht => ?_⟩
    obtain ht | ht := List.mem_append.1 ht
    · exact hs.queue task ht
    · exact (hf s task ht).1

theorem steady_enqueue (h : n.Sound) (i : Nat) {task : Task} (hf : task.fits = true)
    (he : ∀ txn tag, task.ends txn tag = false) : n.Steady (n.enqueue i task) :=
  steady_append h i fun _ _ ht => List.mem_singleton.1 ht ▸ ⟨hf, he⟩

/-! ## Flights -/

theorem mem_of_flight? {id : Nat} {f : Flight} (h : n.flight? id = some f) :
    f ∈ n.flights ∧ f.id = id :=
  ⟨List.mem_of_find?_eq_some h, by simpa using List.find?_some h⟩

theorem eq_of_id {flights : List Flight} (h : flights.Pairwise fun f g => f.id ≠ g.id)
    {f g : Flight} (hf : f ∈ flights) (hg : g ∈ flights) (e : f.id = g.id) : f = g := by
  induction flights with
  | nil => cases hf
  | cons x flights ih =>
    obtain ⟨hx, h⟩ := List.pairwise_cons.1 h
    rcases List.mem_cons.1 hf with hfx | hf <;> rcases List.mem_cons.1 hg with hgx | hg
    · rw [hfx, hgx]
    · exact absurd (hfx ▸ e) (hx g hg)
    · exact absurd (hgx ▸ e).symm (hx f hf)
    · exact ih h hf hg

theorem flight?_of_mem (h : n.flights.Pairwise fun f g => f.id ≠ g.id) {f : Flight}
    (hf : f ∈ n.flights) : n.flight? f.id = some f := by
  cases hg : n.flight? f.id with
  | none => simpa using List.find?_eq_none.1 hg f hf
  | some g =>
    obtain ⟨hm, e⟩ := mem_of_flight? hg
    rw [eq_of_id h hm hf e]

theorem flight?_abandon (n : Node) (x id : Nat) :
    (n.abandon x).flight? id = if x = id then none else n.flight? id := by
  rw [flight?, abandon, List.find?_filter]
  split
  · exact List.find?_eq_none.2 fun f _ => by grind
  · rw [flight?]
    congr 1
    funext f
    grind

theorem flight?_setStage (n : Node) (x id : Nat) (stage : Stage) :
    (n.setStage x stage).flight? id =
      if x = id then (n.flight? id).map ({ · with stage }) else n.flight? id := by
  have same : (fun f : Flight => decide (f.id = id)) ∘
      (fun f => if f.id = x then { f with stage } else f) = fun f => decide (f.id = id) := by
    funext f
    simp only [Function.comp_apply]
    split <;> rfl
  rw [flight?, setStage, List.find?_map, same, ← flight?]
  cases h : n.flight? id with
  | none => simp
  | some f =>
    have := (mem_of_flight? h).2
    grind

theorem flight?_land (n : Node) (f : Flight) (completion : Completion) (id : Nat) :
    (n.land f completion).flight? id = if f.id = id then none else n.flight? id :=
  flight?_abandon n f.id id

theorem steady_setStage (h : n.Sound) {f : Flight} (hf : f ∈ n.flights) {stage : Stage}
    (hs : stage.fits f.tag.tracker = true) : n.Steady (n.setStage f.id stage) := by
  -- Every flight keeps all but its stage.
  have origin (g : Flight) (hg : g ∈ (n.setStage f.id stage).flights) :
      ∃ x ∈ n.flights, g.id = x.id ∧ g.store = x.store ∧ g.tag = x.tag ∧
        (g.stage = x.stage ∨ (x.id = f.id ∧ g.stage = stage)) := by
    obtain ⟨x, hx, rfl⟩ := List.mem_map.1 hg
    refine ⟨x, hx, ?_⟩
    split
    · exact ⟨rfl, rfl, rfl, .inr ⟨‹_›, rfl⟩⟩
    · exact ⟨rfl, rfl, rfl, .inl rfl⟩
  refine ⟨fun _ _ _ => rfl, fun i txn tag => ?_, rfl, h.stores, ?_, ?_, ?_, ?_⟩
  · have running : (n.setStage f.id stage).running i txn tag = n.running i txn tag := by
      unfold Node.running setStage
      rw [List.countP_map]
      congr 1
      funext x
      simp only [Function.comp_apply, Flight.carries]
      split <;> rfl
    rw [underway, underway, running]
    rfl
  · intro g hg
    obtain ⟨x, hx, e, -⟩ := origin g hg
    rw [e]
    exact h.numbered x hx
  · intro g hg
    obtain ⟨x, hx, -, e, -⟩ := origin g hg
    rw [e]
    exact h.returning x hx
  · intro g hg
    obtain ⟨x, hx, -, -, ht, e | ⟨hid, e⟩⟩ := origin g hg <;> rw [ht, e]
    · exact h.fitting x hx
    · rwa [eq_of_id h.distinct hx hf hid]
  · refine List.pairwise_map.2 (h.distinct.imp fun {x y} hne => ?_)
    split <;> split <;> exact hne

theorem countP_filter_id {flights : List Flight} (h : flights.Pairwise fun f g => f.id ≠ g.id)
    {f : Flight} (hf : f ∈ flights) (p : Flight → Bool) :
    (flights.filter (·.id ≠ f.id)).countP p + (p f).toNat = flights.countP p := by
  induction flights with
  | nil => cases hf
  | cons x flights ih =>
    obtain ⟨hx, h⟩ := List.pairwise_cons.1 h
    obtain rfl | hf := List.mem_cons.1 hf
    · have keep : flights.filter (·.id ≠ f.id) = flights :=
        List.filter_eq_self.2 fun y hy => by simpa using (hx y hy).symm
      rw [List.filter_cons_of_neg (by simp), keep, List.countP_cons]
      cases p f <;> simp
    · rw [List.filter_cons_of_pos (by simpa using hx f hf), List.countP_cons, List.countP_cons,
        ← ih h hf]
      omega

theorem sound_abandon (h : n.Sound) (id : Nat) : (n.abandon id).Sound :=
  ⟨h.stores, fun g hg => h.numbered g (List.mem_filter.1 hg |>.1),
    fun g hg => h.returning g (List.mem_filter.1 hg |>.1),
    fun g hg => h.fitting g (List.mem_filter.1 hg |>.1), h.distinct.filter _⟩

/-- A landing moves the remediation from the flights to the queue of its store. -/
theorem steady_land (h : n.Sound) {f : Flight} (hf : f ∈ n.flights) {completion : Completion}
    (hc : completion.fits f.tag.tracker = true) (hfin : completion.isFinal = true) :
    n.Steady (n.land f completion) := by
  refine ⟨fun i txn kind => ?_, fun i txn tag => ?_, rfl,
    sound_enqueue (sound_abandon h f.id) hc⟩
  · rw [land, probe_enqueue]
    rfl
  · have running := countP_filter_id h.distinct hf (·.carries i txn tag)
    have queued := queued_enqueue (n.abandon f.id) (h.returning f hf)
      (.complete f.txn f.tag completion) i txn tag
    have same : (if f.store = i then
        ((Task.complete f.txn f.tag completion).ends txn tag).toNat else 0) =
          (f.carries i txn tag).toNat := by
      unfold Flight.carries Task.ends
      split <;> simp_all
    rw [same] at queued
    rw [underway, underway, land, queued]
    have hr :
        ((n.abandon f.id).enqueue f.store (.complete f.txn f.tag completion)).running i txn tag =
          (n.flights.filter (·.id ≠ f.id)).countP (·.carries i txn tag) := rfl
    have hq : (n.abandon f.id).queued i txn tag = n.queued i txn tag := rfl
    rw [hr, hq, Node.running, ← running]
    omega

end Node

end TxnLiveness
