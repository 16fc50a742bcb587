import TxnLiveness.Proofs.Node.Task
/-!
# What an act does to what is underway

An act begins no investigation, or begins one and launches its remediation, or fails to and reports
it. A remediation that is underway stays so until the task that ends it runs, which ends the
investigation too.
-/

namespace TxnLiveness.Node

variable {n m : Node} {i : Nat}

/-! ## One act -/

/-- What an act can do to one tracker, where so many remediations are launched under its tag and one
is `popped` that ended. -/
inductive Move (tag : Tag) (p q : Probe) (launched : Nat) (popped : Bool) (failed : Prop) : Prop
  /-- No investigation begins, and one whose remediation ended is over. -/
  | calm (calm : p.Calm q) (unlaunched : launched = 0)
      (ended : popped = true → p.answers tag = true → q.investigating = false)
  /-- An audit fails. -/
  | failed (idle : p.investigating = false) (stray : q = ⟨true, p.generation⟩)
      (unlaunched : launched = 0) (unpopped : popped = false) (failed : failed)
  /-- An investigation begins under the next generation. -/
  | begun (begun : q = ⟨true, p.generation + 1⟩)
      (launched : launched = if tag.generation = p.generation + 1 then 1 else 0)

/-- The remediations that an act launches. -/
def launchedBy (n : Node) (a : Act) : List Flight :=
  (n.act a).flights.filter (n.launched ≤ ·.id)

/-- Whether an act is an audit in which the tracker fails to plan and that is reported. -/
def Fails (i : Nat) (txn : TxnId) (kind : TrackerKind) (n : Node) (a : Act) : Prop :=
  ∃ topology listing s t queue fault, a = .runNext i topology listing ∧ n.stores[i]? = some s ∧
    s.queue = .audit t :: queue ∧ (s.replica.command t).txn = txn ∧
    s.replica.log.plan topology (s.replica.command t) kind = .error fault ∧
    ⟨s.shard, .audit t fault⟩ ∈ (n.act a).reports

/-- What an act does to one tracker and to what is underway under one of its tags: all but what is
popped remains, and what is launched is added. -/
def Effect (i : Nat) (txn : TxnId) (tag : Tag) (n : Node) (a : Act) : Prop :=
  ∃ (popped : Bool) (remaining : Nat),
    Move tag (n.probe i txn tag.tracker) ((n.act a).probe i txn tag.tracker)
      ((n.launchedBy a).countP (·.carries i txn tag)) popped (Fails i txn tag.tracker n a) ∧
    n.underway i txn tag = remaining + popped.toNat ∧
    (n.act a).underway i txn tag =
      remaining + (n.launchedBy a).countP (·.carries i txn tag)

theorem launchedBy_of_steady {a : Act} (h : n.Steady (n.act a)) : n.launchedBy a = [] :=
  List.filter_eq_nil_iff.2 fun f hf => by simpa [h.launched] using h.sound.numbered f hf

theorem effect_of_steady {a : Act} (h : n.Steady (n.act a)) (i : Nat) (txn : TxnId)
    (tag : Tag) : Effect i txn tag n a := by
  have none := launchedBy_of_steady h
  refine ⟨false, n.underway i txn tag, ?_, rfl, ?_⟩
  · exact .calm (.of_eq (h.probe ..)) (by simp [none]) (by simp)
  · simp [h.underway, none]

/-! ## Tasks -/

theorem Move.imp {tag : Tag} {p q : Probe} {launched : Nat} {popped : Bool} {failed failed' : Prop}
    (h : Move tag p q launched popped failed) (hf : failed → failed') :
    Move tag p q launched popped failed' := by
  cases h with
  | calm calm unlaunched ended => exact .calm calm unlaunched ended
  | failed idle stray unlaunched unpopped failed =>
    exact .failed idle stray unlaunched unpopped (hf failed)
  | begun begun launched => exact .begun begun launched

section Move

variable {log log' : ShardLog} {txn : TxnId} {tag : Tag} {failed : Prop}

theorem move_quiet (h : log.Quiet log') :
    Move tag (log.probe txn tag.tracker) (log'.probe txn tag.tracker) 0 false failed :=
  .calm (h.calm txn tag.tracker) rfl (by simp)

theorem countP_carries_own {ds : List Dispatch} (h : ∀ d ∈ ds, d.txn = txn) :
    ds.countP (·.carries txn tag) = ds.countP (·.tag = tag) :=
  List.countP_congr fun d hd => by simp [Dispatch.carries, h d hd]

theorem countP_carries_other {ds : List Dispatch} {x : TxnId} (h : ∀ d ∈ ds, d.txn = x)
    (hx : txn ≠ x) : ds.countP (·.carries txn tag) = 0 :=
  List.countP_eq_zero.2 fun d hd => by simp [Dispatch.carries, h d hd, Ne.symm hx]

theorem move_audit (h : log.Sound) (topology : Topology) (cmd : Command) {out : Audit}
    (ho : (log.audit topology cmd).2 = .ok out) :
    Move tag (log.probe txn tag.tracker) ((log.audit topology cmd).1.probe txn tag.tracker)
      (out.dispatches.countP (·.carries txn tag)) false
      (cmd.txn = txn ∧
        ∃ fault ∈ out.faults, log.plan topology cmd tag.tracker = .error fault) := by
  obtain ⟨out', ho', count, own, faults⟩ := ShardLog.audit_ok h topology cmd
  obtain rfl : out = out' := by simpa [ho] using ho'
  by_cases hx : txn = cmd.txn
  · subst hx
    have planned := ShardLog.audit_planned h topology cmd tag.tracker
    rw [countP_carries_own fun d hd => (own d hd).1, count]
    generalize hplan : log.plan topology cmd tag.tracker = plan at planned
    generalize (log.audit topology cmd).1.probe cmd.txn tag.tracker = q at planned
    cases planned with
    | quiet calm => exact .calm calm rfl (by simp)
    | escalated idle remediation fits =>
      refine .begun rfl ?_
      obtain ⟨kind, generation⟩ := tag
      simp [Audit.dispatchOf, eq_comm]
    | failed idle fault =>
      exact .failed idle rfl rfl rfl ⟨rfl, fault, faults _ _ hplan, rfl⟩
  · rw [countP_carries_other (fun d hd => (own d hd).1) hx]
    exact .calm (.of_eq (log.audit_other topology cmd hx tag.tracker)) rfl (by simp)

theorem move_complete {x : TxnId} {t : Tag} {completion : Completion} {followup : Option Dispatch}
    (h : log.Completed x t completion log' followup)
    (hf : completion.fits t.tracker = true) :
    Move tag (log.probe txn tag.tracker) (log'.probe txn tag.tracker)
      (followup.toList.countP (·.carries txn tag)) ((Task.complete x t completion).ends txn tag)
      failed := by
  cases h with
  | quiet calm ended =>
    refine .calm (calm txn tag.tracker) rfl fun hp ha => ?_
    simp only [Task.ends, Bool.and_eq_true, decide_eq_true_eq] at hp
    obtain ⟨⟨rfl, rfl⟩, hfin⟩ := hp
    exact ended hf hfin ha
  | begun fresh others d own next fits =>
    have count : (some d).toList.countP (·.carries txn tag) =
        if x = txn ∧ ⟨t.tracker, (log.probe x t.tracker).generation + 1⟩ = tag then 1 else 0 := by
      simp [Dispatch.carries, own, next]
    rw [count]
    by_cases hx : txn = x ∧ tag.tracker = t.tracker
    · obtain ⟨rfl, hk⟩ := hx
      rw [hk]
      refine .begun fresh ?_
      obtain ⟨kind, generation⟩ := tag
      dsimp only at hk
      subst hk
      simp [eq_comm]
    · have same := others txn tag.tracker fun ht hk => hx ⟨ht, hk⟩
      rw [if_neg fun he => hx ⟨he.1.symm, by rw [← he.2]⟩]
      refine .calm (.of_eq same) rfl fun hp => ?_
      simp only [Task.ends, Bool.and_eq_true, decide_eq_true_eq] at hp
      exact absurd ⟨hp.1.1.symm, congrArg Tag.tracker hp.1.2.symm⟩ hx

end Move

/-! ## Running -/

theorem steady_auditAll (hn : n.Sound) (topology : Topology) (listing : Listing) (i : Nat) :
    n.Steady (n.run topology listing i .auditAll) := by
  simp only [run]
  split
  · refine steady_append hn i fun s task ht => ?_
    obtain ⟨x, -, rfl⟩ := List.mem_map.1 ht
    exact ⟨rfl, fun _ _ => rfl⟩
  · exact .refl hn

section Running

variable {s : Store} {task : Task} {queue : List Task}

/-- The node whose store has its first task taken from the queue. -/
def popped (n : Node) (i : Nat) (queue : List Task) : Node := n.modifyStore i ({ · with queue })

variable (hs : n.stores[i]? = some s) (hq : s.queue = task :: queue)

include hs

theorem getElem?_stores_popped (j : Nat) :
    (n.popped i queue).stores[j]? = if i = j then some { s with queue } else n.stores[j]? := by
  rw [popped, getElem?_modifyStore]
  split
  · subst j
    rw [hs]
    rfl
  · rfl

theorem getElem?_popped : (n.popped i queue).stores[i]? = some { s with queue } := by
  rw [getElem?_stores_popped hs, if_pos rfl]

include hq

theorem runNext_eq (topology : Topology) (listing : Listing) :
    n.runNext topology listing i = (n.popped i queue).run topology listing i task := by
  simp only [runNext, hs, hq, popped]

theorem sound_popped (h : n.Sound) : (n.popped i queue).Sound := by
  refine sound_modifyStore h fun t ht hsound => ⟨hsound.held, hsound.log, fun x hx => ?_⟩
  obtain rfl : s = t := by simpa [hs] using ht
  exact hsound.queue x (by rw [hq]; exact List.mem_cons_of_mem _ hx)

theorem underway_popped (j : Nat) (txn : TxnId) (tag : Tag) :
    n.underway j txn tag =
      (n.popped i queue).underway j txn tag + (decide (i = j) && task.ends txn tag).toNat := by
  have queued : n.queued j txn tag =
      (n.popped i queue).queued j txn tag + (decide (i = j) && task.ends txn tag).toNat := by
    unfold Node.queued popped
    rw [getElem?_modifyStore]
    by_cases hij : i = j
    · subst j
      rw [if_pos rfl, hs]
      simp only [Option.map_some, Option.getD_some, hq, List.countP_cons, decide_true,
        Bool.true_and]
      cases task.ends txn tag <;> simp
    · simp [hij]
  rw [underway, underway, queued, ← Nat.add_assoc]
  rfl

theorem effect_of_ran {r : Replica} {ds : List Dispatch} {topology : Topology} {listing : Listing}
    (hn : n.Sound) (hran : (n.popped i queue).Ran i r ds (n.act (.runNext i topology listing)))
    (j : Nat) (txn : TxnId) (tag : Tag)
    (hmove : Move tag (s.replica.log.probe txn tag.tracker) (r.log.probe txn tag.tracker)
      (ds.countP (·.carries txn tag)) (task.ends txn tag)
      (Fails i txn tag.tracker n (.runNext i topology listing))) :
    Effect j txn tag n (.runNext i topology listing) := by
  have probe : (n.popped i queue).probe = n.probe := probe_modifyStore fun _ => rfl
  have launched : (n.launchedBy (.runNext i topology listing)).countP (·.carries j txn tag) =
      if i = j then ds.countP (·.carries txn tag) else 0 :=
    hran.countP_launched (sound_popped hs hq hn) j txn tag
  refine ⟨decide (i = j) && task.ends txn tag, (n.popped i queue).underway j txn tag, ?_,
    underway_popped hs hq j txn tag, ?_⟩
  · rw [launched, hran.probe (getElem?_popped hs) j txn tag.tracker, probe]
    by_cases hij : i = j
    · subst j
      have before : n.probe i txn tag.tracker = s.replica.log.probe txn tag.tracker := by
        rw [Node.probe, hs]
        rfl
      simpa [before] using hmove
    · simp only [hij, if_false, decide_false, Bool.false_and]
      exact .calm (.refl _) rfl (by simp)
  · rw [launched]
    exact hran.underway j txn tag

/-- Taking a task that ends nothing from its queue. -/
theorem steady_popped (hn : n.Sound) (he : ∀ txn tag, task.ends txn tag = false) :
    n.Steady (n.popped i queue) := by
  refine ⟨fun j txn kind => ?_, fun j txn tag => ?_, rfl, sound_popped hs hq hn⟩
  · rw [show (n.popped i queue).probe = n.probe from probe_modifyStore fun _ => rfl]
  · simpa [he] using (underway_popped hs hq j txn tag).symm

theorem runNext_effect (hn : n.Sound) (topology : Topology) (listing : Listing) :
    (n.act (.runNext i topology listing)).Sound ∧
      ∀ j txn tag, Effect j txn tag n (.runNext i topology listing) := by
  have hpopped := sound_popped hs hq hn
  have hs' : (n.popped i queue).stores[i]? = some { s with queue } := getElem?_popped hs
  have held := (hn.stores i s hs).held
  have log := (hn.stores i s hs).log
  have act : n.act (.runNext i topology listing) = (n.popped i queue).run topology listing i task :=
    runNext_eq hs hq topology listing
  cases task with
  | work edits ending =>
    have ran := ran_work hs' topology listing edits ending
    have quiet := s.replica.quiet_editAll topology edits
    rw [← act] at ran
    exact ⟨ran.sound hpopped hs' (quiet.sound log) (by simp),
      fun j txn tag => effect_of_ran hs hq hn ran j txn tag (move_quiet quiet)⟩
  | auditAll =>
    have steady := (steady_popped hs hq hn fun _ _ => rfl).trans
      (steady_auditAll hpopped topology listing i)
    rw [← act] at steady
    exact ⟨steady.sound, effect_of_steady steady⟩
  | audit t =>
    obtain ⟨out, ho, -, own, -⟩ := ShardLog.audit_ok log topology (s.replica.command t)
    obtain ⟨ran, reported⟩ := ran_audit hs' held topology listing t ho
    rw [← act] at ran reported
    refine ⟨ran.sound hpopped hs' (ShardLog.audit_sound log topology _) fun d hd => (own d hd).2,
      fun j txn tag => effect_of_ran hs hq hn ran j txn tag ?_⟩
    refine (move_audit log topology _ ho).imp ?_
    rintro ⟨hx, fault, hf, hplan⟩
    exact ⟨topology, listing, s, t, queue, fault, rfl, hs, hq, hx, hplan, reported fault hf⟩
  | complete x t completion =>
    have ran := ran_complete hs' held topology listing x t completion
    obtain ⟨completed, sound⟩ := Replica.complete_cases log topology x t completion
    have fits : (Task.complete x t completion).fits = true :=
      (hn.stores i s hs).queue _ (by rw [hq]; exact List.mem_cons_self)
    rw [← act] at ran
    have followed : ∀ d ∈ (Replica.followup? (s.replica.complete topology x t completion).2).toList,
        d.remediation.fits d.tag.tracker = true := completed.followup_fits
    exact ⟨ran.sound hpopped hs' sound followed,
      fun j txn tag => effect_of_ran hs hq hn ran j txn tag (move_complete completed fits)⟩

end Running

/-- Nothing happens at a place where no task is queued. Elsewhere the first task of the queue is
taken from it and run. -/
theorem runNext_cases (n : Node) (topology : Topology) (listing : Listing) (i : Nat) :
    n.runNext topology listing i = n ∧ (∀ s, n.stores[i]? = some s → s.queue = []) ∨
      ∃ s task queue, n.stores[i]? = some s ∧ s.queue = task :: queue ∧
        n.runNext topology listing i = (n.popped i queue).run topology listing i task := by
  cases hs : n.stores[i]? with
  | none => exact .inl ⟨by simp [runNext, hs], fun _ ht => by cases ht⟩
  | some s =>
    cases hq : s.queue with
    | nil =>
      refine .inl ⟨by simp [runNext, hs, hq], fun t ht => ?_⟩
      cases ht
      exact hq
    | cons task queue => exact .inr ⟨s, task, queue, rfl, hq, runNext_eq hs hq topology listing⟩

theorem act_effect (hn : n.Sound) (a : Act) :
    (n.act a).Sound ∧ ∀ i txn tag, Effect i txn tag n a := by
  have steady {a : Act} (h : n.Steady (n.act a)) :
      (n.act a).Sound ∧ ∀ i txn tag, Effect i txn tag n a := ⟨h.sound, effect_of_steady h⟩
  cases a with
  | addStore shard => exact steady (steady_addStore hn shard)
  | register i => exact steady (steady_of_eq hn rfl rfl rfl)
  | work i edits ending => exact steady (steady_enqueue hn i rfl fun _ _ => rfl)
  | auditAll i => exact steady (steady_enqueue hn i rfl fun _ _ => rfl)
  | auditRound => exact steady (steady_auditRound hn)
  | runNext i topology listing =>
    obtain ⟨idle, -⟩ | ⟨s, task, queue, hs, hq, -⟩ := n.runNext_cases topology listing i
    · have idle : n.act (.runNext i topology listing) = n := idle
      exact steady (idle.symm ▸ .refl hn)
    · exact runNext_effect hs hq hn topology listing
  | depart id topology => exact steady (steady_depart hn topology id)
  | expire id fault => exact steady (steady_expire hn id fault)
  | answer id call a => exact steady (steady_answer hn id call a)

end TxnLiveness.Node
