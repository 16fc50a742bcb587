import Mathlib.Data.List.Nodup
import Mathlib.Data.List.Perm.Basic
import TxnLiveness.Proofs.Node.Flight
/-!
# Announcements reach every target once

However the calls of an announcement end, and whatever else happens on the node meanwhile, every
target is called once and no more calls are under way than the limit allows. An acknowledgement is
passed on to the store when it comes, and the end of the round after all of them.
-/

namespace TxnLiveness

/-- Whether the call announces something to the node. -/
def Call.announcesTo (target : NodeId) : Call → Bool
  | .informDurable x _ => x = target
  | _ => false

/-! ## Rounds -/

namespace Round

/-- No more targets are active than the limit allows, and no fewer while targets wait. -/
structure Full (limit : Nat) (r : Round) : Prop where
  bounded : r.active.length ≤ max limit 1
  filled : r.waiting ≠ [] → r.active.length = max limit 1

variable {limit : Nat} {r : Round}

theorem full_refill (h : r.active.length ≤ max limit 1) : (r.refill limit).1.Full limit := by
  refine ⟨?_, fun waiting => ?_⟩
  · simp only [refill, List.length_append, List.length_take]
    omega
  · have more : max limit 1 - r.active.length < r.waiting.length := by
      simpa [refill] using waiting
    simp only [refill, List.length_append, List.length_take]
    omega

/-- What a round calls moves from the waiting to the active. -/
theorem calls_refill (limit : Nat) (r : Round) :
    ∃ next, (r.refill limit).2 = next.map (.informDurable · r.notice) ∧
      next ++ (r.refill limit).1.waiting = r.waiting ∧
      (r.refill limit).1.active = r.active ++ next :=
  ⟨_, rfl, List.take_append_drop .., rfl⟩

/-- A round with nobody active has nobody waiting. -/
theorem Full.waiting_of_isOver (h : r.Full limit) (finished : r.isOver = true) :
    r.waiting = [] := by
  have none : r.active.length = 0 := by simpa [isOver] using finished
  refine Classical.byContradiction fun waiting => ?_
  have := h.filled waiting
  omega

end Round

namespace Node

variable {n m : Node} {i : Nat}

/-! ## Chronicles -/

/-- The calls that an act makes. -/
def callsOf (n : Node) : Act → List Call
  | .depart id topology => (n.depart topology id).2
  | .answer id call a => (n.answer id call a).2
  | _ => []

def Act.isDepart : Act → Bool
  | .depart .. => true
  | _ => false

/-- What comes of the acts that drive a flight, oldest first. -/
structure Chronicle where
  departed : Bool := false
  called : List Call := []
  /-- The targets whose calls have ended, and how. -/
  ended : List (NodeId × Answer) := []
  /-- The tasks queued at each place. -/
  posted : Nat → List Task := fun _ => []
  failures : Nat := 0

namespace Chronicle

/-- The call on a target that an act ends, which its first answer does. -/
def ends (c : Chronicle) : Act → List (NodeId × Answer)
  | .answer _ (.informDurable target _) a =>
    if c.called.any (·.announcesTo target) ∧ target ∉ c.ended.map Prod.fst then [(target, a)]
    else []
  | _ => []

/-- The chronicle after a further act that drives the flight. -/
def next (c : Chronicle) (n : Node) (a : Act) : Chronicle where
  departed := c.departed || a.isDepart
  called := c.called ++ n.callsOf a
  ended := c.ended ++ c.ends a
  posted i := c.posted i ++ ((n.act a).queueAt i).drop (n.queueAt i).length
  failures := c.failures + ((n.act a).counters.remoteFailures - n.counters.remoteFailures)

end Chronicle

/-- The chronicle of a flight over a run. -/
def chronicle (n : Node) (id : Nat) : List Act → Chronicle
  | [] => {}
  | a :: past =>
    if a.drives id then (n.chronicle id past).next (n.onward.after past) a
    else n.chronicle id past

/-! ## How far an announcement has come -/

/-- The stages of an announcement. -/
inductive Leg
  | launched
  | underway (round : Round)
  | landed

namespace Leg

def departed : Leg → Bool
  | .launched => false
  | _ => true

def flight? (f : Flight) : Leg → Option Flight
  | .launched => some f
  | .underway round => some { f with stage := .announcing round }
  | .landed => none

/-- The targets that are still to be called. -/
def waiting (targets : List NodeId) : Leg → List NodeId
  | .launched => targets
  | .underway round => round.waiting
  | .landed => []

/-- The targets that have been called and not been heard of. -/
def active : Leg → List NodeId
  | .underway round => round.active
  | _ => []

def isLanded : Leg → Bool
  | .landed => true
  | _ => false

/-- What a round leads to once it has been refilled. -/
def ofRound (r : Round) : Leg := if r.isOver then .landed else .underway r

end Leg

/-- The completions that pass acknowledgements on, in the order in which they came. -/
def acknowledgements (f : Flight) (ended : List (NodeId × Answer)) : List Task :=
  (ended.filter (·.2.isOk)).map fun (target, _) => .complete f.txn f.tag (.acknowledged target)

/-- The tasks that come of an announcement. -/
def announced (f : Flight) (ended : List (NodeId × Answer)) (finished : Bool) : List Task :=
  acknowledgements f ended ++ if finished then [.complete f.txn f.tag .roundFinished] else []

/-- Where an announcement stands. -/
structure Stands (f : Flight) (targets : SortedSet NodeId) (notice : DurableNotice) (limit : Nat)
    (n : Node) (c : Chronicle) (leg : Leg) : Prop where
  flight : n.flight? f.id = leg.flight? f
  departed : c.departed = leg.departed
  round : ∀ r, leg = .underway r → r.notice = notice ∧ r.Full limit ∧ r.isOver = false
  /-- Every target has been called or waits. -/
  called : c.called ++ (leg.waiting targets.toList).map (.informDurable · notice) =
    targets.toList.map (.informDurable · notice)
  /-- Every target that has been called has been heard of or is active. -/
  ended : c.called.Perm ((c.ended.map Prod.fst ++ leg.active).map (.informDurable · notice))
  posted : ∀ i, c.posted i = if f.store = i then announced f c.ended leg.isLanded else []
  failures : c.failures = c.ended.countP (!·.2.isOk)

section Stands

variable {f : Flight} {targets : SortedSet NodeId} {notice : DurableNotice} {limit : Nat}
  {c c' : Chronicle} {leg : Leg}

theorem informDurable_injective (notice : DurableNotice) :
    Function.Injective (Call.informDurable · notice) := fun _ _ e => by cases e; rfl

theorem any_announcesTo (targets : List NodeId) (target : NodeId) :
    (targets.map (Call.informDurable · notice)).any (·.announcesTo target) = true ↔
      target ∈ targets := by
  simp [Call.announcesTo]

theorem Stands.nodup (h : Stands f targets notice limit n c leg) :
    (c.ended.map Prod.fst ++ leg.active).Nodup := by
  have all := targets.nodup.map (informDurable_injective notice)
  rw [← h.called] at all
  exact (h.ended.nodup_iff.1 all.of_append_left).of_map

/-- The calls that an answer can end are those of the active targets. -/
theorem Stands.ends (h : Stands f targets notice limit n c leg) (x : Nat) (target : NodeId)
    (other : DurableNotice) (a : Answer) :
    c.ends (.answer x (.informDurable target other) a) =
      if target ∈ leg.active then [(target, a)] else [] := by
  have called : c.called.any (·.announcesTo target) = true ↔
      target ∈ c.ended.map Prod.fst ++ leg.active := by
    rw [h.ended.any_eq]
    exact any_announcesTo _ target
  have apart := List.disjoint_of_nodup_append h.nodup
  simp only [Chronicle.ends, called, List.mem_append]
  exact if_congr ⟨fun ⟨ha, hn⟩ => ha.resolve_left hn, fun ha => ⟨.inr ha, fun he => apart he ha⟩⟩
    rfl rfl

/-! ## Going on -/

/-- What going on with a round does to its flight, to the counters and to the queues. -/
theorem goOn_spec {n : Node} {stage : Stage} (hf : n.flight? f.id = some { f with stage })
    (hi : f.store < n.stores.length) (r : Round) :
    let leg := Leg.ofRound (r.refill n.fanout).1
    (n.goOn f r).1.flight? f.id = leg.flight? f ∧
      (n.goOn f r).1.counters = n.counters ∧
      ∀ i, (n.goOn f r).1.queueAt i = n.queueAt i ++
        if f.store = i then announced f [] leg.isLanded else [] := by
  unfold goOn Leg.ofRound
  dsimp only
  split
  · refine ⟨(n.flight?_land f _ f.id).trans (if_pos rfl), rfl, fun i => ?_⟩
    exact (n.abandon f.id).queueAt_enqueue hi _ i
  · refine ⟨?_, rfl, fun i => ?_⟩
    · rw [flight?_setStage, if_pos rfl, hf]
      rfl
    · simp [announced, acknowledgements, Leg.isLanded]
      rfl

/-- The calls with which a round goes on are those of its refill, for a round that is over makes
none. -/
theorem calls_goOn (n : Node) (f : Flight) (r : Round) :
    (n.goOn f r).2 = (r.refill n.fanout).2 := by
  unfold goOn
  dsimp only
  split
  · rename_i finished
    obtain ⟨next, calls, -, active⟩ := r.calls_refill n.fanout
    have none : next = [] := by
      rw [Round.isOver, active] at finished
      simp_all
    rw [calls, none]
    rfl
  · rfl

theorem isOver_ofRound {r r' : Round} (h : Leg.ofRound r = .underway r') :
    r' = r ∧ r.isOver = false := by
  unfold Leg.ofRound at h
  split at h
  · cases h
  · cases h
    exact ⟨rfl, eq_false_of_ne_true ‹_›⟩

theorem waiting_ofRound {r : Round} (h : r.Full limit) (targets : List NodeId) :
    (Leg.ofRound r).waiting targets = r.waiting := by
  unfold Leg.ofRound
  split
  · exact (h.waiting_of_isOver ‹_›).symm
  · rfl

theorem active_ofRound (r : Round) : (Leg.ofRound r).active = r.active := by
  unfold Leg.ofRound
  split
  · exact (List.isEmpty_iff.1 ‹_›).symm
  · rfl

theorem departed_ofRound (r : Round) : (Leg.ofRound r).departed = true := by
  unfold Leg.ofRound
  split <;> rfl

/-- An announcement that goes on. -/
theorem stands_goOn {n : Node} {stage : Stage} {r : Round} {c c' : Chronicle}
    (hf : n.flight? f.id = some { f with stage }) (hi : f.store < n.stores.length)
    (hr : r.notice = notice) (bounded : r.active.length ≤ max n.fanout 1)
    (departed : c'.departed = true)
    (called : c'.called = c.called ++ (n.goOn f r).2)
    (split : c.called ++ r.waiting.map (.informDurable · notice) =
      targets.toList.map (.informDurable · notice))
    (heard : c.called.Perm ((c'.ended.map Prod.fst ++ r.active).map (.informDurable · notice)))
    (posted : ∀ i, c'.posted i = if f.store = i then
      announced f c'.ended (Leg.ofRound (r.refill n.fanout).1).isLanded else [])
    (failures : c'.failures = c'.ended.countP (!·.2.isOk)) :
    Stands f targets notice n.fanout (n.goOn f r).1 c' (Leg.ofRound (r.refill n.fanout).1) := by
  have full := Round.full_refill bounded
  obtain ⟨flight, -, -⟩ := goOn_spec hf hi r
  obtain ⟨next, calls, rest, active⟩ := r.calls_refill n.fanout
  rw [calls_goOn, calls, hr] at called
  refine ⟨flight, departed.trans (departed_ofRound _).symm, fun r' hr' => ?_, ?_, ?_, posted,
    failures⟩
  · obtain ⟨rfl, finished⟩ := isOver_ofRound hr'
    exact ⟨hr, full, finished⟩
  · rw [waiting_ofRound full, called, List.append_assoc, ← List.map_append, rest, split]
  · rw [active_ofRound, active, called, ← List.append_assoc, List.map_append]
    exact heard.append_right _

/-! ## One act -/

/-- The store of an announcement that has not landed is there to return to. -/
theorem Stands.inside (h : Stands f targets notice limit n c leg) (hn : n.Sound)
    (hl : leg.isLanded = false) : f.store < n.stores.length := by
  have flight := h.flight
  cases leg with
  | launched => exact hn.returning f (mem_of_flight? flight).1
  | underway round =>
    exact hn.returning { f with stage := .announcing round } (mem_of_flight? flight).1
  | landed => cases hl

/-- An act that drives the flight, but of which nothing comes. -/
theorem Stands.quiet (h : Stands f targets notice limit n c leg) {a : Act} (act : n.act a = n)
    (calls : n.callsOf a = []) (ends : c.ends a = [])
    (departed : a.isDepart = true → leg.departed = true) :
    Stands f targets notice limit (n.act a) (c.next n a) leg := by
  have departed : (c.departed || a.isDepart) = c.departed := by
    rw [h.departed]
    cases hd : a.isDepart <;> simp_all
  have same : c.next n a = c := by simp [Chronicle.next, act, calls, ends, departed]
  rw [act, same]
  exact h

theorem Stands.depart (h : Stands f targets notice n.fanout n c leg) (hn : n.Sound)
    (hs : f.stage = .launched (.announceDurable targets notice)) (topology : Topology) :
    ∃ leg, Stands f targets notice n.fanout (n.act (.depart f.id topology))
      (c.next n (.depart f.id topology)) leg := by
  have flight := h.flight
  cases leg with
  | launched =>
    have errand : n.depart topology f.id = n.goOn f { notice, waiting := targets.toList } := by
      simp only [Node.depart, flight, Leg.flight?, hs, Remediation.errand]
    have hi := h.inside hn rfl
    have none : c.called = [] := by simpa [Leg.waiting] using h.called
    have unheard : c.ended = [] := by simpa [none, Leg.active] using h.ended.symm
    have act : n.act (.depart f.id topology) = (n.depart topology f.id).1 := rfl
    obtain ⟨-, counters, queues⟩ :=
      goOn_spec flight hi { notice, waiting := targets.toList }
    rw [act, errand]
    refine ⟨_, stands_goOn flight hi rfl (Nat.zero_le _) ?_ ?_ h.called ?_ (fun i => ?_) ?_⟩
    · simp [Chronicle.next, Act.isDepart]
    · simp only [Chronicle.next, callsOf, errand]
    · simp [Chronicle.next, Chronicle.ends, none, unheard]
    · simp only [Chronicle.next, Chronicle.ends, act, errand, queues, h.posted, unheard,
        List.drop_left]
      split <;> rfl
    · simp [Chronicle.next, Chronicle.ends, act, errand, counters, h.failures, unheard]
  | underway round =>
    have idle : n.depart topology f.id = (n, []) := by simp only [Node.depart, flight, Leg.flight?]
    exact ⟨_, h.quiet (congrArg Prod.fst idle) (congrArg Prod.snd idle) rfl fun _ => rfl⟩
  | landed =>
    have idle : n.depart topology f.id = (n, []) := by simp only [Node.depart, flight, Leg.flight?]
    exact ⟨_, h.quiet (congrArg Prod.fst idle) (congrArg Prod.snd idle) rfl fun _ => rfl⟩

/-- A target that is heard of is no longer active. -/
theorem perm_heard {ended active : List NodeId} {target : NodeId} (h : target ∈ active) :
    (ended ++ active).Perm (ended ++ [target] ++ active.erase target) := by
  rw [List.append_assoc]
  exact (List.perm_cons_erase h).append_left ended

/-- What the store, the counters and the flight of an announcement come to when one of its calls
ends, before it goes on. -/
def hearing (n : Node) (f : Flight) (target : NodeId) : Answer → Node
  | .ok _ => n.enqueue f.store (.complete f.txn f.tag (.acknowledged target))
  | .error e =>
    { n.countTimeout (.error e) with
      counters := (n.countTimeout (.error e)).counters.remoteFailure }

theorem hearing_spec (n : Node) (f : Flight) (hi : f.store < n.stores.length) (target : NodeId)
    (a : Answer) :
    (n.hearing f target a).flight? f.id = n.flight? f.id ∧
      (n.hearing f target a).fanout = n.fanout ∧
      (n.hearing f target a).stores.length = n.stores.length ∧
      (∀ i, (n.hearing f target a).queueAt i =
        n.queueAt i ++ if f.store = i then acknowledgements f [(target, a)] else []) ∧
      (n.hearing f target a).counters.remoteFailures =
        n.counters.remoteFailures + [(target, a)].countP (!·.2.isOk) := by
  cases a with
  | ok reply =>
    exact ⟨rfl, rfl, length_modifyStore .., fun i => n.queueAt_enqueue hi _ i, rfl⟩
  | error e =>
    have stores := stores_countTimeout n (.error e)
    refine ⟨flight?_countTimeout n _ _, fanout_countTimeout n _, congrArg List.length stores,
      fun i => ?_, congrArg (· + 1) (remoteFailures_countTimeout n (.error e))⟩
    have queue : (n.hearing f target (.error e)).queueAt i = n.queueAt i := by
      simp only [hearing, queueAt, stores]
    rw [queue]
    split <;> simp [acknowledgements, Except.isOk, Except.toBool]

/-- An answer to a call of another target, or of no announcement. -/
theorem Stands.answer_other (h : Stands f targets notice limit n c leg)
    (hs : f.stage = .launched (.announceDurable targets notice)) {call : Call} (a : Answer)
    (hc : ∀ target other, call = .informDurable target other → target ∉ leg.active) :
    Stands f targets notice limit (n.act (.answer f.id call a)) (c.next n (.answer f.id call a))
      leg := by
  have flight := h.flight
  -- Nothing waits for the answer, whatever the flight is at.
  have idle : n.answer f.id call a = (n, []) := by
    cases leg with
    | launched => simp only [Node.answer, flight, Leg.flight?, hs]
    | landed => simp only [Node.answer, flight, Leg.flight?]
    | underway round =>
      cases call with
      | informDurable target other =>
        have inactive : target ∉ round.active := hc target other rfl
        simp only [Node.answer, flight, Leg.flight?, inactive, if_false]
      | _ => simp only [Node.answer, flight, Leg.flight?]
  refine h.quiet (congrArg Prod.fst idle) (congrArg Prod.snd idle) ?_ ?_
  · cases call with
    | informDurable target other => rw [h.ends, if_neg (hc target other rfl)]
    | _ => rfl
  · intro departs
    cases departs

/-- The call of an active target ends. -/
theorem Stands.answer_active {round : Round}
    (h : Stands f targets notice n.fanout n c (.underway round)) (hn : n.Sound)
    {target : NodeId} (ht : target ∈ round.active) (other : DurableNotice) (a : Answer) :
    ∃ leg, Stands f targets notice n.fanout (n.act (.answer f.id (.informDurable target other) a))
      (c.next n (.answer f.id (.informDurable target other) a)) leg := by
  have flight := h.flight
  have hi := h.inside hn rfl
  obtain ⟨notice_eq, full, -⟩ := h.round round rfl
  obtain ⟨flight', fanout, length, queues, failures⟩ := hearing_spec n f hi target a
  let rest : Round := { round with active := round.active.erase target }
  have goes : n.answer f.id (.informDurable target other) a =
      (n.hearing f target a).goOn f rest := by
    simp only [Node.answer, flight, Leg.flight?, ht, if_true]
    cases a <;> rfl
  have ends : c.ends (.answer f.id (.informDurable target other) a) = [(target, a)] :=
    (h.ends ..).trans (if_pos ht)
  have act : n.act (.answer f.id (.informDurable target other) a) =
      ((n.hearing f target a).goOn f rest).1 := congrArg Prod.fst goes
  have flight' : (n.hearing f target a).flight? f.id =
      some { f with stage := .announcing round } := flight'.trans flight
  have hi' : f.store < (n.hearing f target a).stores.length := length ▸ hi
  obtain ⟨-, counters, queues'⟩ := goOn_spec flight' hi' rest
  rw [act, ← fanout]
  refine ⟨_, stands_goOn flight' hi' notice_eq ?_ ?_ ?_ h.called ?_ (fun i => ?_) ?_⟩
  · rw [fanout]
    exact Nat.le_trans List.length_erase_le full.bounded
  · simp [Chronicle.next, h.departed, Leg.departed]
  · simp only [Chronicle.next, callsOf, goes]
  · refine h.ended.trans (List.Perm.map _ ?_)
    simp only [Chronicle.next, ends, List.map_append]
    exact perm_heard ht
  · simp only [Chronicle.next, ends, act, queues', queues, h.posted, List.append_assoc,
      List.drop_left]
    split <;> simp [Leg.isLanded, announced, acknowledgements]
  · simp only [Chronicle.next, ends, act, counters, failures, h.failures, List.countP_append]
    omega

/-- An act that drives the flight of an announcement. -/
theorem Stands.drive (h : Stands f targets notice n.fanout n c leg)
    (hn : n.Sound) (hs : f.stage = .launched (.announceDurable targets notice)) {a : Act}
    (hd : a.drives f.id = true) :
    ∃ leg, Stands f targets notice n.fanout (n.act a) (c.next n a) leg := by
  cases a with
  | depart id topology =>
    obtain rfl : id = f.id := by simpa [Act.drives] using hd
    exact h.depart hn hs topology
  | answer id call a =>
    obtain rfl : id = f.id := by simpa [Act.drives] using hd
    by_cases hc : ∃ target other, call = .informDurable target other ∧ target ∈ leg.active
    · obtain ⟨target, other, rfl, ht⟩ := hc
      cases leg with
      | underway round => exact h.answer_active hn ht other a
      | launched => cases ht
      | landed => cases ht
    · exact ⟨leg, h.answer_other hs a fun target other e ht => hc ⟨target, other, e, ht⟩⟩
  | _ => cases hd

/-- Any other act leaves the announcement where it stands. -/
theorem Stands.rest (h : Stands f targets notice limit n c leg)
    (hn : n.Sound) (hs : f.stage = .launched (.announceDurable targets notice))
    (hid : f.id < n.launched) {a : Act} (hd : a.drives f.id = false) :
    Stands f targets notice limit (n.act a) c leg := by
  -- A round of announcements names no epoch, so that its flight does not expire.
  have epochless (g : Flight) (hg : n.flight? f.id = some g) : g.epoch? = none := by
    rw [h.flight] at hg
    cases leg <;> cases hg
    · simp only [Flight.epoch?, hs, Remediation.errand]
    · rfl
  exact { h with flight := (flight?_act hn hid hd epochless).trans h.flight }

/-! ## What follows -/

theorem Stands.length_called (h : Stands f targets notice limit n c leg) :
    c.called.length = c.ended.length + leg.active.length := by
  simpa using h.ended.length_eq

theorem Stands.isNone_flight? (h : Stands f targets notice limit n c leg) :
    (n.flight? f.id).isNone = leg.isLanded := by
  rw [h.flight]
  cases leg <;> rfl

theorem Stands.limited (h : Stands f targets notice limit n c leg) :
    leg.active.length ≤ max limit 1 := by
  cases leg with
  | underway round => exact (h.round round rfl).2.1.bounded
  | _ => exact Nat.zero_le _

/-- While a target waits, all the calls that the limit allows are under way. -/
theorem Stands.filled (h : Stands f targets notice limit n c leg) (hd : c.departed = true)
    (less : c.called.length < targets.toList.length) : leg.active.length = max limit 1 := by
  have rest : c.called.length + (leg.waiting targets.toList).length = targets.toList.length := by
    simpa using congrArg List.length h.called
  rw [h.departed] at hd
  cases leg with
  | launched => cases hd
  | underway round =>
    refine (h.round round rfl).2.1.filled fun none => ?_
    simp only [Leg.waiting, none, List.length_nil] at rest
    omega
  | landed =>
    simp only [Leg.waiting, List.length_nil] at rest
    omega

/-- The flight ends when nobody is left to hear of. -/
theorem Stands.landed_iff (h : Stands f targets notice limit n c leg) :
    leg.isLanded = true ↔ c.departed = true ∧ leg.active.length = 0 := by
  rw [h.departed]
  cases leg with
  | launched => simp [Leg.isLanded, Leg.departed]
  | underway round =>
    have busy := (h.round round rfl).2.2
    simpa [Leg.isLanded, Leg.departed, Leg.active, Round.isOver] using busy
  | landed => simp [Leg.isLanded, Leg.departed, Leg.active]

theorem Stands.complete (h : Stands f targets notice limit n c leg) (hl : leg.isLanded = true) :
    c.called = targets.toList.map (.informDurable · notice) ∧
      (c.ended.map Prod.fst).Perm targets.toList := by
  cases leg with
  | landed =>
    have all : c.called = targets.toList.map (.informDurable · notice) := by
      simpa [Leg.waiting] using h.called
    have ended := h.ended
    rw [all, List.map_perm_map_iff (informDurable_injective notice)] at ended
    exact ⟨all, by simpa [Leg.active] using ended.symm⟩
  | _ => cases hl

/-! ## Every run -/

theorem stands_after (hn : n.Sound) (hf : f ∈ n.flights)
    (hs : f.stage = .launched (.announceDurable targets notice)) (run : List Act) :
    (n.onward.after run).Sound ∧ (n.onward.after run).fanout = n.fanout ∧
      f.id < (n.onward.after run).launched ∧
      ∃ leg, Stands f targets notice n.fanout (n.onward.after run) (n.chronicle f.id run) leg := by
  induction run with
  | nil =>
    refine ⟨hn, rfl, hn.numbered f hf, .launched, flight?_of_mem hn.distinct hf, rfl, nofun, rfl,
      .refl _, fun i => ?_, rfl⟩
    split <;> rfl
  | cons a past ih =>
    obtain ⟨sound, fanout, hid, leg, stands⟩ := ih
    have after : n.onward.after (a :: past) = (n.onward.after past).act a := rfl
    have launched := launched_act sound a
    refine ⟨(act_effect sound a).1, (fanout_act _ a).trans fanout, by rw [after]; omega, ?_⟩
    rw [after, chronicle]
    split
    · rename_i driven
      rw [← fanout] at stands ⊢
      exact stands.drive sound hs driven
    · rename_i other
      exact ⟨leg, stands.rest sound hs hid (eq_false_of_ne_true other)⟩

end Stands

/-- What comes of an announcement with so many calls at a time. -/
structure Announces (f : Flight) (targets : SortedSet NodeId) (notice : DurableNotice)
    (limit : Nat) (n : Node) (c : Chronicle) : Prop where
  /-- The targets are called one after the other. -/
  called : c.called <+: targets.toList.map (.informDurable · notice)
  once : c.called.Nodup
  /-- Every call that ends has been made and ends once. -/
  ended : (c.ended.map fun (target, _) => Call.informDurable target notice) ⊆ c.called
  endedOnce : (c.ended.map Prod.fst).Nodup
  limited : c.called.length ≤ c.ended.length + max limit 1
  /-- While a target is still to be called, all the calls that the limit allows are under way. -/
  filled : c.departed = true → c.called.length < targets.toList.length →
    c.called.length = c.ended.length + max limit 1
  posted : ∀ i, c.posted i =
    if f.store = i then announced f c.ended (n.flight? f.id).isNone else []
  failures : c.failures = c.ended.countP (!·.2.isOk)
  /-- The flight ends with the last call. -/
  finished : n.flight? f.id = none ↔ c.departed = true ∧ c.called.length ≤ c.ended.length
  complete : n.flight? f.id = none →
    c.called = targets.toList.map (.informDurable · notice) ∧
      (c.ended.map Prod.fst).Perm targets.toList

/-- However the calls of an announcement end, and whatever else happens meanwhile, each target is
called once and heard of once, and what comes of it is passed on to the store in that order. -/
theorem announcement_reaches_every_target {n : Node} (hn : n.Sound) {f : Flight}
    (hf : f ∈ n.flights) {targets : SortedSet NodeId} {notice : DurableNotice}
    (hs : f.stage = .launched (.announceDurable targets notice)) (run : List Act) :
    Announces f targets notice n.fanout (n.onward.after run) (n.chronicle f.id run) := by
  obtain ⟨-, -, -, leg, stands⟩ := stands_after hn hf hs run
  generalize n.onward.after run = m at stands ⊢
  generalize n.chronicle f.id run = c at stands ⊢
  have apart := stands.nodup
  have length := stands.length_called
  have landed : m.flight? f.id = none ↔ leg.isLanded = true := by
    rw [← stands.isNone_flight?, Option.isNone_iff_eq_none]
  refine ⟨⟨_, stands.called⟩, ?_, ?_, apart.of_append_left, ?_, fun hd less => ?_, fun i => ?_,
    stands.failures, ?_, fun hl => stands.complete (landed.1 hl)⟩
  · exact stands.ended.nodup_iff.2 (apart.map (informDurable_injective notice))
  · intro call hc
    refine stands.ended.mem_iff.2 ?_
    rw [List.map_append, List.map_map]
    exact List.mem_append_left _ hc
  · have := stands.limited
    omega
  · rw [length, stands.filled hd less]
  · rw [stands.isNone_flight?]
    exact stands.posted i
  · rw [landed, stands.landed_iff, length]
    refine and_congr_right fun _ => ?_
    omega

def exampleNotice : DurableNotice := ⟨⟨1, 1, 1⟩, .full ⟨[104]⟩ ∅, ⟨1, 1, 1⟩, .durable⟩

def exampleAnnouncement : Flight :=
  ⟨0, 0, ⟨1, 1, 1⟩, ⟨.disseminate, 1⟩,
    .launched (.announceDurable (.ofList [2, 3, 4]) exampleNotice)⟩

/-- A node that announces to three others, to two at a time. -/
def exampleAnnouncer : Node :=
  { (machine 1 2).after [.addStore 0] with flights := [exampleAnnouncement], launched := 1 }

/-- The second target acknowledges, the first does not answer in time, and the last acknowledges. -/
def exampleAnswers : List Act :=
  [.answer 0 (.informDurable 4 exampleNotice) (.ok .done),
    .answer 0 (.informDurable 2 exampleNotice) (.error (.timedOut "inform_durable" 5)),
    .answer 0 (.informDurable 3 exampleNotice) (.ok .done),
    .depart 0 ⟨1, fun _ => true, fun _ _ _ => ∅⟩]

theorem sound_exampleAnnouncer : exampleAnnouncer.Sound := by
  have sound := sound_after 1 2 [.addStore 0]
  refine ⟨sound.stores, ?_, ?_, ?_, List.pairwise_singleton ..⟩ <;>
    exact fun f hf => List.mem_singleton.1 hf ▸ by decide

theorem three_targets_reached :
    exampleAnnouncer.Sound ∧ exampleAnnouncement ∈ exampleAnnouncer.flights ∧
      exampleAnnouncement.stage = .launched (.announceDurable (.ofList [2, 3, 4]) exampleNotice) ∧
      Announces exampleAnnouncement (.ofList [2, 3, 4]) exampleNotice 2
        (exampleAnnouncer.onward.after exampleAnswers)
        (exampleAnnouncer.chronicle 0 exampleAnswers) ∧
      (exampleAnnouncer.chronicle 0 exampleAnswers).posted 0 =
        [.complete ⟨1, 1, 1⟩ ⟨.disseminate, 1⟩ (.acknowledged 3),
          .complete ⟨1, 1, 1⟩ ⟨.disseminate, 1⟩ (.acknowledged 4),
          .complete ⟨1, 1, 1⟩ ⟨.disseminate, 1⟩ .roundFinished] ∧
      (exampleAnnouncer.chronicle 0 exampleAnswers).failures = 1 :=
  have launched := List.mem_singleton.2 rfl
  ⟨sound_exampleAnnouncer, launched, rfl,
    announcement_reaches_every_target sound_exampleAnnouncer launched rfl exampleAnswers, rfl, rfl⟩

end Node

end TxnLiveness
