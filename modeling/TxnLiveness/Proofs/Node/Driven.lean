import Mathlib.Logic.Relation
import TxnLiveness.Node.Timeline
/-!
# What time does to a node

However time passes, a timeline does only a few things to its node: it queues audits, runs tasks,
starts remediations, ends calls and gives up what breaks down. Whatever each of these keeps is kept
for as long as the timeline drives the node.
-/

namespace TxnLiveness.Timeline

open Relation (ReflTransGen)

/-- What a timeline can do to its node. -/
inductive Step (topology : Topology) (n : Node) : Node → Prop
  | auditRound : Step topology n n.auditRound.1
  | runNext (i : Nat) (listing : Listing) : Step topology n (n.runNext topology listing i)
  | depart (id : Nat) : Step topology n (n.depart topology id).1
  | answer (id : Nat) (call : Call) (a : Answer) : Step topology n (n.answer id call a).1
  | abandon (id : Nat) : Step topology n (n.abandon id)

variable {σ : Type} {t t' t'' : Timeline σ}

/-- A timeline has gone on from another one. -/
structure Leads (t t' : Timeline σ) : Prop where
  topology : t'.topology = t.topology
  steps : ReflTransGen (Step t.topology) t.node t'.node

theorem Leads.refl (t : Timeline σ) : t.Leads t := ⟨rfl, .refl⟩

theorem Leads.trans (h : t.Leads t') (k : t'.Leads t'') : t.Leads t'' := by
  have steps := k.steps
  rw [h.topology] at steps
  exact ⟨k.topology.trans h.topology, h.steps.trans steps⟩

/-- Whatever else changes, the node has taken one step. -/
theorem Leads.single (ht : t'.topology = t.topology) (step : Step t.topology t.node t'.node) :
    t.Leads t' := ⟨ht, .single step⟩

/-- Whatever changes, the node does not. -/
theorem Leads.of_eq (ht : t'.topology = t.topology) (hn : t'.node = t.node) : t.Leads t' :=
  ⟨ht, hn ▸ .refl⟩

theorem Leads.foldl {α : Type} {f : Timeline σ → α → Timeline σ}
    (h : ∀ (t : Timeline σ) a, t.Leads (f t a)) (t : Timeline σ) (l : List α) :
    t.Leads (l.foldl f t) := by
  induction l generalizing t with
  | nil => exact .refl t
  | cons a l ih => exact (h t a).trans (ih _)

/-! ## Calls -/

theorem leads_makeCall (t : Timeline σ) (flight : Nat) (call : Call) :
    t.Leads (t.makeCall flight call) := by
  unfold makeCall
  dsimp only
  split
  · exact .of_eq rfl rfl
  · exact .single rfl (.abandon flight)

theorem leads_makeCalls (t : Timeline σ) (flight : Nat) (calls : List Call) :
    t.Leads (t.makeCalls flight calls) := by
  refine Leads.foldl (fun t call => ?_) t calls
  split
  · exact leads_makeCall t flight call
  · exact .refl t

theorem leads_finishNext? {flight : Nat} (h : t.finishNext? flight = some t') : t.Leads t' := by
  unfold finishNext? at h
  obtain ⟨p, -, rfl⟩ := Option.map_eq_some_iff.1 h
  refine Leads.trans ?_ (leads_makeCalls _ flight _)
  exact .single rfl (.answer flight p.call (p.finish t.state).1)

theorem leads_finishSome (flight k : Nat) (t : Timeline σ) :
    t.Leads (finishSome flight k t) := by
  induction k generalizing t with
  | zero => exact .refl t
  | succ k ih =>
    rw [finishSome]
    cases h : t.finishNext? flight with
    | none => exact .refl t
    | some t' => exact (leads_finishNext? h).trans (ih t')

theorem leads_resume (t : Timeline σ) (flight : Nat) : t.Leads (t.resume flight) :=
  leads_finishSome flight _ t

theorem leads_departAll (t : Timeline σ) : t.Leads t.departAll := by
  refine Leads.foldl (fun t f => ?_) t _
  split
  · refine (Leads.trans ?_ (leads_makeCalls _ f.id _)).trans (leads_resume _ f.id)
    exact .single rfl (.depart f.id)
  · exact .refl t

theorem leads_finishDue (t : Timeline σ) : t.Leads t.finishDue := Leads.foldl leads_resume t _

/-! ## Tasks -/

theorem steps_drain (topology : Topology) (listing : Listing) (n : Node) :
    ReflTransGen (Step topology) n (n.drain topology listing) := by
  have queued (n : Node) (i : Nat) :
      ReflTransGen (Step topology) n (n.runQueued topology listing i) := by
    unfold Node.runQueued
    generalize (n.stores[i]?.map (·.queue)).getD [] = tasks
    induction tasks generalizing n with
    | nil => exact .refl
    | cons task tasks ih => exact .head (.runNext i listing) (ih _)
  unfold Node.drain
  generalize List.range n.stores.length = places
  induction places generalizing n with
  | nil => exact .refl
  | cons i places ih => exact ((queued n i).trans (queued _ i)).trans (ih _)

theorem leads_runTasks (t : Timeline σ) : t.Leads t.runTasks :=
  have drained : t.Leads { t with node := t.node.drain t.topology .ascending } :=
    ⟨rfl, steps_drain t.topology .ascending t.node⟩
  drained.trans (leads_departAll _)

theorem leads_settle (t : Timeline σ) : t.Leads t.settle :=
  ((leads_runTasks t).trans (leads_runTasks _)).trans (leads_runTasks _)

/-! ## Tickers and time -/

theorem leads_tick (t : Timeline σ) (k : Ticker) : t.Leads (t.tick k).1 := by
  unfold tick
  split
  · exact .refl t
  · split
    · exact .refl t
    · exact .single rfl .auditRound

theorem leads_tickAll (t : Timeline σ) : t.Leads t.tickAll := by
  have begun : t.Leads { t with tickers := [] } := .of_eq rfl rfl
  refine begun.trans (Leads.foldl (fun t k => ?_) _ t.tickers)
  have rest : (t.tick k).1.Leads
      { (t.tick k).1 with tickers := (t.tick k).1.tickers ++ [(t.tick k).2] } := .of_eq rfl rfl
  exact (leads_tick t k).trans rest

theorem leads_startTicker (t : Timeline σ) : t.Leads t.startTicker.1 := by
  unfold startTicker
  refine Leads.trans ?_ (leads_tickAll _)
  exact .of_eq rfl rfl

theorem leads_moveTo (t : Timeline σ) (time : Nat) : t.Leads (t.moveTo time) := by
  have begun : t.Leads { t with now := time } := .of_eq rfl rfl
  have moved := ((begun.trans (leads_tickAll _)).trans (leads_finishDue _)).trans (leads_settle _)
  unfold moveTo
  generalize { t with now := time }.tickAll.finishDue.settle = later at moved ⊢
  exact moved.trans (.of_eq rfl rfl)

theorem leads_advanceTo (t : Timeline σ) (target : Nat) : t.Leads (t.advanceTo target) := by
  induction t using advanceTo.induct target with
  | case1 t h =>
    rw [advanceTo, h]
    exact .of_eq rfl rfl
  | case2 t time h due ih =>
    rw [advanceTo, h]
    simp only [due, and_self, if_true]
    exact (leads_moveTo t time).trans ih
  | case3 t time h late =>
    rw [advanceTo, h]
    simp only [late, if_false]
    exact .of_eq rfl rfl

end TxnLiveness.Timeline
