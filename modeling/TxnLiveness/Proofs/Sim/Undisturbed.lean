import TxnLiveness.Proofs.Shard.Independence
import TxnLiveness.Proofs.Sim.Stalled
import TxnLiveness.Sim.Run
/-!
# Simulations are undisturbed

A simulation starts from a node whose stores have nothing to do but to set up their stalled
transactions. Whatever chance then makes of the calls, and however long each takes, nothing fails on
the node and every store goes on tracking just those transactions.
-/

namespace TxnLiveness

open Relation (ReflTransGen)

namespace Sim

variable {n : Node} {o : Options} {s : Settings}

/-! ## The loaded node -/

/-- A store that has its stalled transactions still to set up. -/
def loadedStore (txns : Nat) (shard : ShardId) : Store where
  replica := { log := { shard, node := localNode } }
  queue := (List.range txns).map fun i => .work (stall shard i) .returned

/-- The node of a simulation before any of its tasks has run. -/
def loaded (o : Options) (s : Settings) : Node :=
  (List.range o.shards).foldl (addShard o.txns) { id := localNode, fanout := s.fanout }

/-- Tasks for the last store come to the end of its queue in their order. -/
theorem foldl_enqueue {before : List Store} {last : Store} (hs : n.stores = before ++ [last])
    (f : Nat → Task) (l : List Nat) :
    l.foldl (fun n k => n.enqueue before.length (f k)) n =
      { n with stores := before ++ [{ last with queue := last.queue ++ l.map f }] } := by
  induction l generalizing n last with
  | nil => simp [← hs]
  | cons k l ih =>
    have first : n.enqueue before.length (f k) =
        { n with stores := before ++ [{ last with queue := last.queue ++ [f k] }] } := by
      simp [Node.enqueue, Node.modifyStore, hs, List.modify_eq_take_cons_drop]
    rw [List.foldl_cons, first, ih rfl]
    simp

theorem addShard_eq (hid : n.id = localNode) {shard : ShardId}
    (fresh : ∀ t ∈ n.stores, t.shard ≠ shard) (txns : Nat) :
    addShard txns n shard =
      { n with
        stores := n.stores ++ [loadedStore txns shard]
        registry := n.registry ++ [n.stores.length] } := by
  have vacant : n.held? shard = none :=
    List.findIdx?_eq_none_iff.2 fun t ht => by simp [fresh t ht]
  simp only [addShard, Node.spawn, vacant, Option.map_none, Option.getD_none]
  rw [foldl_enqueue rfl]
  simp [Node.register, Node.addStore, loadedStore, hid]

theorem loaded_eq (o : Options) (s : Settings) :
    loaded o s =
      { id := localNode
        fanout := s.fanout
        stores := (List.range o.shards).map (loadedStore o.txns)
        registry := List.range o.shards } := by
  unfold loaded
  generalize o.shards = shards
  induction shards with
  | zero => rfl
  | succ shards ih =>
    have fresh : ∀ t ∈ (List.range shards).map (loadedStore o.txns), t.shard ≠ shards := by
      intro t ht
      obtain ⟨shard, hshard, rfl⟩ := List.mem_map.1 ht
      exact Nat.ne_of_lt (List.mem_range.1 hshard)
    rw [List.range_succ, List.foldl_append, ih, List.foldl_cons, List.foldl_nil,
      addShard_eq rfl fresh]
    simp

/-! ## The loaded node is untroubled -/

/-- A fresh replica has not come to track anything. -/
theorem fresh_equipped (shard : ShardId) :
    ({ log := { shard, node := localNode } } : Replica).Equipped :=
  ⟨fun _ _ h => (nomatch h), fun txn => TxnState.fresh_equippedBy txn _⟩

/-- Every store of the loaded node is about to track its stalled transactions. -/
theorem exists_prepared (topology : Topology) (txns : Nat) (shard : ShardId) :
    ∃ log, (loadedStore txns shard).Prepared topology log txns ∧ log.shard = shard ∧
      ∀ x, (log.get? x).isSome = decide (x ∈ (List.range txns).map (stalledTxn shard)) := by
  obtain ⟨log, prepares, same, tracked⟩ := exists_prepares topology shard (List.range txns)
    List.nodup_range (fresh_equipped shard) fun _ _ => rfl
  have prepared : (loadedStore txns shard).Prepared topology log txns :=
    ⟨(List.range txns).map (stall shard), [], by simp, by simp [loadedStore], by simp, prepares⟩
  refine ⟨log, prepared, same, fun x => ?_⟩
  rw [tracked]
  exact Bool.or_false _

theorem untroubled_loaded {topology : Topology} {logs : ShardId → ShardLog}
    (h : ∀ shard, (loadedStore o.txns shard).Prepared topology (logs shard) o.txns) :
    (loaded o s).Untroubled topology logs fun _ => o.txns := by
  have stored (i : Nat) (t : Store)
      (ht : ((List.range o.shards).map (loadedStore o.txns))[i]? = some t) :
      t = loadedStore o.txns i := by
    simp only [List.getElem?_map, Option.map_eq_some_iff] at ht
    obtain ⟨shard, place, rfl⟩ := ht
    obtain ⟨_, rfl⟩ := List.getElem?_eq_some_iff.1 place
    rw [List.getElem_range]
  -- Every queued task is work of the user.
  have working (i : Nat) (task : Task) (ht : task ∈ (loadedStore o.txns i).queue) :
      ∃ edits, task = .work edits .returned := by
    obtain ⟨k, -, rfl⟩ := List.mem_map.1 ht
    exact ⟨_, rfl⟩
  rw [loaded_eq]
  constructor
  case sound =>
    refine ⟨fun i t ht => ?_, by simp, by simp, by simp, by simp⟩
    obtain rfl := stored i t ht
    refine ⟨rfl, fun _ _ h => (nomatch h), fun task ht => ?_⟩
    obtain ⟨edits, rfl⟩ := working i task ht
    rfl
  case sourced =>
    intro i t ht
    obtain rfl := stored i t ht
    refine ⟨i, localNode, [], rfl, by simp, fun task ht => ?_⟩
    obtain ⟨edits, rfl⟩ := working i task ht
    trivial
  case stores =>
    intro i t ht
    obtain rfl := stored i t ht
    exact h i
  case reports => rfl
  case uncaught => rfl

/-! ## What a simulation goes through -/

section Time

variable {σ : Type} {roll : Roll σ} {dice : σ}

theorem start_node (roll : Roll σ) (dice : σ) (o : Options) (s : Settings) :
    (start roll dice o s).node = (loaded o s).drain (topology o.nodes) .ascending := rfl

theorem leads_runBefore (t : Timeline σ) (stop : Nat) : t.Leads (runBefore t stop) := by
  unfold runBefore
  split
  · exact .refl t
  · exact ((Timeline.leads_startTicker t).trans (Timeline.leads_settle _)).trans
      (Timeline.leads_advanceTo _ _)

theorem leads_wrapUp (t : Timeline σ) (stop : Nat) : t.Leads (wrapUp t stop) := by
  have stopped : t.Leads { t with now := stop, tickers := [] } := .of_eq rfl rfl
  exact (stopped.trans (Timeline.leads_finishDue _)).trans (Timeline.leads_settle _)

/-- A report is drawn up from what the timeline has come to just before the time is up and from what
it has come to in the end. When the time is up does not matter. -/
theorem exists_simulate_eq (roll : Roll σ) (dice : σ) (o : Options) (s : Settings) (seed : Nat) :
    ∃ stop, simulate roll dice o s seed =
      { options := o, settings := s, seed
        counters := (wrapUp (runBefore (start roll dice o s) stop) stop).node.counters
        logs :=
          ((runBefore (start roll dice o s) stop).node.stores.map (·.replica.log)).take 1 ++
            ((wrapUp (runBefore (start roll dice o s) stop) stop).node.stores.map
              (·.replica.log)).drop 1 } :=
  ⟨_, rfl⟩

end Time

/-- Of two transactions that one node proposed in one epoch, the earlier one comes first. -/
theorem compare_of_earlier {e : Epoch} {node : NodeId} {earlier later : Nat} (h : earlier < later) :
    compare (⟨e, earlier, node⟩ : TxnId) ⟨e, later, node⟩ = .lt := by
  change TxnId.cmp _ _ = .lt
  simp [TxnId.cmp, compareLex, compareOn, Nat.compare_eq_lt, h]

/-- The stalled transactions come in the order in which they are set up. -/
theorem ascending_stalled (shard txns : Nat) :
    ((List.range txns).map (stalledTxn shard)).Pairwise (compare · · = .lt) := by
  refine List.pairwise_map.2 (List.pairwise_lt_range.imp fun {i j} h => ?_)
  have later : shard * 1_000_000 + i + 1 < shard * 1_000_000 + j + 1 :=
    Nat.succ_lt_succ (Nat.add_lt_add_left h _)
  exact compare_of_earlier later

/-- A log that tracks just the stalled transactions of a shard shows them, each once. -/
theorem shown_eq_stalled {log : ShardLog} (sound : log.Sound) {shard txns : Nat}
    (tracked : ∀ x, (log.get? x).isSome =
      decide (x ∈ (List.range txns).map (stalledTxn shard))) :
    log.shown = (List.range txns).map (stalledTxn shard) := by
  rw [ShardLog.shown_eq_txns sound]
  refine SortedSet.eq_of_ascending (SortedMap.ascending_keys _) (ascending_stalled shard txns)
    fun x => ?_
  have listed : x ∈ log.txns ↔ (log.get? x).isSome = true := SortedMap.mem_keys_iff
  rw [listed, tracked, decide_eq_true_iff]

/-! ## Undisturbed simulations -/

/-- Nothing has failed on the node so far, and nothing that is next in a queue will. -/
structure Faultless (topology : Topology) (n : Node) : Prop where
  reports : n.reports = []
  uncaught : n.counters.uncaughtErrors = 0
  succeeds : ∀ (i : Nat) (t : Store) (task : Task) (queue : List Task), n.stores[i]? = some t →
    t.queue = task :: queue → task.Succeeds topology t.replica

/-- What a simulation goes through, from the loaded node to its report. Chance is whatever `roll`
makes of `dice`, and any options and settings will do. -/
structure Undisturbed {σ : Type} (roll : Roll σ) (dice : σ) (o : Options) (s : Settings)
    (seed : Nat) : Prop where
  /-- Whatever a timeline does to the loaded node, and in whatever order, nothing fails. -/
  throughout : ∀ n, ReflTransGen (Timeline.Step (topology o.nodes)) (loaded o s) n →
    Faultless (topology o.nodes) n
  /-- A simulation is one such course of things: transactions are set up, audits go on until the
  time is up, and the calls that are due then still end. -/
  starts : ReflTransGen (Timeline.Step (topology o.nodes)) (loaded o s) (start roll dice o s).node
  audits : ∀ stop, (start roll dice o s).Leads (runBefore (start roll dice o s) stop)
  ends : ∀ stop, (runBefore (start roll dice o s) stop).Leads
    (wrapUp (runBefore (start roll dice o s) stop) stop)
  uncaught : (simulate roll dice o s seed).counters.uncaughtErrors = 0
  /-- In the end every shard shows just the stalled transactions that were set up on it. -/
  shown : (simulate roll dice o s seed).logs.map (fun log => (log.shard, log.shown)) =
    (List.range o.shards).map fun shard => (shard, (List.range o.txns).map (stalledTxn shard))

/-- What the stores of an untroubled node show once no work is left. -/
theorem shown_of_untroubled {topology : Topology} {logs : ShardId → ShardLog} {txns : Nat}
    (h : n.Untroubled topology logs fun _ => 0)
    (tracked : ∀ shard, (logs shard).shard = shard ∧ ∀ x, ((logs shard).get? x).isSome =
      decide (x ∈ (List.range txns).map (stalledTxn shard))) :
    (n.stores.map (·.replica.log)).map (fun log => (log.shard, log.shown)) =
      (List.range n.stores.length).map fun shard =>
        (shard, (List.range txns).map (stalledTxn shard)) := by
  refine List.ext_getElem (by simp) fun i hi _ => ?_
  have hi : i < n.stores.length := by simpa using hi
  have hs : n.stores[i]? = some n.stores[i] := List.getElem?_eq_getElem hi
  obtain ⟨-, same⟩ := (h.stores i _ hs).equipped
  have shard := same.shard.trans (tracked i).1
  have shown := shown_eq_stalled (h.sound.stores i _ hs).log fun x =>
    (same.tracked x).trans ((tracked i).2 x)
  simp only [List.getElem_map, List.getElem_range, shard, shown]

theorem simulation_undisturbed {σ : Type} (roll : Roll σ) (dice : σ) (o : Options) (s : Settings)
    (seed : Nat) : Undisturbed roll dice o s seed := by
  obtain ⟨logs, h⟩ := Classical.axiomOfChoice (exists_prepared (topology o.nodes) o.txns)
  have begun : (loaded o s).Untroubled (topology o.nodes) logs fun _ => o.txns :=
    untroubled_loaded fun shard => (h shard).1
  have starts : ReflTransGen (Timeline.Step (topology o.nodes)) (loaded o s)
      (start roll dice o s).node := by
    rw [start_node]
    exact Timeline.steps_drain _ _ _
  -- Once the transactions are set up there is no work left.
  have started : (start roll dice o s).node.Untroubled (topology o.nodes) logs fun _ => 0 := by
    rw [start_node]
    exact begun.drain .ascending
  have length : (start roll dice o s).node.stores.length = o.shards := by
    rw [(begun.steps starts).2, loaded_eq]
    simp
  have later {t : Timeline σ} (leads : (start roll dice o s).Leads t) :
      t.node.Untroubled (topology o.nodes) logs (fun _ => 0) ∧
        (t.node.stores.map (·.replica.log)).map (fun log => (log.shard, log.shown)) =
          (List.range o.shards).map fun shard =>
            (shard, (List.range o.txns).map (stalledTxn shard)) := by
    obtain ⟨untroubled, same⟩ := started.steps leads.steps
    have shown := shown_of_untroubled untroubled fun shard => (h shard).2
    rw [same, length] at shown
    exact ⟨untroubled, shown⟩
  have audits (stop : Nat) := leads_runBefore (start roll dice o s) stop
  have ends (stop : Nat) := leads_wrapUp (runBefore (start roll dice o s) stop) stop
  obtain ⟨stop, report⟩ := exists_simulate_eq roll dice o s seed
  obtain ⟨-, shown⟩ := later (audits stop)
  obtain ⟨ended, shown'⟩ := later ((audits stop).trans (ends stop))
  constructor
  case throughout =>
    intro n steps
    have untroubled := (begun.steps steps).1
    exact ⟨untroubled.reports, untroubled.uncaught, fun i t task queue => untroubled.succeeds⟩
  case starts => exact starts
  case audits => exact audits
  case ends => exact ends
  case uncaught =>
    simpa only [report] using ended.uncaught
  case shown =>
    rw [report, List.map_append, List.map_take, List.map_drop, shown, shown', List.take_append_drop]

end Sim

end TxnLiveness
