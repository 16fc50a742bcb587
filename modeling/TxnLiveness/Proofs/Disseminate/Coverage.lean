import TxnLiveness.Proofs.Disseminate.Cases
import TxnLiveness.Proofs.Machine
/-!
# Dissemination is exact

Updates reach the two sets of the tracker at once, or through the queue that the update or audit
that tells the replicas drains. Either way the sets are, at every moment, the replicas once looked
up without those recorded since the tracker's creation.
-/

namespace TxnLiveness.Disseminate

/-- What can be done to a disseminate tracker. -/
inductive Act
  | durableGlobally (cmd : Command) (topology : Topology) (nodes : Option (SortedSet NodeId))
  | durableLocally (node : NodeId)
  | audit (txn : TxnId) (cmd : Command) (topology : Topology)
  | acknowledged (node : NodeId)
  | roundFinished (tag : Tag)

def act (d : Disseminate) : Act → Disseminate
  | .durableGlobally cmd topology nodes => d.durableGlobally cmd topology nodes
  | .durableLocally node => d.durableLocally node
  | .audit txn cmd topology => (d.audit txn cmd topology).1
  | .acknowledged node => (d.acknowledged node).1
  | .roundFinished tag => (d.roundFinished tag).1

/-- The disseminate tracker from its creation on. -/
def machine : Machine Disseminate Act := ⟨{}, act⟩

@[simp] theorem machine_step (d : Disseminate) (a : Act) : machine.step d a = d.act a := rfl

/-- The set of replicas that an act looks up. Both an audit and news of who has persisted the
transaction get the tracker ready, unless it is done. -/
def computedBy (d : Disseminate) : Act → List (SortedSet NodeId)
  | .durableGlobally cmd topology (some _) =>
    if d.status = .done then [] else d.lookedUp cmd topology
  | .audit _ cmd topology => if d.status = .durable then d.lookedUp cmd topology else []
  | _ => []

/-- The replicas that an act records to have persisted the transaction. -/
def persistedBy (d : Disseminate) : Act → List (SortedSet NodeId)
  | .durableGlobally _ _ (some nodes) => if d.status = .done then [] else [nodes]
  | .durableLocally node => if d.status = .done then [] else [.ofList [node]]
  | _ => []

/-- The replica whose acknowledgement an act records. -/
def acknowledgedBy (d : Disseminate) : Act → List NodeId
  | .acknowledged node => if d.status ≠ .done ∧ d.isReady = true then [node] else []
  | _ => []

/-- The sets of replicas looked up in a run. -/
def computedIn (run : List Act) : List (SortedSet NodeId) := machine.collect computedBy run

/-- The sets recorded in a run of replicas that have persisted the transaction, latest first. -/
def persistedSets (run : List Act) : List (SortedSet NodeId) := machine.collect persistedBy run

/-- The replicas in any of the sets. -/
def unionOf (sets : List (SortedSet NodeId)) : SortedSet NodeId :=
  sets.foldr (fun s t => s.union t) ∅

/-- The replicas recorded in a run to have persisted the transaction. -/
def persistedIn (run : List Act) : SortedSet NodeId := unionOf (persistedSets run)

/-- The replicas whose acknowledgement was recorded in a run. -/
def acknowledgedIn (run : List Act) : SortedSet NodeId :=
  .ofList (machine.collect acknowledgedBy run)

@[simp] theorem unionOf_nil : unionOf [] = ∅ := rfl

@[simp] theorem unionOf_cons (s : SortedSet NodeId) (sets : List (SortedSet NodeId)) :
    unionOf (s :: sets) = s.union (unionOf sets) := rfl

/-! ## Who still lacks something -/

/-- Of the replicas `all`, those that lack something after `persisted` have persisted the
transaction and `aware` have acknowledged that it is durable. -/
def lackingOf (all persisted aware : SortedSet NodeId) : Lacking :=
  ⟨all.diff (persisted.union aware), all.diff persisted⟩

variable {all persisted aware nodes : SortedSet NodeId} {node : NodeId}

theorem lackingOf_empty : lackingOf all ∅ ∅ = ⟨all, all⟩ := by
  unfold lackingOf
  congr 1 <;> ext n <;> simp

theorem lackingOf_persisted :
    (lackingOf all persisted aware).persisted nodes =
      lackingOf all (nodes.union persisted) aware := by
  unfold lackingOf Lacking.persisted
  congr 1 <;> ext n <;> simp <;> grind

theorem lackingOf_acknowledged : { lackingOf all persisted aware with
      awareness := (lackingOf all persisted aware).awareness.erase node } =
    lackingOf all persisted (aware.insert node) := by
  have : (all.diff (persisted.union aware)).erase node =
      all.diff (persisted.union (aware.insert node)) := by
    ext n
    simp
    grind
  simp [lackingOf, this]

/-! ## The invariant

A tracker first waits for its replicas to be told and then counts them down.
-/

/-- The tracker cannot tell the replicas and keeps what was recorded, `sets` latest first. -/
structure Waiting (sets : List (SortedSet NodeId)) (d : Disseminate) : Prop where
  lacking : d.lacking = none
  deferred : d.deferred = sets.reverse
  status : d.status ≠ .done

/-- The tracker knows the replicas `all` and which of them lack something. -/
structure Counting (all persisted aware : SortedSet NodeId) (d : Disseminate) : Prop where
  lacking : d.lacking = some (lackingOf all persisted aware)
  deferred : d.deferred = []
  status : d.status ≠ .notExecuted
  of_done : d.status = .done → (lackingOf all persisted aware).awareness = ∅
  done : all ≠ ∅ → (lackingOf all persisted aware).awareness = ∅ → d.status = .done

variable {d : Disseminate} {sets : List (SortedSet NodeId)}

/-- After an update of the set, settling finds out whether the tracker is done. -/
theorem counting_settle (hl : d.lacking = some (lackingOf all persisted aware))
    (hd : d.deferred = []) (hs : d.status ≠ .notExecuted)
    (hdone : d.status = .done → (lackingOf all persisted aware).awareness = ∅) :
    Counting all persisted aware d.settle := by
  obtain ⟨e, hne⟩ | ⟨l, hl', he, e⟩ := d.settle_cases
  · rw [e]
    exact ⟨hl, hd, hs, hdone, fun _ h => absurd h (hne _ hl)⟩
  · rw [e]
    obtain rfl : l = lackingOf all persisted aware := by simpa [hl] using hl'.symm
    exact ⟨hl, hd, by simp, fun _ => he, fun _ _ => rfl⟩

theorem counting_persisted (h : Counting all persisted aware d) :
    Counting all (nodes.union persisted) aware (d.persisted nodes) := by
  have fewer : ∀ n, n ∈ (lackingOf all (nodes.union persisted) aware).awareness →
      n ∈ (lackingOf all persisted aware).awareness := by
    intro n
    simp only [lackingOf, SortedSet.mem_diff, SortedSet.mem_union]
    grind
  simp only [Disseminate.persisted, h.lacking, lackingOf_persisted]
  refine counting_settle rfl h.deferred h.status fun hs => ?_
  ext n
  simpa [h.of_done hs] using fewer n

/-- Draining the queue records what waited in the order in which it was put there. -/
theorem counting_drain (h : Counting all ∅ aware d) :
    Counting all (unionOf sets) aware (sets.reverse.foldl Disseminate.persisted d) := by
  rw [List.foldl_reverse]
  induction sets with
  | nil => exact h
  | cons s sets ih => exact counting_persisted ih

theorem counting_ready (h : Counting all persisted aware d) (cmd : Command) (topology : Topology) :
    d.lookedUp cmd topology = [] ∧ d.ready cmd topology = d := by
  simp [lookedUp, ready, h.lacking]

/-- Getting ready leaves the tracker waiting, or the replicas looked up are counted. -/
theorem waiting_ready (h : Waiting sets d) (hs : d.status = .durable) (cmd : Command)
    (topology : Topology) :
    (d.lookedUp cmd topology = [] ∧ d.ready cmd topology = d) ∨
      ∃ all, d.lookedUp cmd topology = [all] ∧
        Counting all (unionOf sets) ∅ (d.ready cmd topology) := by
  obtain ⟨l, hl, -⟩ | ⟨-, hn, e⟩ | ⟨-, all, hn, e⟩ := d.ready_cases cmd topology
  · simp [h.lacking] at hl
  · exact .inl ⟨hn, e⟩
  · refine .inr ⟨all, hn, ?_⟩
    rw [e, h.deferred]
    refine counting_drain ⟨by rw [lackingOf_empty], rfl, by simp [hs], by simp [hs], ?_⟩
    intro hne he
    exact absurd (by simpa [lackingOf_empty] using he) hne

theorem waiting_durable (h : Waiting sets d) :
    Waiting sets { d with status := .durable, progress := .expected } :=
  ⟨h.lacking, h.deferred, by simp⟩

theorem counting_durable (h : Counting all persisted aware d) (hs : d.status ≠ .done) :
    Counting all persisted aware { d with status := .durable, progress := .expected } :=
  ⟨h.lacking, h.deferred, by simp, by simp, fun hne he => absurd (h.done hne he) hs⟩

theorem waiting_persistedWhenReady (h : Waiting sets d) :
    Waiting (nodes :: sets) (d.persistedWhenReady nodes) := by
  have e : d.persistedWhenReady nodes = { d with deferred := d.deferred ++ [nodes] } := by
    simp [persistedWhenReady, isReady, h.lacking]
  rw [e]
  exact ⟨h.lacking, by simp [h.deferred], h.status⟩

theorem counting_persistedWhenReady (h : Counting all persisted aware d) :
    Counting all (nodes.union persisted) aware (d.persistedWhenReady nodes) := by
  have e : d.persistedWhenReady nodes = d.persisted nodes := by
    simp [persistedWhenReady, isReady, h.lacking]
  rw [e]
  exact counting_persisted h

theorem counting_acknowledged (h : Counting all persisted aware d) (hs : d.status ≠ .done) :
    Counting all persisted (aware.insert node) (d.acknowledged node).1 := by
  obtain ⟨hn, -⟩ | ⟨-, l, hl, e⟩ := d.acknowledged_cases node
  · simp [hs, h.lacking] at hn
  · rw [e]
    obtain rfl : l = lackingOf all persisted aware := by simpa [h.lacking] using hl.symm
    dsimp only
    refine counting_settle ?_ h.deferred h.status fun hd => absurd hd hs
    rw [lackingOf_acknowledged]

/-- After getting ready an audit changes neither the sets nor, without need, the status. -/
theorem counting_audit {txn : TxnId} {cmd : Command} {topology : Topology}
    (hs : d.status = .durable)
    (h : Counting all persisted aware (d.ready cmd topology)) :
    Counting all persisted aware (d.audit txn cmd topology).1 := by
  obtain ⟨hd, -⟩ | ⟨-, _, rfl, ⟨hn, -⟩ | ⟨l, hl, hcases⟩⟩ := d.audit_cases txn cmd topology
  · exact absurd hs hd
  · simp [h.lacking] at hn
  · obtain rfl : l = lackingOf all persisted aware := by simpa [h.lacking] using hl.symm
    obtain ⟨-, e⟩ | ⟨-, he, e⟩ | ⟨-, -, _, e⟩ | ⟨-, -, _, _, -, -, e⟩ := hcases <;> rw [e]
    · exact ⟨h.lacking, h.deferred, h.status, h.of_done, h.done⟩
    · exact ⟨h.lacking, h.deferred, by simp, fun _ => he, fun _ _ => rfl⟩
    · exact ⟨h.lacking, h.deferred, h.status, h.of_done, h.done⟩
    · exact ⟨h.lacking, h.deferred, h.status, h.of_done, h.done⟩

/-! ## One act -/

theorem waiting_act (h : Waiting sets d) (a : Act) :
    d.acknowledgedBy a = [] ∧
      ((d.computedBy a = [] ∧ Waiting (d.persistedBy a ++ sets) (d.act a)) ∨
        ∃ all, d.computedBy a = [all] ∧
          Counting all (unionOf (d.persistedBy a ++ sets)) ∅ (d.act a)) := by
  cases a with
  | durableGlobally cmd topology nodes =>
    refine ⟨rfl, ?_⟩
    obtain ⟨hs, -⟩ | ⟨-, rfl, e⟩ | ⟨hs, set, rfl, e⟩ := d.durableGlobally_cases cmd topology nodes
    · exact absurd hs h.status
    · exact .inl ⟨rfl, by simpa [persistedBy, act, e] using waiting_durable h⟩
    · simp only [computedBy, persistedBy, act, e, if_neg hs]
      rcases waiting_ready (waiting_durable h) rfl cmd topology with
        ⟨hn, e⟩ | ⟨all, hn, hc⟩
      · rw [e]
        exact .inl ⟨hn, waiting_persistedWhenReady (waiting_durable h)⟩
      · exact .inr ⟨all, hn, counting_persistedWhenReady hc⟩
  | durableLocally node =>
    refine ⟨rfl, .inl ⟨rfl, ?_⟩⟩
    obtain ⟨hs, -⟩ | ⟨hs, e⟩ := d.durableLocally_cases node
    · exact absurd hs h.status
    · simp only [persistedBy, act, e, if_neg hs]
      exact waiting_persistedWhenReady (waiting_durable h)
  | audit txn cmd topology =>
    refine ⟨rfl, ?_⟩
    by_cases hs : d.status = .durable
    · simp only [computedBy, persistedBy, act, if_pos hs]
      obtain ⟨hn, e⟩ | ⟨all, hn, hc⟩ := waiting_ready h hs cmd topology
      · refine .inl ⟨hn, ?_⟩
        obtain ⟨hd, -⟩ | ⟨-, _, rfl, ⟨-, e'⟩ | ⟨l, hl, -⟩⟩ := d.audit_cases txn cmd topology
        · exact absurd hs hd
        · rw [e', e]
          exact h
        · simp [e, h.lacking] at hl
      · exact .inr ⟨all, hn, counting_audit hs hc⟩
    · obtain ⟨-, e⟩ | ⟨hd, -⟩ := d.audit_cases txn cmd topology
      · exact .inl ⟨if_neg hs, by simpa [persistedBy, act, e] using h⟩
      · exact absurd hd hs
  | acknowledged node =>
    refine ⟨by simp [acknowledgedBy, isReady, h.lacking], .inl ⟨rfl, ?_⟩⟩
    obtain ⟨-, e⟩ | ⟨-, l, hl, -⟩ := d.acknowledged_cases node
    · simpa [persistedBy, act, e] using h
    · simp [h.lacking] at hl
  | roundFinished tag =>
    refine ⟨rfl, .inl ⟨rfl, ?_⟩⟩
    obtain ⟨-, e⟩ | ⟨-, -, e⟩ := d.roundFinished_cases tag
    · simpa [persistedBy, act, e] using h
    · simp only [persistedBy, act, e]
      exact ⟨h.lacking, h.deferred, h.status⟩

theorem counting_act {acks : List NodeId} (h : Counting all (unionOf sets) (.ofList acks) d)
    (a : Act) :
    d.computedBy a = [] ∧ Counting all (unionOf (d.persistedBy a ++ sets))
      (.ofList (d.acknowledgedBy a ++ acks)) (d.act a) := by
  cases a with
  | durableGlobally cmd topology nodes =>
    rcases d.durableGlobally_cases cmd topology nodes with
      ⟨hs, e⟩ | ⟨hs, rfl, e⟩ | ⟨hs, set, rfl, e⟩
    · cases nodes <;>
        simpa [computedBy, persistedBy, acknowledgedBy, act, e, hs] using h
    · exact ⟨rfl, by simpa [persistedBy, acknowledgedBy, act, e] using counting_durable h hs⟩
    · have hd := counting_durable h hs
      obtain ⟨hn, hr⟩ := counting_ready hd cmd topology
      simp only [computedBy, persistedBy, act, e, if_neg hs, hr]
      exact ⟨hn, counting_persistedWhenReady hd⟩
  | durableLocally node =>
    refine ⟨rfl, ?_⟩
    obtain ⟨hs, e⟩ | ⟨hs, e⟩ := d.durableLocally_cases node
    · simpa [persistedBy, acknowledgedBy, act, e, hs] using h
    · simp only [persistedBy, act, e, if_neg hs]
      exact counting_persistedWhenReady (counting_durable h hs)
  | audit txn cmd topology =>
    obtain ⟨hn, hr⟩ := counting_ready h cmd topology
    by_cases hs : d.status = .durable
    · exact ⟨by simp only [computedBy, if_pos hs, hn], counting_audit hs (by rwa [hr])⟩
    · obtain ⟨-, e⟩ | ⟨hd, -⟩ := d.audit_cases txn cmd topology
      · exact ⟨if_neg hs, by simpa [persistedBy, acknowledgedBy, act, e] using h⟩
      · exact absurd hd hs
  | acknowledged node =>
    refine ⟨rfl, ?_⟩
    by_cases hs : d.status = .done
    · obtain ⟨-, e⟩ | ⟨hd, -⟩ := d.acknowledged_cases node
      · simpa [persistedBy, acknowledgedBy, act, e, hs] using h
      · exact absurd hs hd
    · have e : SortedSet.ofList (node :: acks) = (SortedSet.ofList acks).insert node := by
        ext n
        simp
      simpa [persistedBy, acknowledgedBy, act, hs, isReady, h.lacking, e] using
        counting_acknowledged h hs
  | roundFinished tag =>
    refine ⟨rfl, ?_⟩
    obtain ⟨-, e⟩ | ⟨-, -, e⟩ := d.roundFinished_cases tag
    · simpa [persistedBy, acknowledgedBy, act, e] using h
    · simp only [act, e]
      exact ⟨h.lacking, h.deferred, h.status, h.of_done, h.done⟩

/-! ## Whole runs -/

/-- What every run keeps, from the replicas looked up to the sets. -/
inductive Coverage (run : List Act) : Prop
  | waiting (computed : computedIn run = []) (acknowledged : acknowledgedIn run = ∅)
      (state : Waiting (persistedSets run) (machine.after run))
  | counting (all : SortedSet NodeId) (computed : computedIn run = [all])
      (state : Counting all (persistedIn run) (acknowledgedIn run) (machine.after run))

theorem coverage (run : List Act) : Coverage run := by
  induction run with
  | nil => exact .waiting rfl rfl ⟨rfl, rfl, by decide⟩
  | cons a past ih =>
    cases ih with
    | waiting computed acknowledged state =>
      obtain ⟨hn, hact⟩ := waiting_act state a
      have hacks : acknowledgedIn (a :: past) = ∅ := by
        rw [← acknowledged]
        simp [acknowledgedIn, hn]
      obtain ⟨hc, hw⟩ | ⟨all, hc, hc'⟩ := hact
      · exact .waiting (by simpa [computedIn, hc] using computed) hacks hw
      · refine .counting all (by simpa [computedIn, hc] using computed) ?_
        rw [hacks]
        exact hc'
    | counting all computed state =>
      obtain ⟨hc, hact⟩ := counting_act state a
      exact .counting all (by simpa [computedIn, hc] using computed) hact

/-- The plan of an audit names exactly the replicas that the audit leaves unaware. -/
theorem audit_announces (d : Disseminate) (txn : TxnId) (cmd : Command) (topology : Topology)
    (dispatch : Dispatch) (h : (d.audit txn cmd topology).2 = .ok (some dispatch)) :
    ∃ l notice, (d.audit txn cmd topology).1.lacking = some l ∧ l.awareness ≠ ∅ ∧
      dispatch.remediation = .announceDurable l.awareness notice := by
  obtain ⟨-, e⟩ | ⟨-, _, rfl, ⟨-, e⟩ | ⟨l, hl, hcases⟩⟩ := d.audit_cases txn cmd topology
  · simp [e] at h
  · simp [e] at h
  · obtain ⟨-, e⟩ | ⟨-, -, e⟩ | ⟨-, -, _, e⟩ | ⟨-, hne, route, time, -, -, e⟩ := hcases
    · simp [e] at h
    · simp [e] at h
    · simp [e] at h
    · simp only [e, Except.ok.injEq, Option.some.injEq] at h ⊢
      exact ⟨l, ⟨txn, route, time, .durable⟩, hl, hne, by rw [← h]⟩

/-- The replicas are looked up at most once, and from then on the two sets are those replicas
without the ones recorded, whenever they were recorded. The tracker is done only when nobody is
unaware, at once if there ever was anybody, and each round is for exactly the unaware. -/
theorem dissemination_exact (run : List Act) :
    (computedIn run).length ≤ 1 ∧
      ((machine.after run).isReady = true ↔ computedIn run ≠ []) ∧
      (∀ all ∈ computedIn run, ∃ l, (machine.after run).lacking = some l ∧
        l.outcome = all.diff (persistedIn run) ∧
        l.awareness = all.diff ((persistedIn run).union (acknowledgedIn run)) ∧
        (machine.after run).deferred = [] ∧
        (machine.after run).status ≠ .notExecuted ∧
        (all ≠ ∅ → l.awareness = ∅ → (machine.after run).status = .done)) ∧
      ((machine.after run).status = .done →
        ∃ l, (machine.after run).lacking = some l ∧ l.awareness = ∅) ∧
      ∀ txn cmd topology dispatch,
        ((machine.after run).audit txn cmd topology).2 = .ok (some dispatch) →
          ∃ l notice, ((machine.after run).audit txn cmd topology).1.lacking = some l ∧
            l.awareness ≠ ∅ ∧ dispatch.remediation = .announceDurable l.awareness notice := by
  have announces := audit_announces (machine.after run)
  cases coverage run with
  | waiting computed acknowledged state =>
    refine ⟨by simp [computed], by simp [isReady, state.lacking, computed], by simp [computed], ?_,
      announces⟩
    exact fun hs => absurd hs state.status
  | counting all computed state =>
    refine ⟨by simp [computed], by simp [isReady, state.lacking, computed], ?_, ?_, announces⟩
    · intro all' hall
      obtain rfl : all' = all := by simpa [computed] using hall
      exact ⟨_, state.lacking, rfl, rfl, state.deferred, state.status, state.done⟩
    · exact fun hs => ⟨_, state.lacking, state.of_done hs⟩

end TxnLiveness.Disseminate
