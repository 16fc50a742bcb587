import TxnLiveness.Tracker.Disseminate
/-!
# What the disseminate tracker's operations can do

The operations share three steps: telling who is to be informed, recording who has persisted and
settling. Each step has one statement of its outcomes, and so has each operation built from them.
-/

namespace TxnLiveness.Disseminate

/-- The set of replicas that `ready` looks up. Once they are known nobody looks again. -/
def lookedUp (d : Disseminate) (cmd : Command) (topology : Topology) : List (SortedSet NodeId) :=
  match d.lacking with
  | some _ => []
  | none => (replicas? cmd topology).toList

/-- Getting ready finds the replicas known, cannot tell them yet, or looks them up. -/
theorem ready_cases (d : Disseminate) (cmd : Command) (topology : Topology) :
    (∃ l, d.lacking = some l ∧ d.lookedUp cmd topology = [] ∧ d.ready cmd topology = d) ∨
      (d.lacking = none ∧ d.lookedUp cmd topology = [] ∧ d.ready cmd topology = d) ∨
      (d.lacking = none ∧ ∃ nodes, d.lookedUp cmd topology = [nodes] ∧ d.ready cmd topology =
        d.deferred.foldl persisted { d with lacking := some ⟨nodes, nodes⟩, deferred := [] }) := by
  unfold ready lookedUp
  cases hl : d.lacking with
  | some l => simp
  | none => cases hr : replicas? cmd topology <;> simp

/-- Settling finishes the tracker where nobody is unaware and does nothing else. -/
theorem settle_cases (d : Disseminate) :
    (d.settle = d ∧ ∀ l, d.lacking = some l → l.awareness ≠ ∅) ∨
      (∃ l, d.lacking = some l ∧ l.awareness = ∅ ∧
        d.settle = { d with status := .done, progress := .done }) := by
  unfold settle
  cases hl : d.lacking with
  | none => simp
  | some l =>
    by_cases he : l.awareness = ∅
    · exact .inr ⟨l, rfl, he, by simp [he]⟩
    · refine .inl ⟨by simp [he], ?_⟩
      rintro _ ⟨⟩
      exact he

/-- Global durability is news unless the tracker is done, and counts for `nodes` where given. -/
theorem durableGlobally_cases (d : Disseminate) (cmd : Command) (topology : Topology)
    (nodes : Option (SortedSet NodeId)) :
    (d.status = .done ∧ d.durableGlobally cmd topology nodes = d) ∨
      (d.status ≠ .done ∧ nodes = none ∧ d.durableGlobally cmd topology nodes =
        { d with status := .durable, progress := .expected }) ∨
      (d.status ≠ .done ∧ ∃ set, nodes = some set ∧ d.durableGlobally cmd topology nodes =
        (({ d with status := .durable, progress := .expected } : Disseminate).ready
          cmd topology).persistedWhenReady set) := by
  unfold durableGlobally
  by_cases hs : d.status = .done
  · simp [hs]
  · cases nodes <;> simp [hs]

theorem durableLocally_cases (d : Disseminate) (node : NodeId) :
    (d.status = .done ∧ d.durableLocally node = d) ∨
      (d.status ≠ .done ∧ d.durableLocally node =
        ({ d with status := .durable, progress := .expected } : Disseminate).persistedWhenReady
          (.ofList [node])) := by
  unfold durableLocally
  by_cases hs : d.status = .done <;> simp [hs]

/-- An audit has nothing to do unless the outcome is durable. It then gets ready, and if it knows
the replicas, waits, finds nobody unaware, fails for want of a route or a time, or plans to tell
exactly those that are unaware. -/
theorem audit_cases (d : Disseminate) (txn : TxnId) (cmd : Command) (topology : Topology) :
    (d.status ≠ .durable ∧ d.audit txn cmd topology = (d, .ok none)) ∨
      (d.status = .durable ∧ ∃ r, r = d.ready cmd topology ∧
        ((r.lacking = none ∧ d.audit txn cmd topology = (r, .ok none)) ∨
          ∃ l, r.lacking = some l ∧
            ((r.progress ≠ .noProgress ∧ d.audit txn cmd topology =
                ({ r with progress := r.progress.advance }, .ok none)) ∨
              (r.progress = .noProgress ∧ l.awareness = ∅ ∧ d.audit txn cmd topology =
                ({ r with status := .done, progress := .done }, .ok none)) ∨
              (r.progress = .noProgress ∧ l.awareness ≠ ∅ ∧ ∃ fault, d.audit txn cmd topology =
                ({ r with progress := .investigating }, .error fault)) ∨
              (r.progress = .noProgress ∧ l.awareness ≠ ∅ ∧
                ∃ route time, cmd.route = some route ∧ cmd.executeAt = some time ∧
                  d.audit txn cmd topology =
                    ({ r with progress := .investigating, generation := r.generation + 1 },
                      .ok (some ⟨txn, ⟨.disseminate, r.generation + 1⟩,
                        .announceDurable l.awareness ⟨txn, route, time, .durable⟩⟩)))))) := by
  unfold audit
  by_cases hs : d.status = .durable
  · refine .inr ⟨hs, d.ready cmd topology, rfl, ?_⟩
    cases hl : (d.ready cmd topology).lacking with
    | none => simp [hs, hl]
    | some l =>
      refine .inr ⟨l, rfl, ?_⟩
      by_cases hp : (d.ready cmd topology).progress = .noProgress
      · by_cases he : l.awareness = ∅
        · simp [hs, hl, hp, he]
        · cases hr : cmd.route <;> cases ht : cmd.executeAt <;> simp [hs, hl, hp, he]
      · simp [hs, hl, hp]
  · simp [hs]

theorem acknowledged_cases (d : Disseminate) (node : NodeId) :
    ((d.status = .done ∨ d.lacking = none) ∧ d.acknowledged node = (d, .stale)) ∨
      (d.status ≠ .done ∧ ∃ l, d.lacking = some l ∧ d.acknowledged node =
        (({ d with
            lacking := some { l with awareness := l.awareness.erase node } } : Disseminate).settle,
          .resolved ())) := by
  unfold acknowledged
  by_cases hs : d.status = .done
  · simp [hs]
  · cases hl : d.lacking <;> simp [hs]

theorem roundFinished_cases (d : Disseminate) (tag : Tag) :
    (¬ (d.progress = .investigating ∧ d.generation = tag.generation) ∧
        d.roundFinished tag = (d, .stale)) ∨
      (d.progress = .investigating ∧ d.generation = tag.generation ∧
        d.roundFinished tag = ({ d with progress := .expected }, .resolved ())) := by
  unfold roundFinished
  by_cases h : d.progress = .investigating ∧ d.generation = tag.generation
  · exact .inr ⟨h.1, h.2, if_pos h⟩
  · exact .inl ⟨h, if_neg h⟩

end TxnLiveness.Disseminate
