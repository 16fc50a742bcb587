import TxnLiveness.Proofs.Blocking.Cases
import TxnLiveness.Proofs.Coordinate.Cases
import TxnLiveness.Proofs.Delegation.Cases
import TxnLiveness.Proofs.Disseminate.Cases
import TxnLiveness.Proofs.Investigation.Kind
import TxnLiveness.TxnState
/-!
# Investigations

All four trackers investigate in one way: an escalation raises them to investigating, gives the
investigation the next generation, and dispatches a remediation under it. A probe is what of a
tracker decides which completions it accepts, and each operation is described by what it can do to
the probe.
-/

namespace TxnLiveness

/-- Whether a tracker investigates, and its generation. -/
structure Probe where
  investigating : Bool := false
  generation : Nat := 0
deriving DecidableEq

namespace Probe

/-- Whether an investigation is under way to which the tag belongs. -/
def answers (p : Probe) (tag : Tag) : Bool := p.investigating && p.generation = tag.generation

theorem answers_iff {p : Probe} {tag : Tag} :
    p.answers tag = true ↔ p.investigating = true ∧ p.generation = tag.generation := by
  simp [answers]

theorem answers_eq_false {p : Probe} {tag : Tag}
    (h : ¬ (p.investigating = true ∧ p.generation = tag.generation)) : p.answers tag = false := by
  rwa [← Bool.not_eq_true, answers_iff]

/-! ## Kinds of change -/

/-- No investigation begins. One that is under way may end. -/
structure Calm (p q : Probe) : Prop where
  generation : q.generation = p.generation
  investigating : q.investigating = true → p.investigating = true

/-- The tracker investigates under the generation it had. -/
structure Told (p q : Probe) : Prop where
  generation : q.generation = p.generation
  investigating : q.investigating = true

theorem Calm.refl (p : Probe) : Calm p p := ⟨rfl, id⟩

theorem Calm.of_eq {p q : Probe} (h : q = p) : Calm p q := h ▸ .refl p

theorem Calm.trans {p q r : Probe} (h : Calm p q) (k : Calm q r) : Calm p r :=
  ⟨k.generation.trans h.generation, fun hr => h.investigating (k.investigating hr)⟩

theorem Calm.eq_of_idle {p q : Probe} (h : Calm p q) (hp : p.investigating = false) : q = p := by
  have hq : q.investigating = false := by
    rw [← Bool.not_eq_true] at hp ⊢
    exact fun hq => hp (h.investigating hq)
  have hg := h.generation
  cases p
  cases q
  simp_all

/-- What an audit can do to the probe of a tracker, by what it plans. It escalates only a tracker
that does not investigate. -/
inductive Planned (txn : TxnId) (kind : TrackerKind) (p : Probe) :
    Probe → Except Fault (Option Dispatch) → Prop
  | quiet {q : Probe} (calm : Calm p q) : Planned txn kind p q (.ok none)
  | escalated (idle : p.investigating = false) (remediation : Remediation)
      (fits : remediation.fits kind = true) :
      Planned txn kind p ⟨true, p.generation + 1⟩
        (.ok (some ⟨txn, ⟨kind, p.generation + 1⟩, remediation⟩))
  | failed (idle : p.investigating = false) (fault : Fault) :
      Planned txn kind p ⟨true, p.generation⟩ (.error fault)

/-- What a final completion can do to the probe of the tracker that it is handed to, and what comes
of it. It is stale and changes nothing unless it is accepted, and else ends the investigation, which
the next one may follow at once. -/
inductive Settled (txn : TxnId) (kind : TrackerKind) (p : Probe) (accepted : Bool) :
    Probe → Except Fault (Resolution Sequel) → Prop
  | stale (refused : accepted = false) : Settled txn kind p accepted p (.ok .stale)
  | ended (taken : accepted = true) (durable : Option Durability) :
      Settled txn kind p accepted ⟨false, p.generation⟩ (.ok (.resolved { durable }))
  | followed (taken : accepted = true) (remediation : Remediation)
      (fits : remediation.fits kind = true) :
      Settled txn kind p accepted ⟨true, p.generation + 1⟩
        (.ok (.resolved { followup := some ⟨txn, ⟨kind, p.generation + 1⟩, remediation⟩ }))
  | failed (taken : accepted = true) (fault : Fault) :
      Settled txn kind p accepted ⟨false, p.generation⟩ (.error fault)

end Probe

/-! ## The blocking tracker -/

namespace Blocking

def probe (b : Blocking) : Probe := ⟨b.progress = .investigating, b.generation⟩

theorem accepts_eq (b : Blocking) (tag : Tag) : b.accepts tag = b.probe.answers tag := rfl

theorem block_calm (b : Blocking) (required : Known) (keys : Footprint) :
    b.probe.Calm (b.block required keys).1.probe := by
  obtain ⟨-, e⟩ | ⟨-, -, e⟩ | ⟨-, -, e⟩ := b.block_cases required keys <;> rw [e]
  · exact .refl _
  · exact .refl _
  · exact ⟨rfl, by simp [probe]⟩

theorem learn_calm (b : Blocking) (known : Known) : b.probe.Calm (b.learn known).probe := by
  unfold learn
  split
  · exact ⟨rfl, by simp [probe]⟩
  · exact .refl _

theorem audit_planned (b : Blocking) (txn : TxnId) (cmd : Command) (topology : Topology) :
    b.probe.Planned txn .blocking (b.audit txn cmd topology).1.probe
      (b.audit txn cmd topology).2 := by
  rcases b.audit_cases txn cmd topology with
    ⟨-, e⟩ | ⟨hp, -, e⟩ | ⟨hp, -, -, e⟩ | ⟨hp, -, keys, -, e⟩ <;> rw [e]
  · exact .quiet ⟨rfl, by simpa [probe] using (Progress.eq_of_advance · (by decide))⟩
  · exact .quiet ⟨rfl, by simp [probe]⟩
  · exact .failed (by simp [probe, hp]) _
  · exact .escalated (by simp [probe, hp]) _ rfl

end Blocking

/-! ## The coordinate tracker -/

namespace Coordinate

def probe (c : Coordinate) : Probe := ⟨c.progress = .investigating, c.generation⟩

theorem accepts_eq (c : Coordinate) (tag : Tag) : c.accepts tag = c.probe.answers tag := rfl

/-- Only a progress of investigating makes the tracker investigate. -/
theorem reach_calm_or_told (c : Coordinate) (status : CoordinateStatus) (progress : Progress) :
    c.probe.Calm (c.reach status progress).probe ∨
      (progress = .investigating ∧ c.probe.Told (c.reach status progress).probe) := by
  obtain e | ⟨-, e⟩ := c.reach_cases status progress <;> rw [e]
  · exact .inl (.refl _)
  · by_cases hp : progress = .investigating
    · exact .inr ⟨hp, rfl, by simp [probe, hp]⟩
    · exact .inl ⟨rfl, by simp [probe, hp]⟩

theorem reach_calm (c : Coordinate) (status : CoordinateStatus) {progress : Progress}
    (h : progress ≠ .investigating) : c.probe.Calm (c.reach status progress).probe :=
  (c.reach_calm_or_told status progress).resolve_right fun hp => h hp.1

theorem durableGlobally_calm (c : Coordinate) : c.probe.Calm c.durableGlobally.probe := by
  obtain ⟨-, e⟩ | ⟨-, e⟩ := c.durableGlobally_cases <;> rw [e]
  · exact .refl _
  · exact ⟨rfl, by simp [probe]⟩

theorem audit_planned (c : Coordinate) (txn : TxnId) (cmd : Command) (homeKey : Option Key) :
    c.probe.Planned txn .coordinate (c.audit txn cmd homeKey).1.probe
      (c.audit txn cmd homeKey).2 := by
  rcases c.audit_cases txn cmd homeKey with
    ⟨-, e⟩ | ⟨hp, fault, -, e⟩ | ⟨hp, remediation, hr, e⟩ <;> rw [e]
  · exact .quiet ⟨rfl, by simpa [probe] using (Progress.eq_of_advance · (by decide))⟩
  · exact .failed (by simp [probe, hp]) _
  · refine .escalated (by simp [probe, hp]) _ ?_
    obtain ⟨_, _, -, -, rfl⟩ | ⟨_, -, rfl⟩ := plan_cases hr <;> rfl

end Coordinate

/-! ## The disseminate tracker -/

namespace Disseminate

def probe (d : Disseminate) : Probe := ⟨d.progress = .investigating, d.generation⟩

/-- The generation stays, and so does the progress unless the tracker is done. -/
structure Steady (d e : Disseminate) : Prop where
  generation : e.generation = d.generation
  progress : e.progress = d.progress ∨ e.progress = .done

theorem Steady.refl (d : Disseminate) : Steady d d := ⟨rfl, .inl rfl⟩

theorem Steady.trans {d e f : Disseminate} (h : Steady d e) (k : Steady e f) : Steady d f := by
  refine ⟨k.generation.trans h.generation, ?_⟩
  obtain hk | hk := k.progress
  · rw [hk]
    exact h.progress
  · exact .inr hk

theorem Steady.calm {d e : Disseminate} (h : Steady d e) : d.probe.Calm e.probe := by
  refine ⟨h.generation, fun he => ?_⟩
  obtain hp | hp := h.progress
  · simpa [probe, hp] using he
  · simp [probe, hp] at he

theorem settle_steady (d : Disseminate) : Steady d d.settle := by
  obtain ⟨e, -⟩ | ⟨_, -, -, e⟩ := d.settle_cases <;> rw [e]
  · exact .refl _
  · exact ⟨rfl, .inr rfl⟩

theorem persisted_steady (d : Disseminate) (nodes : SortedSet NodeId) :
    Steady d (d.persisted nodes) := by
  unfold Disseminate.persisted
  split
  · exact ⟨(settle_steady _).generation, (settle_steady _).progress⟩
  · exact .refl _

theorem drain_steady (sets : List (SortedSet NodeId)) (d : Disseminate) :
    Steady d (sets.foldl Disseminate.persisted d) := by
  induction sets generalizing d with
  | nil => exact .refl _
  | cons s sets ih => exact (d.persisted_steady s).trans (ih _)

theorem ready_steady (d : Disseminate) (cmd : Command) (topology : Topology) :
    Steady d (d.ready cmd topology) := by
  obtain ⟨_, -, -, e⟩ | ⟨-, -, e⟩ | ⟨-, nodes, -, e⟩ := d.ready_cases cmd topology <;> rw [e]
  · exact .refl _
  · exact .refl _
  · exact ⟨(drain_steady _ _).generation, (drain_steady _ _).progress⟩

theorem persistedWhenReady_calm (d : Disseminate) (nodes : SortedSet NodeId) :
    d.probe.Calm (d.persistedWhenReady nodes).probe := by
  unfold persistedWhenReady
  split
  · exact (d.persisted_steady nodes).calm
  · exact .refl _

theorem durable_calm (d : Disseminate) :
    d.probe.Calm ({ d with status := .durable, progress := .expected } : Disseminate).probe :=
  ⟨rfl, by simp [probe]⟩

theorem durableGlobally_calm (d : Disseminate) (cmd : Command) (topology : Topology)
    (nodes : Option (SortedSet NodeId)) :
    d.probe.Calm (d.durableGlobally cmd topology nodes).probe := by
  obtain ⟨-, e⟩ | ⟨-, -, e⟩ | ⟨-, set, -, e⟩ := d.durableGlobally_cases cmd topology nodes <;>
    rw [e]
  · exact .refl _
  · exact d.durable_calm
  · exact (d.durable_calm.trans (ready_steady _ cmd topology).calm).trans
      (persistedWhenReady_calm _ set)

theorem durableLocally_calm (d : Disseminate) (node : NodeId) :
    d.probe.Calm (d.durableLocally node).probe := by
  obtain ⟨-, e⟩ | ⟨-, e⟩ := d.durableLocally_cases node <;> rw [e]
  · exact .refl _
  · exact d.durable_calm.trans (persistedWhenReady_calm _ _)

theorem audit_planned (d : Disseminate) (txn : TxnId) (cmd : Command) (topology : Topology) :
    d.probe.Planned txn .disseminate (d.audit txn cmd topology).1.probe
      (d.audit txn cmd topology).2 := by
  obtain ⟨-, e⟩ | ⟨-, r, hr, hcases⟩ := d.audit_cases txn cmd topology
  · rw [e]
    exact .quiet (.refl _)
  · have steady : Steady d r := hr ▸ d.ready_steady cmd topology
    have idle (hp : r.progress = .noProgress) : d.probe.investigating = false := by
      obtain h | h := steady.progress <;> rw [hp] at h
      · simp [probe, ← h]
      · cases h
    obtain ⟨-, e⟩ | ⟨l, -, ⟨-, e⟩ | ⟨-, -, e⟩ | ⟨hp, -, fault, e⟩ |
      ⟨hp, -, route, time, -, -, e⟩⟩ := hcases <;> rw [e]
    · exact .quiet steady.calm
    · refine .quiet (steady.calm.trans ⟨rfl, ?_⟩)
      simpa [probe] using (Progress.eq_of_advance · (by decide))
    · exact .quiet (steady.calm.trans ⟨rfl, by simp [probe]⟩)
    · simpa [probe, steady.generation] using Probe.Planned.failed (idle hp) fault
    · simpa [probe, steady.generation] using
        Probe.Planned.escalated (idle hp)
          (.announceDurable l.awareness ⟨txn, route, time, .durable⟩) rfl

theorem acknowledged_calm (d : Disseminate) (node : NodeId) :
    d.probe.Calm (d.acknowledged node).1.probe := by
  obtain ⟨-, e⟩ | ⟨-, l, -, e⟩ := d.acknowledged_cases node <;> rw [e]
  · exact .refl _
  · have h := settle_steady { d with
      lacking := some { l with awareness := l.awareness.erase node } }
    exact Steady.calm ⟨h.generation, h.progress⟩

end Disseminate

/-! ## The delegation tracker -/

namespace Delegation

def probe (d : Delegation) : Probe := ⟨d.status = .investigating, d.generation⟩

theorem raise_calm_or_told (d : Delegation) (status : DelegationStatus) :
    d.probe.Calm (d.raise status).probe ∨
      (status = .investigating ∧ d.probe.Told (d.raise status).probe) := by
  obtain e | ⟨-, e⟩ := d.raise_cases status <;> rw [e]
  · exact .inl (.refl _)
  · by_cases hs : status = .investigating
    · exact .inr ⟨hs, rfl, by simp [probe, hs]⟩
    · exact .inl ⟨rfl, by simp [probe, hs]⟩

theorem audit_planned (d : Delegation) (txn : TxnId) (cmd : Command) (homeKey : Option Key) :
    d.probe.Planned txn .delegation (d.audit txn cmd homeKey).1.probe
      (d.audit txn cmd homeKey).2 := by
  rcases d.audit_cases txn cmd homeKey with
    ⟨-, e⟩ | ⟨-, e⟩ | ⟨hs, -, e⟩ | ⟨hs, key, -, e⟩ <;> rw [e]
  · exact .quiet (.refl _)
  · exact .quiet ⟨rfl, by simp [probe]⟩
  · exact .failed (by simp [probe, hs]) _
  · exact .escalated (by simp [probe, hs]) _ rfl

end Delegation

end TxnLiveness
