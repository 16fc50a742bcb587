import TxnLiveness.Proofs.Blocking.Fetch
import TxnLiveness.Proofs.Footprint.Algebra
/-!
# Blocks commute

A requirement is joined only where what is required so far does not meet it, so an invalidated one
hides whatever comes after it. Even so it makes no difference in which order blocks are recorded,
or how often: what is left of them is determined by which blocks there were.
-/

namespace TxnLiveness

namespace Footprint

/-- The union of all footprints of a list, if there is any. -/
def joined? (l : List Footprint) : Option Footprint :=
  l.foldr (fun f o => some (o.elim f (·.union f))) none

variable {l m : List Footprint}

theorem joined?_cons (f : Footprint) (l : List Footprint) :
    joined? (f :: l) = some ((joined? l).elim f (·.union f)) := rfl

theorem joined?_eq_none_iff : joined? l = none ↔ l = [] := by
  cases l <;> simp [joined?]

/-- Whatever holds of a union where it holds of a part holds of what is joined where it holds of a
member. -/
theorem exists_joined?_iff {P : Footprint → Prop} (hP : ∀ f g, P (f.union g) ↔ P f ∨ P g) :
    (∃ f, joined? l = some f ∧ P f) ↔ ∃ f ∈ l, P f := by
  induction l with
  | nil => simp [joined?]
  | cons f l ih =>
    rw [joined?_cons]
    cases h : joined? l with
    | none =>
      obtain rfl := joined?_eq_none_iff.1 h
      simp
    | some g =>
      rw [h] at ih
      simp only [Option.some.injEq, exists_eq_left'] at ih
      simp [hP, ih, or_comm]

/-- Lists with the same members join to the same footprint. -/
theorem joined?_congr (h : ∀ f, f ∈ l ↔ f ∈ m) : joined? l = joined? m := by
  have same {P : Footprint → Prop} (hP : ∀ f g, P (f.union g) ↔ P f ∨ P g) :
      (∃ f, joined? l = some f ∧ P f) ↔ ∃ f, joined? m = some f ∧ P f := by
    simp only [exists_joined?_iff hP, h]
  have some : (∃ f, joined? l = some f) ↔ ∃ f, joined? m = some f := by
    simpa using same (P := fun _ => True) (by simp)
  cases hl : joined? l with
  | none =>
    cases hm : joined? m with
    | none => rfl
    | some g => simp [hl, hm] at some
  | some f =>
    cases hm : joined? m with
    | none => simp [hl, hm] at some
    | some g =>
      congr 1
      ext k
      · simpa [hl, hm] using same (P := (k ∈ ·.keys)) fun _ _ => mem_keys_union
      · simpa [hl, hm] using
          same (P := (KeyRange.Covered ·.ranges k)) fun _ _ => covered_ranges_union

end Footprint

namespace Blocking

/-- What something is blocked until, and on which keys. -/
structure Block where
  required : Known
  keys : Footprint

/-- The run in which these blocks are recorded, latest first, and nothing else is done. -/
def blocks (l : List Block) : List Act := l.map fun r => .block r.required r.keys

variable {l m : List Block} {b : Blocking} {required : Known} {keys : Footprint}

/-! ## The keys -/

theorem keys_eq_joined? (run : List Act) :
    (machine.after run).keys = Footprint.joined? (footprints run) := by
  induction run with
  | nil => rfl
  | cons a past ih =>
    simp only [footprints, Machine.collect_cons, Machine.after_cons, machine_step] at ih ⊢
    obtain ⟨none, kept⟩ | ⟨keys, one, joined⟩ := (machine.after past).keys_act a
    · rw [none, kept]
      exact ih
    · rw [one, joined, ih]
      rfl

theorem block_ok (b : Blocking) (required : Known) (h : keys.isEmpty = false) :
    (b.block required keys).2 = .ok () := by
  obtain ⟨he, -⟩ | ⟨-, -, e⟩ | ⟨-, -, e⟩ := b.block_cases required keys
  · rw [h] at he
    cases he
  · rw [e]
  · rw [e]

theorem footprints_blocks (h : ∀ r ∈ l, r.keys.isEmpty = false) :
    footprints (blocks l) = l.map (·.keys) := by
  induction l with
  | nil => rfl
  | cons r l ih =>
    have first := (machine.after (blocks l)).block_ok r.required (h r List.mem_cons_self)
    have rest := ih fun r hr => h r (List.mem_cons_of_mem _ hr)
    simp only [footprints, blocks, List.map_cons, Machine.collect_cons] at first rest ⊢
    rw [rest, told, first]
    rfl

theorem requirements_blocks (h : ∀ r ∈ l, r.keys.isEmpty = false) :
    requirements (blocks l) = l.map (·.required) := by
  induction l with
  | nil => rfl
  | cons r l ih =>
    have first := (machine.after (blocks l)).block_ok r.required (h r List.mem_cons_self)
    have rest := ih fun r hr => h r (List.mem_cons_of_mem _ hr)
    simp only [requirements, blocks, List.map_cons, Machine.collect_cons] at first rest ⊢
    rw [rest, recorded, first]
    rfl

/-! ## The requirement -/

/-- What is required after blocks is met by whatever meets all of theirs. -/
theorem required_metBy {known : Known} (h : ∀ r ∈ l, r.required.MetBy known) :
    (machine.after (blocks l)).required.MetBy known := by
  induction l with
  | nil => exact Known.nothing_metBy known
  | cons r l ih =>
    have rest := ih fun r hr => h r (List.mem_cons_of_mem _ hr)
    change ((machine.after (blocks l)).block r.required r.keys).1.required.MetBy known
    obtain ⟨-, e⟩ | ⟨-, -, e⟩ | ⟨-, -, e⟩ :=
      (machine.after (blocks l)).block_cases r.required r.keys <;> rw [e]
    · exact rest
    · exact rest
    · exact rest.merge (h r List.mem_cons_self)

theorem required_mutual (h : ∀ r ∈ l, r.keys.isEmpty = false) (same : ∀ r ∈ m, r ∈ l) :
    (machine.after (blocks m)).required.MetBy (machine.after (blocks l)).required := by
  refine required_metBy fun r hr => (remembers (blocks l)).covered r.required ?_
  rw [requirements_blocks h]
  exact List.mem_map_of_mem (same r hr)

/-- Where none is invalidated nothing is hidden, and requirements are joined one and all. -/
theorem required_eq_foldr (h : ∀ r ∈ l, r.keys.isEmpty = false)
    (valid : ∀ r ∈ l, r.required.outcome ≠ .invalidated) :
    (machine.after (blocks l)).required =
        (l.map (·.required)).foldr Known.merge .nothing ∧
      (machine.after (blocks l)).required.outcome ≠ .invalidated := by
  induction l with
  | nil => exact ⟨rfl, by decide⟩
  | cons r l ih =>
    obtain ⟨joined, uninvalidated⟩ := ih (fun r hr => h r (List.mem_cons_of_mem _ hr))
      fun r hr => valid r (List.mem_cons_of_mem _ hr)
    have merged := Known.outcome_merge_ne uninvalidated (valid r List.mem_cons_self)
    rw [List.map_cons, List.foldr_cons, ← joined, Known.merge_comm]
    suffices same : ((machine.after (blocks l)).block r.required r.keys).1.required =
        (machine.after (blocks l)).required.merge r.required from ⟨same, same ▸ merged⟩
    obtain ⟨he, -⟩ | ⟨-, met, e⟩ | ⟨-, -, e⟩ :=
      (machine.after (blocks l)).block_cases r.required r.keys
    · rw [h r List.mem_cons_self] at he
      cases he
    · rw [e]
      exact (Known.merge_eq_left ((Known.metBy_iff_le uninvalidated).1 met)).symm
    · rw [e]

/-! ## The progress -/

/-- Something is expected as soon as something is required. -/
theorem progress_cases (l : List Block) :
    ((machine.after (blocks l)).progress = .noneExpected ∧
        (machine.after (blocks l)).required = .nothing) ∨
      ((machine.after (blocks l)).progress = .expected ∧ ∃ r ∈ l, r.required ≠ .nothing) := by
  induction l with
  | nil => exact .inl ⟨rfl, rfl⟩
  | cons r l ih =>
    change (((machine.after (blocks l)).block r.required r.keys).1.progress = _ ∧
      ((machine.after (blocks l)).block r.required r.keys).1.required = _) ∨
        ((machine.after (blocks l)).block r.required r.keys).1.progress = _ ∧ _
    have still (h : ∃ x ∈ l, x.required ≠ .nothing) : ∃ x ∈ r :: l, x.required ≠ .nothing :=
      h.imp fun _ hx => ⟨List.mem_cons_of_mem _ hx.1, hx.2⟩
    obtain ⟨-, e⟩ | ⟨-, -, e⟩ | ⟨-, unmet, e⟩ :=
      (machine.after (blocks l)).block_cases r.required r.keys <;> rw [e]
    · exact ih.imp_right (.imp_right still)
    · exact ih.imp_right (.imp_right still)
    · refine .inr ⟨rfl, r, List.mem_cons_self, fun hn => unmet ?_⟩
      rw [hn]
      exact Known.nothing_metBy _

theorem progress_blocks (h : ∀ r ∈ l, r.keys.isEmpty = false) :
    (machine.after (blocks l)).progress =
      if ∃ r ∈ l, r.required ≠ .nothing then .expected else .noneExpected := by
  obtain ⟨idle, none⟩ | ⟨expected, some⟩ := progress_cases l
  · rw [idle, if_neg]
    rintro ⟨r, hr, hne⟩
    have covered := (remembers (blocks l)).covered r.required
      (requirements_blocks h ▸ List.mem_map_of_mem hr)
    rw [none] at covered
    exact hne (Known.metBy_nothing.1 covered)
  · rw [expected, if_pos some]

/-! ## Together -/

/-- Two lists with the same blocks, in whatever order and however often, leave the same keys and the
same progress, and requirements that meet each other. Short of an invalidation these are the same
too: the largest of what was required in every component. -/
theorem blocks_commute (l m : List Block) (named : ∀ r ∈ l, r.keys.isEmpty = false)
    (same : ∀ r, r ∈ l ↔ r ∈ m) :
    let b := machine.after (blocks l)
    let c := machine.after (blocks m)
    requirements (blocks l) = l.map (·.required) ∧
      c.keys = b.keys ∧
      c.progress = b.progress ∧
      b.progress = (if ∃ r ∈ l, r.required ≠ .nothing then .expected else .noneExpected) ∧
      c.required.MetBy b.required ∧
      b.required.MetBy c.required ∧
      ((∀ r ∈ l, r.required.outcome ≠ .invalidated) →
        c.required = b.required ∧
          b.required = (l.map (·.required)).foldr Known.merge .nothing) := by
  intro b c
  have named' : ∀ r ∈ m, r.keys.isEmpty = false := fun r hr => named r ((same r).2 hr)
  have there := required_mutual named fun r hr => (same r).2 hr
  have back := required_mutual named' fun r hr => (same r).1 hr
  refine ⟨requirements_blocks named, ?_, ?_, progress_blocks named, there, back, fun valid => ?_⟩
  · rw [keys_eq_joined?, keys_eq_joined?, footprints_blocks named, footprints_blocks named']
    exact Footprint.joined?_congr fun f => by simp [same]
  · rw [progress_blocks named, progress_blocks named']
    simp only [same]
  · obtain ⟨joined, uninvalidated⟩ := required_eq_foldr named valid
    obtain ⟨-, uninvalidated'⟩ := required_eq_foldr named' fun r hr => valid r ((same r).2 hr)
    exact ⟨Known.le_antisymm ((Known.metBy_iff_le uninvalidated).1 there)
      ((Known.metBy_iff_le uninvalidated').1 back), joined⟩

/-- Recorded before the others, an invalidated requirement hides them. Recorded once more in the
other order, they are joined first and nothing but what is hidden differs. -/
theorem blocks_commute_of_invalidated :
    let l : List Block := [⟨.preApplied, .ofKeys [⟨[97]⟩]⟩,
      ⟨.committed, .ofRanges [⟨⟨[98]⟩, ⟨[100]⟩, by decide⟩]⟩, ⟨.invalidated, .ofKeys [⟨[99]⟩]⟩]
    let m : List Block := l ++ l.reverse
    (∀ r ∈ l, r.keys.isEmpty = false) ∧ (∀ r, r ∈ l ↔ r ∈ m) ∧
      (machine.after (blocks m)).keys = (machine.after (blocks l)).keys ∧
      (machine.after (blocks m)).required.MetBy (machine.after (blocks l)).required ∧
      (machine.after (blocks l)).required.MetBy (machine.after (blocks m)).required ∧
      (machine.after (blocks m)).required ≠ (machine.after (blocks l)).required := by
  intro l m
  have named : ∀ r ∈ l, r.keys.isEmpty = false := by decide
  have same : ∀ r, r ∈ l ↔ r ∈ m := fun r => by simp [m]
  obtain ⟨-, keys, -, -, there, back, -⟩ := blocks_commute l m named same
  exact ⟨named, same, keys, there, back, by decide⟩

end Blocking

end TxnLiveness
