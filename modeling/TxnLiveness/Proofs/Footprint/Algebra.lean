import TxnLiveness.Proofs.Footprint.Canonical
/-!
# The algebra of footprints

Every operation covers exactly the keys that it names, and as the ranges of a footprint are
canonical, the laws of union hold of the footprints themselves and not only of what they cover.
-/

namespace TxnLiveness

namespace Footprint

open KeyRange (Covered)

variable {f g h : Footprint} {k x : Key}

/-- Footprints with the same keys whose ranges cover the same keys are equal. -/
@[ext] theorem ext (hk : ∀ k, k ∈ f.keys ↔ k ∈ g.keys)
    (hr : ∀ k, Covered f.ranges k ↔ Covered g.ranges k) : f = g := by
  have keys : f.keys = g.keys := SortedSet.ext hk
  have ranges : f.ranges = g.ranges := KeyRange.eq_of_gapped f.gapped g.gapped hr
  cases f
  cases g
  simp_all

@[simp] theorem keys_empty : (∅ : Footprint).keys = ∅ := rfl

@[simp] theorem ranges_empty : (∅ : Footprint).ranges = [] := rfl

@[simp] theorem mem_keys_union : k ∈ (f.union g).keys ↔ k ∈ f.keys ∨ k ∈ g.keys :=
  SortedSet.mem_union

@[simp] theorem covered_ranges_union :
    Covered (f.union g).ranges k ↔ Covered f.ranges k ∨ Covered g.ranges k := by
  simp [union]

/-! ## The laws of union -/

theorem union_comm (f g : Footprint) : f.union g = g.union f := by
  ext k
  · simp [or_comm]
  · simp [or_comm]

theorem union_assoc (f g h : Footprint) : (f.union g).union h = f.union (g.union h) := by
  ext k
  · simp [or_assoc]
  · simp [or_assoc]

theorem union_self (f : Footprint) : f.union f = f := by
  ext k <;> simp

theorem union_empty (f : Footprint) : f.union ∅ = f := by
  ext k <;> simp

theorem empty_union (f : Footprint) : union ∅ f = f := by
  rw [union_comm, union_empty]

/-! ## Emptiness and some key -/

theorem isEmpty_iff : f.isEmpty = true ↔ ∀ k, k ∉ f := by
  constructor
  · intro he k hk
    rw [isEmpty_eq_false_of_mem hk] at he
    cases he
  · intro none
    cases he : f.isEmpty with
    | true => rfl
    | false =>
      obtain ⟨k, hk⟩ := exists_mem_of_isEmpty_eq_false he
      exact absurd hk (none k)

theorem someKey?_eq_none_iff : f.someKey? = none ↔ f.isEmpty = true := by
  constructor
  · intro hn
    cases he : f.isEmpty with
    | true => rfl
    | false => exact absurd hn (someKey?_ne_none he)
  · intro he
    cases hs : f.someKey? with
    | none => rfl
    | some k => exact absurd (mem_of_someKey? hs) (isEmpty_iff.1 he k)

end Footprint

/-- A full route is left as it is, a partial one is widened, and without a route the footprint
itself is addressed. -/
theorem Participants.mem_merge {route : Option Route} {f : Footprint} {k : Key} :
    k ∈ (merge route f).footprint ↔
      match route with
      | none => k ∈ f
      | some r =>
        match r.coverage with
        | .partly => k ∈ r.participants ∨ k ∈ f
        | .full => k ∈ r.participants := by
  obtain _ | ⟨homeKey, _ | _, participants⟩ := route
  · exact Iff.rfl
  · exact Iff.rfl
  · exact Footprint.mem_union

namespace Footprint

/-- Each operation covers what it names, and union is a semilattice with the empty footprint. -/
theorem operations_exact (f g h : Footprint) (l : List KeyRange) (route : Option Route)
    (k x : Key) :
    (k ∈ f.union g ↔ k ∈ f ∨ k ∈ g) ∧
      (k ∈ ofRanges l ↔ ∃ r ∈ l, k ∈ r) ∧
      (k ∈ f.withKey x ↔ k ∈ f ∨ k = x) ∧
      (f.isEmpty = true ↔ ∀ y, y ∉ f) ∧
      (f.someKey? = none ↔ f.isEmpty = true) ∧
      (∀ y, f.someKey? = some y → y ∈ f) ∧
      (k ∈ (Participants.merge route f).footprint ↔
        match route with
        | none => k ∈ f
        | some r =>
          match r.coverage with
          | .partly => k ∈ r.participants ∨ k ∈ f
          | .full => k ∈ r.participants) ∧
      f.union g = g.union f ∧
      (f.union g).union h = f.union (g.union h) ∧
      f.union f = f ∧
      f.union ∅ = f ∧
      union ∅ f = f :=
  ⟨mem_union, mem_ofRanges, mem_withKey, isEmpty_iff, someKey?_eq_none_iff,
    fun _ => mem_of_someKey?, Participants.mem_merge, union_comm f g, union_assoc f g h,
    union_self f, union_empty f, empty_union f⟩

end Footprint

end TxnLiveness
