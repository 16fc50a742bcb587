import TxnLiveness.Route
/-!
# Footprints that are not empty

Whatever is addressed to a footprint that is not empty, or along a route, has a key to go to.
-/

namespace TxnLiveness

namespace Footprint

variable {f g : Footprint} {k : Key}

theorem someKey?_ne_none (h : f.isEmpty = false) : f.someKey? ≠ none := by
  obtain ⟨⟨keys, ascending⟩, ranges, gapped⟩ := f
  cases keys with
  | cons k keys => nofun
  | nil =>
    cases ranges with
    | cons r ranges => nofun
    | nil => cases h

theorem mem_of_someKey? (hk : f.someKey? = some k) : k ∈ f := by
  obtain ⟨⟨keys, ascending⟩, ranges, gapped⟩ := f
  cases keys with
  | cons x keys =>
    obtain rfl : x = k := Option.some.inj hk
    exact .inl List.mem_cons_self
  | nil =>
    cases ranges with
    | nil => cases hk
    | cons r ranges =>
      obtain rfl : r.start = k := Option.some.inj hk
      exact .inr ⟨r, List.mem_cons_self, r.start_mem⟩

theorem exists_mem_of_isEmpty_eq_false (h : f.isEmpty = false) : ∃ k, k ∈ f := by
  obtain ⟨k, hk⟩ := Option.ne_none_iff_exists'.1 (someKey?_ne_none h)
  exact ⟨k, mem_of_someKey? hk⟩

theorem isEmpty_eq_false_of_mem (h : k ∈ f) : f.isEmpty = false := by
  obtain ⟨⟨keys, ascending⟩, ranges, gapped⟩ := f
  cases keys with
  | cons k keys => rfl
  | nil =>
    cases ranges with
    | cons r ranges => rfl
    | nil =>
      obtain h | ⟨r, h, -⟩ := h
      · cases h
      · cases h

/-- What is added to leaves a footprint that is not empty. -/
theorem isEmpty_union (f : Footprint) (h : g.isEmpty = false) : (f.union g).isEmpty = false := by
  obtain ⟨k, hk⟩ := exists_mem_of_isEmpty_eq_false h
  exact isEmpty_eq_false_of_mem (mem_union.2 (.inr hk))

end Footprint

theorem Participants.someKey?_merge (route : Option Route) {f : Footprint}
    (h : f.isEmpty = false) : (Participants.merge route f).someKey? ≠ none := by
  cases route with
  | some r => nofun
  | none => exact Footprint.someKey?_ne_none h

end TxnLiveness
