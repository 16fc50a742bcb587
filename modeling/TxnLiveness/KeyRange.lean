import TxnLiveness.Key
/-!
# Key ranges

A key range is half open: it holds the keys from its start on and below its stop. A range that
would hold no key is refused.
-/

namespace TxnLiveness

/-- The keys from `start` on and below `stop`. -/
structure KeyRange where
  start : Key
  stop : Key
  start_lt_stop : start < stop
deriving DecidableEq

/-- The bounds of a range that would hold no key. -/
structure EmptyRange where
  start : Key
  stop : Key

namespace EmptyRange

def message (e : EmptyRange) : String :=
  s!"range start {e.start.describe} must be below end {e.stop.describe}"

end EmptyRange

namespace KeyRange

/-- The range between two keys, unless it would be empty. -/
def ofBounds (start stop : Key) : Except EmptyRange KeyRange :=
  if h : start < stop then .ok ⟨start, stop, h⟩ else .error ⟨start, stop⟩

instance : Membership Key KeyRange := ⟨fun r k => r.start ≤ k ∧ k < r.stop⟩

instance (k : Key) (r : KeyRange) : Decidable (k ∈ r) :=
  inferInstanceAs (Decidable (r.start ≤ k ∧ k < r.stop))

theorem mem_def {k : Key} {r : KeyRange} : k ∈ r ↔ r.start ≤ k ∧ k < r.stop := Iff.rfl

theorem start_mem (r : KeyRange) : r.start ∈ r := ⟨Std.le_refl _, r.start_lt_stop⟩

/-- The least range that covers both. -/
def hull (r s : KeyRange) : KeyRange where
  start := if r.start ≤ s.start then r.start else s.start
  stop := if r.stop ≤ s.stop then s.stop else r.stop
  start_lt_stop := by
    have hr := r.start_lt_stop
    have hs := s.start_lt_stop
    split <;> split <;> grind

/-- Of two ranges that overlap or touch, the hull covers nothing more. -/
theorem mem_hull {k : Key} {r s : KeyRange} (hrs : r.start ≤ s.stop) (hsr : s.start ≤ r.stop) :
    k ∈ r.hull s ↔ k ∈ r ∨ k ∈ s := by
  have hr := r.start_lt_stop
  have hs := s.start_lt_stop
  simp only [mem_def, hull]
  split <;> split <;> grind

end KeyRange

/-! ## Range sets -/

/-- Ranges in ascending order, with a gap between each and the next. -/
abbrev Gapped (l : List KeyRange) : Prop := l.Pairwise (fun r s => r.stop < s.start)

namespace KeyRange

/-- Adds a range to a gapped list, joined with the ranges that it overlaps or touches. -/
def join (r : KeyRange) : List KeyRange → List KeyRange
  | [] => [r]
  | s :: l =>
    if r.stop < s.start then r :: s :: l
    else if s.stop < r.start then s :: join r l
    else join (r.hull s) l

/-- Ranges in any order as a gapped list that covers the same keys. -/
def coalesce (l : List KeyRange) : List KeyRange := l.foldl (fun acc r => r.join acc) []

theorem lt_start_join {k : Key} {r : KeyRange} {l : List KeyRange} (h : k < r.start)
    (hl : ∀ s ∈ l, k < s.start) : ∀ t ∈ r.join l, k < t.start := by
  induction l generalizing r with
  | nil => simpa [join] using h
  | cons s l ih =>
    have hs := hl s (by simp)
    have hl' : ∀ t ∈ l, k < t.start := fun t ht => hl t (by simp [ht])
    unfold join
    split
    · intro t ht
      rcases List.mem_cons.1 ht with rfl | ht
      · exact h
      · exact hl t ht
    · split
      · intro t ht
        rcases List.mem_cons.1 ht with rfl | ht
        · exact hs
        · exact ih h hl' t ht
      · refine ih ?_ hl'
        simp only [hull]
        split
        · exact h
        · exact hs

theorem gapped_join {r : KeyRange} {l : List KeyRange} (h : Gapped l) : Gapped (r.join l) := by
  induction l generalizing r with
  | nil => simp [join]
  | cons s l ih =>
    obtain ⟨hs, hl⟩ := List.pairwise_cons.1 h
    unfold join
    split
    · rename_i hrs
      refine List.pairwise_cons.2 ⟨fun t ht => ?_, h⟩
      rcases List.mem_cons.1 ht with rfl | ht
      · exact hrs
      · exact Std.lt_trans hrs (Std.lt_trans s.start_lt_stop (hs t ht))
    · split
      · rename_i hsr
        exact List.pairwise_cons.2 ⟨lt_start_join hsr hs, ih hl⟩
      · exact ih hl

theorem gapped_foldl_join {l acc : List KeyRange} (h : Gapped acc) :
    Gapped (l.foldl (fun acc r => r.join acc) acc) := by
  induction l generalizing acc with
  | nil => exact h
  | cons r l ih => exact ih (gapped_join h)

theorem gapped_coalesce (l : List KeyRange) : Gapped (coalesce l) := gapped_foldl_join .nil

theorem exists_mem_join {k : Key} {r : KeyRange} {l : List KeyRange} :
    (∃ t ∈ r.join l, k ∈ t) ↔ k ∈ r ∨ ∃ s ∈ l, k ∈ s := by
  induction l generalizing r with
  | nil => simp [join]
  | cons s l ih =>
    unfold join
    split
    · simp
    · split
      · simp only [List.mem_cons, exists_eq_or_imp, ih]
        exact or_left_comm
      · rename_i hrs hsr
        have touch : k ∈ r.hull s ↔ k ∈ r ∨ k ∈ s :=
          mem_hull (Std.not_lt.1 hsr) (Std.not_lt.1 hrs)
        simp only [List.mem_cons, exists_eq_or_imp, ih, touch, or_assoc]

theorem exists_mem_foldl_join {k : Key} {l acc : List KeyRange} :
    (∃ t ∈ l.foldl (fun acc r => r.join acc) acc, k ∈ t) ↔
      (∃ r ∈ l, k ∈ r) ∨ ∃ s ∈ acc, k ∈ s := by
  induction l generalizing acc with
  | nil => simp
  | cons r l ih =>
    simp only [List.foldl_cons, ih, exists_mem_join, List.mem_cons, exists_eq_or_imp, or_assoc]
    exact or_left_comm

theorem exists_mem_coalesce {k : Key} {l : List KeyRange} :
    (∃ t ∈ coalesce l, k ∈ t) ↔ ∃ r ∈ l, k ∈ r := by
  simp [coalesce, exists_mem_foldl_join]

end KeyRange

end TxnLiveness
