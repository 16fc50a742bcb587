import TxnLiveness.Known
/-!
# The order of knowledge

Knowledge is ordered in every component and `merge` is its least upper bound. Meeting a requirement
is weaker than being above it, as an invalidation meets everything, but it is still transitive: an
invalidation is required only by an invalidation or by what is met by one.
-/

namespace TxnLiveness

namespace Known

variable {a b c : Known}

theorem le_refl (a : Known) : a ≤ a :=
  ⟨Chain.le_refl _, Chain.le_refl _, Chain.le_refl _, Chain.le_refl _⟩

theorem le_trans (h : a ≤ b) (k : b ≤ c) : a ≤ c := by
  obtain ⟨hd, he, hp, ho⟩ := h
  obtain ⟨kd, ke, kp, ko⟩ := k
  exact ⟨Chain.le_trans hd kd, Chain.le_trans he ke, Chain.le_trans hp kp, Chain.le_trans ho ko⟩

theorem le_merge_left (a b : Known) : a ≤ a.merge b :=
  ⟨Chain.le_max_left _ _, Chain.le_max_left _ _, Chain.le_max_left _ _, Chain.le_max_left _ _⟩

theorem le_merge_right (a b : Known) : b ≤ a.merge b :=
  ⟨Chain.le_max_right _ _, Chain.le_max_right _ _, Chain.le_max_right _ _, Chain.le_max_right _ _⟩

theorem merge_le (ha : a ≤ c) (hb : b ≤ c) : a.merge b ≤ c := by
  obtain ⟨hd, he, hp, ho⟩ := ha
  obtain ⟨kd, ke, kp, ko⟩ := hb
  exact ⟨Chain.max_le hd kd, Chain.max_le he ke, Chain.max_le hp kp, Chain.max_le ho ko⟩

theorem le_antisymm (h : a ≤ b) (k : b ≤ a) : a = b := by
  obtain ⟨hd, he, hp, ho⟩ := h
  obtain ⟨kd, ke, kp, ko⟩ := k
  cases a
  cases b
  congr
  · exact Chain.le_antisymm hd kd
  · exact Chain.le_antisymm he ke
  · exact Chain.le_antisymm hp kp
  · exact Chain.le_antisymm ho ko

theorem merge_comm (a b : Known) : a.merge b = b.merge a :=
  le_antisymm (merge_le (le_merge_right b a) (le_merge_left b a))
    (merge_le (le_merge_right a b) (le_merge_left a b))

theorem merge_eq_left (h : b ≤ a) : a.merge b = a :=
  le_antisymm (merge_le (le_refl a) h) (le_merge_left a b)

theorem eq_nothing_of_le (h : a ≤ nothing) : a = nothing := by
  obtain ⟨hd, he, hp, ho⟩ := h
  cases a
  congr
  · exact Chain.le_antisymm hd (Nat.zero_le _)
  · exact Chain.le_antisymm he (Nat.zero_le _)
  · exact Chain.le_antisymm hp (Nat.zero_le _)
  · exact Chain.le_antisymm ho (Nat.zero_le _)

/-- Nothing is above an invalidated outcome. -/
theorem outcome_invalidated_of_le (h : a ≤ b) (ha : a.outcome = .invalidated) :
    b.outcome = .invalidated := by
  have ho : a.outcome ≤ b.outcome := h.2.2.2
  rw [ha] at ho
  cases hb : b.outcome <;> rw [hb] at ho <;> revert ho <;> decide

/-! ## Meeting requirements -/

theorem MetBy.of_le (h : a ≤ b) : a.MetBy b := .inr h

@[simp] theorem MetBy.refl (a : Known) : a.MetBy a := .of_le (le_refl a)

theorem MetBy.trans (h : a.MetBy b) (k : b.MetBy c) : a.MetBy c := by
  obtain k | k := k
  · exact .inl k
  · obtain h | h := h
    · exact .inl (outcome_invalidated_of_le k h)
    · exact .of_le (le_trans h k)

theorem metBy_merge_left (a b : Known) : a.MetBy (a.merge b) := .of_le (le_merge_left a b)

theorem metBy_merge_right (a b : Known) : b.MetBy (a.merge b) := .of_le (le_merge_right a b)

/-- What is merged of two requirements asks for no more than they do. -/
theorem MetBy.merge (ha : a.MetBy c) (hb : b.MetBy c) : (a.merge b).MetBy c := by
  obtain hc | ha := ha
  · exact .inl hc
  · obtain hc | hb := hb
    · exact .inl hc
    · exact .of_le (merge_le ha hb)

/-- Short of an invalidation, a requirement is met by nothing less than itself. -/
theorem metBy_iff_le (h : b.outcome ≠ .invalidated) : a.MetBy b ↔ a ≤ b := or_iff_right h

theorem nothing_metBy (a : Known) : nothing.MetBy a :=
  .of_le ⟨Nat.zero_le _, Nat.zero_le _, Nat.zero_le _, Nat.zero_le _⟩

/-- Merging two outcomes invalidates none. -/
theorem outcome_merge_ne (ha : a.outcome ≠ .invalidated) (hb : b.outcome ≠ .invalidated) :
    (a.merge b).outcome ≠ .invalidated := by
  change max a.outcome b.outcome ≠ .invalidated
  rw [Chain.max_def]
  split
  · exact hb
  · exact ha

/-- Only the empty requirement is met by knowing nothing. -/
theorem metBy_nothing : a.MetBy nothing ↔ a = nothing := by
  constructor
  · rintro (h | h)
    · cases h
    · exact eq_nothing_of_le h
  · rintro rfl
    exact .refl _

end Known

end TxnLiveness
