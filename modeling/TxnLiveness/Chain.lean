/-!
# Chains

A chain is a type whose values are compared by a number of their own. The phases, statuses and
degrees of knowledge of a transaction are chains; the order, the larger of two and the comparison
all come from the rank.
-/

namespace TxnLiveness

/-- A type whose values are told apart and compared by their rank. -/
class Chain (α : Type) where
  rank : α → Nat
  rank_inj : ∀ a b : α, rank a = rank b → a = b

namespace Chain

variable {α : Type} [Chain α]

instance (priority := low) : LE α := ⟨fun a b => rank a ≤ rank b⟩

instance (priority := low) : LT α := ⟨fun a b => rank a < rank b⟩

instance (a b : α) : Decidable (a ≤ b) :=
  inferInstanceAs (Decidable (rank a ≤ rank b))

instance (a b : α) : Decidable (a < b) :=
  inferInstanceAs (Decidable (rank a < rank b))

instance (priority := low) : Max α := maxOfLe

instance (priority := low) : Ord α := ⟨compareOn rank⟩

variable {a b c : α}

theorem le_def : a ≤ b ↔ rank a ≤ rank b := Iff.rfl

@[simp] theorem le_refl (a : α) : a ≤ a := Nat.le_refl (rank a)

theorem le_trans (h : a ≤ b) (k : b ≤ c) : a ≤ c := Nat.le_trans h k

theorem le_antisymm (h : a ≤ b) (k : b ≤ a) : a = b := rank_inj a b (Nat.le_antisymm h k)

theorem le_total (a b : α) : a ≤ b ∨ b ≤ a := Nat.le_total (rank a) (rank b)

theorem max_def (a b : α) : max a b = if a ≤ b then b else a := rfl

@[simp] theorem rank_max (a b : α) : rank (max a b) = max (rank a) (rank b) := by
  rw [max_def]
  split
  · rename_i h
    exact (Nat.max_eq_right h).symm
  · rename_i h
    exact (Nat.max_eq_left (Nat.le_of_not_le h)).symm

theorem le_max_left (a b : α) : a ≤ max a b := by
  rw [le_def, rank_max]
  exact Nat.le_max_left _ _

theorem le_max_right (a b : α) : b ≤ max a b := by
  rw [le_def, rank_max]
  exact Nat.le_max_right _ _

theorem max_le (h : a ≤ c) (k : b ≤ c) : max a b ≤ c := by
  rw [le_def, rank_max]
  exact Nat.max_le.2 ⟨h, k⟩

end Chain

end TxnLiveness
