import TxnLiveness.Command
/-!
# The order of tokens

Ballots are ordered linearly, by counter and then by node, and so are the chains. A token is
ordered in every component, and what is merged from several tokens is the largest of them in each.
-/

namespace TxnLiveness

/-! ## Linear orders -/

namespace Ballot

theorem le_iff {a b : Ballot} :
    a ≤ b ↔ a.counter < b.counter ∨ (a.counter = b.counter ∧ a.node ≤ b.node) := by
  change (compare a b).isLE = true ↔ _
  simp only [compare, cmp, compareLex, Ordering.isLE_then_iff_or]
  simp [compareOn, Nat.compare_eq_lt, Nat.isLE_compare]

instance : Std.IsLinearOrder Ballot where
  le_refl a := by simp [le_iff]
  le_trans a b c h k := by
    rw [le_iff] at h k ⊢
    grind
  le_antisymm a b h k := by
    rw [le_iff] at h k
    cases a
    cases b
    grind
  le_total a b := by
    rw [le_iff, le_iff]
    grind

instance : Std.LawfulOrderMax Ballot where
  max_eq_or a b := by
    change (if a ≤ b then b else a) = a ∨ (if a ≤ b then b else a) = b
    split <;> simp
  max_le_iff a b c := by
    change (if a ≤ b then b else a) ≤ c ↔ _
    split
    · rename_i h
      exact ⟨fun hb => ⟨Std.le_trans h hb, hb⟩, And.right⟩
    · rename_i h
      exact ⟨fun ha => ⟨ha, Std.le_trans (Std.le_of_not_ge h) ha⟩, And.left⟩

end Ballot

namespace Chain

variable {α : Type} [Chain α]

instance : Std.IsLinearOrder α where
  le_refl := le_refl
  le_trans _ _ _ := le_trans
  le_antisymm _ _ := le_antisymm
  le_total := le_total

instance : Std.LawfulOrderMax α where
  max_eq_or a b := by
    rw [max_def]
    split <;> simp
  max_le_iff a b c := by
    simp only [le_def, rank_max]
    exact Nat.max_le

end Chain

/-! ## The largest of a list -/

/-- A member of a list that no other member exceeds. -/
def Largest {α : Type} [LE α] (l : List α) (a : α) : Prop := a ∈ l ∧ ∀ b ∈ l, b ≤ a

section Largest

variable {α : Type} [LE α] {l m : List α} {a b : α}

theorem Largest.le_of_subset (h : Largest l a) (k : Largest m b) (hl : ∀ x ∈ l, x ∈ m) : a ≤ b :=
  k.2 a (hl a h.1)

theorem Largest.congr (h : Largest l a) (hl : ∀ x, x ∈ l ↔ x ∈ m) : Largest m a :=
  ⟨(hl a).1 h.1, fun b hb => h.2 b ((hl b).2 hb)⟩

variable [Std.IsLinearOrder α]

theorem largest_singleton (a : α) : Largest [a] a := by simp [Largest, Std.le_refl]

theorem Largest.cons [Max α] [Std.LawfulOrderMax α] (h : Largest l a) (b : α) :
    Largest (b :: l) (max a b) := by
  constructor
  · obtain e | e := Std.max_eq_or (a := a) (b := b) <;> rw [e]
    · exact List.mem_cons_of_mem _ h.1
    · exact List.mem_cons_self
  · intro x hx
    obtain rfl | hx := List.mem_cons.1 hx
    · exact Std.right_le_max
    · exact Std.le_trans (h.2 x hx) Std.left_le_max

end Largest

/-! ## Tokens -/

namespace Token

instance : LE Token where
  le a b := a.durability ≤ b.durability ∧ a.status ≤ b.status ∧ a.promised ≤ b.promised ∧
    a.accepted ≤ b.accepted

variable {a b c : Token} {l m : List Token}

theorem le_refl (a : Token) : a ≤ a :=
  ⟨Std.le_refl _, Std.le_refl _, Std.le_refl _, Std.le_refl _⟩

theorem le_trans (h : a ≤ b) (k : b ≤ c) : a ≤ c := by
  obtain ⟨hd, hs, hp, ha⟩ := h
  obtain ⟨kd, ks, kp, ka⟩ := k
  exact ⟨Std.le_trans hd kd, Std.le_trans hs ks, Std.le_trans hp kp, Std.le_trans ha ka⟩

theorem le_antisymm (h : a ≤ b) (k : b ≤ a) : a = b := by
  obtain ⟨hd, hs, hp, ha⟩ := h
  obtain ⟨kd, ks, kp, ka⟩ := k
  cases a
  congr
  · exact Std.le_antisymm hd kd
  · exact Std.le_antisymm hs ks
  · exact Std.le_antisymm hp kp
  · exact Std.le_antisymm ha ka

theorem le_merge_left (a b : Token) : a ≤ a.merge b :=
  ⟨Std.left_le_max, Std.left_le_max, Std.left_le_max, Std.left_le_max⟩

theorem le_merge_right (a b : Token) : b ≤ a.merge b :=
  ⟨Std.right_le_max, Std.right_le_max, Std.right_le_max, Std.right_le_max⟩

/-- In each component the largest of some tokens. -/
structure LargestOf (l : List Token) (t : Token) : Prop where
  durability : Largest (l.map (·.durability)) t.durability
  status : Largest (l.map (·.status)) t.status
  promised : Largest (l.map (·.promised)) t.promised
  accepted : Largest (l.map (·.accepted)) t.accepted

theorem LargestOf.singleton (t : Token) : LargestOf [t] t :=
  ⟨largest_singleton _, largest_singleton _, largest_singleton _, largest_singleton _⟩

theorem LargestOf.congr (h : LargestOf l a) (hl : ∀ t, t ∈ l ↔ t ∈ m) : LargestOf m a := by
  have hm {β : Type} (f : Token → β) (x : β) : x ∈ l.map f ↔ x ∈ m.map f := by
    simp only [List.mem_map, hl]
  exact ⟨h.durability.congr (hm _), h.status.congr (hm _), h.promised.congr (hm _),
    h.accepted.congr (hm _)⟩

theorem LargestOf.cons (h : LargestOf l a) (b : Token) : LargestOf (b :: l) (a.merge b) :=
  ⟨h.durability.cons _, h.status.cons _, h.promised.cons _, h.accepted.cons _⟩

/-- Merging tokens one after the other arrives at the largest. -/
theorem LargestOf.foldl (h : LargestOf l a) (m : List Token) :
    LargestOf (m ++ l) (m.foldl merge a) := by
  induction m generalizing l a with
  | nil => exact h
  | cons b m ih =>
    refine (ih (h.cons b)).congr fun t => ?_
    simp only [List.mem_append, List.mem_cons]
    exact or_left_comm.trans or_assoc.symm

theorem LargestOf.le_of_subset (h : LargestOf l a) (k : LargestOf m b) (hl : ∀ t ∈ l, t ∈ m) :
    a ≤ b := by
  have hm {β : Type} (f : Token → β) : ∀ x ∈ l.map f, x ∈ m.map f := List.map_subset f hl
  exact ⟨h.durability.le_of_subset k.durability (hm _), h.status.le_of_subset k.status (hm _),
    h.promised.le_of_subset k.promised (hm _), h.accepted.le_of_subset k.accepted (hm _)⟩

/-- The largest depends neither on the order of the tokens nor on how often each is listed. -/
theorem LargestOf.eq_of_mem_iff (h : LargestOf l a) (k : LargestOf m b)
    (hl : ∀ t, t ∈ l ↔ t ∈ m) : a = b :=
  le_antisymm (h.le_of_subset k fun t => (hl t).1) (k.le_of_subset h fun t => (hl t).2)

end Token

end TxnLiveness
