/-!
# Finite maps as ascending lists

`SortedMap κ ν` holds the bindings of a finite map in strictly ascending order of their keys. Like
a `SortedSet` it is determined by its contents: maps with the same look-ups are equal.
-/

namespace TxnLiveness

/-- A finite map, held as its bindings in strictly ascending order of the keys. -/
structure SortedMap (κ ν : Type) [Ord κ] where
  toList : List (κ × ν)
  ascending : toList.Pairwise (fun a b => compare a.1 b.1 = .lt)

namespace SortedMap

variable {κ ν : Type} [Ord κ]

instance : EmptyCollection (SortedMap κ ν) := ⟨⟨[], .nil⟩⟩

instance : Inhabited (SortedMap κ ν) := ⟨∅⟩

def keys (m : SortedMap κ ν) : List κ := m.toList.map (·.1)

def values (m : SortedMap κ ν) : List ν := m.toList.map (·.2)

def size (m : SortedMap κ ν) : Nat := m.toList.length

def isEmpty (m : SortedMap κ ν) : Bool := m.toList.isEmpty

/-- The value bound to `k`. -/
def get? [DecidableEq κ] (m : SortedMap κ ν) (k : κ) : Option ν := m.toList.lookup k

/-! ## Insertion -/

/-- Binds `k` to `v` in an ascending list of bindings, in place of an earlier binding of `k`. -/
def bindInto (k : κ) (v : ν) : List (κ × ν) → List (κ × ν)
  | [] => [(k, v)]
  | b :: l =>
    match compare k b.1 with
    | .lt => (k, v) :: b :: l
    | .eq => (k, v) :: l
    | .gt => b :: bindInto k v l

theorem eq_or_mem_of_mem_bindInto {k : κ} {v : ν} {b : κ × ν} {l : List (κ × ν)} :
    b ∈ bindInto k v l → b = (k, v) ∨ b ∈ l := by
  induction l with
  | nil => simp [bindInto]
  | cons c l ih =>
    unfold bindInto
    split
    · simp
    · simp only [List.mem_cons]
      exact Or.imp_right Or.inr
    · simp only [List.mem_cons]
      intro h
      rcases h with h | h
      · exact .inr (.inl h)
      · exact (ih h).imp_right .inr

section Order

variable [Std.TransOrd κ] [Std.LawfulEqOrd κ]

theorem pairwise_bindInto {k : κ} {v : ν} {l : List (κ × ν)}
    (h : l.Pairwise (fun a b => compare a.1 b.1 = .lt)) :
    (bindInto k v l).Pairwise (fun a b => compare a.1 b.1 = .lt) := by
  induction l with
  | nil => simp [bindInto]
  | cons b l ih =>
    obtain ⟨below, rest⟩ := List.pairwise_cons.1 h
    unfold bindInto
    split
    · rename_i hk
      refine List.pairwise_cons.2 ⟨fun c hc => ?_, h⟩
      rcases List.mem_cons.1 hc with rfl | hc
      · exact hk
      · exact Std.TransCmp.lt_trans hk (below c hc)
    · rename_i hk
      refine List.pairwise_cons.2 ⟨fun c hc => ?_, rest⟩
      have := Std.LawfulEqOrd.eq_of_compare hk
      subst this
      exact below c hc
    · rename_i hk
      refine List.pairwise_cons.2 ⟨fun c hc => ?_, ih rest⟩
      rcases eq_or_mem_of_mem_bindInto hc with rfl | hc
      · exact Std.OrientedCmp.gt_iff_lt.1 hk
      · exact below c hc

/-- The map with `k` bound to `v`. -/
def insert (m : SortedMap κ ν) (k : κ) (v : ν) : SortedMap κ ν :=
  ⟨bindInto k v m.toList, pairwise_bindInto m.ascending⟩

end Order

/-! ## Lemmas -/

variable [DecidableEq κ]

@[simp] theorem get?_empty (k : κ) : (∅ : SortedMap κ ν).get? k = none := rfl

omit [Ord κ] in
theorem lookup_cons_eq (x k : κ) (v : ν) (l : List (κ × ν)) :
    ((k, v) :: l).lookup x = if x = k then some v else l.lookup x := by
  by_cases h : x = k
  · simp [h]
  · simp [List.lookup_cons, h, beq_eq_false_iff_ne.2 h]

theorem lookup_bindInto [Std.LawfulEqOrd κ] (k x : κ) (v : ν) (l : List (κ × ν)) :
    (bindInto k v l).lookup x = if x = k then some v else l.lookup x := by
  induction l with
  | nil => simp [bindInto, lookup_cons_eq]
  | cons b l ih =>
    obtain ⟨k', v'⟩ := b
    unfold bindInto
    split
    · simp only [lookup_cons_eq]
    · rename_i hk
      have := Std.LawfulEqOrd.eq_of_compare hk
      subst this
      simp only [lookup_cons_eq]
      split <;> rfl
    · rename_i hk
      have hne : k ≠ k' := by
        rintro rfl
        simp at hk
      simp only [lookup_cons_eq, ih]
      by_cases h : x = k'
      · simp [h, Ne.symm hne]
      · simp [h]

@[simp] theorem get?_insert [Std.TransOrd κ] [Std.LawfulEqOrd κ] (m : SortedMap κ ν) (k x : κ)
    (v : ν) : (m.insert k v).get? x = if x = k then some v else m.get? x :=
  lookup_bindInto k x v m.toList

/-! ## Contents -/

omit [DecidableEq κ] in
theorem ascending_keys (m : SortedMap κ ν) : m.keys.Pairwise (compare · · = .lt) :=
  List.pairwise_map.2 m.ascending

section Order

variable [Std.TransOrd κ]

omit [DecidableEq κ] in
theorem nodup_keys (m : SortedMap κ ν) : m.keys.Nodup := by
  refine m.ascending_keys.imp fun h => ?_
  rintro rfl
  simp [Std.ReflCmp.compare_self] at h

/-- Each key has one binding, which a look-up finds. -/
theorem lookup_eq_some_iff {l : List (κ × ν)}
    (h : l.Pairwise (fun a b => compare a.1 b.1 = .lt)) {k : κ} {v : ν} :
    l.lookup k = some v ↔ (k, v) ∈ l := by
  induction l with
  | nil => simp
  | cons b l ih =>
    obtain ⟨k', v'⟩ := b
    obtain ⟨below, rest⟩ := List.pairwise_cons.1 h
    rw [lookup_cons_eq, List.mem_cons, Prod.mk.injEq]
    split
    · rename_i hk
      subst hk
      have absent : (k, v) ∉ l := fun hm => by simpa [Std.ReflCmp.compare_self] using below _ hm
      simp [absent, eq_comm]
    · rename_i hk
      simp [hk, ih rest]

theorem get?_eq_some_iff {m : SortedMap κ ν} {k : κ} {v : ν} :
    m.get? k = some v ↔ (k, v) ∈ m.toList := lookup_eq_some_iff m.ascending

theorem mem_keys_iff {m : SortedMap κ ν} {k : κ} : k ∈ m.keys ↔ (m.get? k).isSome = true := by
  simp [keys, Option.isSome_iff_exists, get?_eq_some_iff]

/-- Maps with the same look-ups are equal. -/
@[ext] theorem ext {m n : SortedMap κ ν} (h : ∀ k, m.get? k = n.get? k) : m = n := by
  have mem : ∀ b, b ∈ m.toList ↔ b ∈ n.toList := by
    rintro ⟨k, v⟩
    rw [← get?_eq_some_iff, ← get?_eq_some_iff, h]
  have distinct (m : SortedMap κ ν) : m.toList.Nodup :=
    (List.pairwise_map.1 m.nodup_keys).imp (by rintro _ _ hne rfl; exact hne rfl)
  have perm : m.toList.Perm n.toList :=
    (List.perm_ext_iff_of_nodup (distinct m) (distinct n)).2 mem
  have same : m.toList = n.toList := by
    refine perm.eq_of_pairwise (fun a b _ _ hab hba => ?_) m.ascending n.ascending
    simpa [Std.ReflCmp.compare_self] using Std.TransCmp.lt_trans hab hba
  cases m
  cases n
  cases same
  rfl

end Order

end SortedMap

end TxnLiveness
