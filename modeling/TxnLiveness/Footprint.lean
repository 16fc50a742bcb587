import TxnLiveness.Ascending.Set
import TxnLiveness.KeyRange
/-!
# Footprints

A footprint is the set of keys and key ranges that a transaction touches. The keys are kept as a
set and the ranges gapped, so the ranges of two footprints that cover the same keys are equal.
-/

namespace TxnLiveness

/-- The keys and ranges that a transaction touches. -/
structure Footprint where
  keys : SortedSet Key
  ranges : List KeyRange
  gapped : Gapped ranges
deriving DecidableEq

namespace Footprint

instance : EmptyCollection Footprint := ⟨⟨∅, [], .nil⟩⟩

instance : Inhabited Footprint := ⟨∅⟩

def ofKeys (l : List Key) : Footprint := ⟨.ofList l, [], .nil⟩

def ofRanges (l : List KeyRange) : Footprint := ⟨∅, KeyRange.coalesce l, KeyRange.gapped_coalesce l⟩

instance : Membership Key Footprint := ⟨fun f k => k ∈ f.keys ∨ ∃ r ∈ f.ranges, k ∈ r⟩

instance (k : Key) (f : Footprint) : Decidable (k ∈ f) :=
  inferInstanceAs (Decidable (k ∈ f.keys ∨ ∃ r ∈ f.ranges, k ∈ r))

def isEmpty (f : Footprint) : Bool := f.keys.isEmpty && f.ranges.isEmpty

/-- The keys and ranges of either footprint. -/
def union (f g : Footprint) : Footprint where
  keys := f.keys.union g.keys
  ranges := KeyRange.coalesce (f.ranges ++ g.ranges)
  gapped := KeyRange.gapped_coalesce _

/-- A key of the footprint: the least listed one, or else the start of the lowest range. -/
def someKey? (f : Footprint) : Option Key :=
  f.keys.min?.or (f.ranges.head?.map (·.start))

/-- The footprint with `k` listed, unless it covers `k` already. -/
def withKey (f : Footprint) (k : Key) : Footprint :=
  if k ∈ f then f else { f with keys := f.keys.insert k }

theorem mem_def {k : Key} {f : Footprint} : k ∈ f ↔ k ∈ f.keys ∨ ∃ r ∈ f.ranges, k ∈ r := Iff.rfl

@[simp] theorem mem_ofKeys {k : Key} {l : List Key} : k ∈ ofKeys l ↔ k ∈ l := by
  simp [mem_def, ofKeys]

@[simp] theorem mem_ofRanges {k : Key} {l : List KeyRange} : k ∈ ofRanges l ↔ ∃ r ∈ l, k ∈ r := by
  simp [mem_def, ofRanges, KeyRange.exists_mem_coalesce]

@[simp] theorem mem_union {k : Key} {f g : Footprint} : k ∈ f.union g ↔ k ∈ f ∨ k ∈ g := by
  simp only [mem_def, union, SortedSet.mem_union, KeyRange.exists_mem_coalesce, List.mem_append,
    or_and_right, exists_or]
  grind

@[simp] theorem mem_withKey {k x : Key} {f : Footprint} : x ∈ f.withKey k ↔ x ∈ f ∨ x = k := by
  unfold withKey
  split
  · rename_i h
    exact ⟨.inl, fun h' => h'.elim id (· ▸ h)⟩
  · simp only [mem_def, SortedSet.mem_insert]
    grind

end Footprint

end TxnLiveness
