import TxnLiveness.Proofs.Footprint
/-!
# Range sets are canonical

Half-open ranges leave a trace in the keys: a gap between two of them holds at least the key at
which the first one stops. So gapped ranges can be read off the keys that they cover, and whatever
has been joined in whatever order comes out the same where it covers the same keys.
-/

namespace TxnLiveness

namespace KeyRange

variable {r s : KeyRange} {l m : List KeyRange}

/-- Whether some range of a list holds the key. -/
def Covered (l : List KeyRange) (k : Key) : Prop := ∃ r ∈ l, k ∈ r

@[simp] theorem not_covered_nil (k : Key) : ¬ Covered [] k := by simp [Covered]

@[simp] theorem covered_cons {k : Key} : Covered (r :: l) k ↔ k ∈ r ∨ Covered l k := by
  simp [Covered]

@[simp] theorem covered_append {k : Key} : Covered (l ++ m) k ↔ Covered l k ∨ Covered m k := by
  simp [Covered, or_and_right, exists_or]

@[simp] theorem covered_coalesce {k : Key} : Covered (coalesce l) k ↔ Covered l k :=
  exists_mem_coalesce

/-- Each range holds a key and ends strictly before the next one starts. -/
structure Canonical (l : List KeyRange) : Prop where
  nonempty : ∀ r ∈ l, r.start < r.stop
  ascending : l.Pairwise (·.start < ·.start)
  apart : l.Pairwise (·.stop < ·.start)

theorem canonical_of_gapped (h : Gapped l) : Canonical l where
  nonempty r _ := r.start_lt_stop
  ascending := h.imp fun {r _} hrs => Std.lt_trans r.start_lt_stop hrs
  apart := h

/-! ## What gapped ranges cover -/

/-- Everything that is covered beyond the first range lies beyond its stop. -/
theorem stop_lt_of_covered (h : Gapped (r :: l)) {k : Key} (hk : Covered l k) : r.stop < k := by
  obtain ⟨s, hs, hsk, -⟩ := hk
  have apart : r.stop < s.start := (List.pairwise_cons.1 h).1 s hs
  exact Std.lt_of_lt_of_le apart hsk

theorem start_le_of_covered (h : Gapped (r :: l)) {k : Key} (hk : Covered (r :: l) k) :
    r.start ≤ k := by
  obtain hk | hk := covered_cons.1 hk
  · exact hk.1
  · have := stop_lt_of_covered h hk
    have := r.start_lt_stop
    grind

/-- The gap behind a range holds the key at which the range stops. -/
theorem not_covered_stop (h : Gapped (r :: l)) : ¬ Covered (r :: l) r.stop := by
  intro hk
  obtain ⟨-, hk⟩ | hk := covered_cons.1 hk
  · exact Std.lt_irrefl hk
  · exact Std.lt_irrefl (stop_lt_of_covered h hk)

/-- The first range of a gapped list stops no later than that of another with the same cover. -/
theorem stop_le_of_covered (hl : Gapped (r :: l)) (hstart : r.start = s.start)
    (h : ∀ k, Covered (s :: m) k → Covered (r :: l) k) : s.stop ≤ r.stop := by
  apply Std.not_lt.1
  intro hlt
  have inside : r.stop ∈ s := by
    refine ⟨?_, hlt⟩
    rw [← hstart]
    exact Std.le_of_lt r.start_lt_stop
  exact not_covered_stop hl (h _ (covered_cons.2 (.inl inside)))

/-- What is covered behind the first range of a gapped list can be told by looking at the cover. -/
theorem covered_tail_iff (h : Gapped (r :: l)) {k : Key} :
    Covered l k ↔ Covered (r :: l) k ∧ k ∉ r := by
  rw [covered_cons]
  constructor
  · intro hk
    exact ⟨.inr hk, fun hr => Std.lt_irrefl (Std.lt_trans (stop_lt_of_covered h hk) hr.2)⟩
  · rintro ⟨hr | hk, hn⟩
    · exact absurd hr hn
    · exact hk

/-- Gapped ranges that cover the same keys are the same ranges. -/
theorem eq_of_gapped (hl : Gapped l) (hm : Gapped m) (h : ∀ k, Covered l k ↔ Covered m k) :
    l = m := by
  induction l generalizing m with
  | nil =>
    cases m with
    | nil => rfl
    | cons s m =>
      exact absurd ((h s.start).2 (covered_cons.2 (.inl s.start_mem))) (not_covered_nil _)
  | cons r l ih =>
    cases m with
    | nil => exact absurd ((h r.start).1 (covered_cons.2 (.inl r.start_mem))) (not_covered_nil _)
    | cons s m =>
      have start : r.start = s.start := by
        have := start_le_of_covered hl ((h s.start).2 (covered_cons.2 (.inl s.start_mem)))
        have := start_le_of_covered hm ((h r.start).1 (covered_cons.2 (.inl r.start_mem)))
        grind
      have stop : r.stop = s.stop := by
        have := stop_le_of_covered hl start fun k => (h k).2
        have := stop_le_of_covered hm start.symm fun k => (h k).1
        grind
      obtain rfl : r = s := by
        cases r
        cases s
        simp_all
      rw [ih (List.pairwise_cons.1 hl).2 (List.pairwise_cons.1 hm).2 fun k => ?_]
      rw [covered_tail_iff hl, covered_tail_iff hm, h k]

theorem coalesce_eq_iff : coalesce l = coalesce m ↔ ∀ k, Covered l k ↔ Covered m k := by
  constructor
  · intro h k
    rw [← covered_coalesce, h, covered_coalesce]
  · intro h
    exact eq_of_gapped (gapped_coalesce l) (gapped_coalesce m) (by simpa using h)

/-! ## One sweep in the order of the starts -/

/-- The range with its stop moved to at least `k`. -/
def extend (r : KeyRange) (k : Key) : KeyRange where
  start := r.start
  stop := if r.stop < k then k else r.stop
  start_lt_stop := by
    split
    · exact Std.lt_trans r.start_lt_stop ‹r.stop < k›
    · exact r.start_lt_stop

/-- Sweeps over ranges with `r` the latest one: a range that starts within it or where it stops
extends it, and any other takes its place. -/
def sweepFrom (r : KeyRange) : List KeyRange → List KeyRange
  | [] => [r]
  | s :: l => if s.start ≤ r.stop then sweepFrom (r.extend s.stop) l else r :: sweepFrom s l

def sweep : List KeyRange → List KeyRange
  | [] => []
  | r :: l => sweepFrom r l

/-- The ranges come in the order of their starts, those with the same start in any order. -/
abbrev ByStart (l : List KeyRange) : Prop := l.Pairwise (·.start ≤ ·.start)

theorem byStart_extend (h : ByStart (r :: s :: l)) : ByStart (r.extend s.stop :: l) := by
  obtain ⟨hr, hl⟩ := List.pairwise_cons.1 h
  exact List.pairwise_cons.2 ⟨fun t ht => hr t (List.mem_cons_of_mem s ht), hl.of_cons⟩

theorem mem_extend {k : Key} (h : r.start ≤ s.start) (touch : s.start ≤ r.stop) :
    k ∈ r.extend s.stop ↔ k ∈ r ∨ k ∈ s := by
  have := r.start_lt_stop
  have := s.start_lt_stop
  simp only [mem_def, extend]
  split <;> grind

theorem covered_sweepFrom {k : Key} (h : ByStart (r :: l)) :
    Covered (sweepFrom r l) k ↔ Covered (r :: l) k := by
  fun_induction sweepFrom r l with
  | case1 r => exact Iff.rfl
  | case2 r s l touch ih =>
    have ordered : r.start ≤ s.start := (List.pairwise_cons.1 h).1 s List.mem_cons_self
    rw [ih (byStart_extend h), covered_cons, mem_extend ordered touch, or_assoc]
    simp
  | case3 r s l apart ih => simp [ih h.of_cons]

theorem start_le_sweepFrom (h : ByStart (r :: l)) : ∀ t ∈ sweepFrom r l, r.start ≤ t.start := by
  fun_induction sweepFrom r l with
  | case1 r => simp [Std.le_refl]
  | case2 r s l touch ih => exact ih (byStart_extend h)
  | case3 r s l apart ih =>
    have ordered : r.start ≤ s.start := (List.pairwise_cons.1 h).1 s List.mem_cons_self
    intro t ht
    obtain rfl | ht := List.mem_cons.1 ht
    · exact Std.le_refl _
    · exact Std.le_trans ordered (ih h.of_cons t ht)

theorem gapped_sweepFrom (h : ByStart (r :: l)) : Gapped (sweepFrom r l) := by
  fun_induction sweepFrom r l with
  | case1 r => simp
  | case2 r s l touch ih => exact ih (byStart_extend h)
  | case3 r s l apart ih =>
    refine List.pairwise_cons.2 ⟨fun t ht => ?_, ih h.of_cons⟩
    exact Std.lt_of_lt_of_le (Std.not_le.1 apart) (start_le_sweepFrom h.of_cons t ht)

/-- Sorted by their starts and swept over once, ranges become what they are when they are joined one
by one. -/
theorem sweep_eq_coalesce (hm : m.Perm l) (h : ByStart m) : sweep m = coalesce l := by
  have covered (k : Key) : Covered m k ↔ Covered l k := by simp [Covered, hm.mem_iff]
  rw [← coalesce_eq_iff.2 covered]
  cases m with
  | nil => rfl
  | cons r m =>
    apply eq_of_gapped (gapped_sweepFrom h) (gapped_coalesce _)
    intro k
    exact (covered_sweepFrom h).trans covered_coalesce.symm

end KeyRange

/-! ## Footprints put together -/

/-- A way to put a footprint together. -/
inductive Construction
  | empty
  | ofKeys (l : List Key)
  | ofRanges (l : List KeyRange)
  | union (c d : Construction)
  | withKey (c : Construction) (k : Key)

namespace Construction

open KeyRange (ByStart Canonical Covered coalesce sweep)

def footprint : Construction → Footprint
  | empty => ∅
  | ofKeys l => .ofKeys l
  | ofRanges l => .ofRanges l
  | union c d => c.footprint.union d.footprint
  | withKey c k => c.footprint.withKey k

/-- The ranges that have been put in, as they came. -/
def given : Construction → List KeyRange
  | empty | ofKeys _ => []
  | ofRanges l => l
  | union c d => c.given ++ d.given
  | withKey c _ => c.given

theorem ranges_footprint (c : Construction) : c.footprint.ranges = coalesce c.given := by
  induction c with
  | empty | ofKeys l | ofRanges l => rfl
  | union c d ihc ihd =>
    change coalesce (c.footprint.ranges ++ d.footprint.ranges) = coalesce (c.given ++ d.given)
    simp [KeyRange.coalesce_eq_iff, ihc, ihd]
  | withKey c k ih =>
    change (c.footprint.withKey k).ranges = coalesce c.given
    rw [← ih]
    unfold Footprint.withKey
    split <;> rfl

/-- Stored ranges are canonical, are what one sweep over everything given leaves, and are equal
exactly where the same keys are covered, which is where what was given covers the same keys. -/
theorem ranges_canonical (c d : Construction) :
    Canonical c.footprint.ranges ∧
      (∀ m : List KeyRange, m.Perm c.given → ByStart m → c.footprint.ranges = sweep m) ∧
      (c.footprint.ranges = d.footprint.ranges ↔
        ∀ k, Covered c.footprint.ranges k ↔ Covered d.footprint.ranges k) ∧
      (c.footprint.ranges = d.footprint.ranges ↔ ∀ k, Covered c.given k ↔ Covered d.given k) := by
  have given : c.footprint.ranges = d.footprint.ranges ↔
      ∀ k, Covered c.given k ↔ Covered d.given k := by
    rw [ranges_footprint, ranges_footprint]
    exact KeyRange.coalesce_eq_iff
  refine ⟨KeyRange.canonical_of_gapped c.footprint.gapped, ?_, ?_, given⟩
  · intro m hm sorted
    rw [ranges_footprint]
    exact (KeyRange.sweep_eq_coalesce hm sorted).symm
  · rw [given]
    simp [ranges_footprint]

/-- Nested, touching and with a common start, four ranges given to two footprints and joined. -/
theorem ranges_canonical_of_joined :
    let ab : KeyRange := ⟨⟨[97]⟩, ⟨[98]⟩, by decide⟩
    let ad : KeyRange := ⟨⟨[97]⟩, ⟨[100]⟩, by decide⟩
    let bc : KeyRange := ⟨⟨[98]⟩, ⟨[99]⟩, by decide⟩
    let de : KeyRange := ⟨⟨[100]⟩, ⟨[101]⟩, by decide⟩
    let c : Construction := .union (.ofRanges [de, ab]) (.withKey (.ofRanges [ad, bc]) ⟨[120]⟩)
    let d : Construction := .ofRanges [⟨⟨[97]⟩, ⟨[101]⟩, by decide⟩]
    let m : List KeyRange := [ab, ad, bc, de]
    m.Perm c.given ∧ ByStart m ∧ c.footprint.ranges = sweep m ∧
      c.footprint.ranges = d.footprint.ranges ∧ ∀ k, Covered c.given k ↔ Covered d.given k := by
  intro ab ad bc de c d m
  obtain ⟨-, swept, -, given⟩ := ranges_canonical c d
  have perm : m.Perm c.given := by decide
  have sorted : ByStart m := by decide
  have same : c.footprint.ranges = d.footprint.ranges := by decide
  exact ⟨perm, sorted, swept m perm sorted, same, given.1 same⟩

end Construction

end TxnLiveness
