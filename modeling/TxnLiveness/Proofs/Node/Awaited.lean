import TxnLiveness.Proofs.Node.Underway
/-!
# Every investigation is awaited

A tracker that investigates waits for a completion. Along every run each generation of a tracker is
launched once, and the remediation of the one that it investigates is underway, unless the tracker
came to investigate in an audit that failed and was reported.
-/

namespace TxnLiveness.Node

/-- Whether an act moves a tracker into investigating. A further investigation that follows one at
once counts as well. -/
def moves (i : Nat) (txn : TxnId) (kind : TrackerKind) (n : Node) (a : Act) : Bool :=
  ((n.act a).probe i txn kind).investigating &&
    (!(n.probe i txn kind).investigating ||
      (n.probe i txn kind).generation < ((n.act a).probe i txn kind).generation)

section Run

variable (id : NodeId) (fanout : Nat)

/-- All remediations launched in a run. -/
def launches (run : List Act) : List Flight := (machine id fanout).collect launchedBy run

/-- Whether the act that last moved the tracker into investigating is an audit that failed for it
and was reported. -/
def FailedLast (i : Nat) (txn : TxnId) (kind : TrackerKind) (run : List Act) : Prop :=
  ∃ a older, (machine id fanout).latest? (moves i txn kind) run = some (a, older) ∧
    Fails i txn kind ((machine id fanout).after older) a

/-- What holds of a tracker after every run. -/
structure Awaited (i : Nat) (txn : TxnId) (kind : TrackerKind) (run : List Act) : Prop where
  /-- Every generation up to now is launched once, and no later one. -/
  launched : ∀ g, (launches id fanout run).countP (·.carries i txn ⟨kind, g⟩) =
    if 0 < g ∧ g ≤ (((machine id fanout).after run).probe i txn kind).generation then 1 else 0
  underway : ∀ g, ((machine id fanout).after run).underway i txn ⟨kind, g⟩ ≤
    (launches id fanout run).countP (·.carries i txn ⟨kind, g⟩)
  awaited : (((machine id fanout).after run).probe i txn kind).investigating = true →
    FailedLast id fanout i txn kind run ∨
      ((machine id fanout).after run).underway i txn
        ⟨kind, (((machine id fanout).after run).probe i txn kind).generation⟩ = 1

end Run

variable {id : NodeId} {fanout : Nat} {i : Nat} {txn : TxnId} {kind : TrackerKind}
  {past : List Act} {a : Act}

theorem sound_after (id : NodeId) (fanout : Nat) (run : List Act) :
    ((machine id fanout).after run).Sound := by
  induction run with
  | nil => exact ⟨fun _ _ h => (nomatch h), fun _ h => (nomatch h), fun _ h => (nomatch h),
      fun _ h => (nomatch h), .nil⟩
  | cons a past ih => exact (act_effect ih a).1

theorem launches_cons (tag : Tag) :
    (launches id fanout (a :: past)).countP (·.carries i txn tag) =
      (((machine id fanout).after past).launchedBy a).countP (·.carries i txn tag) +
        (launches id fanout past).countP (·.carries i txn tag) := by
  rw [launches, Machine.collect_cons, List.countP_append]
  rfl

theorem failedLast_of_fails (hm : ((machine id fanout).after past).moves i txn kind a = true)
    (hf : Fails i txn kind ((machine id fanout).after past) a) :
    FailedLast id fanout i txn kind (a :: past) :=
  ⟨a, past, Machine.latest?_cons_pos _ hm, hf⟩

theorem failedLast_cons (hm : ((machine id fanout).after past).moves i txn kind a = false)
    (h : FailedLast id fanout i txn kind past) : FailedLast id fanout i txn kind (a :: past) := by
  obtain ⟨b, older, hl, hf⟩ := h
  exact ⟨b, older, (Machine.latest?_cons_neg _ hm).trans hl, hf⟩

/-! ## One act -/

section Move

variable {tag : Tag} {p q : Probe} {launched : Nat} {popped : Bool} {failed : Prop}

/-- A generation is launched when it comes. -/
theorem Move.launched_eq (h : Move tag p q launched popped failed) :
    p.generation ≤ q.generation ∧
      launched =
        if p.generation < tag.generation ∧ tag.generation ≤ q.generation then 1 else 0 := by
  cases h with
  | calm calm unlaunched ended =>
    have none : ¬ (p.generation < tag.generation ∧ tag.generation ≤ p.generation) := by omega
    rw [calm.generation, if_neg none]
    exact ⟨Nat.le_refl _, unlaunched⟩
  | failed idle stray unlaunched unpopped failed =>
    have none : ¬ (p.generation < tag.generation ∧ tag.generation ≤ p.generation) := by omega
    rw [stray, if_neg none]
    exact ⟨Nat.le_refl _, unlaunched⟩
  | begun begun launched =>
    have next : tag.generation = p.generation + 1 ↔
        p.generation < tag.generation ∧ tag.generation ≤ p.generation + 1 := by omega
    rw [begun]
    refine ⟨Nat.le_succ _, ?_⟩
    simpa only [next] using launched

end Move

/-- A tracker that investigates after an act did so before and still waits, has failed in the act,
or has its next generation launched. -/
theorem Effect.cause {n : Node} {g : Nat} (h : Effect i txn ⟨kind, g⟩ n a)
    (hi : ((n.act a).probe i txn kind).investigating = true)
    (hg : ((n.act a).probe i txn kind).generation = g) :
    ((n.probe i txn kind).investigating = true ∧ g = (n.probe i txn kind).generation ∧
        n.moves i txn kind a = false ∧
        (n.act a).underway i txn ⟨kind, g⟩ = n.underway i txn ⟨kind, g⟩) ∨
      (n.moves i txn kind a = true ∧ Fails i txn kind n a) ∨
      (g = (n.probe i txn kind).generation + 1 ∧
        (n.underway i txn ⟨kind, g⟩ = 0 → (n.act a).underway i txn ⟨kind, g⟩ = 1)) := by
  obtain ⟨popped, remaining, move, before, rest⟩ := h
  cases move with
  | calm calm unlaunched ended =>
    have investigated := calm.investigating hi
    have same : g = (n.probe i txn kind).generation := hg.symm.trans calm.generation
    -- The remediation has not ended, for that would have ended the investigation.
    have unpopped : popped = false := by
      rw [← Bool.not_eq_true]
      intro hp
      have finished := ended hp (Probe.answers_iff.2 ⟨investigated, same.symm⟩)
      rw [hi] at finished
      cases finished
    refine .inl ⟨investigated, same, ?_, ?_⟩
    · simp [moves, investigated, hg, same]
    · rw [rest, before, unlaunched, unpopped]
      rfl
  | failed idle stray unlaunched unpopped failed =>
    dsimp only at idle
    exact .inr (.inl ⟨by simp [moves, hi, idle], failed⟩)
  | begun begun count =>
    have next : g = (n.probe i txn kind).generation + 1 := by
      rw [← hg]
      exact congrArg Probe.generation begun
    rw [if_pos next] at count
    exact .inr (.inr ⟨next, fun none => by omega⟩)

/-! ## Every run -/

theorem awaited_nil : Awaited id fanout i txn kind [] := by
  refine ⟨fun g => ?_, fun g => ?_, fun h => ?_⟩
  · have none : ¬ (0 < g ∧ g ≤ 0) := by omega
    exact (if_neg none).symm
  · exact Nat.le_refl 0
  · cases h

theorem launched_cons (h : Awaited id fanout i txn kind past) (g : Nat) :
    (launches id fanout (a :: past)).countP (·.carries i txn ⟨kind, g⟩) =
      if 0 < g ∧ g ≤ (((machine id fanout).after (a :: past)).probe i txn kind).generation
      then 1 else 0 := by
  obtain ⟨popped, remaining, move, -, -⟩ :=
    (act_effect (sound_after id fanout past) a).2 i txn ⟨kind, g⟩
  obtain ⟨grown, count⟩ := move.launched_eq
  have after : (machine id fanout).after (a :: past) = ((machine id fanout).after past).act a := rfl
  rw [launches_cons, h.launched, count, after]
  dsimp only at grown ⊢
  split <;> split <;> split <;> omega

theorem underway_le_cons (h : Awaited id fanout i txn kind past) (g : Nat) :
    ((machine id fanout).after (a :: past)).underway i txn ⟨kind, g⟩ ≤
      (launches id fanout (a :: past)).countP (·.carries i txn ⟨kind, g⟩) := by
  obtain ⟨popped, remaining, -, before, rest⟩ :=
    (act_effect (sound_after id fanout past) a).2 i txn ⟨kind, g⟩
  have bound := h.underway g
  have after : (machine id fanout).after (a :: past) = ((machine id fanout).after past).act a := rfl
  rw [launches_cons, after]
  omega

theorem awaited_cons (h : Awaited id fanout i txn kind past) :
    Awaited id fanout i txn kind (a :: past) := by
  refine ⟨launched_cons h, underway_le_cons h, fun hi => ?_⟩
  generalize hg : (((machine id fanout).after (a :: past)).probe i txn kind).generation = g
  have effect := (act_effect (sound_after id fanout past) a).2 i txn ⟨kind, g⟩
  obtain ⟨investigated, same, unmoved, kept⟩ | ⟨moved, failed⟩ | ⟨next, begun⟩ :=
    effect.cause hi hg
  · obtain failed | waiting := h.awaited investigated
    · exact .inl (failedLast_cons unmoved failed)
    · refine .inr (kept.trans ?_)
      rw [same]
      exact waiting
  · exact .inl (failedLast_of_fails moved failed)
  · -- Nothing is underway under a generation that is still to come.
    have bound := h.underway g
    rw [h.launched, if_neg (by omega)] at bound
    exact .inr (begun (Nat.le_zero.1 bound))

theorem awaited_after (run : List Act) : Awaited id fanout i txn kind run := by
  induction run with
  | nil => exact awaited_nil
  | cons a past ih => exact awaited_cons ih

theorem underway_eq_zero {n : Node} (hf : n.flights = []) (hq : ∀ s ∈ n.stores, s.queue = [])
    (i : Nat) (txn : TxnId) (tag : Tag) : n.underway i txn tag = 0 := by
  rw [Node.underway, running, queued, hf]
  cases hs : n.stores[i]? with
  | none => rfl
  | some s => simp [hq s (List.mem_of_getElem? hs)]

/-- While a tracker investigates, exactly one remediation has been launched under its tag, and it is
in flight or its end is queued, unless the tracker last came to investigate in an audit that failed
for it and was reported. So it did whenever nothing is in flight and nothing is queued. -/
theorem awaited_or_reported (id : NodeId) (fanout : Nat) (run : List Act) (i : Nat) (txn : TxnId)
    (kind : TrackerKind)
    (h : (((machine id fanout).after run).probe i txn kind).investigating = true) :
    let n := (machine id fanout).after run
    let tag : Tag := ⟨kind, (n.probe i txn kind).generation⟩
    (¬ FailedLast id fanout i txn kind run →
      (launches id fanout run).countP (·.carries i txn tag) = 1 ∧
        n.running i txn tag + n.queued i txn tag = 1) ∧
    (n.flights = [] → (∀ s ∈ n.stores, s.queue = []) → FailedLast id fanout i txn kind run) := by
  obtain ⟨launched, underway, awaited⟩ : Awaited id fanout i txn kind run := awaited_after run
  refine ⟨fun hf => ?_, fun hflights hqueues => ?_⟩
  · have waiting := (awaited h).resolve_left hf
    have bound := underway (((machine id fanout).after run).probe i txn kind).generation
    have once := launched (((machine id fanout).after run).probe i txn kind).generation
    refine ⟨?_, waiting⟩
    rw [waiting] at bound
    split at once <;> omega
  · refine (awaited h).resolve_right fun waiting => ?_
    rw [underway_eq_zero hflights hqueues] at waiting
    exact absurd waiting Nat.zero_ne_one

/-- A store learns of a transaction that it is home to, and audits it until it is recovered. -/
def exampleRun : List Act :=
  let topology : Topology := ⟨1, fun _ => true, fun _ _ _ => ∅⟩
  let turn : Act := .runNext 0 topology .ascending
  let audit : List Act := [turn, turn, .auditAll 0]
  audit ++ audit ++
    [turn,
      .work 0 [.put { txn := ⟨1, 1, 1⟩, homeKey := some ⟨[104]⟩ },
        .record .home (.witnessed ⟨1, 1, 1⟩ ⟨[104]⟩)] .returned,
      .addStore 0]

theorem recovery_awaited :
    let n := (machine 1 2).after exampleRun
    (n.probe 0 ⟨1, 1, 1⟩ .coordinate).investigating = true ∧
      ¬ FailedLast 1 2 0 ⟨1, 1, 1⟩ .coordinate exampleRun ∧
      (launches 1 2 exampleRun).countP (·.carries 0 ⟨1, 1, 1⟩ ⟨.coordinate, 1⟩) = 1 ∧
      n.running 0 ⟨1, 1, 1⟩ ⟨.coordinate, 1⟩ + n.queued 0 ⟨1, 1, 1⟩ ⟨.coordinate, 1⟩ = 1 := by
  have planned : ¬ FailedLast 1 2 0 ⟨1, 1, 1⟩ .coordinate exampleRun := by
    rintro ⟨a, older, ho, topology, listing, s, t, queue, fault, ha, hs, hq, -, hplan, -⟩
    cases ho
    cases ha
    cases hs
    cases hq
    cases hplan
  refine ⟨by decide, planned, ?_⟩
  exact (awaited_or_reported 1 2 exampleRun 0 ⟨1, 1, 1⟩ .coordinate (by decide)).1 planned

end TxnLiveness.Node
