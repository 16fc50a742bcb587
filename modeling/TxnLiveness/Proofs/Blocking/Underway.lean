import TxnLiveness.Proofs.Blocking.Asked
import TxnLiveness.Proofs.Investigation.Kind
/-!
# The investigation under way

A blocking tracker investigates for the last dispatch that it planned. Which one that is can be
told from a run alone, by what it dispatched and when the tracker was investigating. A completion
of something dispatched earlier is accepted exactly where it answers this one.
-/

namespace TxnLiveness.Blocking

/-- What an act plans. -/
def dispatched (b : Blocking) : Act → List Dispatch
  | .audit txn cmd topology =>
    match (b.audit txn cmd topology).2 with
    | .ok planned => planned.toList
    | .error _ => []
  | .fetched txn tag result =>
    match (b.fetched txn tag result).2 with
    | .ok (.resolved planned) => planned.toList
    | _ => []
  | _ => []

/-- Everything dispatched in a run, latest first. -/
def sent (run : List Act) : List Dispatch := machine.collect dispatched run

/-- The last dispatch of a run, if the tracker has been investigating ever since. -/
def underway? : List Act → Option Dispatch
  | [] => none
  | a :: past =>
    if (machine.after (a :: past)).progress = .investigating then
      ((machine.after past).dispatched a).head?.or (underway? past)
    else none

/-- The completion that an act delivers, with its tag. -/
def Act.completion? : Act → Option (Tag × Completion)
  | .fetched _ tag result => some (tag, .fetched result)
  | .invalidated tag result => some (tag, .invalidated result)
  | _ => none

/-- What an act delivers answers something dispatched earlier, however long ago and however often
it has been answered already. -/
def Due (past : List Act) (a : Act) : Prop :=
  ∀ tag completion, a.completion? = some (tag, completion) →
    ∃ d ∈ sent past, d.tag = tag ∧ completion.answers d.remediation = true

variable {b : Blocking} {past run : List Act} {a : Act}

/-- What an act does to a tracker, and what it dispatches. -/
theorem act_step (h : b.Named) (a : Act) : Step b (b.act a) (b.dispatched a) := by
  cases a with
  | block required keys => exact .kept (b.block_steady required keys)
  | learn known => exact .kept (b.learn_steady known)
  | audit txn cmd topology =>
    obtain ⟨planned, e, step⟩ := audit_step h txn cmd topology
    rwa [dispatched, e]
  | fetched txn tag result =>
    rw [dispatched]
    obtain ⟨steady, none⟩ | ⟨d, e, step⟩ := b.fetched_step txn tag result
    · split
      · rename_i planned e
        cases planned with
        | none => exact .kept steady
        | some d => exact absurd e (none d)
      · exact .kept steady
    · rw [e]
      exact step
  | invalidated tag result => exact .kept (b.invalidated_steady tag result)

theorem named_after (run : List Act) : (machine.after run).Named := by
  induction run with
  | nil => exact fun h => absurd rfl h
  | cons a past ih => exact act_named _ a ih

theorem turn (past : List Act) (a : Act) :
    Step (machine.after past) (machine.after (a :: past)) ((machine.after past).dispatched a) :=
  act_step (named_after past) a

theorem Step.tracker_of_mem {b' : Blocking} {ds : List Dispatch} (h : Step b b' ds) :
    ∀ d ∈ ds, d.tag.tracker = .blocking := by
  cases h with
  | kept steady => simp
  | begun d tag => simp [tag]

theorem tracker_of_mem_sent {d : Dispatch} (hd : d ∈ sent run) : d.tag.tracker = .blocking := by
  induction run with
  | nil => cases hd
  | cons a past ih =>
    obtain hd | hd := List.mem_append.1 hd
    · exact (turn past a).tracker_of_mem d hd
    · exact ih hd

theorem traced_after (run : List Act) : (machine.after run).Traced (sent run) := by
  induction run with
  | nil => exact ⟨fun _ hd => absurd hd List.not_mem_nil, nofun, nofun⟩
  | cons a past ih =>
    apply ih.step
    rw [List.filter_eq_self.2 fun d hd => by simpa using (turn past a).tracker_of_mem d hd]
    exact turn past a

/-! ## Generations -/

theorem Step.generation_le {b' : Blocking} {ds : List Dispatch} (h : Step b b' ds) :
    b.generation ≤ b'.generation := by
  cases h with
  | kept steady => exact Nat.le_of_eq steady.generation.symm
  | begun d tag investigating generation => omega

theorem generation_le_append (later past : List Act) :
    (machine.after past).generation ≤ (machine.after (later ++ past)).generation := by
  induction later with
  | nil => exact Nat.le_refl _
  | cons a later ih => exact Nat.le_trans ih (turn (later ++ past) a).generation_le

/-- A tag of an earlier generation is never accepted again. -/
theorem not_accepts_of_lt {tag : Tag} (h : tag.generation < (machine.after past).generation)
    (later : List Act) : (machine.after (later ++ past)).accepts tag = false := by
  have grown := generation_le_append later past
  rw [accepts, Bool.and_eq_false_iff]
  right
  rw [decide_eq_false_iff_not]
  omega

/-! ## What is under way -/

/-- Whatever is dispatched is under way, under the next generation. -/
theorem underway_of_dispatched {d : Dispatch} (hd : d ∈ (machine.after past).dispatched a) :
    underway? (a :: past) = some d ∧ (machine.after (a :: past)).progress = .investigating ∧
      (machine.after (a :: past)).generation = (machine.after past).generation + 1 ∧
      d.tag = ⟨.blocking, (machine.after past).generation + 1⟩ := by
  have step := turn past a
  rw [underway?]
  generalize (machine.after past).dispatched a = ds at step hd ⊢
  cases step with
  | kept steady => cases hd
  | begun e tag investigating generation =>
    obtain rfl : d = e := List.mem_singleton.1 hd
    rw [if_pos investigating]
    exact ⟨rfl, investigating, generation, tag⟩

/-- A tracker investigates exactly when some dispatch is under way, and then under its tag. -/
theorem underway_cases (run : List Act) :
    ((machine.after run).progress ≠ .investigating ∧ underway? run = none) ∨
      ∃ d ∈ sent run, underway? run = some d ∧ (machine.after run).progress = .investigating ∧
        d.tag = ⟨.blocking, (machine.after run).generation⟩ := by
  induction run with
  | nil => exact .inl ⟨nofun, rfl⟩
  | cons a past ih =>
    by_cases hp : (machine.after (a :: past)).progress = .investigating
    · right
      have step := turn past a
      rw [underway?, if_pos hp]
      generalize hds : (machine.after past).dispatched a = ds at step
      have fresh : ∀ d ∈ ds, d ∈ sent (a :: past) := fun d hd =>
        List.mem_append_left _ (hds ▸ hd)
      cases step with
      | kept steady =>
        obtain ⟨before, -, -⟩ := steady.investigating hp
        obtain ⟨idle, -⟩ | ⟨d, hd, hu, -, tag⟩ := ih
        · exact absurd before idle
        · refine ⟨d, List.mem_append_right _ hd, hu, hp, ?_⟩
          rw [tag, steady.generation]
      | begun d tag investigating generation =>
        refine ⟨d, fresh d List.mem_cons_self, rfl, hp, ?_⟩
        rw [tag, generation]
    · exact .inl ⟨hp, by rw [underway?, if_neg hp]⟩

/-- A completion of something dispatched earlier is accepted exactly if it answers the dispatch
under way. -/
theorem accepts_iff {tag : Tag} (h : ∃ d ∈ sent past, d.tag = tag) :
    (machine.after past).accepts tag = true ↔ ∃ d, underway? past = some d ∧ d.tag = tag := by
  obtain ⟨e, he, rfl⟩ := h
  have own : e.tag = ⟨.blocking, e.tag.generation⟩ := by rw [← tracker_of_mem_sent he]
  simp only [accepts, Bool.and_eq_true, decide_eq_true_eq]
  obtain ⟨idle, none⟩ | ⟨d, -, hu, hp, tag⟩ := underway_cases past
  · simp [idle, none]
  · rw [own]
    simp [hp, hu, tag]

theorem mem_sent_of_underway {d : Dispatch} (h : underway? past = some d) : d ∈ sent past := by
  obtain ⟨-, none⟩ | ⟨e, he, hu, -, -⟩ := underway_cases past
  · rw [none] at h
    cases h
  · obtain rfl : e = d := by simpa [hu] using h
    exact he

/-- While a dispatch is under way the tracker remembers whom it asked, and so whom anything else
asked that was dispatched under the same tag. -/
theorem asked_of_underway {d e : Dispatch} (h : underway? past = some d) (he : e ∈ sent past)
    (same : e.tag = d.tag) : (machine.after past).asked = e.remediation.asked? := by
  obtain ⟨-, none⟩ | ⟨d', -, hu, hp, tag⟩ := underway_cases past
  · rw [none] at h
    cases h
  · obtain rfl : d' = d := by simpa [hu] using h
    exact (traced_after past).asked hp e he (same.trans tag)

end TxnLiveness.Blocking
