/-!
# Machines and their runs

A machine starts in a first state and every act takes it to a next one. A run is the list of the
acts done, latest first, so that the runs before it are its tails.
-/

namespace TxnLiveness

/-- A first state and what an act does to a state. -/
structure Machine (σ α : Type) where
  init : σ
  step : σ → α → σ

namespace Machine

variable {σ α β : Type} (M : Machine σ α)

/-- The state after a run. -/
def after : List α → σ
  | [] => M.init
  | a :: past => M.step (after past) a

@[simp] theorem after_nil : M.after [] = M.init := rfl

@[simp] theorem after_cons (a : α) (past : List α) :
    M.after (a :: past) = M.step (M.after past) a := rfl

/-- What the acts of a run yield, each in the state that it found, latest first. -/
def collect (f : σ → α → List β) : List α → List β
  | [] => []
  | a :: past => f (M.after past) a ++ collect f past

@[simp] theorem collect_nil (f : σ → α → List β) : M.collect f [] = [] := rfl

@[simp] theorem collect_cons (f : σ → α → List β) (a : α) (past : List α) :
    M.collect f (a :: past) = f (M.after past) a ++ M.collect f past := rfl

/-- The acts of a run that satisfy `p` in the state that they found, latest first. -/
def those (p : σ → α → Bool) : List α → List α := M.collect fun s a => if p s a then [a] else []

theorem those_cons (p : σ → α → Bool) (a : α) (past : List α) :
    M.those p (a :: past) = (if p (M.after past) a then [a] else []) ++ M.those p past := rfl

theorem length_those_cons (p : σ → α → Bool) (a : α) (past : List α) :
    (M.those p (a :: past)).length = (p (M.after past) a).toNat + (M.those p past).length := by
  rw [those_cons]
  cases p (M.after past) a <;> simp [Nat.add_comm]

theorem those_eq_nil_cons {p : σ → α → Bool} {a : α} {past : List α} :
    M.those p (a :: past) = [] ↔ p (M.after past) a = false ∧ M.those p past = [] := by
  rw [those_cons]
  cases p (M.after past) a <;> simp

/-- Fewer acts satisfy what implies more. -/
theorem those_sublist {p q : σ → α → Bool} (imp : ∀ s a, p s a = true → q s a = true)
    (run : List α) : (M.those p run).Sublist (M.those q run) := by
  induction run with
  | nil => exact .refl _
  | cons a past ih =>
    rw [those_cons, those_cons]
    refine List.Sublist.append ?_ ih
    cases hp : p (M.after past) a with
    | false => exact List.nil_sublist _
    | true => simp [imp _ _ hp]

/-! ## Oldest first -/

/-- What the acts of a run yield, each in the state that it found, oldest first. -/
def told (f : σ → α → List β) : List α → List β
  | [] => []
  | a :: past => told f past ++ f (M.after past) a

@[simp] theorem told_nil (f : σ → α → List β) : M.told f [] = [] := rfl

@[simp] theorem told_cons (f : σ → α → List β) (a : α) (past : List α) :
    M.told f (a :: past) = M.told f past ++ f (M.after past) a := rfl

theorem filter_told (f : σ → α → List β) (p : β → Bool) (run : List α) :
    (M.told f run).filter p = M.told (fun s a => (f s a).filter p) run := by
  induction run with
  | nil => rfl
  | cons a past ih => rw [told_cons, List.filter_append, ih, told_cons]

/-- The machine that goes on from where a run has led. -/
def onward (past : List α) : Machine σ α := ⟨M.after past, M.step⟩

theorem after_onward (past later : List α) :
    (M.onward past).after later = M.after (later ++ past) := by
  induction later with
  | nil => rfl
  | cons a later ih => exact congrArg (M.step · a) ih

/-- Where an act yields one thing at most, what a run has yielded tells the acts apart. -/
theorem told_split {f : σ → α → List β} (single : ∀ s a, (f s a).length ≤ 1) {run : List α}
    {before rest : List β} {b : β} (h : M.told f run = before ++ b :: rest) :
    ∃ later a past, run = later ++ a :: past ∧ M.told f past = before ∧ f (M.after past) a = [b] ∧
      (M.onward (a :: past)).told f later = rest := by
  induction run generalizing rest with
  | nil => simp at h
  | cons a past ih =>
    have short := single (M.after past) a
    rw [told_cons] at h
    match hy : f (M.after past) a with
    | [] =>
      rw [hy, List.append_nil] at h
      obtain ⟨later, c, older, rfl, hbefore, hb, hrest⟩ := ih h
      refine ⟨a :: later, c, older, rfl, hbefore, hb, ?_⟩
      rw [told_cons, after_onward, hy, List.append_nil, hrest]
    | [x] =>
      rw [hy] at h
      obtain rfl | ⟨init, last, rfl⟩ := rest.eq_nil_or_concat
      · obtain ⟨hpast, hx⟩ := List.append_inj' h rfl
        exact ⟨[], a, past, rfl, hpast, hy.trans hx, rfl⟩
      · have h : M.told f past ++ [x] = (before ++ b :: init) ++ [last] := by simpa using h
        obtain ⟨hpast, hx⟩ := List.append_inj' h rfl
        obtain ⟨later, c, older, rfl, hbefore, hb, hrest⟩ := ih hpast
        refine ⟨a :: later, c, older, rfl, hbefore, hb, ?_⟩
        rw [told_cons, after_onward, hy, hx, hrest, List.concat_eq_append]
    | x :: y :: l =>
      rw [hy] at short
      simp at short

/-! ## The latest act of a kind -/

/-- The latest act of a run that satisfies `p` in the state it found, with the run before it. -/
def latest? (p : σ → α → Bool) : List α → Option (α × List α)
  | [] => none
  | a :: past => if p (M.after past) a then some (a, past) else latest? p past

variable {p : σ → α → Bool} {a : α} {past older run : List α}

theorem latest?_cons_pos (h : p (M.after past) a = true) :
    M.latest? p (a :: past) = some (a, past) := if_pos h

theorem latest?_cons_neg (h : p (M.after past) a = false) :
    M.latest? p (a :: past) = M.latest? p past := by simp [latest?, h]

end Machine

end TxnLiveness
