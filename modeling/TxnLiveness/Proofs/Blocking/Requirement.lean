import TxnLiveness.Proofs.Blocking.Cases
import TxnLiveness.Proofs.Known
import TxnLiveness.Proofs.Machine
/-!
# Requirements are never forgotten

The blocking tracker joins requirements only where they are not covered, and six of its operations
overwrite its progress. Whatever is done to it, a tracker that waits for nothing has been shown
knowledge that meets everything ever required of it.
-/

namespace TxnLiveness.Blocking

/-- What can be done to a blocking tracker. -/
inductive Act
  | block (required : Known) (keys : Footprint)
  | learn (known : Known)
  | audit (txn : TxnId) (cmd : Command) (topology : Topology)
  | fetched (txn : TxnId) (tag : Tag) (result : Except RemoteFault Known)
  | invalidated (tag : Tag) (result : Except RemoteFault Token)

def act (b : Blocking) : Act → Blocking
  | .block required keys => (b.block required keys).1
  | .learn known => b.learn known
  | .audit txn cmd topology => (b.audit txn cmd topology).1
  | .fetched txn tag result => (b.fetched txn tag result).1
  | .invalidated tag result => (b.invalidated tag result).1

/-- The blocking tracker from its creation on. -/
def machine : Machine Blocking Act := ⟨{}, act⟩

@[simp] theorem machine_step (b : Blocking) (a : Act) : machine.step b a = b.act a := rfl

/-- The requirement that an act records, unless it is refused. -/
def recorded (b : Blocking) : Act → List Known
  | .block required keys =>
    match (b.block required keys).2 with
    | .ok () => [required]
    | .error _ => []
  | _ => []

/-- The knowledge that an act presents to the tracker. A stale fetch is not looked at. -/
def presented (b : Blocking) : Act → List Known
  | .learn known => [known]
  | .audit _ cmd _ => [cmd.known]
  | .fetched txn tag (.ok known) =>
    match (b.fetched txn tag (.ok known)).2 with
    | .ok .stale => []
    | _ => [known]
  | _ => []

/-! ## Single acts -/

variable {b : Blocking} {required : Known} {keys : Footprint}

theorem recorded_metBy_block {r : Known} (h : r ∈ b.recorded (.block required keys)) :
    r.MetBy (b.block required keys).1.required := by
  unfold recorded at h
  obtain ⟨-, e⟩ | ⟨-, hm, e⟩ | ⟨-, -, e⟩ := b.block_cases required keys
  · simp [e] at h
  · simp only [e, List.mem_singleton] at h ⊢
    exact h ▸ hm
  · simp only [e, List.mem_singleton] at h ⊢
    exact h ▸ Known.metBy_merge_right _ _

theorem required_metBy_block (b : Blocking) (required : Known) (keys : Footprint) :
    b.required.MetBy (b.block required keys).1.required := by
  obtain ⟨-, e⟩ | ⟨-, -, e⟩ | ⟨-, -, e⟩ := b.block_cases required keys
  · rw [e]; exact .refl _
  · rw [e]; exact .refl _
  · rw [e]; exact Known.metBy_merge_left _ _

/-- A block that leaves the tracker waiting for nothing leaves the requirement as it was. -/
theorem block_noneExpected (h : (b.block required keys).1.progress = .noneExpected) :
    b.progress = .noneExpected ∧ (b.block required keys).1.required = b.required := by
  obtain ⟨-, e⟩ | ⟨-, -, e⟩ | ⟨-, -, e⟩ := b.block_cases required keys <;> rw [e] at h ⊢
  · exact ⟨h, rfl⟩
  · exact ⟨h, rfl⟩
  · cases h

theorem learn_noneExpected {known : Known} (h : (b.learn known).progress = .noneExpected) :
    b.progress = .noneExpected ∨ b.required.MetBy known := by
  unfold learn at h
  split at h
  · exact .inr ‹_›
  · exact .inl h

variable {txn : TxnId} {cmd : Command} {topology : Topology} {tag : Tag}

@[simp] theorem audit_required (b : Blocking) (txn : TxnId) (cmd : Command) (topology : Topology) :
    (b.audit txn cmd topology).1.required = b.required := by
  rcases b.audit_cases txn cmd topology with
    ⟨-, e⟩ | ⟨-, -, e⟩ | ⟨-, -, -, e⟩ | ⟨-, -, keys, -, e⟩ <;> rw [e]

theorem audit_noneExpected (h : (b.audit txn cmd topology).1.progress = .noneExpected) :
    b.progress = .noneExpected ∨ b.required.MetBy cmd.known := by
  rcases b.audit_cases txn cmd topology with
    ⟨-, e⟩ | ⟨-, hm, -⟩ | ⟨-, -, -, e⟩ | ⟨-, -, keys, -, e⟩
  · rw [e] at h
    exact .inl (Progress.eq_of_advance h (by decide))
  · exact .inr hm
  · rw [e] at h
    cases h
  · rw [e] at h
    cases h

@[simp] theorem fetched_required (b : Blocking) (txn : TxnId) (tag : Tag)
    (result : Except RemoteFault Known) : (b.fetched txn tag result).1.required = b.required := by
  rcases b.fetched_cases txn tag result with
    ⟨-, e⟩ | ⟨-, _, -, e⟩ | ⟨-, known, -, -, e⟩ | ⟨-, _, -, -, he⟩
  · rw [e]
  · rw [e]
  · rw [e]
    exact learn_required _ _
  · obtain ⟨-, e⟩ | ⟨_, -, -, e⟩ | ⟨_, _, -, -, e⟩ := he <;> rw [e]

theorem fetched_noneExpected {result : Except RemoteFault Known}
    (h : (b.fetched txn tag result).1.progress = .noneExpected) :
    b.progress = .noneExpected ∨
      ∃ known ∈ b.presented (.fetched txn tag result), b.required.MetBy known := by
  rcases b.fetched_cases txn tag result with
    ⟨-, e⟩ | ⟨-, _, -, e⟩ | ⟨-, known, rfl, -, e⟩ | ⟨-, _, -, -, he⟩
  · rw [e] at h
    exact .inl h
  · rw [e] at h
    cases h
  · rw [e] at h
    obtain h | h := learn_noneExpected h
    · cases h
    · exact .inr ⟨known, by simp [presented, e], h⟩
  · obtain ⟨-, e⟩ | ⟨_, -, -, e⟩ | ⟨_, _, -, -, e⟩ := he <;> rw [e] at h <;> cases h

@[simp] theorem invalidated_required (b : Blocking) (tag : Tag)
    (result : Except RemoteFault Token) : (b.invalidated tag result).1.required = b.required := by
  obtain ⟨-, e⟩ | ⟨-, _, -, e⟩ := b.invalidated_cases tag result <;> rw [e]

theorem invalidated_noneExpected {result : Except RemoteFault Token}
    (h : (b.invalidated tag result).1.progress = .noneExpected) : b.progress = .noneExpected := by
  obtain ⟨-, e⟩ | ⟨-, p, rfl | rfl, e⟩ := b.invalidated_cases tag result <;> rw [e] at h
  · exact h
  · cases h
  · cases h

/-! ## One act -/

theorem required_metBy_act (b : Blocking) (a : Act) : b.required.MetBy (b.act a).required := by
  cases a with
  | block required keys => exact required_metBy_block b required keys
  | learn known => simp [act]
  | audit txn cmd topology => simp [act]
  | fetched txn tag result => simp [act]
  | invalidated tag result => simp [act]

theorem recorded_metBy_act {a : Act} {r : Known} (h : r ∈ b.recorded a) :
    r.MetBy (b.act a).required := by
  cases a with
  | block required keys => exact recorded_metBy_block h
  | learn | audit | fetched | invalidated => cases h

/-- An act that leaves the tracker waiting for nothing either found it so and kept the requirement,
or presented knowledge that meets the requirement. -/
theorem act_noneExpected {a : Act} (h : (b.act a).progress = .noneExpected) :
    (b.progress = .noneExpected ∧ (b.act a).required = b.required) ∨
      ∃ known ∈ b.presented a, (b.act a).required.MetBy known := by
  cases a with
  | block required keys => exact .inl (block_noneExpected h)
  | learn known =>
    refine (learn_noneExpected h).imp (fun hp => ⟨hp, learn_required b known⟩) fun hm => ?_
    exact ⟨known, by simp [presented], by simpa [act] using hm⟩
  | audit txn cmd topology =>
    refine (audit_noneExpected h).imp (fun hp => ⟨hp, audit_required b ..⟩) fun hm => ?_
    exact ⟨cmd.known, by simp [presented], by simpa [act] using hm⟩
  | fetched txn tag result =>
    refine (fetched_noneExpected h).imp (fun hp => ⟨hp, fetched_required b ..⟩) fun hm => ?_
    simpa [act] using hm
  | invalidated tag result => exact .inl ⟨invalidated_noneExpected h, invalidated_required b ..⟩

/-! ## Whole runs -/

/-- The requirements recorded in a run. -/
def requirements (run : List Act) : List Known := machine.collect recorded run

/-- The knowledge presented in a run. -/
def shown (run : List Act) : List Known := machine.collect presented run

/-- What every run keeps: the tracker's requirement covers all that were recorded, and where nothing
is waited for, it is empty or was met by knowledge shown. -/
structure Remembers (run : List Act) : Prop where
  covered : ∀ r ∈ requirements run, r.MetBy (machine.after run).required
  met : (machine.after run).progress = .noneExpected →
    (machine.after run).required = .nothing ∨
      ∃ known ∈ shown run, (machine.after run).required.MetBy known

theorem remembers (run : List Act) : Remembers run := by
  induction run with
  | nil => exact ⟨by simp [requirements], fun _ => .inl rfl⟩
  | cons a past ih =>
    constructor
    · intro r hr
      obtain hr | hr := List.mem_append.1 hr
      · exact recorded_metBy_act hr
      · exact (ih.covered r hr).trans (required_metBy_act _ a)
    · intro h
      simp only [Machine.after_cons, machine_step] at h ⊢
      obtain ⟨hp, hr⟩ | ⟨known, hk, hm⟩ := act_noneExpected h
      · rw [hr]
        refine (ih.met hp).imp_right fun ⟨known, hk, hm⟩ => ?_
        exact ⟨known, List.mem_append_right _ hk, hm⟩
      · exact .inr ⟨known, List.mem_append_left _ hk, hm⟩

/-- A tracker that waits for nothing, though something was required, was shown one knowledge that
meets every requirement recorded so far, before or after it came. -/
theorem requirements_met_of_noneExpected (run : List Act)
    (hp : (machine.after run).progress = .noneExpected)
    (hr : ∃ r ∈ requirements run, r ≠ .nothing) :
    ∃ known ∈ shown run, ∀ r ∈ requirements run, r.MetBy known := by
  obtain ⟨covered, met⟩ := remembers run
  obtain ⟨r, hr, hne⟩ := hr
  obtain h | ⟨known, hk, hm⟩ := met hp
  · have := covered r hr
    rw [h] at this
    exact absurd (Known.metBy_nothing.1 this) hne
  · exact ⟨known, hk, fun r hr => (covered r hr).trans hm⟩

/-- Required to be applied, shown to be invalidated and then required to be committed. -/
theorem requirements_met_after_invalidation :
    let run : List Act := [.block .committed (.ofKeys [⟨[98]⟩]), .learn .invalidated,
      .block .preApplied (.ofKeys [⟨[97]⟩])]
    (machine.after run).progress = .noneExpected ∧ (∃ r ∈ requirements run, r ≠ .nothing) ∧
      ∃ known ∈ shown run, ∀ r ∈ requirements run, r.MetBy known :=
  ⟨by decide, by decide, requirements_met_of_noneExpected _ (by decide) (by decide)⟩

end TxnLiveness.Blocking
