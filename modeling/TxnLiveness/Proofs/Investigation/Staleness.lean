import TxnLiveness.Proofs.Investigation.TxnState
import TxnLiveness.Proofs.Machine
/-!
# Which completions take effect

An escalation raises the tracker to investigating before the steps that can fail, and takes the next
generation only after them. One that fails therefore investigates under the tag of the dispatch
before it. Apart from such strays, a completion takes effect only for the investigation that its
dispatch began, and only once.
-/

namespace TxnLiveness.TxnState

/-- What can be done to the state of a transaction. -/
inductive Act
  | rememberHome (key : Option Key)
  | reach (status : CoordinateStatus) (progress : Progress)
  | reachFor (cmd : Command) (status : CoordinateStatus) (progress : Progress)
  | observe (token : Token)
  | stopCoordinating
  | durableGlobally (cmd : Command) (topology : Topology) (nodes : Option (SortedSet NodeId))
  | durableLocally (node : NodeId)
  | block (required : Known) (keys : Footprint)
  | learn (known : Known)
  | delegate (status : DelegationStatus)
  | audit (cmd : Command) (topology : Topology)
  | complete (tag : Tag) (completion : Completion)

def act (s : TxnState) : Act → TxnState
  | .rememberHome key => s.rememberHome key
  | .reach status progress => s.withCoordinate (s.coordinateD.reach status progress)
  | .reachFor cmd status progress => s.withCoordinate (s.coordinateD.reachFor cmd status progress)
  | .observe token => s.withCoordinate (s.coordinateD.observe token)
  | .stopCoordinating => s.withCoordinate s.coordinateD.durableGlobally
  | .durableGlobally cmd topology nodes =>
    s.withDisseminate (s.disseminateD.durableGlobally cmd topology nodes)
  | .durableLocally node => s.withDisseminate (s.disseminateD.durableLocally node)
  | .block required keys => s.withBlocking (s.blockingD.block required keys).1
  | .learn known => s.withBlocking (s.blockingD.learn known)
  | .delegate status => s.withDelegation (s.delegationD status)
  | .audit cmd topology => (s.audit cmd topology).1
  | .complete tag completion => (s.complete tag completion).1

/-- The state of a transaction from its creation on. -/
def machine (txn : TxnId) : Machine TxnState Act := ⟨{ txn }, act⟩

@[simp] theorem machine_step (txn : TxnId) (s : TxnState) (a : Act) :
    (machine txn).step s a = s.act a := rfl

/-- What an act dispatches. -/
def dispatched (s : TxnState) : Act → List Dispatch
  | .audit cmd topology =>
    match (s.audit cmd topology).2 with
    | .ok out => out.dispatches
    | .error _ => []
  | .complete tag completion => followups (s.complete tag completion).2
  | _ => []

/-- Whether an act moves a tracker into investigating. A further investigation that follows one at
once counts as well. -/
def moves (kind : TrackerKind) (s : TxnState) (a : Act) : Bool :=
  ((s.act a).probe kind).investigating &&
    (!(s.probe kind).investigating ||
      (s.probe kind).generation < ((s.act a).probe kind).generation)

/-- Whether an act dispatches the tag. -/
def sends (tag : Tag) (s : TxnState) (a : Act) : Bool := (s.dispatched a).any (·.tag = tag)

/-- Whether an act has a tracker investigate without a plan: an audit that the tracker fails, or an
event told to investigate. -/
def unplanned (kind : TrackerKind) (s : TxnState) : Act → Bool
  | .audit cmd topology =>
    match s.plan cmd topology kind with
    | .error _ => true
    | .ok _ => false
  | .reach _ progress | .reachFor _ _ progress => kind = .coordinate && progress = .investigating
  | .delegate status => kind = .delegation && status = .investigating
  | _ => false

/-- Whether an act moves the tag's tracker into investigating under the tag's generation, but does
not dispatch the tag. -/
def strays (tag : Tag) (s : TxnState) (a : Act) : Bool :=
  s.moves tag.tracker a && ((s.act a).probe tag.tracker).generation = tag.generation &&
    !s.sends tag a

/-- Whether an act delivers a final completion under the tag that is not stale. -/
def takes (tag : Tag) (s : TxnState) : Act → Bool
  | .complete t completion =>
    t = tag && completion.isFinal && completion.fits tag.tracker &&
      match (s.complete t completion).2 with
      | .ok .stale => false
      | _ => true
  | _ => false

/-! ## One act -/

/-- What an act can do to the tracker that a tag names. -/
inductive Effect (tag : Tag) (p q : Probe) (sent : Nat) (taken unplanned : Bool) : Prop
  /-- No investigation begins, and one that a completion answers ends. -/
  | calm (calm : p.Calm q) (unsent : sent = 0)
      (ended : taken = true → p.answers tag = true ∧ q.investigating = false)
  /-- An investigation begins or goes on without a dispatch. -/
  | told (told : p.Told q) (unsent : sent = 0) (untaken : taken = false)
      (unplanned : unplanned = true)
  /-- An investigation begins with a dispatch under the next generation. -/
  | begun (begun : q = ⟨true, p.generation + 1⟩)
      (sent : sent = if tag.generation = p.generation + 1 then 1 else 0)
      (answered : taken = true → p.answers tag = true)

/-- The effect of an act on the tracker that a tag names. -/
def HasEffect (tag : Tag) (s : TxnState) (a : Act) : Prop :=
  Effect tag (s.probe tag.tracker) ((s.act a).probe tag.tracker)
    ((s.dispatched a).countP (·.tag = tag)) (s.takes tag a) (s.unplanned tag.tracker a)

variable {tag : Tag} {s : TxnState}

theorem audit_effect (cmd : Command) (topology : Topology) :
    HasEffect tag s (.audit cmd topology) := by
  by_cases h : cmd.txn = s.txn
  · have planned := audit_planned topology h tag.tracker
    have ho : ∃ out, (s.audit cmd topology).2 = .ok out := ⟨_, by rw [audit_eq h]⟩
    obtain ⟨out, ho⟩ := ho
    have hn : (s.dispatched (.audit cmd topology)).countP (·.tag = tag) =
        (Audit.dispatchOf (s.plan cmd topology tag.tracker)).countP (·.tag = tag) := by
      rw [← countP_dispatches h ho tag]
      simp [dispatched, ho]
    unfold HasEffect
    rw [hn]
    simp only [act, unplanned]
    generalize s.plan cmd topology tag.tracker = r at planned
    generalize (s.audit cmd topology).1.probe tag.tracker = q at planned
    cases planned with
    | quiet calm => exact .calm calm rfl (by simp [takes])
    | escalated idle remediation fits =>
      refine .begun rfl ?_ (by simp [takes])
      obtain ⟨kind, generation⟩ := tag
      simp [Audit.dispatchOf, eq_comm]
    | failed idle fault => exact .told ⟨rfl, rfl⟩ rfl rfl rfl
  · simp only [HasEffect, act, dispatched, audit_wrong h]
    exact .calm (.refl _) rfl (by simp [takes])

/-- A final completion handed to the tag's tracker. -/
theorem final_effect {t : Tag} {completion : Completion} (hf : completion.fits t.tracker = true)
    (hfin : completion.isFinal = true) (hk : t.tracker = tag.tracker) :
    HasEffect tag s (.complete t completion) := by
  have settled := s.complete_settled hf hfin
  have taken (h : s.takes tag (.complete t completion) = true)
      (ht : s.accepts t completion = true) :
      (s.probe tag.tracker).answers tag = true := by
    simp only [takes, Bool.and_eq_true, decide_eq_true_eq] at h
    obtain ⟨⟨⟨rfl, -⟩, -⟩, -⟩ := h
    exact answers_of_accepts ht
  simp only [HasEffect, act, dispatched]
  rw [hk] at settled
  generalize hr : (s.complete t completion).2 = r at settled
  generalize (s.complete t completion).1.probe tag.tracker = q at settled
  cases settled with
  | stale refused => exact .calm (.refl _) rfl (by simp [takes, hr])
  | ended accepted durable =>
    exact .calm ⟨rfl, by simp⟩ rfl fun h => ⟨taken h accepted, rfl⟩
  | followed accepted remediation fits =>
    refine .begun rfl ?_ fun h => taken h accepted
    obtain ⟨kind, generation⟩ := tag
    simp [followups, eq_comm]
  | failed accepted fault =>
    exact .calm ⟨rfl, by simp⟩ rfl fun h => ⟨taken h accepted, rfl⟩

theorem complete_effect (t : Tag) (completion : Completion) :
    HasEffect tag s (.complete t completion) := by
  by_cases hk : t.tracker = tag.tracker
  · cases hf : completion.fits t.tracker with
    | false =>
      simp only [HasEffect, act, dispatched, complete_misfit hf]
      exact .calm (.refl _) rfl (by simp [takes, ← hk, hf])
    | true =>
      cases hfin : completion.isFinal with
      | true => exact final_effect hf hfin hk
      | false =>
        cases completion <;> cases hfin
        refine .calm (s.complete_acknowledged t _ _) ?_ (by simp [takes, Completion.isFinal])
        simp [dispatched, followups_acknowledged]
  · have ht : t ≠ tag := fun e => hk (e ▸ rfl)
    refine .calm (.of_eq (s.complete_other completion (Ne.symm hk))) ?_ (by simp [takes, ht])
    rw [List.countP_eq_zero]
    intro d hd
    obtain ⟨hd, -⟩ := followups_sound hd
    rw [decide_eq_true_eq]
    rintro rfl
    exact hk hd.symm

theorem reach_effect (status : CoordinateStatus) (progress : Progress) (a : Act)
    (ha : (s.act a).probe = (s.act (.reach status progress)).probe) (hs : s.dispatched a = [])
    (ht : s.takes tag a = false)
    (hu : s.unplanned .coordinate a = decide (progress = .investigating)) :
    HasEffect tag s a := by
  unfold HasEffect
  rw [ha, hs, ht]
  obtain h | ⟨hp, h⟩ := s.coordinateD.reach_calm_or_told status progress
  · exact .calm (calm_withCoordinate h _) rfl (by simp)
  · by_cases hk : tag.tracker = .coordinate
    · refine .told ?_ rfl rfl (by simp [hk, hu, hp])
      rw [probe_coordinateD] at h
      simpa [act, hk] using h
    · exact .calm (.of_eq (by simp [act, hk])) rfl (by simp)

theorem delegate_effect (status : DelegationStatus) : HasEffect tag s (.delegate status) := by
  by_cases hk : tag.tracker = .delegation
  · obtain h | ⟨hs, h⟩ := s.delegationD_calm_or_told status
    · exact .calm (by simpa [act, hk] using h) rfl (by simp [takes])
    · exact .told (by simpa [act, hk] using h) rfl rfl (by simp [unplanned, hk, hs])
  · exact .calm (.of_eq (by simp [act, hk])) rfl (by simp [takes])

theorem act_effect (tag : Tag) (s : TxnState) (a : Act) : HasEffect tag s a := by
  have calm (a : Act) (h : (s.probe tag.tracker).Calm ((s.act a).probe tag.tracker))
      (hs : s.dispatched a = []) (ht : s.takes tag a = false) : HasEffect tag s a :=
    .calm h (by simp [hs]) (by simp [ht])
  cases a with
  | rememberHome key => exact calm _ (.of_eq (by cases tag.tracker <;> rfl)) rfl rfl
  | reach status progress => exact reach_effect status progress _ rfl rfl rfl (by simp [unplanned])
  | reachFor cmd status progress =>
    exact reach_effect status progress _ rfl rfl rfl (by simp [unplanned])
  | observe token => exact calm _ (calm_withCoordinate (.refl _) _) rfl rfl
  | stopCoordinating =>
    exact calm _ (calm_withCoordinate (Coordinate.durableGlobally_calm _) _) rfl rfl
  | durableGlobally cmd topology nodes =>
    exact calm _ (calm_withDisseminate (Disseminate.durableGlobally_calm _ _ _ _) _) rfl rfl
  | durableLocally node =>
    exact calm _ (calm_withDisseminate (Disseminate.durableLocally_calm _ _) _) rfl rfl
  | block required keys => exact calm _ (calm_withBlocking (Blocking.block_calm _ _ _) _) rfl rfl
  | learn known => exact calm _ (calm_withBlocking (Blocking.learn_calm _ _) _) rfl rfl
  | delegate status => exact delegate_effect status
  | audit cmd topology => exact audit_effect cmd topology
  | complete t completion => exact complete_effect t completion

theorem sends_iff {a : Act} : s.sends tag a = true ↔ 0 < (s.dispatched a).countP (·.tag = tag) := by
  simp [sends, List.countP_pos_iff]

/-- A tracker that is moved into investigating has dispatched a remediation under its next
generation, or investigates under the generation that it had. -/
theorem moves_cases {a : Act} (h : s.moves tag.tracker a = true) :
    ((s.act a).probe tag.tracker = ⟨true, (s.probe tag.tracker).generation + 1⟩ ∧
        (s.sends tag a = true ↔ tag.generation = (s.probe tag.tracker).generation + 1)) ∨
      ((s.probe tag.tracker).Told ((s.act a).probe tag.tracker) ∧ s.sends tag a = false) := by
  cases act_effect tag s a with
  | calm calm unsent ended =>
    have hg := calm.generation
    have hi := calm.investigating
    simp only [moves, hg, Bool.and_eq_true, Bool.or_eq_true, Nat.lt_irrefl, decide_false] at h
    simp_all
  | told told unsent untaken unplanned =>
    refine .inr ⟨told, ?_⟩
    rw [← Bool.not_eq_true, sends_iff]
    omega
  | begun begun sent answered =>
    refine .inl ⟨begun, ?_⟩
    rw [sends_iff, sent]
    split <;> simp_all

theorem generation_le_act (kind : TrackerKind) (s : TxnState) (a : Act) :
    (s.probe kind).generation ≤ ((s.act a).probe kind).generation := by
  cases act_effect ⟨kind, 0⟩ s a with
  | calm calm unsent ended => exact Nat.le_of_eq calm.generation.symm
  | told told unsent untaken unplanned => exact Nat.le_of_eq told.generation.symm
  | begun begun sent answered =>
    simp only at begun
    rw [begun]
    exact Nat.le_succ _

/-- A tracker that is not moved into investigating does so only if it did before. -/
theorem of_not_moves {kind : TrackerKind} {a : Act} (h : s.moves kind a = false)
    (hq : ((s.act a).probe kind).investigating = true) :
    (s.probe kind).investigating = true ∧
      ((s.act a).probe kind).generation = (s.probe kind).generation := by
  have hp : (s.probe kind).investigating = true ∧
      ((s.act a).probe kind).generation ≤ (s.probe kind).generation := by
    simpa [moves, hq] using h
  exact ⟨hp.1, Nat.le_antisymm hp.2 (generation_le_act kind s a)⟩

/-- A stray is an audit that the tracker fails, or an event told to investigate. -/
theorem unplanned_of_strays {a : Act} (h : s.strays tag a = true) :
    s.unplanned tag.tracker a = true := by
  simp only [strays, Bool.and_eq_true, decide_eq_true_eq, Bool.not_eq_true'] at h
  obtain ⟨⟨hm, hg⟩, hs⟩ := h
  cases act_effect tag s a with
  | calm calm unsent ended =>
    have hi := calm.investigating
    simp only [moves, calm.generation, Nat.lt_irrefl, decide_false] at hm
    simp_all
  | told told unsent untaken unplanned => exact unplanned
  | begun begun sent answered =>
    rw [begun] at hg
    rw [← Bool.not_eq_true, sends_iff, sent, if_pos hg.symm] at hs
    omega

theorem takes_answers_le (tag : Tag) (s : TxnState) (a : Act) :
    (s.takes tag a).toNat + (((s.act a).probe tag.tracker).answers tag).toNat ≤
      ((s.probe tag.tracker).answers tag).toNat + (s.dispatched a).countP (·.tag = tag) +
        (s.strays tag a).toNat := by
  cases act_effect tag s a with
  | calm calm unsent ended =>
    cases ht : s.takes tag a with
    | true =>
      obtain ⟨hp, hq⟩ := ended ht
      have hq : ((s.act a).probe tag.tracker).answers tag = false := by simp [Probe.answers, hq]
      rw [hp, hq, Bool.toNat_true, Bool.toNat_false]
      omega
    | false =>
      have : ((s.act a).probe tag.tracker).answers tag = true →
          (s.probe tag.tracker).answers tag = true := by
        rw [Probe.answers_iff, Probe.answers_iff, calm.generation]
        exact fun h => ⟨calm.investigating h.1, h.2⟩
      cases hq : ((s.act a).probe tag.tracker).answers tag with
      | false => simp
      | true =>
        rw [this hq, Bool.toNat_true, Bool.toNat_false]
        omega
  | told told unsent untaken unplanned =>
    rw [untaken, unsent]
    cases hq : ((s.act a).probe tag.tracker).answers tag with
    | false => simp
    | true =>
      cases hp : (s.probe tag.tracker).answers tag with
      | true => simp
      | false =>
        obtain ⟨hi, hg⟩ := Probe.answers_iff.1 hq
        have idle : (s.probe tag.tracker).investigating = false := by
          simpa [Probe.answers, ← told.generation, hg] using hp
        have hs : s.sends tag a = false := by
          rw [← Bool.not_eq_true, sends_iff]
          omega
        simp [strays, moves, hi, idle, hg, hs]
  | begun begun sent answered =>
    rw [sent]
    cases ht : s.takes tag a with
    | true =>
      have hp := answered ht
      obtain ⟨-, hg⟩ := Probe.answers_iff.1 hp
      have hq : ((s.act a).probe tag.tracker).answers tag = false := by
        simp [Probe.answers, begun, hg]
      rw [hp, hq, Bool.toNat_true, Bool.toNat_false]
      omega
    | false =>
      cases hq : ((s.act a).probe tag.tracker).answers tag with
      | false => simp
      | true =>
        obtain ⟨-, hg⟩ := Probe.answers_iff.1 hq
        rw [begun] at hg
        rw [if_pos hg.symm, Bool.toNat_false, Bool.toNat_true]
        omega

theorem fits_of_mem_dispatched {a : Act} {d : Dispatch} (hd : d ∈ s.dispatched a) :
    d.remediation.fits d.tag.tracker = true := by
  cases a with
  | audit cmd topology =>
    by_cases h : cmd.txn = s.txn
    · have ho : ∃ out, (s.audit cmd topology).2 = .ok out := ⟨_, by rw [audit_eq h]⟩
      obtain ⟨out, ho⟩ := ho
      rw [dispatched, ho] at hd
      obtain ⟨kind, hd⟩ := (mem_dispatches h ho).1 hd
      exact (audit_planned topology h kind).fits_of_mem hd
    · rw [dispatched, audit_wrong h] at hd
      cases hd
  | complete tag completion =>
    obtain ⟨hk, -, hf⟩ := followups_sound hd
    rwa [hk]
  | _ => cases hd

/-! ## Whole runs -/

section Runs

variable (txn : TxnId)

/-- What was dispatched in a run. -/
def dispatchedIn (run : List Act) : List Dispatch := (machine txn).collect dispatched run

/-- The latest act that moved a tracker into investigating, with the run before it. -/
def origin (kind : TrackerKind) (run : List Act) : Option (Act × List Act) :=
  (machine txn).latest? (moves kind) run

/-- The acts of a run that moved the tag's tracker into investigating under the tag's generation,
but did not dispatch the tag. -/
def straysIn (tag : Tag) (run : List Act) : List Act := (machine txn).those (strays tag) run

/-- The acts of a run that had a tracker investigate without a plan: the audits that the tracker
failed and the events told to investigate. -/
def unplannedIn (kind : TrackerKind) (run : List Act) : List Act :=
  (machine txn).those (unplanned kind) run

/-- The final completions under the tag that took effect in a run. -/
def takenIn (tag : Tag) (run : List Act) : List Act := (machine txn).those (takes tag) run

variable {txn}

theorem fits_of_mem_dispatchedIn {run : List Act} {d : Dispatch} (hd : d ∈ dispatchedIn txn run) :
    d.remediation.fits d.tag.tracker = true := by
  induction run with
  | nil => cases hd
  | cons a past ih =>
    obtain hd | hd := List.mem_append.1 hd
    · exact fits_of_mem_dispatched hd
    · exact ih hd

/-- A tag is dispatched once, when its tracker comes to its generation. -/
theorem countP_dispatchedIn (txn : TxnId) (tag : Tag) (run : List Act) :
    (dispatchedIn txn run).countP (·.tag = tag) =
      if 0 < tag.generation ∧
          tag.generation ≤ (((machine txn).after run).probe tag.tracker).generation
        then 1 else 0 := by
  induction run with
  | nil =>
    have : (((machine txn).after []).probe tag.tracker).generation = 0 := by
      cases tag.tracker <;> rfl
    rw [this, if_neg (by omega)]
    rfl
  | cons a past ih =>
    simp only [dispatchedIn, Machine.collect_cons, List.countP_append] at ih ⊢
    rw [ih, Machine.after_cons, machine_step]
    cases act_effect tag ((machine txn).after past) a with
    | calm calm unsent ended => rw [unsent, calm.generation, Nat.zero_add]
    | told told unsent untaken unplanned => rw [unsent, told.generation, Nat.zero_add]
    | begun begun sent answered =>
      rw [sent, begun]
      dsimp only
      split <;> split <;> split <;> omega

/-- There are no strays under a generation yet to come. -/
theorem straysIn_eq_nil {run : List Act}
    (h : (((machine txn).after run).probe tag.tracker).generation < tag.generation) :
    straysIn txn tag run = [] := by
  induction run with
  | nil => rfl
  | cons a past ih =>
    rw [Machine.after_cons, machine_step] at h
    have grown := generation_le_act tag.tracker ((machine txn).after past) a
    refine (machine txn).those_eq_nil_cons.2 ⟨?_, ih (by omega)⟩
    simp [strays, Nat.ne_of_lt h]

/-- Each time that a completion takes effect, the tracker has been moved into investigating under
its tag once more, either by the act that dispatched the tag or by a stray. -/
theorem length_takenIn (txn : TxnId) (tag : Tag) (run : List Act) :
    (takenIn txn tag run).length +
        (((machine txn).after run).probe tag.tracker |>.answers tag).toNat ≤
      (dispatchedIn txn run).countP (·.tag = tag) + (straysIn txn tag run).length := by
  induction run with
  | nil =>
    have : (((machine txn).after []).probe tag.tracker).answers tag = false := by
      obtain ⟨kind, generation⟩ := tag
      cases kind <;> rfl
    rw [this]
    exact Nat.zero_le _
  | cons a past ih =>
    have step := takes_answers_le tag ((machine txn).after past) a
    simp only [takenIn, straysIn, dispatchedIn, Machine.length_those_cons, Machine.collect_cons,
      List.countP_append, Machine.after_cons, machine_step] at ih ⊢
    omega

/-- An investigation under a tag's generation began with one act and has gone on ever since. That
act dispatched the tag unless there were strays. -/
theorem origin_of_answers (run : List Act)
    (h : (((machine txn).after run).probe tag.tracker).answers tag = true) :
    ∃ a older, origin txn tag.tracker run = some (a, older) ∧
      (∀ r, a :: older <:+ r → r <:+ run →
        (((machine txn).after r).probe tag.tracker).investigating = true) ∧
      (((machine txn).after older).sends tag a = true ↔ straysIn txn tag run = []) := by
  induction run with
  | nil =>
    obtain ⟨kind, generation⟩ := tag
    cases kind <;> cases h
  | cons a past ih =>
    obtain ⟨hi, hg⟩ := Probe.answers_iff.1 h
    rw [Machine.after_cons, machine_step] at hi hg
    cases hm : ((machine txn).after past).moves tag.tracker a with
    | true =>
      refine ⟨a, past, Machine.latest?_cons_pos _ hm, fun r hr hr' => ?_, ?_⟩
      · rw [List.IsSuffix.eq_of_length_le hr' hr.length_le]
        exact hi
      · rw [straysIn, Machine.those_eq_nil_cons]
        obtain ⟨begun, hs⟩ | ⟨told, hs⟩ := moves_cases hm
        · have fresh :
              tag.generation = (((machine txn).after past).probe tag.tracker).generation + 1 := by
            rw [← hg, begun]
          have none : (machine txn).those (strays tag) past = [] := straysIn_eq_nil (by omega)
          simp [hs.2 fresh, strays, none]
        · simp [hs, strays, hm, hg]
    | false =>
      obtain ⟨hp, hg'⟩ := of_not_moves hm hi
      obtain ⟨b, older, ho, since, hs⟩ := ih (Probe.answers_iff.2 ⟨hp, hg' ▸ hg⟩)
      refine ⟨b, older, (Machine.latest?_cons_neg _ hm).trans ho, fun r hr hr' => ?_, ?_⟩
      · obtain rfl | hr' := List.suffix_cons_iff.1 hr'
        · exact hi
        · exact since r hr hr'
      · rw [hs, straysIn, straysIn, Machine.those_eq_nil_cons]
        simp [strays, hm]

/-- What a completion under a dispatched tag can do. It takes effect only while its tracker
investigates under the tag's generation, and has done so ever since an act that dispatched the tag,
unless there were strays. A tag takes effect at most once and once more for each stray. Strays are
audits that the tracker failed and events told to investigate. -/
theorem takes_effect_for_its_investigation (txn : TxnId) (past : List Act) (d : Dispatch)
    (completion : Completion) (hd : d ∈ dispatchedIn txn past)
    (hc : completion.answers d.remediation = true) (hfin : completion.isFinal = true) :
    ((((machine txn).after past).complete d.tag completion).2 ≠ .ok .stale ↔
        ((machine txn).after past).accepts d.tag completion = true) ∧
      ((((machine txn).after past).complete d.tag completion).2 ≠ .ok .stale →
        ∃ a older, origin txn d.tag.tracker past = some (a, older) ∧
          (∀ r, a :: older <:+ r → r <:+ past →
            (((machine txn).after r).probe d.tag.tracker).investigating = true) ∧
          (((machine txn).after older).sends d.tag a = true ↔ straysIn txn d.tag past = [])) ∧
      (takenIn txn d.tag past).length ≤ 1 + (straysIn txn d.tag past).length ∧
      (straysIn txn d.tag past).Sublist (unplannedIn txn d.tag.tracker past) := by
  have hf := Completion.fits_of_answers hc (fits_of_mem_dispatchedIn hd)
  have effective : (((machine txn).after past).complete d.tag completion).2 ≠ .ok .stale ↔
      ((machine txn).after past).accepts d.tag completion = true := by
    rw [Ne, complete_stale_iff _ hf hfin, Bool.not_eq_false]
  refine ⟨effective, fun h => origin_of_answers past (answers_of_accepts (effective.1 h)), ?_,
    (machine txn).those_sublist (fun _ _ => unplanned_of_strays) past⟩
  have taken := length_takenIn txn d.tag past
  have once := countP_dispatchedIn txn d.tag past
  split at once <;> omega

end Runs

/-- An audit of the transaction used below, with the home key or without it. -/
def exampleAudit (homeKey : Option Key) : Act :=
  .audit { txn := ⟨1, 1, 1⟩, homeKey } ⟨1, fun _ => true, fun _ _ _ => ∅⟩

/-- A recovery is dispatched and answered in time. -/
theorem takes_effect_in_time :
    let past := [exampleAudit (some ⟨[104]⟩), exampleAudit (some ⟨[104]⟩),
      .reach .uncommitted .expected]
    let d : Dispatch := ⟨⟨1, 1, 1⟩, ⟨.coordinate, 1⟩, .recover ⟨[104]⟩ none .none⟩
    let completion := Completion.recovered (.error (.refused "gone"))
    let s := (machine ⟨1, 1, 1⟩).after past
    (d ∈ dispatchedIn ⟨1, 1, 1⟩ past ∧ completion.answers d.remediation = true ∧
        completion.isFinal = true ∧ s.accepts d.tag completion = true ∧
        straysIn ⟨1, 1, 1⟩ d.tag past = []) ∧
      ((s.complete d.tag completion).2 ≠ .ok .stale ↔ s.accepts d.tag completion = true) ∧
      ((s.complete d.tag completion).2 ≠ .ok .stale →
        ∃ a older, origin ⟨1, 1, 1⟩ d.tag.tracker past = some (a, older) ∧
          (∀ r, a :: older <:+ r → r <:+ past →
            (((machine ⟨1, 1, 1⟩).after r).probe d.tag.tracker).investigating = true) ∧
          (((machine ⟨1, 1, 1⟩).after older).sends d.tag a = true ↔
            straysIn ⟨1, 1, 1⟩ d.tag past = [])) ∧
      (takenIn ⟨1, 1, 1⟩ d.tag past).length ≤ 1 + (straysIn ⟨1, 1, 1⟩ d.tag past).length ∧
      (straysIn ⟨1, 1, 1⟩ d.tag past).Sublist (unplannedIn ⟨1, 1, 1⟩ d.tag.tracker past) :=
  ⟨⟨by decide, by decide, by decide, by decide, rfl⟩,
    takes_effect_for_its_investigation _ _ _ _ (by decide) (by decide) (by decide)⟩

/-- A recovery is dispatched, an event overtakes it, and the next escalation fails for want of a
home key. Then the recovery takes effect for an investigation that dispatched nothing. After two
more audits that fail it does so again. -/
theorem late_recovery_takes_effect :
    let lost := exampleAudit none
    let past := [lost, lost, .reach .readyToExecute .expected, exampleAudit (some ⟨[104]⟩),
      exampleAudit (some ⟨[104]⟩), .reach .uncommitted .expected]
    let d : Dispatch := ⟨⟨1, 1, 1⟩, ⟨.coordinate, 1⟩, .recover ⟨[104]⟩ none .none⟩
    let completion := Completion.recovered (.error (.refused "gone"))
    d ∈ dispatchedIn ⟨1, 1, 1⟩ past ∧ completion.answers d.remediation = true ∧
      completion.isFinal = true ∧
      (((machine ⟨1, 1, 1⟩).after past).complete d.tag completion).2 ≠ .ok .stale ∧
      (¬ ∃ a older, origin ⟨1, 1, 1⟩ d.tag.tracker past = some (a, older) ∧
        ((machine ⟨1, 1, 1⟩).after older).sends d.tag a = true) ∧
      (takenIn ⟨1, 1, 1⟩ d.tag (.complete d.tag completion :: lost :: lost ::
        .complete d.tag completion :: past)).length = 2 := by
  refine ⟨by decide, by decide, by decide, ?_, ?_, by decide⟩
  · rw [Ne, complete_stale_iff _ rfl rfl]
    decide
  · rintro ⟨a, older, ho, hs⟩
    cases ho
    exact absurd hs (by decide)

end TxnLiveness.TxnState
