import TxnLiveness.Proofs.Blocking.Requirement
import TxnLiveness.Proofs.Footprint
/-!
# Whom a fetch was addressed to

A tracker that has something to wait for has been told keys, so its audits never fail. An
investigation begins with a dispatch under the next generation, and while it goes on the tracker
keeps the requirement and whom it asked.
-/

namespace TxnLiveness

/-- Whom a fetch of knowledge is addressed to. -/
def Remediation.asked? : Remediation → Option Participants
  | .fetchKnowledge _ participants _ _ => some participants
  | _ => none

namespace Blocking

/-- Whoever waits for something has been told what for. -/
def Named (b : Blocking) : Prop :=
  b.progress ≠ .noneExpected → ∃ keys, b.keys = some keys ∧ keys.isEmpty = false

/-- A change that begins no investigation and that an investigation outlasts only unchanged. -/
structure Steady (b b' : Blocking) : Prop where
  generation : b'.generation = b.generation
  asked : ∀ participants, b'.asked = some participants → b.asked = some participants
  investigating : b'.progress = .investigating →
    b.progress = .investigating ∧ b'.required = b.required ∧ b'.asked = b.asked

/-- What can be done to a tracker, and what is dispatched. -/
inductive Step (b : Blocking) : Blocking → List Dispatch → Prop
  | kept {b' : Blocking} (steady : b.Steady b') : Step b b' []
  | begun {b' : Blocking} (d : Dispatch) (tag : d.tag = ⟨.blocking, b.generation + 1⟩)
      (investigating : b'.progress = .investigating) (generation : b'.generation = b.generation + 1)
      (required : b'.required = b.required) (asked : b'.asked = d.remediation.asked?)
      (key : ∀ participants, b'.asked = some participants → participants.someKey? ≠ none) :
      Step b b' [d]

variable {b : Blocking}

theorem Steady.refl (b : Blocking) : Steady b b := ⟨rfl, fun _ => id, fun h => ⟨h, rfl, rfl⟩⟩

theorem Steady.trans {b' b'' : Blocking} (h : Steady b b') (k : Steady b' b'') : Steady b b'' := by
  refine ⟨k.generation.trans h.generation, fun p hp => h.asked p (k.asked p hp), fun hp => ?_⟩
  obtain ⟨hp, kr, ka⟩ := k.investigating hp
  obtain ⟨hp, hr, ha⟩ := h.investigating hp
  exact ⟨hp, kr.trans hr, ka.trans ha⟩

/-- What changes nothing but the progress, and does not begin an investigation, is steady. -/
theorem steady_progress {progress : Progress}
    (h : progress = .investigating → b.progress = .investigating) : b.Steady { b with progress } :=
  ⟨rfl, fun _ => id, fun hp => ⟨h hp, rfl, rfl⟩⟩

/-! ## Single acts -/

theorem block_named (h : b.Named) (required : Known) (keys : Footprint) :
    (b.block required keys).1.Named := by
  have joined (hk : keys.isEmpty = false) :
      (b.keys.elim keys (·.union keys)).isEmpty = false := by
    cases b.keys with
    | none => exact hk
    | some told => exact Footprint.isEmpty_union told hk
  obtain ⟨-, e⟩ | ⟨hk, -, e⟩ | ⟨hk, -, e⟩ := b.block_cases required keys <;> rw [e]
  · exact h
  · exact fun _ => ⟨_, rfl, joined hk⟩
  · exact fun _ => ⟨_, rfl, joined hk⟩

theorem block_steady (b : Blocking) (required : Known) (keys : Footprint) :
    b.Steady (b.block required keys).1 := by
  obtain ⟨-, e⟩ | ⟨-, -, e⟩ | ⟨-, -, e⟩ := b.block_cases required keys <;> rw [e]
  · exact .refl b
  · exact ⟨rfl, fun _ => id, fun h => ⟨h, rfl, rfl⟩⟩
  · exact ⟨rfl, fun _ => id, nofun⟩

theorem learn_named (h : b.Named) (known : Known) : (b.learn known).Named := by
  unfold learn
  split
  · exact fun hp => absurd rfl hp
  · exact h

theorem learn_steady (b : Blocking) (known : Known) : b.Steady (b.learn known) := by
  unfold learn
  split
  · exact steady_progress nofun
  · exact .refl b

theorem audit_named (h : b.Named) (txn : TxnId) (cmd : Command) (topology : Topology) :
    (b.audit txn cmd topology).1.Named := by
  rcases b.audit_cases txn cmd topology with
    ⟨-, e⟩ | ⟨-, -, e⟩ | ⟨hp, -, -, e⟩ | ⟨hp, -, keys, -, e⟩ <;> rw [e]
  · refine fun hp => h fun hn => hp ?_
    rw [hn]
    rfl
  · exact fun hp => absurd rfl hp
  · exact fun _ => h (by simp [hp])
  · exact fun _ => h (by simp [hp])

/-- A tracker that has been told what it waits for does not fail an audit. -/
theorem audit_step (h : b.Named) (txn : TxnId) (cmd : Command) (topology : Topology) :
    ∃ planned, (b.audit txn cmd topology).2 = .ok planned ∧
      Step b (b.audit txn cmd topology).1 planned.toList := by
  rcases b.audit_cases txn cmd topology with
    ⟨-, e⟩ | ⟨-, -, e⟩ | ⟨hp, -, hk, -⟩ | ⟨hp, -, keys, hk, e⟩
  · rw [e]
    exact ⟨none, rfl, .kept (steady_progress (Progress.eq_of_advance · (by decide)))⟩
  · rw [e]
    exact ⟨none, rfl, .kept (steady_progress nofun)⟩
  · obtain ⟨keys, hk', -⟩ := h (by simp [hp])
    rw [hk] at hk'
    cases hk'
  · rw [e]
    obtain ⟨keys', hk', he⟩ := h (by simp [hp])
    obtain rfl : keys = keys' := by simpa [hk] using hk'
    refine ⟨some _, rfl, .begun _ rfl rfl rfl rfl rfl ?_⟩
    rintro _ ⟨⟩
    exact Participants.someKey?_merge cmd.route he

theorem fetched_named (h : b.Named) (txn : TxnId) (tag : Tag)
    (result : Except RemoteFault Known) : (b.fetched txn tag result).1.Named := by
  have told (ht : b.accepts tag = true) : ∃ keys, b.keys = some keys ∧ keys.isEmpty = false := by
    simp only [accepts, Bool.and_eq_true, decide_eq_true_eq] at ht
    exact h (by simp [ht.1])
  rcases b.fetched_cases txn tag result with
    ⟨-, e⟩ | ⟨ht, _, -, e⟩ | ⟨ht, known, -, -, e⟩ | ⟨ht, _, -, -, he⟩
  · rwa [e]
  · rw [e]
    exact fun _ => told ht
  · rw [e]
    have waiting : ({ b with progress := .expected } : Blocking).Named := fun _ => told ht
    exact learn_named waiting known
  · obtain ⟨-, e⟩ | ⟨_, -, -, e⟩ | ⟨_, _, -, -, e⟩ := he <;> rw [e] <;> exact fun _ => told ht

/-- The end of a fetch begins no investigation unless an invalidation follows. -/
theorem fetched_step (b : Blocking) (txn : TxnId) (tag : Tag) (result : Except RemoteFault Known) :
    (b.Steady (b.fetched txn tag result).1 ∧
        ∀ d, (b.fetched txn tag result).2 ≠ .ok (.resolved (some d))) ∨
      ∃ d, (b.fetched txn tag result).2 = .ok (.resolved (some d)) ∧
        Step b (b.fetched txn tag result).1 [d] := by
  rcases b.fetched_cases txn tag result with
    ⟨-, e⟩ | ⟨-, _, -, e⟩ | ⟨-, known, -, -, e⟩ | ⟨-, _, -, -, he⟩
  · rw [e]
    exact .inl ⟨.refl b, by simp⟩
  · rw [e]
    exact .inl ⟨steady_progress nofun, by simp⟩
  · rw [e]
    have steady := learn_steady { b with progress := .expected } known
    refine .inl ⟨⟨steady.generation, steady.asked, fun hp => ?_⟩, by simp⟩
    cases (steady.investigating hp).1
  · obtain ⟨-, e⟩ | ⟨_, -, -, e⟩ | ⟨_, _, -, -, e⟩ := he <;> rw [e]
    · exact .inl ⟨steady_progress nofun, by simp⟩
    · exact .inl ⟨⟨rfl, nofun, nofun⟩, by simp⟩
    · exact .inr ⟨_, rfl, .begun _ rfl rfl rfl rfl rfl nofun⟩

theorem invalidated_named (h : b.Named) (tag : Tag) (result : Except RemoteFault Token) :
    (b.invalidated tag result).1.Named := by
  obtain ⟨-, e⟩ | ⟨ht, _, -, e⟩ := b.invalidated_cases tag result <;> rw [e]
  · exact h
  · simp only [accepts, Bool.and_eq_true, decide_eq_true_eq] at ht
    exact fun _ => h (by simp [ht.1])

theorem invalidated_steady (b : Blocking) (tag : Tag) (result : Except RemoteFault Token) :
    b.Steady (b.invalidated tag result).1 := by
  obtain ⟨-, e⟩ | ⟨-, _, rfl | rfl, e⟩ := b.invalidated_cases tag result <;> rw [e]
  · exact .refl b
  · exact steady_progress nofun
  · exact steady_progress nofun

theorem act_named (b : Blocking) (a : Act) (h : b.Named) : (b.act a).Named := by
  cases a with
  | block required keys => exact block_named h required keys
  | learn known => exact learn_named h known
  | audit txn cmd topology => exact audit_named h txn cmd topology
  | fetched txn tag result => exact fetched_named h txn tag result
  | invalidated tag result => exact invalidated_named h tag result

/-! ## What has been dispatched -/

/-- An investigation under way remembers whom the dispatch under its tag asked, and whoever is
remembered has a key. -/
structure Traced (b : Blocking) (sent : List Dispatch) : Prop where
  bounded : ∀ d ∈ sent, d.tag.tracker = .blocking → d.tag.generation ≤ b.generation
  asked : b.progress = .investigating →
    ∀ d ∈ sent, d.tag = ⟨.blocking, b.generation⟩ → b.asked = d.remediation.asked?
  key : ∀ participants, b.asked = some participants → participants.someKey? ≠ none

theorem Traced.step {b' : Blocking} {sent fresh : List Dispatch} (h : Traced b sent)
    (k : Step b b' (fresh.filter (·.tag.tracker = .blocking))) : Traced b' (fresh ++ sent) := by
  have own {d : Dispatch} (hd : d ∈ fresh) (hk : d.tag.tracker = .blocking) :
      d ∈ fresh.filter (·.tag.tracker = .blocking) := List.mem_filter.2 ⟨hd, by simpa using hk⟩
  generalize fresh.filter (·.tag.tracker = .blocking) = ds at k own
  cases k with
  | kept steady =>
    refine ⟨fun d hd hk => ?_, fun hp d hd ht => ?_, fun p hp => h.key p (steady.asked p hp)⟩
    · obtain hd | hd := List.mem_append.1 hd
      · cases own hd hk
      · exact steady.generation ▸ h.bounded d hd hk
    · obtain ⟨hp, -, ha⟩ := steady.investigating hp
      obtain hd | hd := List.mem_append.1 hd
      · cases own hd (by rw [ht])
      · rw [ha]
        exact h.asked hp d hd (steady.generation ▸ ht)
  | begun e tag investigating generation required asked key =>
    refine ⟨fun d hd hk => ?_, fun hp d hd ht => ?_, key⟩
    · obtain hd | hd := List.mem_append.1 hd
      · rw [List.mem_singleton.1 (own hd hk), tag]
        exact Nat.le_of_eq generation.symm
      · rw [generation]
        exact Nat.le_succ_of_le (h.bounded d hd hk)
    · obtain hd | hd := List.mem_append.1 hd
      · rw [asked, List.mem_singleton.1 (own hd (by rw [ht]))]
      · -- An earlier dispatch has an earlier generation.
        have bounded := h.bounded d hd (by rw [ht])
        rw [ht, generation] at bounded
        exact absurd bounded (Nat.not_succ_le_self _)

end Blocking

end TxnLiveness
