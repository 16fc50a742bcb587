import TxnLiveness.Proofs.Blocking.Requirement
import TxnLiveness.Proofs.Disseminate.Coverage
import TxnLiveness.Proofs.Shard.Run
/-!
# What an act does to each tracker

What is done to the state of a transaction is, for each of its trackers, a few of the acts that can
be done to that tracker. A tracker that was never used reacts to audits and completions as a fresh
one does, which is not at all.
-/

namespace TxnLiveness

/-! ## Acts on single trackers -/

namespace Coordinate

/-- What can be done to a coordinate tracker. -/
inductive Act
  | reach (status : CoordinateStatus) (progress : Progress)
  | observe (token : Token)
  | durableGlobally
  | audit (txn : TxnId) (cmd : Command) (homeKey : Option Key)
  | fetched (tag : Tag)
  | recovered (tag : Tag) (result : Except RemoteFault Token)

def act (c : Coordinate) : Act → Coordinate
  | .reach status progress => c.reach status progress
  | .observe token => c.observe token
  | .durableGlobally => c.durableGlobally
  | .audit txn cmd homeKey => (c.audit txn cmd homeKey).1
  | .fetched tag => (c.fetched tag).1
  | .recovered tag result => (c.recovered tag result).1

/-- What a completion does to the tracker that it is handed to. -/
def handed (tag : Tag) : Completion → List Act
  | .fetched _ => [.fetched tag]
  | .recovered result => [.recovered tag result]
  | _ => []

end Coordinate

/-- What a completion does to the tracker that it is handed to. -/
def Blocking.handed (txn : TxnId) (tag : Tag) : Completion → List Act
  | .fetched result => [.fetched txn tag result]
  | .invalidated result => [.invalidated tag result]
  | _ => []

/-- What a completion does to the tracker that it is handed to. -/
def Disseminate.handed (tag : Tag) : Completion → List Act
  | .acknowledged node => [.acknowledged node]
  | .roundFinished => [.roundFinished tag]
  | _ => []

/-- What a completion does to the tracker that it is handed to. -/
def Delegation.handed (d : Delegation) (tag : Tag) : Completion → Delegation
  | .informedHome result => (d.informed tag result).1
  | _ => d

/-- A tracker plans under its own tags only. -/
theorem Probe.Planned.tracker_of_mem {txn : TxnId} {kind : TrackerKind} {p q : Probe}
    {planned : Except Fault (Option Dispatch)} (h : Planned txn kind p q planned) {d : Dispatch}
    (hd : d ∈ Audit.dispatchOf planned) : d.tag.tracker = kind := by
  cases h with
  | quiet | failed => cases hd
  | escalated idle remediation fits =>
    rw [Audit.dispatchOf, List.mem_singleton] at hd
    rw [hd]

namespace TxnState

variable (s : TxnState)

/-- What leaves a fresh tracker alone may as well be done to a tracker that is not there. -/
theorem getD_map_of_fresh {α : Type} {f : α → α} {fresh : α} (h : f fresh = fresh) (o : Option α) :
    (o.map f).getD fresh = f (o.getD fresh) := by
  cases o <;> simp [h]

/-- A completion changes the tracker that its tag names, if there is one. -/
theorem complete_eq (tag : Tag) (completion : Completion) : (s.complete tag completion).1 =
    match tag.tracker with
    | .blocking => { s with
        blocking := s.blocking.map (Blocking.handed s.txn tag completion |>.foldl Blocking.act) }
    | .coordinate => { s with
        coordinate := s.coordinate.map (Coordinate.handed tag completion |>.foldl Coordinate.act) }
    | .disseminate => { s with
        disseminate :=
          s.disseminate.map (Disseminate.handed tag completion |>.foldl Disseminate.act) }
    | .delegation => { s with delegation := s.delegation.map (·.handed tag completion) } := by
  obtain ⟨txn, homeKey, coordinate, disseminate, blocking, delegation⟩ := s
  obtain ⟨kind, generation⟩ := tag
  cases kind with
  | blocking =>
    cases blocking with
    | none => cases completion <;> rfl
    | some b =>
      cases completion <;> try rfl
      simp only [complete]
      split <;> rename_i e <;> simp [Blocking.handed, Blocking.act, e, withBlocking]
  | coordinate =>
    cases coordinate with
    | none => cases completion <;> rfl
    | some c =>
      cases completion <;> try rfl
      simp only [complete]
      split <;> rename_i e <;> simp [Coordinate.handed, Coordinate.act, e, withCoordinate]
  | disseminate => cases disseminate <;> cases completion <;> rfl
  | delegation => cases delegation <;> cases completion <;> rfl

/-! ## The blocking tracker -/

/-- What an act does to the blocking tracker. -/
def onBlocking : Act → List Blocking.Act
  | .block required keys => [.block required keys]
  | .learn known => [.learn known]
  | .audit cmd topology => if cmd.txn = s.txn then [.audit s.txn cmd topology] else []
  | .complete tag completion =>
    if tag.tracker = .blocking then Blocking.handed s.txn tag completion else []
  | _ => []

theorem blockingD_act (a : Act) :
    (s.act a).blockingD = (s.onBlocking a).foldl Blocking.act s.blockingD := by
  cases a with
  | audit cmd topology =>
    by_cases h : cmd.txn = s.txn
    · simp only [act, onBlocking, h, if_true, audit_eq h, blockingD]
      exact getD_map_of_fresh rfl _
    · simp [act, onBlocking, h, audit_wrong h]
  | complete tag completion =>
    have fresh : (Blocking.handed s.txn tag completion).foldl Blocking.act {} = {} := by
      cases completion <;> rfl
    simp only [act, complete_eq, onBlocking, blockingD]
    cases tag.tracker with
    | blocking => exact getD_map_of_fresh fresh _
    | coordinate | disseminate | delegation => rfl
  | _ => rfl

/-- What every act on a blocking tracker keeps, every act on the state keeps. -/
theorem blockingD_keeps {P : Blocking → Prop} (step : ∀ b a, P b → P (Blocking.act b a))
    (h : P s.blockingD) (a : Act) : P (s.act a).blockingD := by
  rw [blockingD_act]
  exact List.foldlRecOn _ _ h fun b hb a _ => step b a hb

/-! ## The coordinate tracker -/

/-- What an act does to the coordinate tracker. -/
def onCoordinate : Act → List Coordinate.Act
  | .reach status progress => [.reach status progress]
  | .reachFor cmd status progress => [.reach status progress, .observe cmd.token]
  | .observe token => [.observe token]
  | .stopCoordinating => [.durableGlobally]
  | .audit cmd _ => if cmd.txn = s.txn then [.audit s.txn cmd s.homeKey] else []
  | .complete tag completion =>
    if tag.tracker = .coordinate then Coordinate.handed tag completion else []
  | _ => []

theorem coordinateD_act (a : Act) :
    (s.act a).coordinateD = (s.onCoordinate a).foldl Coordinate.act s.coordinateD := by
  cases a with
  | audit cmd topology =>
    by_cases h : cmd.txn = s.txn
    · simp only [act, onCoordinate, h, if_true, audit_eq h, coordinateD]
      exact getD_map_of_fresh rfl _
    · simp [act, onCoordinate, h, audit_wrong h]
  | complete tag completion =>
    have fresh : (Coordinate.handed tag completion).foldl Coordinate.act {} = {} := by
      cases completion <;> rfl
    simp only [act, complete_eq, onCoordinate, coordinateD]
    cases tag.tracker with
    | coordinate => exact getD_map_of_fresh fresh _
    | blocking | disseminate | delegation => rfl
  | _ => rfl

/-- What every act on a coordinate tracker keeps, every act on the state keeps. -/
theorem coordinateD_keeps {P : Coordinate → Prop} (step : ∀ c a, P c → P (Coordinate.act c a))
    (h : P s.coordinateD) (a : Act) : P (s.act a).coordinateD := by
  rw [coordinateD_act]
  exact List.foldlRecOn _ _ h fun c hc a _ => step c a hc

/-! ## The disseminate tracker -/

/-- What an act does to the disseminate tracker. -/
def onDisseminate : Act → List Disseminate.Act
  | .durableGlobally cmd topology nodes => [.durableGlobally cmd topology nodes]
  | .durableLocally node => [.durableLocally node]
  | .audit cmd topology => if cmd.txn = s.txn then [.audit s.txn cmd topology] else []
  | .complete tag completion =>
    if tag.tracker = .disseminate then Disseminate.handed tag completion else []
  | _ => []

theorem disseminateD_act (a : Act) :
    (s.act a).disseminateD = (s.onDisseminate a).foldl Disseminate.act s.disseminateD := by
  cases a with
  | audit cmd topology =>
    by_cases h : cmd.txn = s.txn
    · simp only [act, onDisseminate, h, if_true, audit_eq h, disseminateD]
      exact getD_map_of_fresh rfl _
    · simp [act, onDisseminate, h, audit_wrong h]
  | complete tag completion =>
    have fresh : (Disseminate.handed tag completion).foldl Disseminate.act {} = {} := by
      cases completion <;> rfl
    simp only [act, complete_eq, onDisseminate, disseminateD]
    cases tag.tracker with
    | disseminate => exact getD_map_of_fresh fresh _
    | blocking | coordinate | delegation => rfl
  | _ => rfl

/-- What every act on a disseminate tracker keeps, every act on the state keeps. -/
theorem disseminateD_keeps {P : Disseminate → Prop} (step : ∀ d a, P d → P (Disseminate.act d a))
    (h : P s.disseminateD) (a : Act) : P (s.act a).disseminateD := by
  rw [disseminateD_act]
  exact List.foldlRecOn _ _ h fun d hd a _ => step d a hd

/-! ## The delegation tracker -/

theorem delegation_act (a : Act) : (s.act a).delegation =
    match a with
    | .delegate status => some (s.delegationD status)
    | .audit cmd _ =>
      if cmd.txn = s.txn then s.delegation.map fun d => (d.audit s.txn cmd s.homeKey).1
      else s.delegation
    | .complete tag completion =>
      if tag.tracker = .delegation then s.delegation.map (·.handed tag completion)
      else s.delegation
    | _ => s.delegation := by
  cases a with
  | audit cmd topology =>
    by_cases h : cmd.txn = s.txn
    · simp [act, audit_eq h, h]
    · simp [act, audit_wrong h, h]
  | complete tag completion =>
    simp only [act, complete_eq]
    cases tag.tracker <;> rfl
  | _ => rfl

/-! ## Plans -/

variable (cmd : Command) (topology : Topology)

theorem plan_blocking :
    s.plan cmd topology .blocking = (s.blockingD.audit s.txn cmd topology).2 := by
  unfold plan blockingD
  cases s.blocking <;> rfl

theorem plan_coordinate :
    s.plan cmd topology .coordinate = (s.coordinateD.audit s.txn cmd s.homeKey).2 := by
  unfold plan coordinateD
  cases s.coordinate <;> rfl

theorem plan_disseminate :
    s.plan cmd topology .disseminate = (s.disseminateD.audit s.txn cmd topology).2 := by
  unfold plan disseminateD
  cases s.disseminate <;> rfl

/-! ## What follows a completion -/

/-- What follows the end of a fetch is up to the blocking tracker. -/
theorem followups_fetched {tag : Tag} (hk : tag.tracker = .blocking)
    (result : Except RemoteFault Known) : followups (s.complete tag (.fetched result)).2 =
      match (s.blockingD.fetched s.txn tag result).2 with
      | .ok (.resolved followup) => followup.toList
      | _ => [] := by
  simp only [complete, hk, blockingD]
  cases s.blocking with
  | none => rfl
  | some b =>
    simp only [Option.getD_some]
    cases b.fetched s.txn tag result with
    | mk b' r =>
      cases r with
      | error fault => rfl
      | ok resolution => cases resolution <;> rfl

/-- Nothing follows any other completion. -/
theorem followups_eq_nil {tag : Tag} {completion : Completion}
    (h : tag.tracker = .blocking → ∀ result, completion ≠ .fetched result) :
    followups (s.complete tag completion).2 = [] := by
  unfold complete
  split
  case h_3 hk => exact absurd rfl (h hk _)
  all_goals
    (try split) <;> (try split) <;> first | (simp; done) | rfl

/-- Something follows a completion only where it ends a fetch of the blocking tracker. -/
theorem fetched_of_followup {tag : Tag} {completion : Completion} {d : Dispatch}
    (hd : d ∈ followups (s.complete tag completion).2) :
    ∃ result, tag.tracker = .blocking ∧ completion = .fetched result ∧
      (s.blockingD.fetched s.txn tag result).2 = .ok (.resolved (some d)) := by
  by_cases h : tag.tracker = .blocking ∧ ∃ result, completion = .fetched result
  · obtain ⟨hk, result, rfl⟩ := h
    refine ⟨result, hk, rfl, ?_⟩
    rw [s.followups_fetched hk] at hd
    split at hd
    · rename_i e
      rw [e, ← Option.mem_toList.1 hd]
    · cases hd
  · rw [s.followups_eq_nil fun hk result hc => h ⟨hk, result, hc⟩] at hd
    cases hd

end TxnState

end TxnLiveness
