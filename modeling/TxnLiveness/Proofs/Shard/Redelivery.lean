import TxnLiveness.Proofs.Shard.Independence
/-!
# Redelivered completions

The transport may hand in a completion more than once. A final completion ends the investigation
that its tag names, or begins the next one under a new generation, so its tag is refused from then
on. An acknowledgement is not tied to a generation, but a replica that is aware cannot become aware
again.
-/

namespace TxnLiveness

/-- A second acknowledgement by the same replica changes nothing. -/
theorem Disseminate.acknowledged_again (d : Disseminate) (node : NodeId) :
    ((d.acknowledged node).1.acknowledged node).1 = (d.acknowledged node).1 := by
  obtain ⟨-, e⟩ | ⟨hs, l, hl, e⟩ := d.acknowledged_cases node <;> simp only [e]
  -- Either somebody is still unaware, and the replica is off the list, or the tracker is done.
  obtain ⟨same, -⟩ | ⟨-, -, -, done⟩ := settle_cases { d with
    lacking := some { l with awareness := l.awareness.erase node } }
  · simp only [same]
    simp [acknowledged, hs, same]
  · simp [done, acknowledged]

namespace Probe

variable {txn : TxnId} {kind : TrackerKind} {p q : Probe} {accepted : Bool}
  {result : Except Fault (Resolution Sequel)}

/-- Once a completion has been settled, the tracker has no investigation to which its tag
belongs, unless the completion was refused. -/
theorem Settled.answers_eq_false (h : Settled txn kind p accepted q result) {tag : Tag}
    (ha : accepted = true → p.answers tag = true) (taken : accepted = true) :
    q.answers tag = false := by
  have hg := (answers_iff.1 (ha taken)).2
  cases h with
  | stale refused => simp [refused] at taken
  | ended | failed => simp [answers]
  | followed => simp [answers, ← hg]

end Probe

namespace TxnState

variable {s : TxnState} {tag : Tag} {completion : Completion}

/-- A stale completion leaves every tracker as it was. -/
theorem eq_of_stale (h : (s.complete tag completion).2 = .ok .stale) :
    (s.complete tag completion).1 = s := by
  obtain ⟨txn, homeKey, coordinate, disseminate, blocking, delegation⟩ := s
  obtain ⟨kind, generation⟩ := tag
  cases kind with
  | blocking =>
    cases blocking with
    | none => cases completion <;> rfl
    | some b =>
      cases completion with
      | fetched result =>
        rcases b.fetched_cases txn ⟨.blocking, generation⟩ result with
          ⟨-, e⟩ | ⟨-, _, -, e⟩ | ⟨-, _, -, -, e⟩ |
          ⟨-, _, -, -, ⟨-, e⟩ | ⟨_, -, -, e⟩ | ⟨_, _, -, -, e⟩⟩ <;>
          simp_all [complete, withBlocking]
      | invalidated result =>
        obtain ⟨-, e⟩ | ⟨-, _, -, e⟩ := b.invalidated_cases ⟨.blocking, generation⟩ result <;>
          simp_all [complete, withBlocking, plain]
      | _ => rfl
  | coordinate =>
    cases coordinate with
    | none => cases completion <;> rfl
    | some c =>
      cases completion with
      | fetched result =>
        obtain ⟨-, e⟩ | ⟨-, e⟩ := c.fetched_cases ⟨.coordinate, generation⟩ <;>
          simp_all [complete, withCoordinate, plain]
      | recovered result =>
        obtain ⟨-, e⟩ | ⟨-, -, _, _, e⟩ := c.recovered_cases ⟨.coordinate, generation⟩ result <;>
          simp_all [complete, withCoordinate]
      | _ => rfl
  | disseminate =>
    cases disseminate with
    | none => cases completion <;> rfl
    | some d =>
      cases completion with
      | acknowledged node =>
        obtain ⟨-, e⟩ | ⟨-, _, -, e⟩ := d.acknowledged_cases node <;>
          simp_all [complete, withDisseminate, plain]
      | roundFinished =>
        obtain ⟨-, e⟩ | ⟨-, -, e⟩ := d.roundFinished_cases ⟨.disseminate, generation⟩ <;>
          simp_all [complete, withDisseminate, plain]
      | _ => rfl
  | delegation =>
    cases delegation with
    | none => cases completion <;> rfl
    | some d =>
      cases completion with
      | informedHome result =>
        obtain ⟨-, e⟩ | ⟨-, -, _, -, e⟩ := d.informed_cases ⟨.delegation, generation⟩ result <;>
          simp_all [complete, withDelegation, plain]
      | _ => rfl

/-- A final completion is stale if it comes again. -/
theorem stale_again (s : TxnState) (hf : completion.fits tag.tracker = true)
    (hfin : completion.isFinal = true) :
    ((s.complete tag completion).1.complete tag completion).2 = .ok .stale := by
  rw [complete_stale_iff _ hf hfin]
  cases ha : s.accepts tag completion with
  | false => rwa [eq_of_stale ((s.complete_stale_iff hf hfin).2 ha)]
  | true =>
    have settled := s.complete_settled hf hfin
    rw [accepts, settled.answers_eq_false answers_of_accepts ha, Bool.false_and]

theorem plain_cases (r : Resolution Unit) : plain r = .stale ∨ plain r = .resolved {} := by
  cases r with
  | stale => exact .inl rfl
  | resolved => exact .inr rfl

/-- An acknowledgement that comes again changes nothing and has nothing follow. -/
theorem acknowledged_again (s : TxnState) (h : tag.tracker = .disseminate) (node : NodeId) :
    let first := s.complete tag (.acknowledged node)
    let again := first.1.complete tag (.acknowledged node)
    again.1 = first.1 ∧ (again.2 = .ok .stale ∨ again.2 = .ok (.resolved {})) := by
  cases hd : s.disseminate with
  | none => simp [complete, h, hd]
  | some d =>
    simp only [complete, h, hd, withDisseminate, d.acknowledged_again, Except.ok.injEq, true_and]
    exact plain_cases _

/-- A completion that comes again changes nothing. It is stale, or it is an acknowledgement that has
nothing follow, or it is of the wrong kind, now as before. -/
theorem complete_again (s : TxnState) (tag : Tag) (completion : Completion) :
    let first := s.complete tag completion
    let again := first.1.complete tag completion
    again.1 = first.1 ∧
      (again.2 = .ok .stale ∨
        (completion.isFinal = false ∧ again.2 = .ok (.resolved {})) ∨
        first = (s, .error (.wrongCompletion tag.tracker s.txn completion))) := by
  intro first again
  cases hf : completion.fits tag.tracker with
  | false =>
    have misfit : first = (s, .error (.wrongCompletion tag.tracker s.txn completion)) :=
      complete_misfit hf
    refine ⟨?_, .inr (.inr misfit)⟩
    have again_first : again = first := by simp only [again, misfit]; exact misfit
    rw [again_first]
  | true =>
    cases hfin : completion.isFinal with
    | true =>
      have stale : again.2 = .ok .stale := s.stale_again hf hfin
      exact ⟨eq_of_stale stale, .inl stale⟩
    | false =>
      cases completion with
      | acknowledged node =>
        obtain ⟨same, outcome⟩ := s.acknowledged_again (disseminate_of_fits hf) node
        exact ⟨same, outcome.imp_right fun e => .inl ⟨rfl, e⟩⟩
      | _ => cases hfin

end TxnState

namespace ShardLog

variable {log : ShardLog} {txn : TxnId} {s : TxnState} {tag : Tag} {completion : Completion}

/-- A stale completion leaves the log as it was. -/
theorem eq_of_stale (h : (log.complete txn tag completion).2 = .ok .stale) :
    (log.complete txn tag completion).1 = log := by
  cases hs : log.get? txn with
  | none => simp [complete, hs]
  | some s =>
    rw [complete_of_get? hs] at h ⊢
    rw [TxnState.eq_of_stale h]
    exact withState_self hs

/-- Redelivery is harmless. -/
theorem redelivered (log : ShardLog) (txn : TxnId) (tag : Tag) (completion : Completion) :
    let first := log.complete txn tag completion
    let again := first.1.complete txn tag completion
    again.1 = first.1 ∧
      (again.2 = .ok .stale ∨
        (completion.isFinal = false ∧ again.2 = .ok (.resolved {})) ∨
        (first.1 = log ∧ ∃ fault, first.2 = .error fault ∧ again.2 = .error fault)) ∧
      (first.2 = .ok .stale → first.1 = log) := by
  intro first again
  rw [← and_assoc]
  refine ⟨?_, eq_of_stale⟩
  cases hs : log.get? txn with
  | none =>
    have stale : first = (log, .ok .stale) := by simp [first, complete, hs]
    have again_stale : again = (log, .ok .stale) := by simp [again, stale, complete, hs]
    exact ⟨by rw [stale, again_stale], .inl (by rw [again_stale])⟩
  | some s =>
    have e : first = (log.withState txn (s.complete tag completion).1,
      (s.complete tag completion).2) := complete_of_get? hs tag completion
    have e' : again = (log.withState txn ((s.complete tag completion).1.complete tag completion).1,
        ((s.complete tag completion).1.complete tag completion).2) := by
      rw [← withState_withState log txn (s.complete tag completion).1]
      simp only [again, e]
      exact complete_of_get? (by simp) tag completion
    obtain ⟨same, outcome⟩ := s.complete_again tag completion
    refine ⟨by rw [e, e', same], ?_⟩
    rw [e']
    obtain stale | acknowledged | misfit := outcome
    · exact .inl stale
    · exact .inr (.inl acknowledged)
    · have unchanged : first.1 = log := by rw [e, misfit]; exact withState_self hs
      refine .inr (.inr ⟨unchanged, _, by rw [e, misfit], by simp only [misfit]⟩)

/-- A fruitless fetch has an invalidation follow. The same completion is stale from then on, as the
invalidation has a generation of its own. -/
theorem redelivered_amid_invalidation :
    let txn : TxnId := ⟨1, 1, 1⟩
    let topology : Topology := ⟨1, fun _ => true, fun _ _ _ => ∅⟩
    let log := (machine 0 1).after [.audit topology { txn }, .audit topology { txn },
      .record topology .nonHome (.waitingOn txn .preApplied (.ofKeys [⟨[97]⟩]))]
    let fetch : Tag := ⟨.blocking, 1⟩
    let fruitless : Completion := .fetched (.ok .nothing)
    let first := log.complete txn fetch fruitless
    TxnState.followups first.2 =
        [⟨txn, ⟨.blocking, 2⟩, .invalidate (.merge none (.ofKeys [⟨[97]⟩]))⟩] ∧
      first.1.complete txn fetch fruitless = (first.1, .ok .stale) := by
  intro txn topology log fetch fruitless first
  have stale : (first.1.complete txn fetch fruitless).2 = .ok .stale := rfl
  exact ⟨by decide, Prod.ext ((redelivered first.1 txn fetch fruitless).2.2 stale) stale⟩

end ShardLog

end TxnLiveness
