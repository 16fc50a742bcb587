import TxnLiveness.Proofs.Shard.Blocked
import TxnLiveness.Proofs.Shard.Creation
import TxnLiveness.Proofs.Shard.Seed
/-!
# Knowledge never regresses

Events may come late, twice or in any order, and some of them set a status outright. Still no act
takes back what a log has come to know: each operation of a tracker only adds to what the tracker
knows, and so does whatever is built from these operations.
-/

namespace TxnLiveness

/-- What is there stays there and becomes something related to it. -/
def Lasts {α : Type} (R : α → α → Prop) (o o' : Option α) : Prop :=
  ∀ a, o = some a → ∃ a', o' = some a' ∧ R a a'

section Lasts

variable {α : Type} {R : α → α → Prop} {o o' o'' : Option α}

theorem Lasts.refl (h : ∀ a, R a a) (o : Option α) : Lasts R o o := fun a ha => ⟨a, ha, h a⟩

theorem Lasts.trans (comp : ∀ {a b c}, R a b → R b c → R a c) (h : Lasts R o o')
    (k : Lasts R o' o'') : Lasts R o o'' := by
  intro a ha
  obtain ⟨b, hb, hab⟩ := h a ha
  obtain ⟨c, hc, hbc⟩ := k b hb
  exact ⟨c, hc, comp hab hbc⟩

theorem Lasts.of_some {a : α} (h : R a (o'.getD a)) (kept : o'.isSome = true) :
    Lasts R (some a) o' := by
  rintro _ ⟨⟩
  obtain ⟨a', rfl⟩ := Option.isSome_iff_exists.1 kept
  exact ⟨a', rfl, h⟩

/-- What is kept lasts if it is related to what it was, taken with any default. -/
theorem Lasts.of_getD {a : α} (kept : o.isSome = true → o'.isSome = true)
    (h : R (o.getD a) (o'.getD a)) : Lasts R o o' := by
  rintro b rfl
  obtain ⟨b', rfl⟩ := Option.isSome_iff_exists.1 (kept rfl)
  exact ⟨b', rfl, h⟩

end Lasts

/-! ## Single trackers -/

namespace Coordinate

/-- The tracker has come to know more. -/
structure Grows (c c' : Coordinate) : Prop where
  status : c.status ≤ c'.status
  token : c.token ≤ c'.token

variable {c c' c'' : Coordinate}

theorem Grows.refl (c : Coordinate) : c.Grows c := ⟨Chain.le_refl _, Token.le_refl _⟩

theorem Grows.trans (h : c.Grows c') (k : c'.Grows c'') : c.Grows c'' :=
  ⟨Chain.le_trans h.status k.status, Token.le_trans h.token k.token⟩

/-- Whatever keeps the status and the token takes nothing back. -/
theorem Grows.of_eq (hs : c'.status = c.status) (ht : c'.token = c.token) : c.Grows c' :=
  ⟨hs ▸ Chain.le_refl _, ht ▸ Token.le_refl _⟩

theorem le_done (status : CoordinateStatus) : status ≤ .done := by cases status <;> decide

theorem grows_recovered (c : Coordinate) (tag : Tag) (result : Except RemoteFault Token) :
    c.Grows (c.recovered tag result).1 := by
  unfold recovered
  split
  · exact .refl c
  · cases result with
    | error fault => exact .of_eq rfl rfl
    | ok token => exact ⟨Chain.le_refl _, Token.le_merge_left _ _⟩

theorem grows_act (c : Coordinate) (a : Act) : c.Grows (c.act a) := by
  cases a with
  | reach status progress =>
    obtain e | ⟨h, e⟩ := c.reach_cases status progress <;> rw [act, e]
    · exact .refl c
    · exact ⟨Nat.le_of_lt h, Token.le_refl _⟩
  | observe token => exact ⟨Chain.le_refl _, Token.le_merge_left _ _⟩
  | durableGlobally =>
    obtain ⟨-, e⟩ | ⟨-, e⟩ := c.durableGlobally_cases <;> rw [act, e]
    · exact .refl c
    · exact ⟨le_done _, Token.le_refl _⟩
  | audit txn cmd homeKey =>
    rcases c.audit_cases txn cmd homeKey with ⟨-, e⟩ | ⟨-, _, -, e⟩ | ⟨-, _, -, e⟩ <;>
      rw [act, e] <;> exact .of_eq rfl rfl
  | fetched tag =>
    obtain ⟨-, e⟩ | ⟨-, e⟩ := c.fetched_cases tag <;> rw [act, e] <;> exact .of_eq rfl rfl
  | recovered tag result => exact c.grows_recovered tag result

end Coordinate

/-- Whoever lacks something still lacked it before. -/
structure Lacking.Shrinks (l l' : Lacking) : Prop where
  awareness : ∀ node ∈ l'.awareness, node ∈ l.awareness
  outcome : ∀ node ∈ l'.outcome, node ∈ l.outcome

theorem Lacking.Shrinks.refl (l : Lacking) : l.Shrinks l := ⟨fun _ => id, fun _ => id⟩

theorem Lacking.Shrinks.trans {l l' l'' : Lacking} (h : l.Shrinks l') (k : l'.Shrinks l'') :
    l.Shrinks l'' :=
  ⟨fun n hn => h.awareness n (k.awareness n hn), fun n hn => h.outcome n (k.outcome n hn)⟩

theorem Lacking.shrinks_persisted (l : Lacking) (nodes : SortedSet NodeId) :
    l.Shrinks (l.persisted nodes) :=
  ⟨fun _ hn => (SortedSet.mem_diff.1 hn).1, fun _ hn => (SortedSet.mem_diff.1 hn).1⟩

namespace Disseminate

/-- The tracker has come to know more. Once it can tell who lacks something it always can. -/
structure Grows (d d' : Disseminate) : Prop where
  status : d.status ≤ d'.status
  lacking : Lasts Lacking.Shrinks d.lacking d'.lacking

variable {d d' d'' : Disseminate}

theorem Grows.refl (d : Disseminate) : d.Grows d := ⟨Chain.le_refl _, .refl .refl _⟩

theorem Grows.trans (h : d.Grows d') (k : d'.Grows d'') : d.Grows d'' :=
  ⟨Chain.le_trans h.status k.status, h.lacking.trans .trans k.lacking⟩

theorem le_done (status : DisseminateStatus) : status ≤ .done := by cases status <;> decide

theorem Grows.of_lacking (hs : d.status ≤ d'.status) (hl : d'.lacking = d.lacking) : d.Grows d' :=
  ⟨hs, hl ▸ .refl .refl _⟩

theorem Grows.of_shrinks {l l' : Lacking} (hs : d.status ≤ d'.status) (hl : d.lacking = some l)
    (hl' : d'.lacking = some l') (h : l.Shrinks l') : d.Grows d' := by
  refine ⟨hs, ?_⟩
  rw [hl, hl']
  exact .of_some h rfl

theorem grows_settle (d : Disseminate) : d.Grows d.settle := by
  obtain ⟨e, -⟩ | ⟨_, -, -, e⟩ := d.settle_cases <;> rw [e]
  · exact .refl d
  · exact .of_lacking (le_done _) rfl

theorem grows_persisted (d : Disseminate) (nodes : SortedSet NodeId) :
    d.Grows (d.persisted nodes) := by
  unfold Disseminate.persisted
  split
  · rename_i l hl
    have shrunk : d.Grows { d with lacking := some (l.persisted nodes) } :=
      .of_shrinks (Chain.le_refl _) hl rfl (l.shrinks_persisted nodes)
    exact shrunk.trans (grows_settle _)
  · exact .refl d

/-- Who lacks something is looked up only where it could not be told before. -/
theorem grows_ready (d : Disseminate) (cmd : Command) (topology : Topology) :
    d.Grows (d.ready cmd topology) := by
  obtain ⟨_, -, -, e⟩ | ⟨-, -, e⟩ | ⟨hl, nodes, -, e⟩ := d.ready_cases cmd topology <;> rw [e]
  · exact .refl d
  · exact .refl d
  · have drained : Grows { d with lacking := some ⟨nodes, nodes⟩, deferred := [] }
        (d.deferred.foldl persisted
          { d with lacking := some ⟨nodes, nodes⟩, deferred := [] }) :=
      List.foldlRecOn _ _ (.refl _) fun d' h set _ => h.trans (d'.grows_persisted set)
    exact ⟨drained.status, fun l h => by simp [hl] at h⟩

theorem grows_persistedWhenReady (d : Disseminate) (nodes : SortedSet NodeId) :
    d.Grows (d.persistedWhenReady nodes) := by
  unfold persistedWhenReady
  split
  · exact d.grows_persisted nodes
  · exact .of_lacking (Chain.le_refl _) rfl

/-- Only a tracker that is done would lose by being told that the outcome is durable. -/
theorem grows_durable (h : d.status ≠ .done) :
    d.Grows { d with status := .durable, progress := .expected } := by
  have lower : d.status ≤ .durable := by
    cases hs : d.status with
    | notExecuted | durable => decide
    | done => exact absurd hs h
  exact .of_lacking lower rfl

theorem grows_audit (d : Disseminate) (txn : TxnId) (cmd : Command) (topology : Topology) :
    d.Grows (d.audit txn cmd topology).1 := by
  obtain ⟨-, e⟩ | ⟨-, _, rfl, hcases⟩ := d.audit_cases txn cmd topology
  · rw [e]
    exact .refl d
  · refine (d.grows_ready cmd topology).trans ?_
    obtain ⟨-, e⟩ | ⟨l, -, ⟨-, e⟩ | ⟨-, -, e⟩ | ⟨-, -, _, e⟩ | ⟨-, -, _, _, -, -, e⟩⟩ := hcases <;>
      rw [e]
    · exact .refl _
    · exact .of_lacking (Chain.le_refl _) rfl
    · exact .of_lacking (le_done _) rfl
    · exact .of_lacking (Chain.le_refl _) rfl
    · exact .of_lacking (Chain.le_refl _) rfl

theorem grows_act (d : Disseminate) (a : Act) : d.Grows (d.act a) := by
  cases a with
  | durableGlobally cmd topology nodes =>
    rcases d.durableGlobally_cases cmd topology nodes with
      ⟨-, e⟩ | ⟨hs, -, e⟩ | ⟨hs, set, -, e⟩ <;> rw [act, e]
    · exact .refl d
    · exact grows_durable hs
    · exact ((grows_durable hs).trans (grows_ready _ cmd topology)).trans
        (grows_persistedWhenReady _ set)
  | durableLocally node =>
    obtain ⟨-, e⟩ | ⟨hs, e⟩ := d.durableLocally_cases node <;> rw [act, e]
    · exact .refl d
    · exact (grows_durable hs).trans (grows_persistedWhenReady _ _)
  | audit txn cmd topology => exact d.grows_audit txn cmd topology
  | acknowledged node =>
    obtain ⟨-, e⟩ | ⟨-, l, hl, e⟩ := d.acknowledged_cases node <;> rw [act, e]
    · exact .refl d
    · have erased : d.Grows { d with
          lacking := some { l with awareness := l.awareness.erase node } } :=
        .of_shrinks (Chain.le_refl _) hl rfl
          ⟨fun _ hn => (SortedSet.mem_erase.1 hn).1, fun _ => id⟩
      exact erased.trans (grows_settle _)
  | roundFinished tag =>
    obtain ⟨-, e⟩ | ⟨-, -, e⟩ := d.roundFinished_cases tag <;> rw [act, e]
    · exact .refl d
    · exact .of_lacking (Chain.le_refl _) rfl

end Disseminate

namespace Blocking

/-- The tracker has come to wait for more. -/
structure Grows (b b' : Blocking) : Prop where
  required : b.required ≤ b'.required
  keys : Lasts (fun keys keys' => ∀ key : Key, key ∈ keys → key ∈ keys') b.keys b'.keys

variable {b b' b'' : Blocking}

theorem Grows.of_eq (hr : b'.required = b.required) (hk : b'.keys = b.keys) : b.Grows b' :=
  ⟨hr ▸ Known.le_refl _, hk ▸ .refl (fun _ _ => id) _⟩

theorem Grows.refl (b : Blocking) : b.Grows b := .of_eq rfl rfl

theorem Grows.trans (h : b.Grows b') (k : b'.Grows b'') : b.Grows b'' :=
  ⟨Known.le_trans h.required k.required,
    h.keys.trans (fun h k key hk => k key (h key hk)) k.keys⟩

/-- Keys that something is blocked on stay when others are added. -/
theorem lasts_union (o : Option Footprint) (keys : Footprint) :
    Lasts (fun keys keys' => ∀ key : Key, key ∈ keys → key ∈ keys') o
      (some (o.elim keys (·.union keys))) := by
  rintro old rfl
  exact ⟨_, rfl, fun key hk => Footprint.mem_union.2 (.inl hk)⟩

theorem grows_block (b : Blocking) (required : Known) (keys : Footprint) :
    b.Grows (b.block required keys).1 := by
  obtain ⟨-, e⟩ | ⟨-, -, e⟩ | ⟨-, -, e⟩ := b.block_cases required keys <;> rw [e]
  · exact .refl b
  · exact ⟨Known.le_refl _, lasts_union b.keys keys⟩
  · exact ⟨Known.le_merge_left _ _, lasts_union b.keys keys⟩

theorem grows_act (b : Blocking) (a : Act) : b.Grows (b.act a) := by
  cases a with
  | block required keys => exact b.grows_block required keys
  | learn known => exact .of_eq (b.learn_required known) (b.learn_keys known)
  | audit txn cmd topology => exact .of_eq (b.audit_required ..) (b.audit_keys ..)
  | fetched txn tag result => exact .of_eq (b.fetched_required ..) (b.fetched_keys ..)
  | invalidated tag result => exact .of_eq (b.invalidated_required ..) (b.invalidated_keys ..)

end Blocking

/-! ## One state -/

namespace TxnState

/-- More has become known of the transaction. Every tracker stays, and so does the home key. -/
structure Grows (s s' : TxnState) : Prop where
  homeKey : Lasts Eq s.homeKey s'.homeKey
  coordinate : Lasts Coordinate.Grows s.coordinate s'.coordinate
  disseminate : Lasts Disseminate.Grows s.disseminate s'.disseminate
  blocking : Lasts Blocking.Grows s.blocking s'.blocking
  delegation : s.delegation.isSome = true → s'.delegation.isSome = true

variable {s s' s'' : TxnState}

theorem Grows.refl (s : TxnState) : s.Grows s :=
  ⟨.refl (fun _ => rfl) _, .refl .refl _, .refl .refl _, .refl .refl _, id⟩

theorem Grows.trans (h : s.Grows s') (k : s'.Grows s'') : s.Grows s'' :=
  ⟨h.homeKey.trans .trans k.homeKey, h.coordinate.trans .trans k.coordinate,
    h.disseminate.trans .trans k.disseminate, h.blocking.trans .trans k.blocking,
    fun hs => k.delegation (h.delegation hs)⟩

theorem homeKey_act (s : TxnState) (a : Act) : Lasts Eq s.homeKey (s.act a).homeKey := by
  have same {key : Option Key} (h : key = s.homeKey) : Lasts Eq s.homeKey key :=
    h ▸ .refl (fun _ => rfl) _
  cases a with
  | rememberHome key =>
    rintro old h
    exact ⟨old, by simp [act, rememberHome, h], rfl⟩
  | audit cmd topology =>
    refine same ?_
    by_cases own : cmd.txn = s.txn
    · rw [act, audit_eq own]
    · rw [act, audit_wrong own]
  | complete tag completion =>
    refine same ?_
    rw [act, complete_eq]
    cases tag.tracker <;> rfl
  | _ => exact same rfl

theorem grows_act (s : TxnState) (a : Act) : s.Grows (s.act a) where
  homeKey := s.homeKey_act a
  coordinate := .of_getD (a := {}) (s.tracks_stays a .coordinate) <|
    s.coordinateD_keeps (P := s.coordinateD.Grows) (fun c a h => h.trans (c.grows_act a))
      (.refl _) a
  disseminate := .of_getD (a := {}) (s.tracks_stays a .disseminate) <|
    s.disseminateD_keeps (P := s.disseminateD.Grows) (fun d a h => h.trans (d.grows_act a))
      (.refl _) a
  blocking := .of_getD (a := {}) (s.tracks_stays a .blocking) <|
    s.blockingD_keeps (P := s.blockingD.Grows) (fun b a h => h.trans (b.grows_act a)) (.refl _) a
  delegation := s.tracks_stays a .delegation

/-- The generation of a tracker counts the acts that have the tracker dispatch something. -/
theorem generation_act (s : TxnState) (a : Act) (kind : TrackerKind) :
    ((s.act a).probe kind).generation =
      (s.probe kind).generation + ((s.dispatched a).any (·.tag.tracker = kind)).toNat := by
  cases h : (s.dispatched a).any (·.tag.tracker = kind) with
  | true =>
    obtain ⟨d, hd, hk⟩ := List.any_eq_true.1 h
    have hk : d.tag.tracker = kind := of_decide_eq_true hk
    have sent : 0 < (s.dispatched a).countP (·.tag = d.tag) :=
      List.countP_pos_iff.2 ⟨d, hd, by simp⟩
    have effect := act_effect d.tag s a
    rw [HasEffect, hk] at effect
    cases effect with
    | calm calm unsent ended => omega
    | told told unsent untaken unplanned => omega
    | begun begun sent answered => rw [begun, Bool.toNat_true]
  | false =>
    cases act_effect ⟨kind, (s.probe kind).generation + 1⟩ s a with
    | calm calm unsent ended => exact calm.generation
    | told told unsent untaken unplanned => exact told.generation
    | begun begun sent answered =>
      rw [if_pos rfl] at sent
      obtain ⟨d, hd, ht⟩ := List.countP_pos_iff.1 (sent ▸ Nat.one_pos)
      have dispatched := List.any_eq_false.1 h d hd
      simp_all

end TxnState

/-! ## One log -/

namespace ShardLog

/-- An act changes what is known of one transaction, and only adds to it. -/
theorem grows_act (log : ShardLog) (a : Act) (txn : TxnId) :
    Lasts TxnState.Grows (log.get? txn) ((log.act a).get? txn) := by
  have confined := log.confined_act a
  by_cases hx : txn = a.txn
  · subst hx
    refine .of_getD (a := { txn := a.txn }) confined.tracked ?_
    obtain ⟨acts, does⟩ := log.exists_does_act a
    rw [← stateD, ← stateD, does.own]
    exact List.foldlRecOn _ _ (.refl _) fun s h a _ => h.trans (s.grows_act a)
  · rw [confined.others txn hx]
    exact .refl .refl _

/-- Events have no tracker dispatch anything. -/
theorem generation_recorded {s : TxnState} {acts : List TxnState.Act} (h : s.AllRecordable acts)
    (kind : TrackerKind) :
    ((acts.foldl TxnState.act s).probe kind).generation = (s.probe kind).generation := by
  refine h.keeps (P := fun t => (t.probe kind).generation = (s.probe kind).generation)
    (fun t a ha ht => ?_) rfl
  rw [t.generation_act, TxnState.dispatched_recordable ha, ht]
  rfl

theorem generation_act {log : ShardLog} (h : log.Sound) (a : Act) (txn : TxnId)
    (kind : TrackerKind) :
    ((log.act a).probe txn kind).generation = (log.probe txn kind).generation +
      ((log.dispatched a).any fun d => d.txn = txn && d.tag.tracker = kind).toNat := by
  have turned := turn h a txn
  rw [← probe_stateD, ← probe_stateD, ← List.any_filter]
  generalize (log.act a).stateD txn = s' at turned ⊢
  generalize (log.dispatched a).filter (·.txn = txn) = ds at turned ⊢
  cases turned with
  | other => rfl
  | recorded topology role event acts recordable => exact generation_recorded recordable kind
  | audited topology cmd own => exact TxnState.generation_act _ _ kind
  | completed tag completion => exact TxnState.generation_act _ _ kind

/-! ## Runs -/

section Runs

variable (shard : ShardId) (node : NodeId)

/-- The disseminate tracker of a transaction has a run of its own. -/
theorem exists_disseminate_run (txn : TxnId) (run : List Act) : ∃ acts,
    Disseminate.machine.after acts = (((machine shard node).after run).stateD txn).disseminateD :=
  keeps_after (P := fun s => ∃ acts, Disseminate.machine.after acts = s.disseminateD) txn ⟨[], rfl⟩
    (fun s a h => s.disseminateD_keeps (P := fun d => ∃ acts, Disseminate.machine.after acts = d)
      (fun _ a ⟨acts, e⟩ => ⟨a :: acts, by rw [Machine.after_cons, e, Disseminate.machine_step]⟩)
      h a) run

/-- Whoever is not known to be aware is not known to have persisted the transaction either. -/
theorem unaware_lacks_outcome (txn : TxnId) (run : List Act) {l : Lacking}
    (h : (((machine shard node).after run).stateD txn).disseminateD.lacking = some l) :
    ∀ n ∈ l.awareness, n ∈ l.outcome := by
  obtain ⟨acts, e⟩ := exists_disseminate_run shard node txn run
  rw [← e] at h
  cases Disseminate.coverage acts with
  | waiting computed acknowledged state => simp [state.lacking] at h
  | counting all computed state =>
    obtain rfl : Disseminate.lackingOf all _ _ = l := by simpa [state.lacking] using h
    simp only [Disseminate.lackingOf, SortedSet.mem_diff, SortedSet.mem_union]
    grind

/-- Nothing that a log has come to know is taken back by an act, accepted or refused: no transaction
and no tracker is dropped, and what each tracker knows only grows. Whoever is not known to be aware
is not known to have persisted the transaction either. The generation of a tracker goes up by one if
the act dispatches something for it, and else it stays. -/
theorem knowledge_never_regresses (past : List Act) (a : Act) (txn : TxnId) :
    Lasts TxnState.Grows (((machine shard node).after past).get? txn)
        (((machine shard node).after (a :: past)).get? txn) ∧
      (∀ s d l, ((machine shard node).after (a :: past)).get? txn = some s →
        s.disseminate = some d → d.lacking = some l → ∀ n ∈ l.awareness, n ∈ l.outcome) ∧
      ∀ kind, (((machine shard node).after (a :: past)).probe txn kind).generation =
        (((machine shard node).after past).probe txn kind).generation +
          ((((machine shard node).after past).dispatched a).any fun d =>
            d.txn = txn && d.tag.tracker = kind).toNat := by
  refine ⟨grows_act _ a txn, fun s d l hs hd hl => ?_,
    generation_act (sound_after shard node past) a txn⟩
  refine unaware_lacks_outcome shard node txn (a :: past) (l := l) ?_
  rw [stateD_of_get? hs, TxnState.disseminateD, hd]
  exact hl

end Runs

end ShardLog

end TxnLiveness
