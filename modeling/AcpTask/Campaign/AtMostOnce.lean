import AcpTask.Campaign.Worker

namespace AcpTask.Campaign

open Library

/-! What one statement does to the effects.  An open effect may be claimed or
closed, a claimed one may be settled, and an uncertain one leaves only when it
is reconciled; only the holder that releases an effect may open it again. -/

def EffectMoves (reconciled released : Option EffectKey) (key : EffectKey)
    (before after : EffectStatus) : Prop :=
  after = before ∨
  (before.open = true ∧ after.open = false) ∨
  (before = .claimed ∧ (after.open = false ∨ released = some key)) ∨
  (reconciled = some key ∧ before = .uncertain ∧ after.open = false)

def EffectsMove (reconciled released : Option EffectKey)
    (effects later : Table Effect Effect.key) : Prop :=
  ∀ key row, effects.find? key = some row →
    ∃ next, later.find? key = some next ∧
      EffectMoves reconciled released key row.status next.status

namespace EffectsMove

variable {reconciled released : Option EffectKey}
  {effects later : Table Effect Effect.key}

theorem refl (effects : Table Effect Effect.key) :
    EffectsMove reconciled released effects effects :=
  fun _ row found => ⟨row, found, .inl rfl⟩

theorem update {condition : Effect → Bool} {assign : Effect → Effect}
    (keepsKey : ∀ row, (assign row).key = row.key)
    (moves : ∀ row, condition row = true →
      EffectMoves reconciled released row.key row.status (assign row).status) :
    EffectsMove reconciled released effects
      (effects.updateWhere condition assign keepsKey) := by
  intro key row found
  obtain ⟨_, rfl⟩ := Table.find?_eq_some_iff.mp found
  rw [Table.find?_updateWhere, found, Option.map_some]
  refine ⟨_, rfl, ?_⟩
  split
  · rename_i selected
    exact moves row selected
  · exact .inl rfl

theorem of_find? (grows : ∀ key row, effects.find? key = some row →
      later.find? key = some row) :
    EffectsMove reconciled released effects later :=
  fun key row found => ⟨row, grows key row found, .inl rfl⟩

end EffectsMove

section Statements

variable {reconciled released : Option EffectKey} {store : CampaignStore}

theorem closeOpenEffects_moves {key : String × String}
    {status : EffectStatus} (closes : status.open = false) (reason : String)
    (now : Int) :
    EffectsMove reconciled released store.effects
      (closeOpenEffects store key status reason now).effects := by
  apply EffectsMove.update (fun _ => by rfl)
  intro row selected
  simp only [Bool.and_eq_true] at selected
  exact .inr (.inl ⟨selected.2, closes⟩)

theorem recoverExpiredClaims_moves (now : Int) :
    EffectsMove reconciled released store.effects
      (recoverExpiredClaims store now).effects := by
  apply EffectsMove.update (fun _ => by rfl)
  intro row selected
  simp only [leaseExpired, Bool.and_eq_true, beq_iff_eq] at selected
  exact .inr (.inr (.inl ⟨selected.1, .inl rfl⟩))

theorem reconcileEffect_moves (key : EffectKey) (verdict : String)
    (providerId : Option String) (now : Int) :
    EffectsMove (some key) released store.effects
      (reconcileEffect store key verdict providerId now).2.effects := by
  apply EffectsMove.update (fun _ => by rfl)
  intro row selected
  simp only [Bool.and_eq_true, beq_iff_eq, decide_eq_true_eq] at selected
  refine .inr (.inr (.inr ⟨by rw [selected.1], selected.2, ?_⟩))
  dsimp only
  split <;> rfl

theorem completeEffect_moves (effect : Effect) (completion : Completion)
    (now : Int) :
    EffectsMove reconciled (some effect.key) store.effects
      (completeEffect store effect completion now).2.effects := by
  apply EffectsMove.update (fun _ => by rfl)
  intro row selected
  simp only [Bool.and_eq_true, beq_iff_eq, decide_eq_true_eq] at selected
  exact .inr (.inr (.inl ⟨selected.2.1.1, .inr (by rw [selected.1])⟩))

theorem completeEffect_closes (effect : Effect) {completion : Completion}
    (closed : completion.status.open = false) (now : Int) :
    EffectsMove reconciled released store.effects
      (completeEffect store effect completion now).2.effects := by
  apply EffectsMove.update (fun _ => by rfl)
  intro row selected
  simp only [Bool.and_eq_true, beq_iff_eq] at selected
  exact .inr (.inr (.inl ⟨selected.2.1.1, .inl closed⟩))

variable {later : CampaignStore}

/-- The campaigns stay, and so does every effect there was. -/
def AddsEffects (store later : CampaignStore) : Prop :=
  later.campaigns = store.campaigns ∧
    ∀ key row, store.effects.find? key = some row →
      later.effects.find? key = some row

theorem insertEffect_adds {row : Effect}
    (inserted : insertEffect store row = .ok later) :
    AddsEffects store later := by
  unfold insertEffect at inserted
  split at inserted
  · rename_i success
    cases inserted
    exact ⟨rfl, fun _ _ => Table.insert?_keeps success⟩
  · cases inserted

theorem authorize_moves (hashing : Hashing) (key : String × String)
    (principalId : String) (permitted : Bool) (now : Int) :
    EffectsMove reconciled released store.effects
      (authorize hashing store key principalId permitted now).2.effects := by
  apply EffectsMove.of_find?
  intro effectKey row found
  unfold authorize
  refine transaction_preserves
    (motive := fun later : CampaignStore =>
      later.effects.find? effectKey = some row) found ?_
  intro _ later committed
  simp only [bind_eq_ok, pure_eq_ok, Prod.mk.injEq] at committed
  obtain ⟨_, _, _, _, _, _, _, _, _, _, _, _, _, filled, _, rfl⟩ := committed
  exact foldlM_invariant
    (fun later : CampaignStore => later.effects.find? effectKey = some row)
    (fun _ _ _ inserted => (insertEffect_adds inserted).2 effectKey row) filled
    found

theorem insertCohort_frame {row : CohortRow}
    (inserted : insertCohort store row = .ok later) :
    later.campaigns = store.campaigns ∧ later.effects = store.effects := by
  unfold insertCohort at inserted
  split at inserted <;> cases inserted
  exact ⟨rfl, rfl⟩

theorem insertExclusions_frame {Item : Type} (rowOf : Item → CohortRow)
    (items : List Item) (store : CampaignStore) :
    let later := items.foldl (fun store item =>
      insertCohortOrIgnore store (rowOf item)) store
    later.campaigns = store.campaigns ∧ later.effects = store.effects := by
  induction items generalizing store with
  | nil => exact ⟨rfl, rfl⟩
  | cons item _ induction =>
      have first : (insertCohortOrIgnore store (rowOf item)).campaigns =
            store.campaigns ∧
          (insertCohortOrIgnore store (rowOf item)).effects =
            store.effects := by
        unfold insertCohortOrIgnore
        split <;> exact ⟨rfl, rfl⟩
      have later := induction (insertCohortOrIgnore store (rowOf item))
      exact ⟨later.1.trans first.1, later.2.trans first.2⟩

/-- The effects stay, and so does every campaign there was. -/
def AddsCampaign (store later : CampaignStore) : Prop :=
  later.effects = store.effects ∧
    ∀ key row, store.campaigns.find? key = some row →
      later.campaigns.find? key = some row

theorem createPreview_adds (hashing : Hashing) (key : String × String)
    (principalId : String) (definition : Definition) (audience : List Member)
    (exclusions : List Exclusion)
    (estimatedSpendMicros approvalTtlSeconds now : Int) :
    AddsCampaign store (createPreview hashing store key principalId definition
      audience exclusions estimatedSpendMicros approvalTtlSeconds now).2 := by
  refine transaction_preserves ⟨rfl, fun _ _ found => found⟩ ?_
  intro _ later committed
  simp only [bind_eq_ok, pure_eq_ok, Prod.mk.injEq] at committed
  obtain ⟨_, _, _, _, opened, inserted, _, filled, _, rfl⟩ := committed
  have same := foldlM_invariant
    (fun later : CampaignStore => later.campaigns = opened.campaigns ∧
      later.effects = opened.effects)
    (fun _ _ _ cohort same => ⟨(insertCohort_frame cohort).1.trans same.1,
      (insertCohort_frame cohort).2.trans same.2⟩) filled ⟨rfl, rfl⟩
  rw [AddsCampaign, (insertExclusions_frame ..).1, (insertExclusions_frame ..).2,
    same.1, same.2]
  unfold insertCampaign at inserted
  split at inserted
  · rename_i success
    cases inserted
    exact ⟨rfl, fun _ _ => Table.insert?_keeps success⟩
  · cases inserted

theorem addLateAudienceMember_adds (campaign : CampaignRow)
    (member : Member) (now : Int) :
    AddsEffects store (addLateAudienceMember store campaign member now).2 := by
  have stays : AddsEffects store store := ⟨rfl, fun _ _ found => found⟩
  simp only [addLateAudienceMember]
  split
  · exact stays
  · split
    · exact stays
    · refine transaction_preserves stays fun _ later committed => ?_
      simp only [bind_eq_ok, pure_eq_ok, Prod.mk.injEq] at committed
      obtain ⟨_, inserted, _, rfl⟩ := committed
      have adds := insertEffect_adds inserted
      exact adds

theorem chooseClaim_some {now : Int} {scope : Option (String × String)}
    {campaign : CampaignRow} {effect : Effect}
    (chosen : chooseClaim store now scope = some (campaign, effect)) :
    effect ∈ store.effects ∧ effect.status.open = true ∧
      campaign.status.claimable = true ∧
      store.campaigns.find? effect.key.campaign = some campaign := by
  have member := List.mem_of_find?_eq_some chosen
  rw [List.mem_insertionSort, List.mem_filterMap] at member
  obtain ⟨row, rowMember, candidate⟩ := member
  unfold claimCandidate at candidate
  split at candidate
  · rename_i due
    simp only [Option.map_eq_some_iff, Option.filter_eq_some_iff,
      Prod.mk.injEq] at candidate
    obtain ⟨_, ⟨found, claimable⟩, rfl, rfl⟩ := candidate
    simp only [Bool.and_eq_true] at due
    exact ⟨rowMember, due.1.1, claimable, found⟩
  · cases candidate

theorem claimNext_some {workerId : String} {now leaseSeconds : Int}
    {scope : Option (String × String)} {effect : Effect}
    (claimed : claimNext store workerId now leaseSeconds scope =
      (some effect, later)) :
    (∃ row, store.effects.find? effect.key = some row ∧
      row.status.open = true) ∧
    (∃ row, later.effects.find? effect.key = some row ∧ row.status = .claimed) ∧
    EffectsMove reconciled released store.effects later.effects := by
  unfold claimNext at claimed
  split at claimed
  · cases claimed
  · rename_i campaign row chosen
    obtain ⟨member, opened, _, _⟩ := chooseClaim_some chosen
    have found := Table.find?_eq_some_iff.mpr
      (⟨member, rfl⟩ : row ∈ store.effects ∧ row.key = row.key)
    cases claimed
    refine ⟨⟨row, found, opened⟩, ⟨claimedEffect workerId now leaseSeconds row,
      ?_, rfl⟩, ?_⟩
    · have written := Table.find?_updateWhere store.effects
        (fun other => decide (other.key = row.key) && other.status.open)
        (claimedEffect workerId now leaseSeconds) (fun _ => rfl) row.key
      refine written.trans ?_
      rw [found, Option.map_some, if_pos]
      simp [opened]
    · apply EffectsMove.update (fun _ => by rfl)
      intro other selected
      simp only [Bool.and_eq_true] at selected
      exact .inr (.inl ⟨selected.2, rfl⟩)

end Statements

inductive Stage where
  | unspent
  | invoking
  | spent

def Phase.claim : Phase → Option (EffectKey × Stage)
  | .holding _ effect | .cleared _ effect => some (effect.key, .unspent)
  | .dispatching _ effect => some (effect.key, .invoking)
  | .settling _ effect completion _ =>
      some (effect.key, if completion.status.open then .unspent else .spent)
  | _ => none

def Phase.Keeps (before after : Phase) : Prop :=
  after.claim = none ∨ ∃ key stage later, before.claim = some (key, stage) ∧
    after.claim = some (key, later) ∧ (later = stage ∨ later = .spent)

def invocations (system : CampaignSystem) (key : EffectKey) : Nat :=
  system.events.count (.invoked key)

def throttles (system : CampaignSystem) (key : EffectKey) : Nat :=
  system.events.count (.throttled key)

/-- Everything a step can do to the effects, their holders and the record of
provider invocations. -/
inductive EffectStep (reconciled : Option EffectKey)
    (system next : CampaignSystem) : Prop where
  | quiet (process : Nat) (phase : Phase)
      (effects : EffectsMove reconciled none system.store.effects
        next.store.effects)
      (processes : next.processes =
        Function.update system.processes process phase)
      (keeps : (system.processes process).Keeps phase)
      (invoked : ∀ key, invocations next key = invocations system key)
      (throttled : ∀ key, throttles next key = throttles system key)
  | claim (process : Nat) (key : EffectKey) (phase : Phase)
      (effects : EffectsMove reconciled none system.store.effects
        next.store.effects)
      (opened : ∃ row, system.store.effects.find? key = some row ∧
        row.status.open = true)
      (closed : ∃ row, next.store.effects.find? key = some row ∧
        row.status.open = false)
      (processes : next.processes =
        Function.update system.processes process phase)
      (claims : phase.claim = some (key, .unspent))
      (invoked : ∀ key, invocations next key = invocations system key)
      (throttled : ∀ key, throttles next key = throttles system key)
  | invoke (process : Nat) (key : EffectKey) (phase : Phase)
      (store : next.store = system.store)
      (processes : next.processes =
        Function.update system.processes process phase)
      (unspent : (system.processes process).claim = some (key, .unspent))
      (invoking : phase.claim = some (key, .invoking))
      (events : next.events = .invoked key :: system.events)
  | throttle (process : Nat) (key : EffectKey) (phase : Phase)
      (store : next.store = system.store)
      (processes : next.processes =
        Function.update system.processes process phase)
      (invoking : (system.processes process).claim = some (key, .invoking))
      (unspent : phase.claim = some (key, .unspent))
      (events : next.events = .throttled key :: system.events)
  | release (process : Nat) (key : EffectKey) (phase : Phase)
      (effects : EffectsMove reconciled (some key) system.store.effects
        next.store.effects)
      (processes : next.processes =
        Function.update system.processes process phase)
      (unspent : (system.processes process).claim = some (key, .unspent))
      (free : phase.claim = none)
      (events : next.events = system.events)

def Free (store : CampaignStore) (key : EffectKey) : Prop :=
  ∀ row, store.effects.find? key = some row → row.status.open = true

def Stage.Balanced : Stage → Nat → Nat → Prop
  | .unspent, invoked, throttled => invoked = throttled
  | .invoking, invoked, throttled => invoked = throttled + 1
  | .spent, invoked, throttled => invoked ≤ throttled + 1

structure Accounted (system : CampaignSystem) (key : EffectKey) : Prop where
  once : invocations system key ≤ throttles system key + 1
  unheld : Free system.store key → ∀ process stage,
    (system.processes process).claim ≠ some (key, stage)
  unspent : Free system.store key →
    invocations system key = throttles system key
  exclusive : ∀ {left right leftStage rightStage},
    (system.processes left).claim = some (key, leftStage) →
    (system.processes right).claim = some (key, rightStage) → left = right
  balanced : ∀ {process stage},
    (system.processes process).claim = some (key, stage) →
      stage.Balanced (invocations system key) (throttles system key)

theorem accounted_initial (key : EffectKey) :
    Accounted CampaignSystem.initial key where
  once := Nat.zero_le _
  unheld := fun _ _ _ held => by cases held
  unspent := fun _ => rfl
  exclusive := fun held => by cases held
  balanced := fun held => by cases held

theorem Stage.Balanced.spend {stage : Stage} {invoked throttled : Nat}
    (balanced : stage.Balanced invoked throttled) :
    Stage.spent.Balanced invoked throttled := by
  cases stage <;> simp only [Stage.Balanced] at balanced ⊢ <;> omega

variable {reconciled released : Option EffectKey}

theorem EffectsMove.free {store later : CampaignStore} {key : EffectKey}
    (effects : EffectsMove reconciled released store.effects later.effects)
    (kept : released ≠ some key) (free : Free later key) : Free store key := by
  intro row found
  obtain ⟨next, nextFound, moves⟩ := effects key row found
  have opened := free next nextFound
  rcases moves with same | ⟨before, _⟩ | ⟨_, closed | release⟩ | ⟨_, _, closed⟩
  · rw [← same]
    exact opened
  · exact before
  · rw [opened] at closed
    cases closed
  · exact absurd release kept
  · rw [opened] at closed
    cases closed

section Preserved

variable {reconciled : Option EffectKey} {system next : CampaignSystem}
  {process : Nat} {phase : Phase} {key : EffectKey}

variable {stage : Stage}

theorem claim_of_update (processes : next.processes =
      Function.update system.processes process phase) {holder : Nat}
    (held : (next.processes holder).claim = some (key, stage)) :
    (holder = process ∧ phase.claim = some (key, stage)) ∨
      (holder ≠ process ∧
        (system.processes holder).claim = some (key, stage)) := by
  rw [processes] at held
  by_cases same : holder = process
  · subst same
    rw [Function.update_self] at held
    exact .inl ⟨rfl, held⟩
  · rw [Function.update_of_ne same] at held
    exact .inr ⟨same, held⟩

theorem Accounted.of_kept (accounted : Accounted system key)
    (free : Free next.store key → Free system.store key)
    (kept : ∀ {holder stage},
      (next.processes holder).claim = some (key, stage) →
        ∃ earlier, (system.processes holder).claim = some (key, earlier) ∧
          (stage = earlier ∨ stage = .spent))
    (invoked : invocations next key = invocations system key)
    (throttled : throttles next key = throttles system key) :
    Accounted next key where
  once := by
    rw [invoked, throttled]
    exact accounted.once
  unheld := by
    intro isFree holder stage held
    obtain ⟨earlier, before, _⟩ := kept held
    exact accounted.unheld (free isFree) holder earlier before
  unspent := by
    intro isFree
    rw [invoked, throttled]
    exact accounted.unspent (free isFree)
  exclusive := by
    intro _ _ _ _ leftHeld rightHeld
    obtain ⟨_, leftBefore, _⟩ := kept leftHeld
    obtain ⟨_, rightBefore, _⟩ := kept rightHeld
    exact accounted.exclusive leftBefore rightBefore
  balanced := by
    intro _ _ held
    obtain ⟨_, before, rfl | rfl⟩ := kept held
    · rw [invoked, throttled]
      exact accounted.balanced before
    · rw [invoked, throttled]
      exact (accounted.balanced before).spend

theorem Accounted.of_holder (accounted : Accounted system key) {later : Stage}
    (free : Free next.store key → Free system.store key)
    (processes : next.processes =
      Function.update system.processes process phase)
    (before : (system.processes process).claim = some (key, stage))
    (after : phase.claim = some (key, later))
    (balanced : later.Balanced (invocations next key) (throttles next key)) :
    Accounted next key := by
  have only : ∀ {holder stage},
      (next.processes holder).claim = some (key, stage) →
        holder = process ∧ stage = later := by
    intro holder stage held
    rcases claim_of_update processes held with ⟨same, claims⟩ | ⟨other, claims⟩
    · rw [after] at claims
      cases claims
      exact ⟨same, rfl⟩
    · exact absurd (accounted.exclusive claims before) other
  refine {
    once := balanced.spend
    unheld := fun isFree => absurd before
      (accounted.unheld (free isFree) process stage)
    unspent := fun isFree => absurd before
      (accounted.unheld (free isFree) process stage)
    exclusive := ?_
    balanced := ?_ }
  · intro _ _ _ _ leftHeld rightHeld
    exact (only leftHeld).1.trans (only rightHeld).1.symm
  · intro _ _ held
    rw [(only held).2]
    exact balanced

theorem kept_of_keeps (processes : next.processes =
      Function.update system.processes process phase)
    (keeps : (system.processes process).Keeps phase) {holder : Nat}
    (held : (next.processes holder).claim = some (key, stage)) :
    ∃ earlier, (system.processes holder).claim = some (key, earlier) ∧
      (stage = earlier ∨ stage = .spent) := by
  rcases claim_of_update processes held with ⟨rfl, claims⟩ | ⟨_, claims⟩
  · rcases keeps with none | ⟨_, earlier, _, before, after, weaker⟩
    · rw [none] at claims
      cases claims
    · rw [after] at claims
      cases claims
      exact ⟨earlier, before, weaker⟩
  · exact ⟨stage, claims, .inl rfl⟩

theorem kept_of_other (processes : next.processes =
      Function.update system.processes process phase)
    (others : ∀ stage, phase.claim ≠ some (key, stage)) {holder : Nat}
    (held : (next.processes holder).claim = some (key, stage)) :
    ∃ earlier, (system.processes holder).claim = some (key, earlier) ∧
      (stage = earlier ∨ stage = .spent) := by
  rcases claim_of_update processes held with ⟨_, claims⟩ | ⟨_, claims⟩
  · exact absurd claims (others stage)
  · exact ⟨stage, claims, .inl rfl⟩

theorem not_claim_of_ne {claimed : EffectKey}
    (claims : phase.claim = some (claimed, stage)) (other : claimed ≠ key)
    (later : Stage) : phase.claim ≠ some (key, later) := by
  intro same
  rw [claims] at same
  cases same
  exact other rfl

theorem Accounted.claim {claimed : EffectKey}
    (accounted : Accounted system key)
    (effects : EffectsMove reconciled none system.store.effects
      next.store.effects)
    (opened : ∃ row, system.store.effects.find? claimed = some row ∧
      row.status.open = true)
    (closed : ∃ row, next.store.effects.find? claimed = some row ∧
      row.status.open = false)
    (processes : next.processes =
      Function.update system.processes process phase)
    (claims : phase.claim = some (claimed, .unspent))
    (invoked : invocations next key = invocations system key)
    (throttled : throttles next key = throttles system key) :
    Accounted next key := by
  by_cases same : claimed = key
  · subst same
    obtain ⟨_, found, rowOpen⟩ := opened
    obtain ⟨later, laterFound, laterClosed⟩ := closed
    have wasFree : Free system.store claimed := by
      intro other otherFound
      rw [found] at otherFound
      cases otherFound
      exact rowOpen
    have notFree : ¬ Free next.store claimed := by
      intro free
      rw [free later laterFound] at laterClosed
      cases laterClosed
    have only : ∀ {holder stage},
        (next.processes holder).claim = some (claimed, stage) →
          holder = process ∧ stage = .unspent := by
      intro holder stage held
      rcases claim_of_update processes held with ⟨same, own⟩ | ⟨_, other⟩
      · rw [claims] at own
        cases own
        exact ⟨same, rfl⟩
      · exact absurd other (accounted.unheld wasFree holder stage)
    refine {
      once := ?_
      unheld := fun free => absurd free notFree
      unspent := fun free => absurd free notFree
      exclusive := ?_
      balanced := ?_ }
    · rw [invoked, throttled]
      exact accounted.once
    · intro _ _ _ _ leftHeld rightHeld
      exact (only leftHeld).1.trans (only rightHeld).1.symm
    · intro _ _ held
      rw [(only held).2, invoked, throttled]
      exact accounted.unspent wasFree
  · exact accounted.of_kept (effects.free (by simp))
      (kept_of_other processes (not_claim_of_ne claims same)) invoked throttled

theorem Accounted.release {released : EffectKey}
    (accounted : Accounted system key)
    (effects : EffectsMove reconciled (some released) system.store.effects
      next.store.effects)
    (processes : next.processes =
      Function.update system.processes process phase)
    (held : (system.processes process).claim = some (released, .unspent))
    (free : phase.claim = none) (events : next.events = system.events) :
    Accounted next key := by
  have others : ∀ stage, phase.claim ≠ some (key, stage) := by
    intro stage claims
    rw [free] at claims
    cases claims
  have invoked : invocations next key = invocations system key := by
    rw [invocations, events, invocations]
  have throttled : throttles next key = throttles system key := by
    rw [throttles, events, throttles]
  by_cases same : released = key
  · subst same
    have nobody : ∀ {holder stage},
        (next.processes holder).claim ≠ some (released, stage) := by
      intro holder stage claims
      rcases claim_of_update processes claims with ⟨_, own⟩ | ⟨other, before⟩
      · exact others stage own
      · exact other (accounted.exclusive before held)
    refine {
      once := ?_
      unheld := fun _ _ _ => nobody
      unspent := fun _ => ?_
      exclusive := fun claims => absurd claims nobody
      balanced := fun claims => absurd claims nobody }
    · rw [invoked, throttled]
      exact accounted.once
    · rw [invoked, throttled]
      exact accounted.balanced held
  · exact accounted.of_kept (effects.free (by simpa using same))
      (kept_of_other processes others) invoked throttled

theorem EffectStep.accounted (step : EffectStep reconciled system next)
    (accounted : Accounted system key) : Accounted next key := by
  cases step with
  | quiet _ _ effects processes keeps invoked throttled =>
      exact accounted.of_kept (effects.free (by simp))
        (kept_of_keeps processes keeps) (invoked key) (throttled key)
  | claim _ _ _ effects opened closed processes claims invoked throttled =>
      exact accounted.claim effects opened closed processes claims
        (invoked key) (throttled key)
  | invoke _ invoked _ store processes unspent invoking events =>
      have free : Free next.store key → Free system.store key := by
        rw [store]
        exact id
      have throttled : throttles next key = throttles system key := by
        simp [throttles, events]
      by_cases same : invoked = key
      · subst same
        have balanced := accounted.balanced unspent
        apply accounted.of_holder free processes unspent invoking
        rw [throttled]
        simpa [Stage.Balanced, invocations, events] using balanced
      · exact accounted.of_kept free
          (kept_of_other processes (not_claim_of_ne invoking same))
          (by simp [invocations, events, same]) throttled
  | throttle _ throttled _ store processes invoking unspent events =>
      have free : Free next.store key → Free system.store key := by
        rw [store]
        exact id
      have invoked : invocations next key = invocations system key := by
        simp [invocations, events]
      by_cases same : throttled = key
      · subst same
        have balanced := accounted.balanced invoking
        apply accounted.of_holder free processes invoking unspent
        rw [invoked]
        simpa [Stage.Balanced, throttles, events] using balanced
      · exact accounted.of_kept free
          (kept_of_other processes (not_claim_of_ne unspent same)) invoked
          (by simp [throttles, events, same])
  | release _ _ _ effects processes held free events =>
      exact accounted.release effects processes held free events

end Preserved

theorem Phase.Keeps.refl (phase : Phase) : phase.Keeps phase := by
  cases claim : phase.claim with
  | none => exact .inl claim
  | some => exact .inr ⟨_, _, _, claim, claim, .inl rfl⟩

def CampaignEvent.counted : CampaignEvent → Bool
  | .invoked _ | .throttled _ => true
  | _ => false

section Step

variable {reconciled : Option EffectKey} {system : CampaignSystem}
  {process : Nat} {phase : Phase} {store : CampaignStore}

variable {event : CampaignEvent}

theorem invocations_log (system : CampaignSystem)
    (uncounted : event.counted = false) (key : EffectKey) :
    invocations (system.log event) key = invocations system key := by
  apply List.count_cons_of_ne
  intro same
  subst same
  cases uncounted

theorem throttles_log (system : CampaignSystem)
    (uncounted : event.counted = false) (key : EffectKey) :
    throttles (system.log event) key = throttles system key := by
  apply List.count_cons_of_ne
  intro same
  subst same
  cases uncounted

theorem EffectStep.move (keeps : (system.processes process).Keeps phase) :
    EffectStep reconciled system (system.move process phase) :=
  .quiet process phase (.refl _) rfl keeps (fun _ => rfl) (fun _ => rfl)

theorem EffectStep.write
    (effects : EffectsMove reconciled none system.store.effects
      store.effects) : EffectStep reconciled system (system.write store) :=
  .quiet 0 (system.processes 0) effects (Function.update_eq_self ..).symm
    (.refl _) (fun _ => rfl) (fun _ => rfl)

theorem EffectStep.commit
    (effects : EffectsMove reconciled none system.store.effects store.effects)
    (keeps : (system.processes process).Keeps phase) :
    EffectStep reconciled system ((system.write store).move process phase) :=
  .quiet process phase effects rfl keeps (fun _ => rfl) (fun _ => rfl)

theorem EffectStep.record (uncounted : event.counted = false)
    (effects : EffectsMove reconciled none system.store.effects store.effects)
    (keeps : (system.processes process).Keeps phase) :
    EffectStep reconciled system
      (((system.write store).log event).move process phase) :=
  .quiet process phase effects rfl keeps
    (invocations_log (system.write store) uncounted)
    (throttles_log (system.write store) uncounted)

variable {key : String × String}

theorem EffectStep.halt
    (effects : EffectsMove reconciled none system.store.effects store.effects)
    (keeps : (system.processes process).Keeps phase) :
    EffectStep reconciled system
      ((system.halt key store).move process phase) := by
  unfold CampaignSystem.halt
  split
  · exact .record rfl effects keeps
  · exact .commit effects keeps

theorem EffectStep.start {next : CampaignRow → Option Phase}
    (unheld : ∀ row phase, next row = some phase → phase.claim = none) :
    EffectStep reconciled system (system.start process key next) := by
  unfold CampaignSystem.start
  split
  · rename_i phase _ found
    obtain ⟨row, _, chosen⟩ := Option.bind_eq_some_iff.mp found
    exact .move (.inl (unheld row phase chosen))
  · exact .write (.refl _)

theorem decisionPhase_keeps (campaign : CampaignRow) (effect : Effect)
    (decision : Decision) :
    (Phase.holding campaign effect).Keeps
      (decisionPhase campaign effect decision) := by
  have unspent : ∀ {phase : Phase} {stage : Stage},
      phase.claim = some (effect.key, stage) →
        (stage = .unspent ∨ stage = .spent) →
          (Phase.holding campaign effect).Keeps phase :=
    fun claims weaker => .inr ⟨_, _, _, rfl, claims, weaker⟩
  cases decision with
  | allowed => exact unspent rfl (.inl rfl)
  | deferred =>
      simp only [decisionPhase]
      split
      · exact .inl rfl
      · split
        · exact unspent rfl (.inr rfl)
        · exact unspent rfl (.inl rfl)
  | denied => exact unspent rfl (.inr rfl)

theorem executeStatement_effectStep {rest : List Statement} (now : Int)
    (statement : Statement) :
    EffectStep reconciled system
      (executeStatement system process key rest now statement) := by
  cases statement with
  | setStatus => exact .commit (.refl _) (.inl rfl)
  | drainRemaining reason =>
      exact .commit (closeOpenEffects_moves rfl reason now) (.inl rfl)
  | finalize =>
      simp only [executeStatement]
      split <;> exact .move (.inl rfl)
  | finalizeStatus =>
      simp only [executeStatement]
      split
      · exact .move (.inl rfl)
      · split <;> exact .move (.inl rfl)

theorem completeEffect_effectStep {effect : Effect} {completion : Completion}
    {rest : List Statement} (now : Int) (settling : system.processes process =
      .settling key effect completion rest) :
    EffectStep reconciled system
      ((system.write (completeEffect system.store effect completion
        now).2).move process (.finishing key rest)) := by
  cases status : completion.status.open with
  | true =>
      refine .release process effect.key (.finishing key rest)
        (completeEffect_moves effect completion now) rfl ?_ rfl rfl
      rw [settling]
      simp [Phase.claim, status]
  | false => exact .commit (completeEffect_closes effect status now) (.inl rfl)

theorem claimNext_effectStep {workerId : String} {now leaseSeconds : Int}
    {scope : Option (String × String)} {campaign : CampaignRow}
    {effect : Effect}
    (claimed : claimNext system.store workerId now leaseSeconds scope =
      (some effect, store)) :
    EffectStep reconciled system
      (((system.write store).log (.claimed effect.key)).move process
        (.holding campaign effect)) := by
  obtain ⟨opened, ⟨row, found, status⟩, effects⟩ := claimNext_some claimed
  exact .claim process effect.key _ effects opened
    ⟨row, found, by rw [status]; rfl⟩ rfl rfl
    (invocations_log (system.write store) rfl)
    (throttles_log (system.write store) rfl)

end Step

variable (config : WorkerConfig)

/-- The answers on which a phase does more than move on. -/
inductive Phase.Writes : Phase → Answer → Prop
  | changed (key) : Writes (.changed key) .proceed
  | unentitled (key) : Writes (.unentitled key) .proceed
  | overdue (tick key) : Writes (.overdue tick key) .proceed
  | halting (key) : Writes (.halting key) .proceed
  | reviving (tick campaign) : Writes (.reviving tick campaign) .proceed
  | ready (tick campaign) : Writes (.ready tick campaign) .proceed
  | cleared (campaign effect) :
      Writes (.cleared campaign effect) (.throughput none)
  | dispatching (campaign effect retryAt) :
      Writes (.dispatching campaign effect)
        (.dispatched (.throughputExceeded retryAt))
  | settling (key effect completion rest) :
      Writes (.settling key effect completion rest) .proceed
  | finishing (key statement rest) :
      Writes (.finishing key (statement :: rest)) .proceed
  | pausing (key) : Writes (.pausing key) .proceed
  | resuming (key) : Writes (.resuming key) .proceed
  | reaffirming (key principalId) :
      Writes (.reaffirming key principalId) .proceed
  | admitting (campaign member) : Writes (.admitting campaign member) .proceed

def Phase.admits : Phase → Bool
  | .admitting _ _ => true
  | _ => false

inductive Advanced (system : CampaignSystem) (process : Nat) (answer : Answer)
    (next : CampaignSystem) : Prop
  | stay (same : next = system)
  | move (phase : Phase) (keeps : (system.processes process).Keeps phase)
      (admits : phase.admits = false)
      (equal : next = system.move process phase)
  | write (writes : (system.processes process).Writes answer)

theorem decisionPhase_admits (campaign : CampaignRow) (effect : Effect)
    (decision : Decision) :
    (decisionPhase campaign effect decision).admits = false := by
  unfold decisionPhase
  split
  · rfl
  · split
    · rfl
    · split <;> rfl
  · rfl

theorem advance_advanced (system : CampaignSystem) (process : Nat)
    (answer : Answer) (now : Int) :
    Advanced system process answer
      (advance config system process answer now) := by
  have stays : Advanced system process answer system := .stay rfl
  have silent {phase : Phase} (free : phase.claim = none)
      (admits : phase.admits = false) :
      Advanced system process answer (system.move process phase) :=
    .move phase (.inl free) admits rfl
  unfold advance
  cases held : system.processes process with
  | idle => exact stays
  | selecting | selected =>
      cases answer with
      | proceed =>
          dsimp only
          split <;> exact silent rfl rfl
      | _ => exact stays
  | loaded | entitled =>
      cases answer with
      | proceed =>
          dsimp only
          split
          · exact silent rfl rfl
          · split <;> exact silent rfl rfl
      | _ => exact stays
  | bound | current =>
      cases answer with
      | permitted value | emergencyStopped value =>
          cases value <;> first | exact silent rfl rfl | exact stays
      | _ => exact stays
  | unstopped =>
      cases answer with
      | connectionAvailable value =>
          cases value with
          | false => exact silent rfl rfl
          | true =>
              dsimp only
              split <;> exact silent rfl rfl
      | _ => exact stays
  | holding campaign effect =>
      cases answer with
      | decision value =>
          refine .move _ ?_ (decisionPhase_admits campaign effect value) rfl
          rw [held]
          exact decisionPhase_keeps campaign effect value
      | _ => exact stays
  | cleared =>
      cases answer with
      | throughput retryAt =>
          cases retryAt with
          | none => exact .write (held ▸ .cleared ..)
          | some =>
              have claims := congrArg Phase.claim held
              exact .move _ (.inr ⟨_, _, _, claims, rfl, .inl rfl⟩) rfl rfl
      | _ => exact stays
  | dispatching =>
      cases answer with
      | dispatched outcome =>
          cases outcome with
          | throughputExceeded => exact .write (held ▸ .dispatching ..)
          | _ =>
              have claims := congrArg Phase.claim held
              exact .move _ (.inr ⟨_, _, _, claims, rfl, .inr rfl⟩) rfl rfl
      | _ => exact stays
  | finishing _ rest =>
      cases rest with
      | nil =>
          cases answer with
          | proceed => exact silent rfl rfl
          | _ => exact stays
      | cons =>
          cases answer with
          | proceed => exact .write (held ▸ .finishing ..)
          | _ => exact stays
  | _ =>
      cases answer with
      | proceed => exact .write (by rw [held]; constructor)
      | _ => exact stays

theorem advance_effectStep (system : CampaignSystem) (process : Nat)
    (answer : Answer) (now : Int) :
    EffectStep none system (advance config system process answer now) := by
  cases advance_advanced config system process answer now with
  | stay same =>
      rw [same]
      exact .write (.refl _)
  | move phase keeps _ equal =>
      rw [equal]
      exact .move keeps
  | write writes =>
      unfold advance
      generalize held : system.processes process = phase at writes ⊢
      cases writes with
      | changed | halting =>
          exact .halt (closeOpenEffects_moves rfl _ now) (.inl rfl)
      | overdue tick => exact .halt (closeOpenEffects_moves rfl _ tick) (.inl rfl)
      | unentitled =>
          dsimp only
          split
          · exact .halt (.refl _) (.inl rfl)
          · exact .commit (.refl _) (.inl rfl)
      | reviving => exact .commit (.refl _) (.inl rfl)
      | ready tick campaign =>
          dsimp only
          split
          · exact .move (.inl rfl)
          · rename_i effect store claimed
            exact claimNext_effectStep claimed
      | cleared _ effect =>
          exact .invoke process effect.key _ rfl rfl
            (congrArg Phase.claim held) rfl rfl
      | dispatching _ effect =>
          exact .throttle process effect.key _ rfl rfl
            (congrArg Phase.claim held) rfl rfl
      | settling => exact completeEffect_effectStep now held
      | finishing => exact executeStatement_effectStep now _
      | pausing => exact .halt (.refl _) (.inl rfl)
      | resuming => exact .record rfl (.refl _) (.inl rfl)
      | reaffirming =>
          dsimp only
          split
          · exact .record rfl (.refl _) (.inl rfl)
          · exact .commit (.refl _) (.inl rfl)
      | admitting campaign member =>
          exact .commit (.of_find?
            (addLateAudienceMember_adds campaign member now).2) (.inl rfl)

def CampaignAction.reconciles : CampaignAction → Option EffectKey
  | .reconcile _ key _ _ _ => some key
  | _ => none

theorem campaignStep_effectStep (system : CampaignSystem)
    (action : CampaignAction) :
    EffectStep action.reconciles system
      (campaignStep config system action) := by
  have stays : EffectStep action.reconciles system system := .write (.refl _)
  cases action with
  | beginTick _ now =>
      simp only [campaignStep]
      split
      · exact .commit (recoverExpiredClaims_moves now) (.inl rfl)
      · exact stays
  | advance process answer now =>
      exact advance_effectStep config system process answer now
  | crash => exact .move (.inl rfl)
  | recoverExpiredClaims now => exact .write (recoverExpiredClaims_moves now)
  | createPreview =>
      apply EffectStep.write
      rw [(createPreview_adds ..).1]
      exact .refl _
  | authorize key principalId permitted now =>
      exact .write (authorize_moves config.hashing key principalId permitted
        now)
  | assertEnvelope | pause | resume | reaffirm | addLateAudienceMember =>
      apply EffectStep.start
      intro row phase chosen
      split at chosen <;> cases chosen
      rfl
  | expire =>
      apply EffectStep.start
      intro row phase chosen
      obtain ⟨_, _, chosen⟩ := Option.bind_eq_some_iff.mp chosen
      split at chosen <;> cases chosen
      rfl
  | stop key reason now =>
      have effects : EffectsMove none none system.store.effects
          (stop system.store key reason now).effects :=
        closeOpenEffects_moves rfl reason now
      simp only [campaignStep, CampaignSystem.halt]
      split
      · exact .quiet 0 (system.processes 0) effects
          (Function.update_eq_self ..).symm (.refl _)
          (invocations_log (system.write _) rfl)
          (throttles_log (system.write _) rfl)
      · exact .write effects
  | reconcile _ key verdict providerId now =>
      simp only [campaignStep]
      split
      · split
        · exact .commit (reconcileEffect_moves key verdict providerId now)
            (.inl rfl)
        · exact stays
      · exact stays

theorem accounted_run (actions : List CampaignAction) (key : EffectKey) :
    Accounted (campaignRun config actions) key :=
  run_invariant (campaignStep config) (fun system => Accounted system key)
    (fun system action accounted =>
      (campaignStep_effectStep config system action).accounted accounted)
    (accounted_initial key) actions

def EffectStatus.terminal : EffectStatus → Bool
  | .completed | .prevented | .neverEligible | .cancelled => true
  | _ => false

theorem EffectStep.effects {system next : CampaignSystem}
    (step : EffectStep reconciled system next) :
    ∃ released, EffectsMove reconciled released system.store.effects
      next.store.effects := by
  cases step with
  | quiet _ _ effects | claim _ _ _ effects => exact ⟨none, effects⟩
  | invoke _ _ _ store | throttle _ _ _ store =>
      rw [store]
      exact ⟨none, .refl _⟩
  | release _ key _ effects => exact ⟨some key, effects⟩

theorem EffectMoves.terminal {key : EffectKey} {before after : EffectStatus}
    (moves : EffectMoves reconciled released key before after)
    (terminal : before.terminal = true) : after = before := by
  rcases moves with same | ⟨opened, _⟩ | ⟨claimed, _⟩ | ⟨_, uncertain, _⟩
  · exact same
  · cases before <;> cases opened <;> cases terminal
  · rw [claimed] at terminal
    cases terminal
  · rw [uncertain] at terminal
    cases terminal

theorem EffectMoves.uncertain {key : EffectKey} {after : EffectStatus}
    (moves : EffectMoves reconciled released key .uncertain after)
    (unreconciled : reconciled ≠ some key) : after = .uncertain := by
  rcases moves with same | ⟨opened, _⟩ | ⟨claimed, _⟩ | ⟨reconciles, _⟩
  · exact same
  · cases opened
  · cases claimed
  · exact absurd reconciles unreconciled

theorem effect_status_run {system : CampaignSystem} {key : EffectKey}
    {row : Effect} {actions : List CampaignAction}
    (stable : ∀ action ∈ actions, ∀ released after,
      EffectMoves action.reconciles released key row.status after →
        after = row.status) (found : system.store.effects.find? key = some row) :
    ∃ next, (run (campaignStep config) system actions).store.effects.find?
        key = some next ∧ next.status = row.status := by
  refine run_invariant_of_mem (campaignStep config)
    (fun system => ∃ next, system.store.effects.find? key = some next ∧
      next.status = row.status) ?_ ⟨row, found, rfl⟩
  intro state action member holds
  obtain ⟨current, currentFound, same⟩ := holds
  obtain ⟨released, effects⟩ :=
    (campaignStep_effectStep config state action).effects
  obtain ⟨next, nextFound, moves⟩ := effects key current currentFound
  rw [same] at moves
  exact ⟨next, nextFound, stable action member released next.status moves⟩

/-- Over any interleaving, an effect is given to the provider at most once more
than its dispatches were throttled; a terminal effect stays as it is, and an
uncertain one until it is reconciled. -/
theorem effect_dispatched_at_most_once (config : WorkerConfig)
    (actions : List CampaignAction) (key : EffectKey) :
    invocations (campaignRun config actions) key ≤
      throttles (campaignRun config actions) key + 1 ∧
    ∀ (row : Effect) (later : List CampaignAction),
      (campaignRun config actions).store.effects.find? key = some row →
      (row.status.terminal = true ∨ (row.status = .uncertain ∧
        ∀ process verdict providerId now,
          .reconcile process key verdict providerId now ∉ later)) →
      ∃ next, (campaignRun config (actions ++ later)).store.effects.find?
          key = some next ∧ next.status = row.status := by
  refine ⟨(accounted_run config actions key).once, ?_⟩
  intro row later found stable
  rw [campaignRun, run_append, ← campaignRun]
  apply effect_status_run config _ found
  intro action member released after moves
  rcases stable with terminal | ⟨uncertain, unreconciled⟩
  · exact moves.terminal terminal
  · rw [uncertain] at moves ⊢
    apply moves.uncertain
    intro reconciles
    cases action <;> cases reconciles
    exact unreconciled _ _ _ _ member

def sampleHashing : Hashing where
  definition := fun _ => "definition"
  cohort := fun _ => "cohort"
  envelope := fun _ _ _ => "envelope"

def sampleConfig : WorkerConfig where
  hashing := sampleHashing
  workerId := fun _ => "campaign-worker"
  leaseSeconds := fun _ => 60

def sampleDefinition : Definition where
  branchId := "branch"
  startsAt := 0
  endsAt := 1000
  budgetMicros := 1
  concurrency := 1
  durationSeconds := 1000
  audienceCeiling := 1
  includeLateArrivals := false
  details := .dict []

def sampleMember : Member where
  contactId := "contact"
  channel := "sms"
  addressId := "address"
  branchId := "branch"
  maskedDestination := "redacted"

def sampleKey : String × String := ("tenant", "campaign")

def sampleEffect : EffectKey := ⟨"tenant", "campaign", "contact", "sms"⟩

def claimedRun : List CampaignAction :=
  [.createPreview sampleKey "owner" sampleDefinition [sampleMember] [] 1 600 0,
    .authorize sampleKey "owner" true 0,
    .beginTick 0 1] ++
  [.proceed, .proceed, .proceed, .permitted true, .proceed,
    .emergencyStopped false, .connectionAvailable true, .proceed].map
      fun answer => .advance 0 answer 1

def deliveredRun : List CampaignAction :=
  claimedRun ++
  [.decision .allowed, .throughput none, .dispatched (.sent (some "SM1")),
    .proceed, .proceed].map fun answer => .advance 0 answer 2

theorem effect_dispatched_at_most_once_delivered :
    ∃ row, (campaignRun sampleConfig deliveredRun).store.effects.find?
        sampleEffect = some row ∧ row.status = .completed ∧
      invocations (campaignRun sampleConfig deliveredRun) sampleEffect = 1 ∧
      ∀ later, ∃ next,
        (campaignRun sampleConfig (deliveredRun ++ later)).store.effects.find?
          sampleEffect = some next ∧ next.status = .completed := by
  refine ⟨_, rfl, rfl, by decide, ?_⟩
  intro later
  exact (effect_dispatched_at_most_once sampleConfig deliveredRun
    sampleEffect).2 _ later rfl (.inl rfl)

/-- No two processes ever hold the same effect; one that may still be claimed is
held by none, and each time it was sent it was throttled. -/
theorem effect_held_once (config : WorkerConfig)
    (actions : List CampaignAction) (key : EffectKey) :
    let system := campaignRun config actions
    (∀ {left right leftStage rightStage},
      (system.processes left).claim = some (key, leftStage) →
      (system.processes right).claim = some (key, rightStage) →
        left = right) ∧
    (Free system.store key →
      (∀ process stage,
        (system.processes process).claim ≠ some (key, stage)) ∧
      invocations system key = throttles system key) := by
  have accounted := accounted_run config actions key
  exact ⟨accounted.exclusive,
    fun free => ⟨accounted.unheld free, accounted.unspent free⟩⟩

end AcpTask.Campaign
