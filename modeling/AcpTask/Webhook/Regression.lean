import AcpTask.Webhook.Verdicts

namespace AcpTask.Webhook

open Library Workflow

/-! When a delivery verdict takes back what a step was verified to be. -/

def Final (status : VerificationStatus) : Prop :=
  status = .verified ∨ status = .failed

instance (status : VerificationStatus) : Decidable (Final status) :=
  inferInstanceAs (Decidable (_ ∨ _))

def Regressed (before after : WorkflowStore) : Prop :=
  ∃ old ∈ before.steps, ∃ new ∈ after.steps, new.key = old.key ∧
    Final old.verificationStatus ∧
    new.verificationStatus ≠ old.verificationStatus ∧
    (new.verificationStatus = .inconclusive ∨ Final new.verificationStatus)

/-- The event store has seen the callback's key, or ranks its status below the
verdict it holds. -/
def Callback.Stale (callback : Callback) (ledger : EventStore) : Prop :=
  (record ledger callback.event).1 = false ∨
  ∃ verdict, ledger.verdicts.find? callback.effect.message = some verdict ∧
    advances (some verdict) callback.status (statusRank callback.status) = false

/-- The effect's step, where the verdict of it is final: the row that
`set_verification_status` would write. -/
def finalStep (store : WorkflowStore) (effect : DeliveryEffect) :
    Option Step :=
  (store.steps.find? effect.step).filter fun row =>
    row.tenantId == effect.tenantId && row.executionStatus == .completed &&
      decide (Final row.verificationStatus)

/-- The effects that `expire` writes, up to the one it raises at. -/
def DeliveryService.overdue (service : DeliveryService) (now : Int) :
    List DeliveryEffect → List DeliveryEffect
  | [] => []
  | effect :: rest =>
      match service.deadlines.lookup effect.channel with
      | none => []
      | some allowed =>
          if effect.verificationStatus = some .pending ∧
              effect.acceptedAt + allowed ≤ now then
            if (service.make (service.corrections effect .inconclusive
                "deadline_elapsed")).1 then
              effect :: service.overdue now rest
            else [effect]
          else service.overdue now rest

def KeepsVerdicts (service : DeliveryService) (digests : Digests)
    (state : DeliveryState) (action : DeliveryAction) : Prop :=
  match action with
  | .callback callback => callback.Stale state.ledger →
      ¬ Regressed state.workflows
        (deliveryStep service digests state action).workflows
  | .expire _ _ => ¬ Regressed state.workflows
      (deliveryStep service digests state action).workflows
  | .repository _ _ => True

/-- A stale callback agrees with the final verdict its step has, if it tells
anything; and what an expiry takes for pending has no final verdict by now. -/
def TellsCurrent (service : DeliveryService) (state : DeliveryState) :
    DeliveryAction → Prop
  | .callback callback => callback.Stale state.ledger →
      verificationOf callback.status ≠ .pending →
      ∀ row, finalStep state.workflows callback.effect = some row →
        row.verificationStatus = verificationOf callback.status
  | .expire effects now => ∀ effect ∈ service.overdue now effects,
      finalStep state.workflows effect = none
  | .repository _ _ => True

theorem verificationOf_final {status : String}
    (told : verificationOf status ≠ .pending) :
    Final (verificationOf status) := by
  unfold verificationOf at *
  split
  · exact .inl rfl
  · split
    · exact .inr rfl
    · rename_i undelivered unfailed
      rw [if_neg undelivered, if_neg unfailed] at told
      exact absurd rfl told

theorem find?_setVerificationStatus (store : WorkflowStore) (key : StepKey)
    (tenantId : String) {status : VerificationStatus}
    (valid : status ≠ .notRequired) (other : StepKey) :
    (setVerificationStatus store key tenantId status).steps.find? other =
      (store.steps.find? other).map fun row =>
        if row.is key tenantId && row.executionStatus == .completed then
          { row with verificationStatus := status }
        else row := by
  simp only [setVerificationStatus, if_neg valid, updateSteps,
    Table.find?_updateWhere]

theorem finalStep_eq_some_iff {store : WorkflowStore} {effect : DeliveryEffect}
    {row : Step} :
    finalStep store effect = some row ↔
      row ∈ store.steps ∧ row.is effect.step effect.tenantId = true ∧
        row.executionStatus = .completed ∧ Final row.verificationStatus := by
  simp only [finalStep, Option.filter_eq_some_iff, Table.find?_eq_some_iff,
    Step.is, Bool.and_eq_true, beq_iff_eq, decide_eq_true_iff]
  tauto

theorem regressed_iff_of_map {before after : WorkflowStore}
    {change : Step → Step}
    (mapped : ∀ key, after.steps.find? key =
      (before.steps.find? key).map change) :
    Regressed before after ↔ ∃ old ∈ before.steps,
      Final old.verificationStatus ∧
      (change old).verificationStatus ≠ old.verificationStatus ∧
      ((change old).verificationStatus = .inconclusive ∨
        Final (change old).verificationStatus) := by
  have image : ∀ old ∈ before.steps, ∀ new,
      new ∈ after.steps ∧ new.key = old.key ↔ new = change old := by
    intro old member new
    have found : before.steps.find? old.key = some old :=
      Table.find?_eq_some_iff.mpr ⟨member, rfl⟩
    rw [← Table.find?_eq_some_iff, mapped, found, Option.map_some,
      Option.some.injEq]
    exact eq_comm
  constructor
  · rintro ⟨old, member, new, later, sameKey, final, moved⟩
    rw [(image old member new).mp ⟨later, sameKey⟩] at moved
    exact ⟨old, member, final, moved⟩
  · rintro ⟨old, member, final, moved⟩
    obtain ⟨later, sameKey⟩ := (image old member (change old)).mpr rfl
    exact ⟨old, member, change old, later, sameKey, final, moved⟩

theorem regressed_set_iff {store : WorkflowStore} {effect : DeliveryEffect}
    {status : VerificationStatus}
    (tells : status = .inconclusive ∨ Final status) :
    Regressed store (setVerificationStatus store effect.step effect.tenantId
        status) ↔
      ∃ row, finalStep store effect = some row ∧
        row.verificationStatus ≠ status := by
  have valid : status ≠ .notRequired := by
    rintro rfl
    rcases tells with same | same | same <;> cases same
  rw [regressed_iff_of_map
    (find?_setVerificationStatus store effect.step effect.tenantId valid)]
  simp only [finalStep_eq_some_iff]
  constructor
  · rintro ⟨row, member, final, moved, -⟩
    split at moved
    · rename_i written
      rw [Bool.and_eq_true, beq_iff_eq] at written
      exact ⟨row, ⟨member, written.1, written.2, final⟩, Ne.symm moved⟩
    · exact absurd rfl moved
  · rintro ⟨row, ⟨member, named, completed, final⟩, other⟩
    refine ⟨row, member, final, ?_⟩
    rw [if_pos (by rw [named, completed]; rfl)]
    exact ⟨Ne.symm other, tells⟩

def expireAll (store : WorkflowStore) (effects : List DeliveryEffect) :
    WorkflowStore :=
  effects.foldl (fun store effect => setVerificationStatus store effect.step
    effect.tenantId .inconclusive) store

theorem expire_store (service : DeliveryService) (now : Int)
    (store : WorkflowStore) (effects : List DeliveryEffect) :
    (service.expire now store effects).2.1 =
      expireAll store (service.overdue now effects) := by
  induction effects generalizing store with
  | nil => rfl
  | cons effect _ induction =>
      cases deadline : service.deadlines.lookup effect.channel with
      | none =>
          simp only [DeliveryService.expire, DeliveryService.overdue, deadline]
          rfl
      | some =>
          simp only [DeliveryService.expire, DeliveryService.overdue, deadline]
          split
          · split
            · exact induction _
            · rfl
          · exact induction store

theorem find?_expireAll (store : WorkflowStore)
    (effects : List DeliveryEffect) (key : StepKey) :
    (expireAll store effects).steps.find? key =
      (store.steps.find? key).map fun row =>
        if (effects.any fun effect => row.is effect.step effect.tenantId) &&
            row.executionStatus == .completed then
          { row with verificationStatus := .inconclusive }
        else row := by
  induction effects generalizing store with
  | nil => simp [expireAll]
  | cons effect _ induction =>
      have later := induction (setVerificationStatus store effect.step
        effect.tenantId .inconclusive)
      rw [find?_setVerificationStatus _ _ _ (by decide), Option.map_map]
        at later
      refine later.trans ?_
      congr 1
      funext row
      simp only [Function.comp_apply, List.any_cons]
      by_cases written : (row.is effect.step effect.tenantId &&
          row.executionStatus == .completed) = true
      · rw [if_pos written]
        rw [Bool.and_eq_true] at written
        simp only [written, Bool.true_or, Bool.true_and, if_true, ite_self]
      · rw [if_neg written]
        rw [Bool.and_eq_true, not_and_or, Bool.not_eq_true,
          Bool.not_eq_true] at written
        rcases written with unnamed | uncompleted
        · simp only [unnamed, Bool.false_or]
        · simp only [uncompleted, Bool.and_false, Bool.false_eq_true, if_false]

theorem regressed_expireAll_iff {store : WorkflowStore}
    {effects : List DeliveryEffect} :
    Regressed store (expireAll store effects) ↔
      ∃ effect ∈ effects, finalStep store effect ≠ none := by
  rw [regressed_iff_of_map (find?_expireAll store effects)]
  simp only [Option.ne_none_iff_exists', finalStep_eq_some_iff]
  constructor
  · rintro ⟨row, member, final, moved, -⟩
    split at moved
    · rename_i written
      rw [Bool.and_eq_true, beq_iff_eq, List.any_eq_true] at written
      obtain ⟨⟨effect, overdue, named⟩, completed⟩ := written
      exact ⟨effect, overdue, row, member, named, completed, final⟩
    · exact absurd rfl moved
  · rintro ⟨effect, overdue, row, member, named, completed, final⟩
    refine ⟨row, member, final, ?_⟩
    rw [if_pos (by
      rw [completed, List.any_eq_true.mpr ⟨effect, overdue, named⟩]
      rfl)]
    refine ⟨fun same => ?_, .inl rfl⟩
    rcases final with same' | same' <;> rw [same'] at same <;> cases same

theorem keepsVerdicts_iff (service : DeliveryService) (digests : Digests)
    (state : DeliveryState) (action : DeliveryAction) :
    KeepsVerdicts service digests state action ↔
      TellsCurrent service state action := by
  cases action with
  | callback callback =>
      refine forall_congr' fun _ => ?_
      by_cases told : verificationOf callback.status = .pending
      · have kept : (deliveryStep service digests state
            (.callback callback)).workflows = state.workflows := by
          simp only [deliveryStep, DeliveryService.apply, if_pos told]
        rw [kept]
        refine iff_of_true ?_ fun tells => absurd told tells
        rintro ⟨_, member, _, later, sameKey, -, moved, -⟩
        rw [Table.eq_of_key later member sameKey] at moved
        exact moved rfl
      · have written : (deliveryStep service digests state
            (.callback callback)).workflows =
            setVerificationStatus state.workflows callback.effect.step
              callback.effect.tenantId (verificationOf callback.status) := by
          simp only [deliveryStep, DeliveryService.apply, if_neg told]
        rw [written, regressed_set_iff (.inr (verificationOf_final told))]
        constructor
        · intro kept _ row found
          by_contra other
          exact kept ⟨row, found, other⟩
        · rintro agrees ⟨row, found, other⟩
          exact other (agrees told row found)
  | expire =>
      simp only [KeepsVerdicts, TellsCurrent, deliveryStep, expire_store,
        regressed_expireAll_iff, not_exists, not_and, not_not]
  | repository => exact Iff.rfl

/-- Along a run of callbacks, expiries and calls of the repository no verdict
is taken back, exactly when each stale callback agrees with its step and each
expired effect is still pending. -/
theorem verdicts_kept_iff (service : DeliveryService) (digests : Digests)
    (start : DeliveryState) (actions : List DeliveryAction) :
    Along (deliveryStep service digests) (KeepsVerdicts service digests) start
        actions ↔
      Along (deliveryStep service digests) (TellsCurrent service) start
        actions :=
  Along.iff_of_invariant (fun _ => True)
    (fun state action _ => keepsVerdicts_iff service digests state action)
    (fun _ _ _ _ => trivial) trivial actions

def sentStep : Step where
  workflowRevisionId := "revision"
  stepId := "send"
  workflowRunId := "run"
  tenantId := "tenant"
  capabilityId := "twilio.sms.send"
  capabilityVersion := "1"
  descriptorSnapshotHash := "descriptor"
  inputHash := "input"
  input := .dict []
  dependsOn := []
  effect := .write
  executionStatus := .completed
  verificationStatus := .pending

def sentEffect : DeliveryEffect where
  effectId := "effect"
  tenantId := "tenant"
  workflowRevisionId := "revision"
  stepId := "send"
  addressId := "address"
  channel := "sms"
  acceptedAt := 100
  verificationStatus := some .pending

def statusCallback (status : String) : Callback where
  effect := sentEffect
  status := status
  eventKey := status
  identityAddress := "+15550100"
  receivedAt := 200

/-- A message that was read fails after all; and one that was delivered is
expired by a sweep that read it before the callback came. -/
theorem verdicts_taken_back :
    let start : DeliveryState := {
      ledger := EventStore.empty
      workflows := { WorkflowStore.empty with
        steps := ⟨[sentStep], List.nodup_singleton _⟩ } }
    let digests : Digests := ⟨fun token => token, fun _ _ _ => "receipt"⟩
    ¬ Along (deliveryStep {} digests) (KeepsVerdicts {} digests) start
      [.callback (statusCallback "read"), .callback (statusCallback "failed")] ∧
    ¬ Along (deliveryStep {} digests) (KeepsVerdicts {} digests) start
      [.callback (statusCallback "delivered"), .expire [sentEffect] 90000] := by
  intro start digests
  have verified : ∀ status, verificationOf status = .verified →
      finalStep (deliveryStep {} digests start
          (.callback (statusCallback status))).workflows sentEffect =
        some { sentStep with verificationStatus := .verified } := by
    intro status tells
    simp only [deliveryStep, DeliveryService.apply, statusCallback, tells,
      reduceCtorEq, if_false]
    rfl
  constructor
  · rintro ⟨-, kept, -⟩
    have tells := (keepsVerdicts_iff _ _ _ _).mp kept
    have agrees := tells (.inr ⟨_, rfl, by decide⟩) (by decide) _
      (verified "read" (by decide))
    cases agrees
  · rintro ⟨-, kept, -⟩
    have tells := (keepsVerdicts_iff _ _ _ _).mp kept
    have pending := tells sentEffect (by decide +kernel)
    rw [verified "delivered" (by decide)] at pending
    cases pending

end AcpTask.Webhook
