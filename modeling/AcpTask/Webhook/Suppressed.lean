import AcpTask.Webhook.Processor
import Mathlib.Data.List.Induction

namespace AcpTask.Webhook

open Library

variable (config : WebhookConfig)

def optOutOf (delivery : Delivery) :
    Option ((String × String) × Suppression) :=
  match authenticate config delivery.request delivery.now with
  | some (.ok event) =>
      if event.eventType = .inboundMessage ∧
          delivery.request.asksToStop config = true then
        some (event.key, delivery.request.suppression event.tenantId)
      else none
  | _ => none

def recordedKey (delivery : Delivery) : Option (String × String) :=
  match authenticate config delivery.request delivery.now with
  | some (.ok event) =>
      if delivery.halt = some .beforeRecord then none else some event.key
  | _ => none

def Delivery.PassesWrite (delivery : Delivery) : Prop :=
  delivery.halt ≠ some .beforeRecord ∧ delivery.halt ≠ some .beforeSuppression

def StopKept (state : WebhookState) (delivery : Delivery) : Prop :=
  ∀ key suppression duplicate,
    optOutOf config delivery = some (key, suppression) →
    (process config state delivery).1 = some (.accepted duplicate) →
    suppression ∈ (process config state delivery).2.suppressions

/-- The delivery is an opt-out, the first to record its event, and passes the
suppression write. -/
def WritesFirst (earlier : List Delivery) (delivery : Delivery)
    (suppression : Suppression) : Prop :=
  config.suppressionWriter = true ∧ delivery.PassesWrite ∧
    ∃ key, optOutOf config delivery = some (key, suppression) ∧
      ∀ other ∈ earlier, recordedKey config other ≠ some key

/-- No delivery that recorded the opt-out's event ended before the suppression
write, unless another message has the same suppression written. -/
def Unhalted (earlier : List Delivery) (delivery : Delivery) : Prop :=
  delivery.halt = none → ∀ key suppression,
    optOutOf config delivery = some (key, suppression) →
    WritesFirst config earlier delivery suppression ∨
      ∃ before first after, earlier = before ++ first :: after ∧
        WritesFirst config before first suppression

variable {config}

variable {delivery : Delivery} {key : String × String}
  {suppression : Suppression}

theorem authentic_of_optOutOf
    (optsOut : optOutOf config delivery = some (key, suppression)) :
    ∃ event,
      authenticate config delivery.request delivery.now = some (.ok event) ∧
      event.key = key ∧ event.eventType = .inboundMessage ∧
      delivery.request.asksToStop config = true ∧
      delivery.request.suppression event.tenantId = suppression := by
  unfold optOutOf at optsOut
  split at optsOut
  · rename_i event authentic
    split at optsOut
    · rename_i inbound
      cases optsOut
      exact ⟨event, authentic, rfl, inbound.1, inbound.2, rfl⟩
    · cases optsOut
  · cases optsOut

variable {state : WebhookState}

theorem mem_keys_process :
    (∃ row ∈ (process config state delivery).2.store.events, row.key = key) ↔
      (∃ row ∈ state.store.events, row.key = key) ∨
        recordedKey config delivery = some key := by
  have sameStore : ∀ state event inserted,
      (applyEvent config state delivery event inserted).2.store =
        state.store := by
    intro state event inserted
    unfold applyEvent
    split
    · rfl
    split
    · simp
    split <;> simp
  unfold process recordedKey
  rcases authenticate config delivery.request delivery.now with
    _ | answer | event
  · simp
  · simp
  · by_cases halted : delivery.halt = some .beforeRecord
    · simp [halted]
    · simp only [if_neg halted, sameStore, mem_keys_record, Option.some.injEq]

theorem mem_suppressions_applyEvent {event : ProviderEvent} {inserted : Bool} :
    suppression ∈
        (applyEvent config state delivery event inserted).2.suppressions ↔
      suppression ∈ state.suppressions ∨
        delivery.halt ≠ some .beforeSuppression ∧ inserted = true ∧
          event.eventType = .inboundMessage ∧
          delivery.request.asksToStop config = true ∧
          config.suppressionWriter = true ∧
          delivery.request.suppression event.tenantId = suppression := by
  have written :
      (applyEvent config state delivery event inserted).2.suppressions =
        if delivery.halt = some .beforeSuppression then state.suppressions
        else (suppress config state delivery.request event
          inserted).suppressions := by
    unfold applyEvent
    split
    · rfl
    split
    · rfl
    split <;> simp
  rw [written]
  split
  · rename_i early
    simp [early]
  · rename_i passes
    unfold suppress
    split
    · rename_i writes
      simp only [Bool.and_eq_true, beq_iff_eq] at writes
      simp [writes, passes, or_comm, eq_comm]
    · rename_i silent
      simp only [Bool.and_eq_true, beq_iff_eq, and_assoc] at silent
      refine ⟨.inl, fun either => either.resolve_right ?_⟩
      rintro ⟨-, fresh, inbound, asks, configured, -⟩
      exact silent ⟨fresh, inbound, asks, configured⟩

theorem mem_suppressions_process :
    suppression ∈ (process config state delivery).2.suppressions ↔
      suppression ∈ state.suppressions ∨
        config.suppressionWriter = true ∧ delivery.PassesWrite ∧
          ∃ key, optOutOf config delivery = some (key, suppression) ∧
            ∀ row ∈ state.store.events, row.key ≠ key := by
  unfold process optOutOf
  rcases authenticate config delivery.request delivery.now with
    _ | answer | event
  · simp
  · simp
  · by_cases halted : delivery.halt = some .beforeRecord
    · simp [halted, Delivery.PassesWrite]
    · simp only [if_neg halted, mem_suppressions_applyEvent, record_new_iff,
        Delivery.PassesWrite]
      refine or_congr_right ?_
      constructor
      · rintro ⟨passes, fresh, inbound, asks, configured, rfl⟩
        exact ⟨configured, ⟨halted, passes⟩, event.key,
          by rw [if_pos ⟨inbound, asks⟩], fresh⟩
      · rintro ⟨configured, ⟨-, passes⟩, key, optsOut, fresh⟩
        split at optsOut
        · rename_i inbound
          cases optsOut
          exact ⟨passes, fresh, inbound.1, inbound.2, configured, rfl⟩
        · cases optsOut

theorem accepted_iff
    (optsOut : optOutOf config delivery = some (key, suppression)) :
    (∃ duplicate, (process config state delivery).1 =
      some (.accepted duplicate)) ↔ delivery.halt = none := by
  obtain ⟨_, authentic, -⟩ := authentic_of_optOutOf optsOut
  rcases halted : delivery.halt with _ | halt
  · simp [process, authentic, applyEvent, halted]
  · cases halt <;> simp [process, authentic, applyEvent, halted]

/-! What a run has recorded and suppressed, told from its deliveries. -/

theorem webhookRun_concat (earlier : List Delivery) (delivery : Delivery) :
    webhookRun config (earlier ++ [delivery]) =
      (process config (webhookRun config earlier) delivery).2 := by
  simp [webhookRun, run_append]

theorem mem_keys_webhookRun (deliveries : List Delivery)
    (key : String × String) :
    (∃ row ∈ (webhookRun config deliveries).store.events, row.key = key) ↔
      ∃ delivery ∈ deliveries, recordedKey config delivery = some key := by
  induction deliveries using List.reverseRecOn with
  | nil => simp [webhookRun, WebhookState.initial, EventStore.empty]
  | append_singleton _ _ induction =>
      rw [webhookRun_concat, mem_keys_process, induction]
      simp [or_and_right, exists_or]

theorem writesFirst_iff {earlier : List Delivery} :
    WritesFirst config earlier delivery suppression ↔
      config.suppressionWriter = true ∧ delivery.PassesWrite ∧
        ∃ key, optOutOf config delivery = some (key, suppression) ∧
          ∀ row ∈ (webhookRun config earlier).store.events, row.key ≠ key := by
  have recorded : ∀ key,
      (∀ row ∈ (webhookRun config earlier).store.events, row.key ≠ key) ↔
        ∀ other ∈ earlier, recordedKey config other ≠ some key := by
    intro key
    simpa using not_congr (mem_keys_webhookRun earlier key)
  simp only [WritesFirst, recorded]

theorem mem_suppressions_webhookRun {deliveries : List Delivery} :
    suppression ∈ (webhookRun config deliveries).suppressions ↔
      ∃ before first after, deliveries = before ++ first :: after ∧
        WritesFirst config before first suppression := by
  induction deliveries using List.reverseRecOn with
  | nil => simp [webhookRun, WebhookState.initial]
  | append_singleton earlier delivery induction =>
      rw [webhookRun_concat, mem_suppressions_process, induction,
        ← writesFirst_iff]
      constructor
      · rintro (⟨before, first, after, rfl, writes⟩ | writes)
        · exact ⟨before, first, after ++ [delivery], by simp, writes⟩
        · exact ⟨earlier, delivery, [], rfl, writes⟩
      · rintro ⟨before, first, after, split, writes⟩
        rcases List.eq_nil_or_concat after with rfl | ⟨rest, _, rfl⟩
        · obtain ⟨rfl, same⟩ := List.append_inj' split rfl
          cases same
          exact .inr writes
        · rw [List.concat_eq_append, ← List.cons_append,
            ← List.append_assoc] at split
          obtain ⟨rfl, -⟩ := List.append_inj' split rfl
          exact .inl ⟨before, first, rest, rfl, writes⟩

theorem stopKept_iff {earlier : List Delivery} :
    StopKept config (webhookRun config earlier) delivery ↔
      Unhalted config earlier delivery := by
  have written : ∀ suppression, suppression ∈
      (process config (webhookRun config earlier) delivery).2.suppressions ↔
        WritesFirst config earlier delivery suppression ∨
          ∃ before first after, earlier = before ++ first :: after ∧
            WritesFirst config before first suppression := by
    intro suppression
    rw [mem_suppressions_process, mem_suppressions_webhookRun,
      ← writesFirst_iff, or_comm]
  simp only [StopKept, Unhalted, written]
  constructor
  · intro kept whole key suppression optsOut
    obtain ⟨duplicate, answered⟩ := (accepted_iff optsOut).mpr whole
    exact kept key suppression duplicate optsOut answered
  · intro unhalted key suppression duplicate optsOut answered
    exact unhalted ((accepted_iff optsOut).mp ⟨duplicate, answered⟩) key
      suppression optsOut

/-- In every sequence of deliveries, each ending where it may, every opt-out
that is answered with success is in the suppression ledger exactly when none is
delivered again after its recording delivery ended before the write. -/
theorem stops_kept_iff (config : WebhookConfig) (deliveries : List Delivery) :
    (∀ earlier delivery later, deliveries = earlier ++ delivery :: later →
      StopKept config (webhookRun config earlier) delivery) ↔
    ∀ earlier delivery later, deliveries = earlier ++ delivery :: later →
      Unhalted config earlier delivery :=
  forall₃_congr fun _ _ _ => imp_congr_right fun _ => stopKept_iff

def plainConfig : WebhookConfig where
  queryToken _ := none
  decodeToken token :=
    if token = "token" then some ⟨"tenant:a", "inbound:1", "+18095550100"⟩
    else none
  identityOwner := none
  authToken _ _ := some "auth-secret"
  validSignature _ signature _ _ := some (signature == some "signed")
  formDigest _ := "digest"
  foldText text := text.toLower
  suppressionWriter := true
  sessionWindowWriter := false

def stopMessage : WebhookRequest where
  exactUrl := "https://callbacks.example/twilio"
  signature := some "signed"
  formPairs := [("AcpToken", "token"), ("MessageSid", "SM-IN"),
    ("From", "+18095550999"), ("To", "+18095550100"), ("Body", "STOP")]

/-- The suppression writer fails on the first delivery of a STOP message; the
second is answered with success, and nothing is suppressed. -/
theorem redelivered_stop_is_lost :
    ¬ ∀ (deliveries earlier later : List Delivery) (delivery : Delivery),
      deliveries = earlier ++ delivery :: later →
      StopKept plainConfig (webhookRun plainConfig earlier) delivery := by
  intro kept
  have written := kept
    [⟨stopMessage, 100, some .beforeSuppression⟩, ⟨stopMessage, 160, none⟩]
    [⟨stopMessage, 100, some .beforeSuppression⟩] []
    ⟨stopMessage, 160, none⟩ rfl
    ("tenant:a", "SM-IN:inbound_message:received")
    ⟨"tenant:a", some "+18095550999", "sms"⟩ true
    (by decide +kernel) (by decide +kernel)
  exact absurd written (by decide +kernel)

end AcpTask.Webhook
