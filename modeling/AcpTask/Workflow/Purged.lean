import AcpTask.Workflow.Content

namespace AcpTask.Workflow

open Data Library

/-! Every content column holds an envelope of its own row, or what a purge
left. -/

def SealedFor (crypto : ContentCrypto) (context : ContentContext)
    (stored : Value) : Prop :=
  ∃ seed value, crypto.sealValue seed value context = .ok stored

structure Step.Encoded (crypto : ContentCrypto) (row : Step) : Prop where
  input : row.input = .dict [] ∨
    SealedFor crypto (row.contentContext "input") row.input
  output : ∀ stored, row.output = some stored →
    SealedFor crypto (row.contentContext "output") stored

def Encoded (crypto : ContentCrypto) (store : WorkflowStore) : Prop :=
  ∀ row ∈ store.steps, row.Encoded crypto

def RepositoryCall.Sealed (crypto : ContentCrypto) : RepositoryCall → Prop
  | .createRevision target _ plan _ _ => ∀ planned ∈ plan,
      SealedFor crypto ⟨target.tenantId, target.workflowRevisionId,
        planned.stepId, "input"⟩ planned.input
  | .persistCompletion key tenantId _ result _ _ =>
      SealedFor crypto ⟨tenantId, key.1, key.2, "output"⟩ result.output
  | .applyReconciliation key tenantId _ result _ =>
      result.executionStatus = .completed → ∃ output,
        result.output = some output ∧
          SealedFor crypto ⟨tenantId, key.1, key.2, "output"⟩ output
  | _ => True

theorem encode_sealed {crypto : ContentCrypto} {seeds : String → Nat}
    {call stored : RepositoryCall}
    (encoded : call.encode (some crypto) seeds = .ok stored) :
    stored.Sealed crypto := by
  cases call with
  | createRevision =>
      obtain ⟨_, collected, same⟩ := bind_eq_ok.mp encoded
      cases same
      intro planned member
      obtain ⟨_, -, written⟩ := (mapM_spec collected).1 planned member
      obtain ⟨_, sealing, result⟩ := bind_eq_ok.mp written
      cases result
      exact ⟨_, _, sealing⟩
  | persistCompletion =>
      obtain ⟨output, written, same⟩ := bind_eq_ok.mp encoded
      cases same
      exact ⟨_, _, written⟩
  | applyReconciliation =>
      rw [RepositoryCall.encode] at encoded
      split at encoded
      · obtain ⟨output, written, same⟩ := bind_eq_ok.mp encoded
        cases same
        exact fun _ => ⟨output, rfl, _, _, written⟩
      next other =>
        cases encoded
        exact fun completed => absurd completed other
  | _ =>
      cases encoded
      trivial

section Preserved

variable {crypto : ContentCrypto} {store later : WorkflowStore}

theorem Step.Encoded.same {row next : Step} (encoded : row.Encoded crypto)
    (key : next.key = row.key) (tenant : next.tenantId = row.tenantId)
    (input : next.input = row.input) (output : next.output = row.output) :
    next.Encoded crypto := by
  have context : ∀ field, next.contentContext field =
      row.contentContext field := by
    intro field
    obtain ⟨revision, step⟩ := Prod.mk.injEq .. ▸ key
    rw [Step.contentContext, Step.contentContext, tenant, revision, step]
  constructor
  · rw [context, input]
    exact encoded.input
  · rw [context, output]
    exact encoded.output

section Encoded

variable (encoded : Encoded crypto store)

include encoded

theorem Encoded.of_steps (same : later.steps = store.steps) :
    Encoded crypto later := by
  intro row member
  rw [same] at member
  exact encoded row member

theorem Encoded.update {condition : Step → Bool} {assign : Step → Step}
    (keepsKey : ∀ row, (assign row).key = row.key)
    (written : ∀ row, row.Encoded crypto → condition row = true →
      (assign row).Encoded crypto) :
    Encoded crypto (updateSteps store condition assign keepsKey) := by
  intro row member
  obtain ⟨old, held, rfl⟩ := (Table.mem_updateWhere _ _ _ keepsKey).mp member
  split
  next selected => exact written old (encoded old held) selected
  next => exact encoded old held

theorem Encoded.assign {condition : Step → Bool} {assign : Step → Step}
    (keepsKey : ∀ row, (assign row).key = row.key)
    (contents : ∀ row, (assign row).tenantId = row.tenantId ∧
      (assign row).input = row.input ∧ (assign row).output = row.output) :
    Encoded crypto (updateSteps store condition assign keepsKey) :=
  encoded.update keepsKey fun row held _ =>
    held.same (keepsKey row) (contents row).1 (contents row).2.1
      (contents row).2.2

theorem Encoded.insertStep {row : Step} (fresh : row.Encoded crypto)
    (inserted : Workflow.insertStep store row = .ok later) :
    Encoded crypto later := by
  obtain ⟨_, success, same⟩ := bind_eq_ok.mp inserted
  cases same
  unfold insertInto at success
  split at success
  next table grown =>
    cases success
    intro other member
    rcases (Table.mem_of_insert? grown).mp member with old | rfl
    · exact encoded other old
    · exact fresh
  next => cases success

theorem createRevision_encoded {target : Target} {plan : List PlannedStep}
    (sealed : ∀ planned ∈ plan, SealedFor crypto
      ⟨target.tenantId, target.workflowRevisionId, planned.stepId, "input"⟩
        planned.input) (planGraphHash : String) (now contentTtlSeconds : Int) :
    Encoded crypto (createRevision store target.workflowRevisionId
      target.workflowRunId target.tenantId planGraphHash plan now
      contentTtlSeconds).2 := by
  refine createRevision_preserves encoded fun revisions steps _ inserted _ => ?_
  have superseded : Encoded crypto (supersede store target.workflowRunId) :=
    (encoded.of_steps rfl).assign _ fun _ => ⟨rfl, rfl, rfl⟩
  refine Encoded.of_steps (foldlM_invariant_of_mem (Encoded crypto) ?_ inserted
    (superseded.of_steps rfl)) rfl
  intro current planned member next added before
  have fresh : Step.Encoded crypto (planned.row target.workflowRevisionId
      target.workflowRunId target.tenantId now contentTtlSeconds) :=
    ⟨.inr (sealed planned member), fun _ absent => by cases absent⟩
  exact before.insertStep fresh added

theorem startAttempt_encoded (target : Target) (maxAttempts : Int)
    (key : StepKey) (attempt : Nat) (workerId : String) (now : Int) :
    Encoded crypto (startAttempt (failExhausted store target maxAttempts) key
      attempt workerId now) := by
  have trimmed : Encoded crypto (failExhausted store target maxAttempts) :=
    encoded.assign _ fun _ => ⟨rfl, rfl, rfl⟩
  exact trimmed.assign _ fun _ => ⟨rfl, rfl, rfl⟩

end Encoded

variable {digests : Digests}

variable {key : StepKey} {tenantId : String} {attempt : Nat}

theorem completed_encoded {row : Step} (held : row.Encoded crypto)
    (completes : row.completes key tenantId attempt = true) {output : Value}
    (sealed : SealedFor crypto ⟨tenantId, key.1, key.2, "output"⟩ output)
    (verification : VerificationStatus) :
    Step.Encoded crypto { row with
      executionStatus := .completed
      verificationStatus := verification
      terminalReason := none
      output := some output.orEmpty } := by
  simp only [Step.completes, Step.is, Bool.and_eq_true, decide_eq_true_eq,
    beq_iff_eq] at completes
  obtain ⟨⟨⟨rfl, rfl⟩, -⟩, -⟩ := completes
  refine ⟨held.input, ?_⟩
  intro stored same
  obtain ⟨seed, value, sealing⟩ := sealed
  cases same
  rw [Value.orEmpty, if_pos (ContentCrypto.seal_ne_empty sealing).2]
  exact ⟨seed, value, sealing⟩

theorem completion_encoded (encoded : Encoded crypto store)
    (backend : Backend) {result : DispatchResult} {now : Int} {missed : Bool}
    (sealed : SealedFor crypto ⟨tenantId, key.1, key.2, "output"⟩
      result.output) :
    Encoded crypto (repositoryStep backend digests store
      (.persistCompletion key tenantId attempt result now missed)) := by
  refine completion_preserves encoded fun _ _ _ _ _ => ?_
  refine Encoded.of_steps ?_ (Backend.close_steps _)
  exact encoded.update (fun _ => by rfl) fun row held selected =>
    completed_encoded held selected sealed _

theorem purgeExpiredContent_encoded (encoded : Encoded crypto store)
    (now : Int) : Encoded crypto (purgeExpiredContent store now) :=
  encoded.update _ fun _ _ _ => ⟨.inl rfl, fun _ absent => by cases absent⟩

end Preserved

theorem repositoryStep_encoded {crypto : ContentCrypto}
    {store : WorkflowStore} (backend : Backend) (digests : Digests)
    (encoded : Encoded crypto store) {call : RepositoryCall}
    (sealed : call.Sealed crypto) :
    Encoded crypto (repositoryStep backend digests store call) := by
  cases call with
  | createRun => exact encoded.of_steps (createRun_steps ..)
  | createRevision _ planGraphHash _ now contentTtlSeconds =>
      exact createRevision_encoded encoded sealed planGraphHash now
        contentTtlSeconds
  | authorizeRequestedRead =>
      exact encoded.of_steps (authorizeRequestedRead_step backend ..).steps
  | recordApproval => exact encoded.of_steps (recordApproval_authorizes ..).steps
  | recordCampaignAuthorization =>
      exact encoded.of_steps (recordCampaignAuthorization_step backend ..).steps
  | claimReadyStep =>
      refine claim_preserves encoded (encoded.assign _ fun _ => ⟨rfl, rfl, rfl⟩)
        fun selected _ => ?_
      have started := startAttempt_encoded encoded
      exact Encoded.of_steps (started _ _ _ _ _ _) rfl
  | finishClaimLease => exact encoded.of_steps rfl
  | persistCompletion => exact completion_encoded encoded backend sealed
  | recoverExpiredClaims =>
      refine sweep_preserves encoded fun current lease effect held => ?_
      refine Encoded.of_steps (held.assign ?_ ?_) rfl
      · exact fun _ => rfl
      · exact fun _ => ⟨rfl, rfl, rfl⟩
  | applyReconciliation =>
      refine reconciliation_preserves encoded (fun observed completion same => ?_)
        fun _ => encoded.assign _ fun _ => ⟨rfl, rfl, rfl⟩
      obtain ⟨_, given, sealing⟩ := sealed observed
      refine completion_encoded encoded backend ?_
      rw [same, given]
      exact sealing
  | setVerificationStatus =>
      simp only [repositoryStep, setVerificationStatus]
      split
      · exact encoded
      · exact encoded.assign _ fun _ => ⟨rfl, rfl, rfl⟩
  | cancelRevisionRow | cancelRun =>
      cases backend with
      | sqlite => exact encoded.of_steps rfl
      | postgres => exact encoded
  | purgeExpiredContent now => exact purgeExpiredContent_encoded encoded now
  | _ =>
      cases backend with
      | sqlite => exact encoded.assign _ fun _ => ⟨rfl, rfl, rfl⟩
      | postgres =>
          first
            | exact encoded
            | exact encoded.assign _ fun _ => ⟨rfl, rfl, rfl⟩

theorem contentRun_encoded (backend : Backend) (digests : Digests)
    (crypto : ContentCrypto)
    (calls : List (RepositoryCall × (String → Nat))) :
    Encoded crypto (contentRun backend digests (some crypto) calls) := by
  refine run_invariant _ (Encoded crypto) ?_
    (fun row member => absurd member (Table.not_mem_empty row)) calls
  intro store call encoded
  unfold contentStep
  split
  next stored written =>
    exact repositoryStep_encoded backend digests encoded (encode_sealed written)
  next => exact encoded

def Step.purgeable (now : Int) (row : Step) : Bool :=
  row.executionStatus.settled &&
    row.contentExpiresAt.any fun expiry => decide (expiry < now)

def Step.purged (now : Int) (row : Step) : Step :=
  if row.purgeable now then { row with input := .dict [], output := none }
  else row

def Step.emptied (row : Step) : Step :=
  { row with input := .dict [], output := some (.dict []) }

def ReadsEmptied (backend : Backend) (crypto : ContentCrypto)
    (store : WorkflowStore) (now : Int) (target : Target) : Prop :=
  ∃ steps, readRevision backend (some crypto) (purgeExpiredContent store now)
      target = .ok ((revisionRow store target).map fun row => (row, steps)) ∧
    List.Forall₂ (fun row step =>
      if row.purgeable now then step = row.emptied
      else decodeStep backend (some crypto) row = .ok step)
      (revisionRows backend store target) steps

def Step.Spared (now : Int) (row : Step) : Prop :=
  row.purgeable now = false ∧ row.input ≠ .dict []

section Reading

variable {backend : Backend} {crypto : ContentCrypto} {store : WorkflowStore}
  {now : Int} {target : Target}

theorem revisionRows_purge (backend : Backend) (store : WorkflowStore)
    (now : Int) (target : Target) :
    revisionRows backend (purgeExpiredContent store now) target =
      (revisionRows backend store target).map (Step.purged now) := by
  have kept : ∀ row : Step, (row.purged now).key = row.key ∧
      (row.purged now).tenantId = row.tenantId := by
    intro row
    unfold Step.purged
    split <;> exact ⟨rfl, rfl⟩
  have revision : ∀ row : Step, (row.purged now).workflowRevisionId =
      row.workflowRevisionId := fun row => congrArg Prod.fst (kept row).1
  have step : ∀ row : Step, (row.purged now).stepId = row.stepId :=
    fun row => congrArg Prod.snd (kept row).1
  have rows : (purgeExpiredContent store now).steps.rows =
      store.steps.rows.map (Step.purged now) := rfl
  cases backend with
  | sqlite =>
      rw [revisionRows, revisionRows, rows, List.filter_map]
      simp only [Function.comp_def, revision]
  | postgres =>
      rw [revisionRows, revisionRows, rows, List.filter_map]
      simp only [Function.comp_def, revision, (kept _).2]
      rw [List.map_mergeSort]
      intro left _ right _
      rw [step, step]

theorem isEmptyDict_iff {value : Value} :
    isEmptyDict value = true ↔ value = .dict [] := by
  cases value <;> simp [isEmptyDict]

theorem decodeContent_sealed (lawful : crypto.Lawful)
    {context : ContentContext} {stored : Value}
    (sealed : SealedFor crypto context stored) :
    ∃ value, decodeContent backend (some crypto) (some stored) context =
      .ok value := by
  obtain ⟨_, value, sealing⟩ := sealed
  have full : isEmptyDict stored = false := by
    rw [← Bool.not_eq_true, isEmptyDict_iff]
    exact (ContentCrypto.seal_ne_empty sealing).1
  refine ⟨value.sortKeys, ?_⟩
  simp only [decodeContent, full, Bool.and_false, Bool.false_eq_true, if_false]
  exact ContentCrypto.openEnvelope_seal lawful sealing

theorem decodeStep_encoded (lawful : crypto.Lawful) {row : Step}
    (held : row.Encoded crypto)
    (readable : backend = .sqlite ∨ row.input ≠ .dict []) :
    ∃ step, decodeStep backend (some crypto) row = .ok step := by
  have output : ∃ value, decodeContent backend (some crypto) row.output
      (row.contentContext "output") = .ok value := by
    cases given : row.output with
    | none => exact ⟨.dict [], rfl⟩
    | some stored =>
        exact decodeContent_sealed lawful (held.output stored given)
  have input : ∃ value, decodeContent backend (some crypto) (some row.input)
      (row.contentContext "input") = .ok value := by
    rcases held.input with empty | sealed
    · rcases readable with rfl | full
      · exact ⟨.dict [], by rw [empty]; rfl⟩
      · exact absurd empty full
    · exact decodeContent_sealed lawful sealed
  obtain ⟨first, readsInput⟩ := input
  obtain ⟨second, readsOutput⟩ := output
  refine ⟨{ row with input := first, output := some second }, ?_⟩
  rw [decodeStep, readsInput, readsOutput]
  rfl

theorem decodeStep_emptied (row : Step) :
    decodeStep .sqlite (some crypto)
      { row with input := .dict [], output := none } = .ok row.emptied := rfl

theorem decodeStep_refused {row : Step} (empty : row.input = .dict []) :
    decodeStep .postgres (some crypto) row =
      .error (.authError "unsupported managed OAuth envelope") := by
  have input : decodeContent .postgres (some crypto) (some row.input)
      (row.contentContext "input") =
        .error (.authError "unsupported managed OAuth envelope") := by
    rw [empty]
    exact ContentCrypto.openEnvelope_empty _
  rw [decodeStep, input]
  rfl

theorem purged_of_spared {row : Step} (spared : row.purgeable now = false) :
    row.purged now = row := by
  rw [Step.purged, spared, if_neg Bool.false_ne_true]

theorem decodeStep_purged (lawful : crypto.Lawful) {row : Step}
    (held : row.Encoded crypto)
    (readable : backend = .sqlite ∨ row.Spared now) :
    ∃ step, decodeStep backend (some crypto) (row.purged now) = .ok step ∧
      if row.purgeable now then step = row.emptied
      else decodeStep backend (some crypto) row = .ok step := by
  cases purgeable : row.purgeable now with
  | false =>
      obtain ⟨step, reads⟩ := decodeStep_encoded lawful held
        (readable.imp_right And.right)
      rw [purged_of_spared purgeable]
      exact ⟨step, reads, reads⟩
  | true =>
      rcases readable with rfl | spared
      · refine ⟨row.emptied, ?_, rfl⟩
        rw [Step.purged, purgeable, if_pos rfl]
        exact decodeStep_emptied row
      · rw [spared.1] at purgeable
        cases purgeable

theorem readsEmptied_of_readable (lawful : crypto.Lawful)
    (encoded : Encoded crypto store)
    (readable : backend = .sqlite ∨
      ∀ row ∈ revisionRows backend store target, row.Spared now)
    {revision : Revision} (found : revisionRow store target = some revision) :
    ReadsEmptied backend crypto store now target := by
  have held : ∀ row ∈ revisionRows backend store target, row ∈ store.steps := by
    intro row member
    cases backend with
    | sqlite => exact List.mem_of_mem_filter member
    | postgres => exact List.mem_of_mem_filter (List.mem_mergeSort.mp member)
  have views : ∀ rows : List Step,
      (∀ row ∈ rows, row.Encoded crypto ∧
        (backend = .sqlite ∨ row.Spared now)) →
      ∃ steps, List.Forall₂ (fun row step =>
          decodeStep backend (some crypto) (row.purged now) = .ok step)
          rows steps ∧
        List.Forall₂ (fun row step =>
          if row.purgeable now then step = row.emptied
          else decodeStep backend (some crypto) row = .ok step) rows steps := by
    intro rows each
    induction rows with
    | nil => exact ⟨[], .nil, .nil⟩
    | cons row _ induction =>
        obtain ⟨steps, reads, shows⟩ :=
          induction fun other member => each other (.tail _ member)
        obtain ⟨rowEncoded, rowReadable⟩ := each row List.mem_cons_self
        obtain ⟨step, here, seen⟩ := decodeStep_purged lawful rowEncoded
          rowReadable
        exact ⟨step :: steps, .cons here reads, .cons seen shows⟩
  obtain ⟨steps, reads, shows⟩ := views (revisionRows backend store target)
    fun row member => ⟨encoded row (held row member),
      readable.imp_right fun spared => spared row member⟩
  refine ⟨steps, ?_, shows⟩
  have collected : (revisionRows backend (purgeExpiredContent store now)
      target).mapM (decodeStep backend (some crypto)) = .ok steps := by
    rw [revisionRows_purge, mapM_eq_ok_iff, List.forall₂_map_left_iff]
    exact reads
  have row : revisionRow (purgeExpiredContent store now) target =
      some revision := found
  rw [readRevision, row, found]
  simp only [collected]
  rfl

theorem spared_of_readsEmptied {revision : Revision}
    (found : revisionRow store target = some revision)
    (reads : ReadsEmptied .postgres crypto store now target) :
    ∀ row ∈ revisionRows .postgres store target, row.Spared now := by
  intro row member
  obtain ⟨_, read, -⟩ := reads
  have revisionFound : revisionRow (purgeExpiredContent store now) target =
      some revision := found
  rw [readRevision, revisionFound, found] at read
  obtain ⟨_, collected, -⟩ := bind_eq_ok.mp read
  obtain ⟨_, -, here⟩ := (mapM_spec collected).2 (row.purged now) (by
    rw [revisionRows_purge]
    exact List.mem_map_of_mem member)
  have full : (row.purged now).input ≠ .dict [] := by
    intro empty
    rw [decodeStep_refused empty] at here
    cases here
  cases purgeable : row.purgeable now with
  | true =>
      rw [Step.purged, purgeable, if_pos rfl] at full
      exact absurd rfl full
  | false =>
      rw [purged_of_spared purgeable] at full
      exact ⟨purgeable, full⟩

end Reading

/-- On SQLite every revision stays readable; on Postgres exactly those that
lost no content. -/
theorem purged_readable_iff (backend : Backend) (digests : Digests)
    (crypto : ContentCrypto) (lawful : crypto.Lawful)
    (calls : List (RepositoryCall × (String → Nat))) (now : Int)
    (target : Target) (revision : Revision)
    (found : revisionRow (contentRun backend digests (some crypto) calls)
      target = some revision) :
    ReadsEmptied backend crypto
        (contentRun backend digests (some crypto) calls) now target ↔
      backend = .sqlite ∨ ∀ row ∈ revisionRows backend
        (contentRun backend digests (some crypto) calls) target,
          row.Spared now := by
  have encoded := contentRun_encoded backend digests crypto calls
  constructor
  · intro reads
    cases backend with
    | sqlite => exact .inl rfl
    | postgres => exact .inr (spared_of_readsEmptied found reads)
  · intro readable
    exact readsEmptied_of_readable lawful encoded readable found

def channelInput : Value := .dict [("channel_id", .str "C1")]

def channelCrypto : ContentCrypto where
  encrypt _ value _ :=
    if value = channelInput then
      .ok ⟨"c2VjcmV0", "bm9uY2U=", "a2V5", "kms", "1"⟩
    else .error (.kmsError "KMS GenerateDataKey unavailable")
  decrypt _ _ := .ok channelInput
  decodes _ := true

theorem channelCrypto_lawful : channelCrypto.Lawful where
  decrypts := by
    intro seed value context sealed encrypted
    unfold channelCrypto at encrypted
    dsimp only at encrypted
    split at encrypted
    next same => rw [same]; rfl
    next => cases encrypted
  decodes := fun _ => ⟨rfl, rfl, rfl⟩
  present := by
    intro seed value context sealed encrypted
    unfold channelCrypto at encrypted
    dsimp only at encrypted
    split at encrypted
    next => cases encrypted; decide
    next => cases encrypted

def channelRead : PlannedStep where
  stepId := "read"
  capabilityId := "slack.thread.read"
  capabilityVersion := "1"
  descriptorSnapshotHash := "d"
  inputHash := "i"
  input := channelInput
  effect := .read

def channelTarget (revisionId : String) : Target :=
  ⟨"run", revisionId, "org:acme"⟩

def channelCalls : List (RepositoryCall × (String → Nat)) :=
  [(.createRun "run" "org:acme" "user:alice" "goal" 10, fun _ => 0),
    (.createRevision (channelTarget "first") "graph" [channelRead] 11 1,
      fun _ => 1),
    (.createRevision (channelTarget "second") "graph" [channelRead] 11 60,
      fun _ => 2)]

def plainDigests : Digests where
  lease token := token
  receipt key _ _ := key.2

theorem channel_unreadable :
    (revisionRow (contentRun .postgres plainDigests (some channelCrypto)
      channelCalls) (channelTarget "first")).isSome = true ∧
    channelCrypto.Lawful ∧
    ¬ ReadsEmptied .postgres channelCrypto (contentRun .postgres plainDigests
      (some channelCrypto) channelCalls) 13 (channelTarget "first") := by
  refine ⟨by decide +kernel, channelCrypto_lawful, ?_⟩
  intro reads
  obtain ⟨_, found⟩ := Option.isSome_iff_exists.mp
    (show (revisionRow (contentRun .postgres plainDigests (some channelCrypto)
      channelCalls) (channelTarget "first")).isSome = true by decide +kernel)
  have spared := spared_of_readsEmptied found reads
  have purgeable : (revisionRows .postgres (contentRun .postgres plainDigests
      (some channelCrypto) channelCalls) (channelTarget "first")).any
        (Step.purgeable 13) = true := by
    simp only [revisionRows]
    decide +kernel
  obtain ⟨row, member, lost⟩ := List.any_eq_true.mp purgeable
  rw [(spared row member).1] at lost
  cases lost

theorem channel_readable :
    ReadsEmptied .sqlite channelCrypto (contentRun .sqlite plainDigests
      (some channelCrypto) channelCalls) 13 (channelTarget "first") := by
  obtain ⟨revision, found⟩ := Option.isSome_iff_exists.mp
    (show (revisionRow (contentRun .sqlite plainDigests (some channelCrypto)
      channelCalls) (channelTarget "first")).isSome = true by decide +kernel)
  exact (purged_readable_iff .sqlite plainDigests channelCrypto
    channelCrypto_lawful channelCalls 13 (channelTarget "first") revision
    found).mpr (.inl rfl)

end AcpTask.Workflow
