import AcpTask.Data.Countable
import AcpTask.Campaign.Bounds

namespace AcpTask.Campaign

open Library

/-! What the envelope of a campaign binds: its definition, and the cohort that
was included when it was previewed. -/

/-- `assert_envelope`, when nothing comes between its reads and its
transaction. -/
def assertEnvelope (hashing : Hashing) (store : CampaignStore)
    (key : String × String) (definition : Definition) (now : Int) :
    Except CampaignError String × CampaignStore :=
  match get store key with
  | .error error => (.error error, store)
  | .ok campaign =>
      if envelopeHolds hashing store campaign definition then
        (.ok campaign.envelopeHash, store)
      else
        (.error (.envelopeChanged "material campaign definition changed"),
          invalidate store key now)

/-- Whatever a campaign goes through: its own operations, and changes that
others make to the cohort. -/
inductive EnvelopeAction where
  | campaign (action : CampaignAction)
  | cohort (rows : Table CohortRow CohortRow.key)

def envelopeStep (config : WorkerConfig) (system : CampaignSystem) :
    EnvelopeAction → CampaignSystem
  | .campaign action => campaignStep config system action
  | .cohort rows => system.write { system.store with cohort := rows }

def SameCohort (store : CampaignStore) (key : String × String)
    (audience : List Member) : Prop :=
  ∀ proof, proof ∈ (cohortMembers store key .included).map Member.proof ↔
    proof ∈ (distinctMembers audience).map Member.proof

def CohortProof.identity (proof : CohortProof) : String × String :=
  (proof.contactId, proof.channel)

def proofOrder (left right : CohortProof) : Prop :=
  left.contactId < right.contactId ∨
    (left.contactId = right.contactId ∧ left.channel ≤ right.channel)

instance : Std.Total memberOrder where
  total left right := by
    unfold memberOrder
    rcases lt_trichotomy left.contactId right.contactId with
      less | same | greater
    · exact .inl (.inl less)
    · rcases le_total left.channel right.channel with before | after
      · exact .inl (.inr ⟨same, before⟩)
      · exact .inr (.inr ⟨same.symm, after⟩)
    · exact .inr (.inl greater)

instance : IsTrans Member memberOrder where
  trans first second third left right := by
    unfold memberOrder at *
    rcases left with less | ⟨same, before⟩
    · rcases right with next | ⟨sameNext, _⟩
      · exact .inl (less.trans next)
      · exact .inl (sameNext ▸ less)
    · rcases right with next | ⟨sameNext, beforeNext⟩
      · exact .inl (same ▸ next)
      · exact .inr ⟨same.trans sameNext, before.trans beforeNext⟩

theorem proofOrder_antisymm {left right : CohortProof}
    (before : proofOrder left right) (after : proofOrder right left) :
    left.identity = right.identity := by
  rcases before with less | ⟨same, channel⟩
  · rcases after with greater | ⟨same, _⟩
    · exact absurd (less.trans greater) (lt_irrefl _)
    · exact absurd (same ▸ less) (lt_irrefl _)
  · rcases after with greater | ⟨_, channelAfter⟩
    · exact absurd (same ▸ greater) (lt_irrefl _)
    · exact Prod.ext same (le_antisymm channel channelAfter)

theorem cohortProof_sorted (members : List Member) :
    (cohortProof members).Pairwise proofOrder :=
  List.pairwise_map.mpr (List.pairwise_insertionSort memberOrder members)

theorem cohortProof_perm (members : List Member) :
    (cohortProof members).Perm (members.map Member.proof) :=
  (List.perm_insertionSort memberOrder members).map Member.proof

theorem cohortProof_eq_iff {left right : List Member}
    (leftOnce : (left.map (CohortProof.identity ∘ Member.proof)).Nodup)
    (rightOnce : (right.map (CohortProof.identity ∘ Member.proof)).Nodup) :
    cohortProof left = cohortProof right ↔
      ∀ proof, proof ∈ left.map Member.proof ↔
        proof ∈ right.map Member.proof := by
  constructor
  · intro same proof
    rw [← (cohortProof_perm left).mem_iff, ← (cohortProof_perm right).mem_iff,
      same]
  · intro same
    rw [← List.map_map] at leftOnce rightOnce
    have perm : (cohortProof left).Perm (cohortProof right) :=
      (cohortProof_perm left).trans
        (((List.perm_ext_iff_of_nodup leftOnce.of_map
          rightOnce.of_map).mpr same).trans (cohortProof_perm right).symm)
    refine List.Perm.eq_of_pairwise ?_ (cohortProof_sorted left)
      (cohortProof_sorted right) perm
    intro first second firstMember secondMember before after
    exact List.inj_on_of_nodup_map leftOnce
      ((cohortProof_perm left).mem_iff.mp firstMember)
      ((same second).mpr ((cohortProof_perm right).mem_iff.mp secondMember))
      (proofOrder_antisymm before after)

theorem cohortMembers_once (store : CampaignStore) (key : String × String)
    (inclusion : Inclusion) :
    ((cohortMembers store key inclusion).map
      (CohortProof.identity ∘ Member.proof)).Nodup := by
  unfold cohortMembers
  rw [List.map_map]
  have keys : ((store.cohort.rows.filter fun row =>
      decide (row.key.campaign = key) && row.inclusion == inclusion).map
        CohortRow.key).Nodup :=
    store.cohort.primaryKey.sublist (List.Sublist.map _ List.filter_sublist)
  refine List.Nodup.map_on ?_ keys.of_map
  intro first firstMember second secondMember same
  simp only [List.mem_filter, Bool.and_eq_true, decide_eq_true_iff]
    at firstMember secondMember
  refine Table.eq_of_key firstMember.1 secondMember.1 ?_
  have campaigns := firstMember.2.1.trans secondMember.2.1.symm
  have identities := Prod.ext_iff.mp same
  have tenants := Prod.ext_iff.mp campaigns
  rw [CohortRow.key, CohortRow.key, EffectKey.mk.injEq]
  exact ⟨tenants.1, tenants.2, identities.1, identities.2⟩

theorem distinctMembers_once (audience : List Member) :
    ((distinctMembers audience).map
      (CohortProof.identity ∘ Member.proof)).Nodup := by
  unfold distinctMembers
  refine List.foldlRecOn audience _ (motive := fun included : List Member =>
    (included.map (CohortProof.identity ∘ Member.proof)).Nodup)
    List.nodup_nil ?_
  intro included once member _
  split
  · exact once
  · rename_i fresh
    rw [List.map_append]
    refine List.Nodup.append once (List.nodup_singleton _) ?_
    intro identity before after
    obtain ⟨other, inside, rfl⟩ := List.mem_map.mp before
    have same := Prod.ext_iff.mp (List.mem_singleton.mp after)
    refine fresh (List.any_eq_true.mpr ⟨other, inside, ?_⟩)
    rw [Bool.and_eq_true, beq_iff_eq, beq_iff_eq]
    exact same

section Check

variable {hashing : Hashing} {key : String × String}
  {definition : Definition} {audience : List Member}

theorem envelopeHolds_iff (store : CampaignStore)
    (definitions : Function.Injective hashing.definition)
    (cohorts : Function.Injective hashing.cohort) {campaign : CampaignRow}
    (bound : campaign.document = previewed hashing definition audience)
    (current : Definition) :
    envelopeHolds hashing store campaign current = true ↔
      current.sorted = definition.sorted ∧
        SameCohort store campaign.key audience := by
  simp only [CampaignRow.document, previewed, Prod.mk.injEq] at bound
  obtain ⟨-, definitionHash, cohortHash, envelopeHash⟩ := bound
  rw [SameCohort, ← cohortProof_eq_iff (cohortMembers_once ..)
    (distinctMembers_once ..)]
  simp only [envelopeHolds, Bool.and_eq_true, beq_iff_eq, definitionHash,
    cohortHash, envelopeHash, definitions.eq_iff, cohorts.eq_iff]
  constructor
  · rintro ⟨⟨same, cohort⟩, -⟩
    exact ⟨same, cohort⟩
  · rintro ⟨same, cohort⟩
    refine ⟨⟨same, cohort⟩, ?_⟩
    rw [Hashing.envelopeOf, Hashing.envelopeOf, same, cohort]

variable {store : CampaignStore}

section Definitions

variable (definitions : Function.Injective hashing.definition)
  (cohorts : Function.Injective hashing.cohort)
  (bound : document store key = some (previewed hashing definition audience))

include definitions cohorts bound

theorem assertEnvelope_ok_iff (current : Definition) (now : Int) :
    (assertEnvelope hashing store key current now).1 =
        .ok (previewed hashing definition audience).2.2.2 ↔
      current.sorted = definition.sorted ∧ SameCohort store key audience := by
  rw [document, Option.map_eq_some_iff] at bound
  obtain ⟨campaign, found, bound⟩ := bound
  have holds := envelopeHolds_iff store definitions cohorts bound current
  rw [(Table.find?_eq_some_iff.mp found).2] at holds
  rw [← holds]
  simp only [assertEnvelope, get, found]
  split
  · rename_i same
    refine iff_of_true ?_ same
    rw [← bound]
    rfl
  · rename_i other
    exact iff_of_false (fun refused => by cases refused) other

theorem assertEnvelope_refused {current : Definition}
    (changed : ¬ (current.sorted = definition.sorted ∧
      SameCohort store key audience))
    (now : Int) :
    assertEnvelope hashing store key current now =
      (.error (.envelopeChanged "material campaign definition changed"),
        invalidate store key now) := by
  rw [document, Option.map_eq_some_iff] at bound
  obtain ⟨_, found, bound⟩ := bound
  have holds := envelopeHolds_iff store definitions cohorts bound current
  rw [(Table.find?_eq_some_iff.mp found).2] at holds
  rw [← holds] at changed
  simp only [assertEnvelope, get, found, if_neg changed]

end Definitions

theorem find?_invalidate {effect : Effect} (stored : effect ∈ store.effects)
    (named : effect.key.campaign = key) (opened : effect.status.open = true)
    (now : Int) :
    (invalidate store key now).effects.find? effect.key = some { effect with
      status := .cancelled, reason := some "envelope_changed",
      updatedAt := now } := by
  have found := Table.find?_eq_some_iff.mpr
    (⟨stored, rfl⟩ : effect ∈ store.effects ∧ effect.key = effect.key)
  have written := Table.find?_updateWhere store.effects
    (fun row : Effect => decide (row.key.campaign = key) && row.status.open)
    (fun row => { row with
      status := .cancelled, reason := some "envelope_changed",
      updatedAt := now }) (fun _ => rfl) effect.key
  refine written.trans ?_
  rw [found, Option.map_some, if_pos (by simp [named, opened])]

end Check

variable {system : CampaignSystem}

variable (config : WorkerConfig)

theorem reads_envelopeStep (reads : Reads system) (action : EnvelopeAction) :
    Reads (envelopeStep config system action) := by
  cases action with
  | campaign action =>
      exact (campaignStep_systemStep config reads action).reads reads
  | cohort => exact reads

variable {key : String × String} {bound : Definition × String × String × String}

theorem document_envelopeStep (reads : Reads system) (action : EnvelopeAction)
    (found : document system.store key = some bound) :
    document (envelopeStep config system action).store key = some bound := by
  cases action with
  | campaign action =>
      exact (campaignStep_systemStep config reads action).store.document found
  | cohort => exact found

theorem document_envelopeRun (reads : Reads system)
    (actions : List EnvelopeAction)
    (found : document system.store key = some bound) :
    document (run (envelopeStep config) system actions).store key =
      some bound :=
  (run_invariant (envelopeStep config)
    (fun system => Reads system ∧ document system.store key = some bound)
    (fun _ action both => ⟨reads_envelopeStep config both.1 action,
      document_envelopeStep config both.1 action both.2⟩)
    ⟨reads, found⟩ actions).2

variable {later : CampaignStore}

theorem cohortMembers_of_append {store : CampaignStore} {added : List CohortRow}
    (rows : later.cohort.rows = store.cohort.rows ++ added)
    (key : String × String) (inclusion : Inclusion) :
    cohortMembers later key inclusion = cohortMembers store key inclusion ++
      (added.filter fun row => decide (row.key.campaign = key) &&
        row.inclusion == inclusion).map CohortRow.member := by
  rw [cohortMembers, cohortMembers, rows, List.filter_append, List.map_append]

theorem StoreStep.included {hashing : Hashing} {store : CampaignStore}
    (step : StoreStep hashing store later)
    (known : Campaign.document store key ≠ none) :
    cohortMembers later key .included = cohortMembers store key .included := by
  cases step with
  | kept keeps => rw [cohortMembers, keeps.cohort]; rfl
  | claim _ _ _ _ _ claimed =>
      obtain ⟨_, _, _, _, cohort, _⟩ := claimNext_ok claimed
      rw [cohortMembers, cohort]
      rfl
  | create other _ _ _ _ _ _ _ created =>
      obtain ⟨_, _, absent, _, _, _, rows, excluded⟩ := createPreview_ok created
      have differ : other ≠ key := by
        rintro rfl
        exact known absent
      rw [List.append_assoc] at rows
      rw [cohortMembers_of_append rows, List.append_right_eq_self,
        List.map_eq_nil_iff, List.filter_eq_nil_iff]
      intro row member named
      rw [Bool.and_eq_true, decide_eq_true_iff] at named
      refine differ (Eq.trans ?_ named.1)
      rcases List.mem_append.mp member with included | rejected
      · obtain ⟨_, _, rfl⟩ := List.mem_map.mp included
        rfl
      · obtain ⟨_, _, rfl⟩ := excluded row rejected
        rfl
  | authorize _ _ _ _ authorized =>
      rw [cohortMembers, (authorize_ok authorized).2.1]
      rfl
  | arrive campaign member now _ admitted =>
      rw [← admitted]
      rcases addLateAudienceMember_cases store campaign member now with
        same | ⟨_, last, result, _, _, rows, _⟩
      · rw [same]
      · rw [result, cohortMembers_of_append rows]
        simp

theorem createPreview_included {hashing : Hashing} {store : CampaignStore}
    (bounded : Bounded store) {principalId : String} {definition : Definition}
    {audience : List Member} {exclusions : List Exclusion}
    {estimatedSpendMicros approvalTtlSeconds now : Int}
    (created : createPreview hashing store key principalId definition audience
      exclusions estimatedSpendMicros approvalTtlSeconds now =
        (.ok (), later)) :
    cohortMembers later key .included = distinctMembers audience := by
  obtain ⟨_, _, absent, _, _, added, rows, excluded⟩ := createPreview_ok created
  have before : cohortMembers store key .included = [] := by
    rw [cohortMembers, List.map_eq_nil_iff, List.filter_eq_nil_iff]
    intro row member named
    rw [Bool.and_eq_true, decide_eq_true_iff] at named
    exact bounded.registered row member (named.1 ▸ absent)
  have rejected : (added.filter fun row => decide (row.key.campaign = key) &&
      row.inclusion == .included) = [] := by
    rw [List.filter_eq_nil_iff]
    intro row member named
    obtain ⟨_, _, rfl⟩ := excluded row member
    simp at named
  rw [List.append_assoc] at rows
  rw [cohortMembers_of_append rows, before, List.filter_append, rejected,
    List.append_nil, List.nil_append, List.filter_map, List.map_map]
  have all : (distinctMembers audience).filter
      ((fun row : CohortRow => decide (row.key.campaign = key) &&
        row.inclusion == .included) ∘
          fun member => ⟨key.1, key.2, member, .included⟩) =
      distinctMembers audience := by
    rw [List.filter_eq_self]
    intro member _
    simp [EffectKey.campaign]
  rw [all]
  exact List.map_id _

theorem included_run (reads : Reads system)
    (known : document system.store key = some bound)
    (actions : List CampaignAction) :
    cohortMembers (run (campaignStep config) system actions).store key
        .included = cohortMembers system.store key .included :=
  (run_invariant (campaignStep config)
    (fun later => Reads later ∧ document later.store key = some bound ∧
      cohortMembers later.store key .included =
        cohortMembers system.store key .included)
    (fun later action all =>
      have step := campaignStep_systemStep config all.1 action
      ⟨step.reads all.1, step.store.document all.2.1,
        (step.store.included (by rw [all.2.1]; exact Option.some_ne_none _)
          ).trans all.2.2⟩)
    ⟨reads, known, rfl⟩ actions).2.2

theorem run_campaign (system : CampaignSystem) (actions : List CampaignAction) :
    run (envelopeStep config) system (actions.map .campaign) =
      run (campaignStep config) system actions := by
  induction actions generalizing system with
  | nil => rfl
  | cons _ _ induction => exact induction _

/-- However others change the cohort after a preview, the envelope is asserted
exactly for the definition and the included cohort of the preview; where it is
not, what of the campaign is pending or deferred is cancelled; and the
campaign's own operations never make it fail. -/
theorem envelope_binds (config : WorkerConfig)
    (definitions : Function.Injective config.hashing.definition)
    (cohorts : Function.Injective config.hashing.cohort)
    (earlier : List CampaignAction) (key : String × String)
    (principalId : String) (definition : Definition) (audience : List Member)
    (exclusions : List Exclusion)
    (estimatedSpendMicros approvalTtlSeconds now : Int)
    (created : (createPreview config.hashing
      (campaignRun config earlier).store key principalId definition audience
      exclusions estimatedSpendMicros approvalTtlSeconds now).1 = .ok ())
    (later : List EnvelopeAction) :
    let system := campaignRun config (earlier ++ [.createPreview key
      principalId definition audience exclusions estimatedSpendMicros
      approvalTtlSeconds now])
    let store := (run (envelopeStep config) system later).store
    (∀ (current : Definition) (time : Int),
      ((∃ envelopeHash,
          (assertEnvelope config.hashing store key current time).1 =
            .ok envelopeHash) ↔
        current.sorted = definition.sorted ∧ SameCohort store key audience) ∧
      (¬ (current.sorted = definition.sorted ∧
          SameCohort store key audience) →
        assertEnvelope config.hashing store key current time =
          (.error (.envelopeChanged "material campaign definition changed"),
            invalidate store key time))) ∧
    (∀ (other : CampaignStore) (time : Int), ∀ effect ∈ other.effects,
      effect.key.campaign = key → effect.status.open = true →
      (invalidate other key time).effects.find? effect.key =
        some { effect with
          status := .cancelled, reason := some "envelope_changed",
          updatedAt := time }) ∧
    (∀ own : List CampaignAction, later = own.map .campaign →
      SameCohort store key audience) := by
  intro system store
  obtain ⟨_, boundedEarlier⟩ := bounded_run config earlier
  have reads : Reads system := (bounded_run config _).1
  have here : system.store = (createPreview config.hashing
      (campaignRun config earlier).store key principalId definition audience
      exclusions estimatedSpendMicros approvalTtlSeconds now).2 := by
    simp only [system, campaignRun, run_append]
    rfl
  have ok : createPreview config.hashing (campaignRun config earlier).store
      key principalId definition audience exclusions estimatedSpendMicros
      approvalTtlSeconds now = (.ok (), system.store) :=
    Prod.ext created here.symm
  have bound : document system.store key =
      some (previewed config.hashing definition audience) := by
    obtain ⟨_, _, _, documents, _⟩ := createPreview_ok ok
    rw [documents, if_pos rfl]
  have boundLater := document_envelopeRun config reads later bound
  refine ⟨fun current time => ⟨?_, fun changed =>
      assertEnvelope_refused definitions cohorts boundLater changed time⟩,
    fun other time effect stored named opened =>
      find?_invalidate stored named opened time, fun own split => ?_⟩
  · constructor
    · rintro ⟨_, asserted⟩
      by_contra changed
      rw [assertEnvelope_refused definitions cohorts boundLater changed]
        at asserted
      cases asserted
    · intro same
      exact ⟨_, (assertEnvelope_ok_iff definitions cohorts boundLater current
        time).mpr same⟩
  · intro proof
    simp only [store, split, run_campaign]
    rw [included_run config reads bound own, createPreview_included
      boundedEarlier ok]

deriving instance Countable for Definition
deriving instance Countable for CohortProof

noncomputable def digestHashing : Hashing where
  definition := AcpTask.Data.digest Definition
  cohort := AcpTask.Data.digest (List CohortProof)
  envelope := fun _ definitionHash cohortHash => definitionHash ++ cohortHash

noncomputable def digestConfig : WorkerConfig :=
  { sampleConfig with hashing := digestHashing }

def lateDefinition : Definition :=
  { sampleDefinition with audienceCeiling := 2, includeLateArrivals := true }

def lateArrival : List CampaignAction :=
  [.authorize sampleKey "owner" true 0,
    .addLateAudienceMember 0 sampleKey
      { sampleMember with contactId := "other" },
    .advance 0 .proceed 1]

theorem envelope_binds_late :
    let store := (run (envelopeStep digestConfig)
      (campaignRun digestConfig [.createPreview sampleKey "owner"
        lateDefinition [sampleMember] [] 1 600 0])
      (lateArrival.map .campaign)).store
    ∃ envelopeHash, (assertEnvelope digestHashing store sampleKey
      lateDefinition 3).1 = .ok envelopeHash := by
  intro store
  have binds := envelope_binds digestConfig
    (AcpTask.Data.digest_injective Definition)
    (AcpTask.Data.digest_injective (List CohortProof)) [] sampleKey "owner"
    lateDefinition [sampleMember] [] 1 600 0 (by rfl)
    (lateArrival.map .campaign)
  exact ((binds.1 lateDefinition 3).1).mpr ⟨rfl, binds.2.2 lateArrival rfl⟩

end AcpTask.Campaign
