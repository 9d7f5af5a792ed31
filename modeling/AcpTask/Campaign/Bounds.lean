import Mathlib.Data.List.Dedup
import Mathlib.Data.List.Perm.Subperm
import AcpTask.Campaign.Frames

namespace AcpTask.Campaign

open Library

/-! The bounds of a campaign: how many of its effects are claimed at once, and
how many members its cohort admits. -/

def Inclusion.admitted : Inclusion → Bool
  | .excluded _ => false
  | .included | .late => true

def CohortRow.admittedTo (key : String × String) (row : CohortRow) : Bool :=
  decide (row.key.campaign = key) && row.inclusion.admitted

def admittedCount (store : CampaignStore) (key : String × String) : Nat :=
  store.cohort.rows.countP (CohortRow.admittedTo key)

theorem length_cohortMembers (store : CampaignStore) (key : String × String) :
    (cohortMembers store key .included ++
      cohortMembers store key .late).length = admittedCount store key := by
  simp only [cohortMembers, List.length_append, List.length_map, admittedCount]
  induction store.cohort.rows with
  | nil => rfl
  | cons row _ induction =>
      obtain ⟨tenantId, campaignId, _, inclusion⟩ := row
      simp only [List.filter_cons, List.countP_cons, ← induction,
        CohortRow.admittedTo]
      by_cases named : (tenantId, campaignId) = key
      · cases inclusion <;>
          simp [EffectKey.campaign, named, Inclusion.admitted] <;> omega
      · simp [EffectKey.campaign, named]

theorem claimedCount_eq (store : CampaignStore) (key : String × String) :
    claimedCount store key = store.effects.rows.countP fun row =>
      decide (row.key.campaign = key) && row.status == .claimed := by
  rw [claimedCount, List.countP_eq_length_filter]

/-- The bounds, and what keeps them: a cohort has its campaign, and an effect
its admitted member. -/
structure Bounded (store : CampaignStore) : Prop where
  claims : ∀ key bound, document store key = some bound →
    (claimedCount store key : Int) ≤ bound.1.concurrency
  audience : ∀ key bound, document store key = some bound →
    (admittedCount store key : Int) ≤ bound.1.audienceCeiling
  registered : ∀ row ∈ store.cohort, document store row.key.campaign ≠ none
  due : ∀ effect ∈ store.effects, ∃ row ∈ store.cohort,
    row.key = effect.key ∧ row.inclusion.admitted = true

theorem bounded_empty : Bounded CampaignStore.empty where
  claims := fun _ _ found => by cases found
  audience := fun _ _ found => by cases found
  registered := fun _ member => by cases member
  due := fun _ member => by cases member

section Statements

variable {hashing : Hashing} {store later : CampaignStore}

theorem mem_of_rows {Row Key : Type} {keyOf : Row → Key}
    {table later : Table Row keyOf} {added : List Row}
    (rows : later.rows = table.rows ++ added) {row : Row} :
    row ∈ later ↔ row ∈ table ∨ row ∈ added := by
  rw [Table.mem_def, rows, List.mem_append, Table.mem_def]

theorem claimedCount_of_map {change : Effect → Effect}
    (mapped : later.effects.rows = store.effects.rows.map change)
    (keeps : ∀ row, (change row).key = row.key ∧
      ((change row).status = .claimed → row.status = .claimed))
    (key : String × String) :
    claimedCount later key ≤ claimedCount store key := by
  rw [claimedCount_eq, claimedCount_eq, mapped, List.countP_map]
  apply List.countP_mono_left
  intro row _ claimed
  simp only [Function.comp_apply, Bool.and_eq_true, beq_iff_eq,
    decide_eq_true_iff] at claimed ⊢
  rw [← (keeps row).1]
  exact ⟨claimed.1, (keeps row).2 claimed.2⟩

theorem claimedCount_of_append {added : List Effect}
    (rows : later.effects.rows = store.effects.rows ++ added)
    (pending : ∀ row ∈ added, row.status = .pending)
    (key : String × String) :
    claimedCount later key = claimedCount store key := by
  rw [claimedCount_eq, claimedCount_eq, rows, List.countP_append,
    Nat.add_eq_left, List.countP_eq_zero]
  intro row member claimed
  rw [pending row member, Bool.and_eq_true] at claimed
  cases claimed.2

theorem Bounded.kept (bounded : Bounded store) (keeps : Kept store later) :
    Bounded later := by
  obtain ⟨_, mapped, changes⟩ := keeps.effects
  refine ⟨fun key bound found => ?_, fun key bound found => ?_,
    fun row member => ?_, fun effect member => ?_⟩
  · rw [keeps.documents] at found
    have fewer := claimedCount_of_map mapped changes key
    have before := bounded.claims key bound found
    omega
  · rw [keeps.documents] at found
    rw [admittedCount, keeps.cohort]
    exact bounded.audience key bound found
  · rw [keeps.documents]
    exact bounded.registered row (keeps.cohort ▸ member)
  · rw [Table.mem_def, mapped, List.mem_map] at member
    obtain ⟨old, inside, rfl⟩ := member
    rw [keeps.cohort, (changes old).1]
    exact bounded.due old inside

theorem claimedCount_claim {effect : Effect} {workerId : String}
    {now leaseSeconds : Int}
    (rows : later.effects.rows = store.effects.rows.map fun row =>
      if (decide (row.key = effect.key) && row.status.open) = true then
        claimedEffect workerId now leaseSeconds row
      else row) (key : String × String) :
    claimedCount later key ≤ claimedCount store key +
      (if effect.key.campaign = key then 1 else 0) := by
  rw [claimedCount_eq, claimedCount_eq, rows, List.countP_map]
  have primary := store.effects.primaryKey
  generalize store.effects.rows = effects at primary
  induction effects with
  | nil => simp
  | cons row rest induction =>
      rw [List.map_cons, List.nodup_cons] at primary
      have smaller := induction primary.2
      rw [List.countP_cons, List.countP_cons]
      by_cases chosen :
          (decide (row.key = effect.key) && row.status.open) = true
      · rw [Bool.and_eq_true, decide_eq_true_iff] at chosen
        -- no other row has the key, so the rest is as it was
        have others : rest.countP ((fun row : Effect =>
              decide (row.key.campaign = key) && row.status == .claimed) ∘
            fun row => if (decide (row.key = effect.key) &&
                row.status.open) = true then
              claimedEffect workerId now leaseSeconds row else row) =
            rest.countP fun row =>
              decide (row.key.campaign = key) && row.status == .claimed := by
          apply List.countP_congr
          intro other inside
          have differ : ¬ other.key = effect.key := fun same =>
            primary.1 (chosen.1.trans same.symm ▸ List.mem_map_of_mem inside)
          simp only [Function.comp_apply, decide_eq_false differ,
            Bool.false_and, Bool.false_eq_true, if_false]
        rw [others]
        have wasOpen : (row.status == .claimed) = false := by
          cases status : row.status <;> rw [status] at chosen <;>
            first | rfl | cases chosen.2
        simp only [Function.comp_apply, chosen.2, if_true, claimedEffect, wasOpen, Bool.and_false,
          Bool.false_eq_true, if_false, ← chosen.1, beq_self_eq_true,
          Bool.and_true, decide_eq_true_iff]
        omega
      · simp only [Function.comp_apply, if_neg chosen]
        omega

theorem Bounded.claim (bounded : Bounded store) {workerId : String}
    {now leaseSeconds : Int} {scope : Option (String × String)}
    {effect : Effect}
    (claimed : claimNext store workerId now leaseSeconds scope =
      (some effect, later)) : Bounded later := by
  obtain ⟨campaign, found, room, documents, cohort, rows⟩ :=
    claimNext_ok claimed
  have named : campaign.key = effect.key.campaign :=
    (Table.find?_eq_some_iff.mp found).2
  refine ⟨fun key bound bind => ?_, fun key bound bind => ?_,
    fun row member => ?_, fun other member => ?_⟩
  · rw [documents] at bind
    have grown := claimedCount_claim rows key
    split at grown
    · rename_i same
      have bindThis : document store key = some campaign.document := by
        rw [document, ← same, found]
        rfl
      rw [bind] at bindThis
      rw [named, same] at room
      rw [Option.some.inj bindThis]
      simp only [CampaignRow.document]
      omega
    · have before := bounded.claims key bound bind
      omega
  · rw [documents] at bind
    rw [admittedCount, cohort]
    exact bounded.audience key bound bind
  · rw [documents]
    exact bounded.registered row (cohort ▸ member)
  · rw [Table.mem_def, rows, List.mem_map] at member
    obtain ⟨old, inside, rfl⟩ := member
    rw [cohort]
    obtain ⟨row, rowMember, sameKey, included⟩ := bounded.due old inside
    refine ⟨row, rowMember, sameKey.trans ?_, included⟩
    split <;> rfl

theorem admittedCount_of_append {added : List CohortRow}
    (rows : later.cohort.rows = store.cohort.rows ++ added)
    (key : String × String) :
    admittedCount later key =
      admittedCount store key + added.countP (CohortRow.admittedTo key) := by
  rw [admittedCount, admittedCount, rows, List.countP_append]

variable {key : String × String}

theorem admittedCount_unregistered (bounded : Bounded store)
    (absent : document store key = none) :
    admittedCount store key = 0 := by
  rw [admittedCount, List.countP_eq_zero]
  intro row member admitted
  rw [CohortRow.admittedTo, Bool.and_eq_true, decide_eq_true_iff] at admitted
  exact bounded.registered row member (admitted.1 ▸ absent)

theorem claimedCount_unregistered (bounded : Bounded store)
    (absent : document store key = none) :
    claimedCount store key = 0 := by
  rw [claimedCount_eq, List.countP_eq_zero]
  intro effect member claimed
  rw [Bool.and_eq_true, decide_eq_true_iff] at claimed
  obtain ⟨row, inside, sameKey, -⟩ := bounded.due effect member
  refine bounded.registered row inside ?_
  rw [sameKey, claimed.1, absent]

theorem Bounded.create (bounded : Bounded store) {principalId : String}
    {definition : Definition} {audience : List Member}
    {exclusions : List Exclusion}
    {estimatedSpendMicros approvalTtlSeconds now : Int}
    (created : createPreview hashing store key principalId definition audience
      exclusions estimatedSpendMicros approvalTtlSeconds now =
        (.ok (), later)) : Bounded later := by
  obtain ⟨valid, few, absent, documents, effects, added, rows, excluded⟩ :=
    createPreview_ok created
  have concurrent : 0 < definition.concurrency := by
    simp only [validateDefinition, bind_eq_ok, require_eq_ok,
      Bool.and_eq_true, decide_eq_true_iff] at valid
    obtain ⟨_, ⟨_, positive⟩, _⟩ := valid
    exact positive
  have sameClaims : ∀ other, claimedCount later other =
      claimedCount store other := fun other => by
    rw [claimedCount, claimedCount, effects]
  have noneAdmitted : ∀ other, added.countP (CohortRow.admittedTo other) =
      0 := fun other => by
    rw [List.countP_eq_zero]
    intro row member admitted
    obtain ⟨exclusion, -, rfl⟩ := excluded row member
    simp [CohortRow.admittedTo, Inclusion.admitted] at admitted
  rw [List.append_assoc] at rows
  refine ⟨fun other bound bind => ?_, fun other bound bind => ?_,
    fun row member => ?_, fun effect member => ?_⟩
  · rw [documents] at bind
    rw [sameClaims]
    split at bind
    · rename_i same
      cases bind
      rw [← same, claimedCount_unregistered bounded absent]
      exact concurrent.le
    · exact bounded.claims other bound bind
  · rw [documents] at bind
    rw [admittedCount_of_append rows, List.countP_append, noneAdmitted,
      Nat.add_zero, List.countP_map]
    split at bind
    · rename_i same
      cases bind
      rw [← same, admittedCount_unregistered bounded absent, Nat.zero_add]
      have counted := @List.countP_le_length Member
        (CohortRow.admittedTo key ∘ fun member =>
          ⟨key.1, key.2, member, .included⟩) (distinctMembers audience)
      simp only [previewed, Definition.sorted]
      omega
    · rename_i other'
      have noneNamed : (distinctMembers audience).countP
          (CohortRow.admittedTo other ∘ fun member =>
            ⟨key.1, key.2, member, .included⟩) = 0 := by
        rw [List.countP_eq_zero]
        intro member _ admitted
        simp only [Function.comp_apply, CohortRow.admittedTo,
          Bool.and_eq_true, decide_eq_true_iff] at admitted
        exact other' admitted.1
      rw [noneNamed, Nat.add_zero]
      exact bounded.audience other bound bind
  · rw [documents]
    split
    · exact Option.some_ne_none _
    · rename_i other
      rcases (mem_of_rows rows).mp member with old | new
      · exact bounded.registered row old
      · refine absurd ?_ other
        rcases List.mem_append.mp new with included | rejected
        · obtain ⟨_, _, rfl⟩ := List.mem_map.mp included
          rfl
        · obtain ⟨_, _, rfl⟩ := excluded row rejected
          rfl
  · rw [effects] at member
    obtain ⟨row, inside, sameKey, admitted⟩ := bounded.due effect member
    exact ⟨row, (mem_of_rows rows).mpr (.inl inside), sameKey, admitted⟩

theorem mem_cohortMembers {inclusion : Inclusion} {member : Member}
    (inside : member ∈ cohortMembers store key inclusion) :
    ⟨key.1, key.2, member, inclusion⟩ ∈ store.cohort := by
  simp only [cohortMembers, List.mem_map, List.mem_filter, Bool.and_eq_true,
    decide_eq_true_iff, beq_iff_eq] at inside
  obtain ⟨⟨_, _, _, _⟩, ⟨stored, named, same⟩, rfl⟩ := inside
  subst named same
  exact stored

theorem Bounded.authorize (bounded : Bounded store) {principalId : String}
    {permitted : Bool} {now : Int}
    (authorized : authorize hashing store key principalId permitted now =
      (.ok (), later)) : Bounded later := by
  obtain ⟨documents, cohort, _, rows⟩ := authorize_ok authorized
  refine ⟨fun other bound bind => ?_, fun other bound bind => ?_,
    fun row member => ?_, fun effect member => ?_⟩
  · rw [documents] at bind
    rw [claimedCount_of_append rows]
    · exact bounded.claims other bound bind
    · intro row member
      obtain ⟨_, _, rfl⟩ := List.mem_map.mp member
      rfl
  · rw [documents] at bind
    rw [admittedCount, cohort]
    exact bounded.audience other bound bind
  · rw [documents]
    exact bounded.registered row (cohort ▸ member)
  · rw [cohort]
    rcases (mem_of_rows rows).mp member with old | new
    · exact bounded.due effect old
    · obtain ⟨_, inside, rfl⟩ := List.mem_map.mp new
      exact ⟨_, mem_cohortMembers inside, rfl, rfl⟩

theorem Bounded.arrive (bounded : Bounded store) {campaign : CampaignRow}
    (known : document store campaign.key = some campaign.document)
    (member : Member) (now : Int) :
    Bounded (addLateAudienceMember store campaign member now).2 := by
  rcases addLateAudienceMember_cases store campaign member now with
    same | ⟨notBefore, later, result, room, campaigns, cohortRows, rows⟩
  · rw [same]
    exact bounded
  · rw [result]
    rw [length_cohortMembers] at room
    have documents : ∀ other, document later other = document store other :=
      fun other => by rw [document, document, campaigns]
    refine ⟨fun other bound bind => ?_, fun other bound bind => ?_,
      fun row inside => ?_, fun effect inside => ?_⟩
    · rw [documents] at bind
      rw [claimedCount_of_append rows]
      · exact bounded.claims other bound bind
      · intro row new
        rw [List.mem_singleton.mp new]
        rfl
    · rw [documents] at bind
      rw [admittedCount_of_append cohortRows, List.countP_singleton]
      split
      · rename_i admitted
        simp only [CohortRow.admittedTo, Bool.and_eq_true,
          decide_eq_true_iff] at admitted
        have same : campaign.key = other := admitted.1
        rw [← same, known] at bind
        cases bind
        rw [← same]
        simp only [CampaignRow.document]
        omega
      · exact bounded.audience other bound bind
    · rw [documents]
      rcases (mem_of_rows cohortRows).mp inside with old | new
      · exact bounded.registered row old
      · rw [List.mem_singleton.mp new]
        exact fun absent => by
          rw [show (CohortRow.key _).campaign = campaign.key from rfl,
            known] at absent
          cases absent
    · rcases (mem_of_rows rows).mp inside with old | new
      · obtain ⟨row, stored, sameKey, admitted⟩ := bounded.due effect old
        exact ⟨row, (mem_of_rows cohortRows).mpr (.inl stored), sameKey,
          admitted⟩
      · rw [List.mem_singleton.mp new]
        exact ⟨_, (mem_of_rows cohortRows).mpr
          (.inr List.mem_cons_self), rfl, rfl⟩

theorem StoreStep.bounded (step : StoreStep hashing store later)
    (bounded : Bounded store) : Bounded later := by
  cases step with
  | kept keeps => exact bounded.kept keeps
  | claim _ _ _ _ _ claimed => exact bounded.claim claimed
  | create _ _ _ _ _ _ _ _ created => exact bounded.create created
  | authorize _ _ _ _ authorized => exact bounded.authorize authorized
  | arrive _ member now known admitted =>
      rw [← admitted]
      exact bounded.arrive known member now

theorem StoreStep.cohort (step : StoreStep hashing store later)
    {row : CohortRow} (member : row ∈ store.cohort) : row ∈ later.cohort := by
  cases step with
  | kept keeps => rw [keeps.cohort]; exact member
  | claim _ _ _ _ _ claimed =>
      obtain ⟨_, _, _, _, cohort, _⟩ := claimNext_ok claimed
      rw [cohort]
      exact member
  | create _ _ _ _ _ _ _ _ created =>
      obtain ⟨_, _, _, _, _, _, rows, _⟩ := createPreview_ok created
      rw [List.append_assoc] at rows
      exact (mem_of_rows rows).mpr (.inl member)
  | authorize _ _ _ _ authorized =>
      rw [(authorize_ok authorized).2.1]
      exact member
  | arrive campaign arrival now _ admitted =>
      rw [← admitted]
      rcases addLateAudienceMember_cases store campaign arrival now with
        same | ⟨_, last, result, _, _, rows, _⟩
      · rw [same]
        exact member
      · rw [result]
        exact (mem_of_rows rows).mpr (.inl member)

end Statements

theorem bounded_run (config : WorkerConfig) (actions : List CampaignAction) :
    Reads (campaignRun config actions) ∧
      Bounded (campaignRun config actions).store :=
  run_invariant (campaignStep config)
    (fun system => Reads system ∧ Bounded system.store)
    (fun _ action both =>
      have step := campaignStep_systemStep config both.1 action
      ⟨step.reads both.1, step.store.bounded both.2⟩)
    ⟨reads_initial, bounded_empty⟩ actions

theorem cohort_run (config : WorkerConfig) {system : CampaignSystem}
    (reads : Reads system) (actions : List CampaignAction) {row : CohortRow}
    (member : row ∈ system.store.cohort) :
    row ∈ (run (campaignStep config) system actions).store.cohort :=
  (run_invariant (campaignStep config)
    (fun system => Reads system ∧ row ∈ system.store.cohort)
    (fun _ action both =>
      have step := campaignStep_systemStep config both.1 action
      ⟨step.reads both.1, step.store.cohort both.2⟩)
    ⟨reads, member⟩ actions).2

variable {store : CampaignStore}

theorem length_listEffects_le (bounded : Bounded store) (key : String × String) :
    (listEffects store key).length ≤ admittedCount store key := by
  rw [admittedCount, List.countP_eq_length_filter,
    ← List.length_map Effect.key, ← List.length_map CohortRow.key]
  refine List.Subperm.length_le (List.Nodup.subperm ?_ ?_)
  · exact store.effects.primaryKey.sublist
      (List.Sublist.map _ List.filter_sublist)
  · intro effectKey member
    obtain ⟨effect, inside, rfl⟩ := List.mem_map.mp member
    obtain ⟨stored, named⟩ := List.mem_filter.mp inside
    obtain ⟨row, rowMember, sameKey, admitted⟩ := bounded.due effect stored
    refine List.mem_map.mpr ⟨row, List.mem_filter.mpr ⟨rowMember, ?_⟩, sameKey⟩
    rw [CohortRow.admittedTo, admitted, Bool.and_true, sameKey]
    exact named

def effectContacts (store : CampaignStore) (key : String × String) :
    List String :=
  ((listEffects store key).map fun effect => effect.key.contactId).dedup

theorem find?_excluded (bounded : Bounded store) {row : CohortRow}
    (member : row ∈ store.cohort) (excluded : row.inclusion.admitted = false) :
    store.effects.find? row.key = none := by
  rw [Table.find?_eq_none_iff]
  intro effect stored sameKey
  obtain ⟨_, inside, otherKey, admitted⟩ := bounded.due effect stored
  rw [Table.eq_of_key inside member (otherKey.trans sameKey), excluded]
    at admitted
  cases admitted

theorem mem_distinctMembers {audience : List Member} {member : Member}
    (inside : member ∈ distinctMembers audience) : member ∈ audience := by
  have kept : ∀ (rest included : List Member),
      member ∈ rest.foldl (fun included member =>
        if included.any fun other => other.contactId == member.contactId &&
            other.channel == member.channel then included
        else included ++ [member]) included →
      member ∈ included ∨ member ∈ rest := by
    intro rest
    induction rest with
    | nil => exact fun _ => .inl
    | cons head _ induction =>
        intro included member
        rw [List.foldl_cons] at member
        rcases induction _ member with before | later
        · split at before
          · exact .inl before
          · rcases List.mem_append.mp before with old | new
            · exact .inl old
            · rw [List.mem_singleton.mp new]
              exact .inr List.mem_cons_self
        · exact .inr (List.mem_cons_of_mem head later)
  exact (kept audience [] inside).resolve_left (by simp)

theorem insertExclusions_keys {Item : Type} (rowOf : Item → CohortRow)
    {items : List Item} {key : EffectKey}
    (keyed : (∃ row ∈ store.cohort, row.key = key) ∨
      ∃ item ∈ items, (rowOf item).key = key) :
    ∃ row ∈ (items.foldl (fun store item =>
      insertCohortOrIgnore store (rowOf item)) store).cohort,
      row.key = key := by
  induction items generalizing store with
  | nil =>
      rcases keyed with stored | ⟨_, member, _⟩
      · exact stored
      · cases member
  | cons item rest induction =>
      rw [List.foldl_cons]
      refine induction ?_
      have grown : ∀ key, (∃ row ∈ store.cohort, row.key = key) ∨
          (rowOf item).key = key →
          ∃ row ∈ (insertCohortOrIgnore store (rowOf item)).cohort,
            row.key = key := by
        intro key either
        unfold insertCohortOrIgnore
        split
        · rename_i cohort success
          rcases either with ⟨row, stored, sameKey⟩ | sameKey
          · exact ⟨row, (Table.mem_of_insert? success).mpr (.inl stored),
              sameKey⟩
          · exact ⟨_, (Table.mem_of_insert? success).mpr (.inr rfl), sameKey⟩
        · rename_i taken
          rcases either with stored | rfl
          · exact stored
          · obtain ⟨row, found⟩ := Option.ne_none_iff_exists'.mp
              (Table.insert?_eq_none_iff.mp taken)
            exact ⟨row, Table.find?_eq_some_iff.mp found⟩
      rcases keyed with stored | ⟨other, member, sameKey⟩
      · exact .inl (grown key (.inl stored))
      · rcases List.mem_cons.mp member with rfl | later
        · exact .inl (grown key (.inr sameKey))
        · exact .inr ⟨other, later, sameKey⟩

def Exclusion.key (exclusion : Exclusion) (campaign : String × String) :
    EffectKey :=
  ⟨campaign.1, campaign.2, exclusion.contactId, exclusion.channel.getD "sms"⟩

def Member.key (member : Member) (campaign : String × String) : EffectKey :=
  ⟨campaign.1, campaign.2, member.contactId, member.channel⟩

theorem createPreview_excludes {hashing : Hashing} {later : CampaignStore}
    (bounded : Bounded store) {key : String × String} {principalId : String}
    {definition : Definition} {audience : List Member}
    {exclusions : List Exclusion}
    {estimatedSpendMicros approvalTtlSeconds now : Int}
    (created : createPreview hashing store key principalId definition audience
      exclusions estimatedSpendMicros approvalTtlSeconds now =
        (.ok (), later)) {exclusion : Exclusion}
    (member : exclusion ∈ exclusions)
    (apart : ∀ other ∈ audience, other.key key ≠ exclusion.key key) :
    ∃ row ∈ later.cohort, row.key = exclusion.key key ∧
      row.inclusion.admitted = false := by
  have keyed : ∃ row ∈ later.cohort, row.key = exclusion.key key := by
    have ok := created
    unfold createPreview at ok
    rw [transaction_ok_iff] at ok
    simp only [bind_eq_ok, pure_eq_ok, Prod.mk.injEq] at ok
    obtain ⟨_, _, _, _, _, _, _, _, -, rfl⟩ := ok
    exact insertExclusions_keys
      (fun exclusion : Exclusion => (⟨key.1, key.2,
        exclusion.member definition, .excluded exclusion.reason⟩ : CohortRow))
      (.inr ⟨exclusion, member, rfl⟩)
  obtain ⟨_, _, absent, _, _, _, rows, excluded⟩ := createPreview_ok created
  obtain ⟨row, inside, sameKey⟩ := keyed
  refine ⟨row, inside, sameKey, ?_⟩
  rw [List.append_assoc] at rows
  rcases (mem_of_rows rows).mp inside with old | new
  · refine absurd ?_ (bounded.registered row old)
    rw [sameKey]
    exact absent
  · rcases List.mem_append.mp new with included | rejected
    · obtain ⟨other, distinct, rfl⟩ := List.mem_map.mp included
      exact absurd sameKey (apart other (mem_distinctMembers distinct))
    · obtain ⟨_, _, rfl⟩ := excluded row rejected
      rfl

/-- A campaign never has more claimed effects than its concurrency, nor reaches
more contacts than its ceiling; and a contact excluded on a channel when the
campaign was previewed has no effect on that channel, however members arrive
later. -/
theorem campaign_bounds (config : WorkerConfig)
    (actions : List CampaignAction) :
    (∀ campaign ∈ (campaignRun config actions).store.campaigns,
      (claimedCount (campaignRun config actions).store campaign.key : Int) ≤
        campaign.definition.concurrency ∧
      ((effectContacts (campaignRun config actions).store
          campaign.key).length : Int) ≤
        campaign.definition.audienceCeiling) ∧
    ∀ (earlier later : List CampaignAction) (key : String × String)
      (principalId : String) (definition : Definition)
      (audience : List Member) (exclusions : List Exclusion)
      (estimatedSpendMicros approvalTtlSeconds now : Int),
      actions = earlier ++ .createPreview key principalId definition audience
        exclusions estimatedSpendMicros approvalTtlSeconds now :: later →
      (createPreview config.hashing (campaignRun config earlier).store key
        principalId definition audience exclusions estimatedSpendMicros
        approvalTtlSeconds now).1 = .ok () →
      ∀ exclusion ∈ exclusions,
        (∀ member ∈ audience, member.key key ≠ exclusion.key key) →
        (campaignRun config actions).store.effects.find?
          (exclusion.key key) = none := by
  obtain ⟨_, bounded⟩ := bounded_run config actions
  refine ⟨fun campaign member => ?_, ?_⟩
  · have bound : document (campaignRun config actions).store campaign.key =
        some campaign.document := by
      rw [document, Table.find?_eq_some_iff.mpr ⟨member, rfl⟩]
      rfl
    refine ⟨bounded.claims campaign.key _ bound, ?_⟩
    have audience := bounded.audience campaign.key _ bound
    have effects := length_listEffects_le bounded campaign.key
    have contacts : (effectContacts (campaignRun config actions).store
        campaign.key).length ≤ (listEffects (campaignRun config actions).store
          campaign.key).length := by
      rw [effectContacts, ← List.length_map fun effect : Effect =>
        effect.key.contactId]
      exact (List.dedup_sublist _).length_le
    simp only [CampaignRow.document] at audience
    omega
  · intro earlier later key principalId definition audience exclusions
      estimate ttl now split created exclusion member apart
    obtain ⟨readsEarlier, boundedEarlier⟩ := bounded_run config earlier
    have ok : createPreview config.hashing (campaignRun config earlier).store
        key principalId definition audience exclusions estimate ttl now =
        (.ok (), (campaignStep config (campaignRun config earlier)
          (.createPreview key principalId definition audience exclusions
            estimate ttl now)).store) := Prod.ext created rfl
    obtain ⟨_, inside, sameKey, excluded⟩ :=
      createPreview_excludes boundedEarlier ok member apart
    have readsNow := (campaignStep_systemStep config readsEarlier
      (.createPreview key principalId definition audience exclusions estimate
        ttl now)).reads readsEarlier
    have stays := cohort_run config readsNow later inside
    rw [← sameKey]
    refine find?_excluded bounded ?_ excluded
    rw [split, campaignRun, run_append]
    exact stays

/-- A contact excluded by text message is admitted late by voice. -/
theorem excluded_contact_arrives_late :
    let actions : List CampaignAction :=
      [.createPreview sampleKey "owner"
          { sampleDefinition with
            audienceCeiling := 2, includeLateArrivals := true }
          [sampleMember]
          [{ contactId := "other", reason := "consent_missing" }] 1 600 0,
        .authorize sampleKey "owner" true 0,
        .addLateAudienceMember 0 sampleKey
          { sampleMember with contactId := "other", channel := "voice" },
        .advance 0 .proceed 1]
    (∃ row ∈ (campaignRun sampleConfig (actions.take 1)).store.cohort,
      row.member.contactId = "other" ∧
        row.inclusion = .excluded "consent_missing") ∧
    ∃ effect ∈ (campaignRun sampleConfig actions).store.effects,
      effect.key.contactId = "other" := by
  decide +kernel

end AcpTask.Campaign
