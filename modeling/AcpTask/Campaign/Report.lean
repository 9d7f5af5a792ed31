import AcpTask.Campaign.Bounds

namespace AcpTask.Campaign

open Library

structure Outcomes where
  completed : Nat := 0
  inProgress : Nat := 0
  prevented : Nat := 0
  uncertain : Nat := 0
  neverEligibleWithinWindow : Nat := 0

def Outcomes.sum (counts : Outcomes) : Nat :=
  counts.completed + counts.inProgress + counts.prevented + counts.uncertain +
    counts.neverEligibleWithinWindow

def Outcomes.count (counts : Outcomes) (effect : Effect) : Outcomes :=
  if effect.status = .completed then
    { counts with completed := counts.completed + 1 }
  else if effect.status.open ∨ effect.status = .claimed then
    { counts with inProgress := counts.inProgress + 1 }
  else if effect.status = .uncertain then
    { counts with uncertain := counts.uncertain + 1 }
  else if effect.status = .neverEligible then
    { counts with
      neverEligibleWithinWindow := counts.neverEligibleWithinWindow + 1 }
  else { counts with prevented := counts.prevented + 1 }

structure Report where
  campaignId : String
  status : CampaignStatus
  audienceTotal : Nat
  outcomes : Outcomes

def report (store : CampaignStore) (key : String × String) :
    Except CampaignError Report := do
  let campaign ← get store key
  let counts := (listEffects store key).foldl Outcomes.count {}
  pure ⟨key.2, campaign.status, counts.sum, counts⟩

inductive Outcome where
  | completed
  | inProgress
  | prevented
  | uncertain
  | neverEligibleWithinWindow
  deriving DecidableEq

def Outcomes.get (counts : Outcomes) : Outcome → Nat
  | .completed => counts.completed
  | .inProgress => counts.inProgress
  | .prevented => counts.prevented
  | .uncertain => counts.uncertain
  | .neverEligibleWithinWindow => counts.neverEligibleWithinWindow

def EffectStatus.outcome : EffectStatus → Outcome
  | .completed => .completed
  | .pending | .deferred | .claimed => .inProgress
  | .prevented | .cancelled => .prevented
  | .uncertain => .uncertain
  | .neverEligible => .neverEligibleWithinWindow

def bucket (store : CampaignStore) (key : String × String)
    (outcome : Outcome) : List Effect :=
  (listEffects store key).filter fun effect =>
    decide (effect.status.outcome = outcome)

variable {store : CampaignStore} {key : String × String}

theorem bucket_unique {effect : Effect}
    (listed : effect ∈ listEffects store key) :
    ∃! outcome, effect ∈ bucket store key outcome := by
  refine ⟨effect.status.outcome, ?_, fun outcome inside => ?_⟩
  · exact List.mem_filter.mpr ⟨listed, decide_eq_true rfl⟩
  · exact (of_decide_eq_true (List.mem_filter.mp inside).2).symm

namespace Outcomes

theorem count_get (counts : Outcomes) (effect : Effect) (outcome : Outcome) :
    (counts.count effect).get outcome = counts.get outcome +
      if effect.status.outcome = outcome then 1 else 0 := by
  unfold count
  cases effect.status <;> cases outcome <;> rfl

theorem count_sum (counts : Outcomes) (effect : Effect) :
    (counts.count effect).sum = counts.sum + 1 := by
  unfold count
  cases effect.status <;>
    simp only [EffectStatus.open, sum, reduceCtorEq, Bool.false_eq_true, or_true,
      true_or, or_self, if_true, if_false] <;>
    omega

theorem foldl_get (counts : Outcomes) (effects : List Effect)
    (outcome : Outcome) :
    (effects.foldl count counts).get outcome = counts.get outcome +
      (effects.filter fun effect =>
        decide (effect.status.outcome = outcome)).length := by
  induction effects generalizing counts with
  | nil => rfl
  | cons effect _ induction =>
      rw [List.foldl_cons, induction, count_get, List.filter_cons]
      by_cases same : effect.status.outcome = outcome
      · rw [if_pos same, if_pos (decide_eq_true same), List.length_cons]
        omega
      · rw [if_neg same, if_neg (by simpa using same), Nat.add_zero]

theorem foldl_sum (counts : Outcomes) (effects : List Effect) :
    (effects.foldl count counts).sum = counts.sum + effects.length := by
  induction effects generalizing counts with
  | nil => rfl
  | cons _ _ induction =>
      rw [List.foldl_cons, induction, count_sum, List.length_cons]
      omega

end Outcomes

theorem report_ok (known : document store key ≠ none) :
    ∃ reported, report store key = .ok reported ∧
      reported.audienceTotal = (listEffects store key).length ∧
      ∀ outcome,
        reported.outcomes.get outcome = (bucket store key outcome).length := by
  cases found : store.campaigns.find? key with
  | none =>
      rw [document, found] at known
      exact absurd rfl known
  | some campaign =>
      refine ⟨⟨key.2, campaign.status,
        ((listEffects store key).foldl Outcomes.count {}).sum,
        (listEffects store key).foldl Outcomes.count {}⟩, ?_, ?_,
        fun outcome => ?_⟩
      · rw [report, get, found]
        rfl
      · rw [Outcomes.foldl_sum]
        exact Nat.zero_add _
      · rw [Outcomes.foldl_get]
        cases outcome <;> exact Nat.zero_add _

/-! Every member that is admitted has an effect, from the moment the campaign is
authorized. -/

def Owed (store : CampaignStore) (test : CohortRow → Bool) : Prop :=
  ∀ row ∈ store.cohort, test row = true →
    ∃ effect ∈ store.effects, effect.key = row.key

def CohortRow.isLate (row : CohortRow) : Bool := decide (row.inclusion = .late)

section Steps

variable {hashing : Hashing} {store later : CampaignStore}

theorem effectKey_of_map {change : Effect → Effect}
    (mapped : later.effects.rows = store.effects.rows.map change)
    (keeps : ∀ row, (change row).key = row.key) {effect : Effect}
    (member : effect ∈ store.effects) :
    ∃ other ∈ later.effects, other.key = effect.key := by
  refine ⟨change effect, ?_, keeps effect⟩
  rw [Table.mem_def, mapped]
  exact List.mem_map_of_mem member

theorem StoreStep.effectKey (step : StoreStep hashing store later)
    {effect : Effect} (member : effect ∈ store.effects) :
    ∃ other ∈ later.effects, other.key = effect.key := by
  cases step with
  | kept keeps =>
      obtain ⟨_, mapped, changes⟩ := keeps.effects
      exact effectKey_of_map mapped (fun row => (changes row).1) member
  | claim _ _ _ _ _ claimed =>
      obtain ⟨_, _, _, _, _, rows⟩ := claimNext_ok claimed
      refine effectKey_of_map rows (fun row => ?_) member
      split <;> rfl
  | create _ _ _ _ _ _ _ _ created =>
      obtain ⟨_, _, _, _, effects, _⟩ := createPreview_ok created
      exact ⟨effect, effects ▸ member, rfl⟩
  | authorize _ _ _ _ authorized =>
      obtain ⟨_, _, _, rows⟩ := authorize_ok authorized
      exact ⟨effect, (mem_of_rows rows).mpr (.inl member), rfl⟩
  | arrive campaign arrival now _ admitted =>
      rw [← admitted]
      rcases addLateAudienceMember_cases store campaign arrival now with
        same | ⟨_, last, result, _, _, _, rows⟩
      · rw [same]
        exact ⟨effect, member, rfl⟩
      · rw [result]
        exact ⟨effect, (mem_of_rows rows).mpr (.inl member), rfl⟩

theorem StoreStep.joins (step : StoreStep hashing store later)
    {row : CohortRow} (member : row ∈ later.cohort) :
    row ∈ store.cohort ∨
      (Campaign.document store row.key.campaign = none ∧ row.isLate = false) ∨
      ∃ effect ∈ later.effects, effect.key = row.key := by
  cases step with
  | kept keeps => exact .inl (keeps.cohort ▸ member)
  | claim _ _ _ _ _ claimed =>
      obtain ⟨_, _, _, _, cohort, _⟩ := claimNext_ok claimed
      exact .inl (cohort ▸ member)
  | create _ _ _ _ _ _ _ _ created =>
      obtain ⟨_, _, absent, _, _, _, rows, excluded⟩ := createPreview_ok created
      rw [List.append_assoc] at rows
      rcases (mem_of_rows rows).mp member with old | new
      · exact .inl old
      · rcases List.mem_append.mp new with included | rejected
        · obtain ⟨_, _, rfl⟩ := List.mem_map.mp included
          exact .inr (.inl ⟨absent, rfl⟩)
        · obtain ⟨_, _, rfl⟩ := excluded row rejected
          exact .inr (.inl ⟨absent, rfl⟩)
  | authorize _ _ _ _ authorized =>
      exact .inl ((authorize_ok authorized).2.1 ▸ member)
  | arrive campaign arrival now _ admitted =>
      rw [← admitted] at member ⊢
      rcases addLateAudienceMember_cases store campaign arrival now with
        same | ⟨_, last, result, _, _, cohort, rows⟩
      · rw [same] at member
        exact .inl member
      · rw [result] at member ⊢
        rcases (mem_of_rows cohort).mp member with old | new
        · exact .inl old
        · rw [List.mem_singleton.mp new]
          exact .inr (.inr ⟨_, (mem_of_rows rows).mpr
            (.inr List.mem_cons_self), rfl⟩)

theorem StoreStep.owed (step : StoreStep hashing store later)
    {test : CohortRow → Bool} (owed : Owed store test)
    (registered : ∀ row, test row = true → row.isLate = true ∨
      Campaign.document store row.key.campaign ≠ none) : Owed later test := by
  intro row member passes
  rcases step.joins member with old | ⟨absent, early⟩ | due
  · obtain ⟨_, stored, same⟩ := owed row old passes
    obtain ⟨other, kept, also⟩ := step.effectKey stored
    exact ⟨other, kept, also.trans same⟩
  · rcases registered row passes with late | known
    · rw [early] at late
      cases late
    · exact absurd absent known
  · exact due

theorem authorize_known {key : String × String} {principalId : String}
    {permitted : Bool} {now : Int}
    (authorized : authorize hashing store key principalId permitted now =
      (.ok (), later)) : document later key ≠ none := by
  rw [(authorize_ok authorized).1, document]
  unfold authorize at authorized
  rw [transaction_ok_iff, bind_eq_ok] at authorized
  obtain ⟨campaign, read, _⟩ := authorized
  unfold get at read
  split at read
  · rename_i found
    rw [found]
    exact Option.some_ne_none _
  · cases read

theorem authorize_owed {key : String × String} {principalId : String}
    {permitted : Bool} {now : Int} (late : Owed store CohortRow.isLate)
    (authorized : authorize hashing store key principalId permitted now =
      (.ok (), later)) : Owed later (CohortRow.admittedTo key) := by
  obtain ⟨_, cohort, notBefore, rows⟩ := authorize_ok authorized
  intro row member admitted
  rw [cohort] at member
  rw [CohortRow.admittedTo, Bool.and_eq_true, decide_eq_true_iff] at admitted
  obtain ⟨_, _, contact, inclusion⟩ := row
  obtain ⟨named, counts⟩ := admitted
  cases inclusion with
  | excluded => cases counts
  | late =>
      obtain ⟨effect, stored, same⟩ := late _ member rfl
      exact ⟨effect, (mem_of_rows rows).mpr (.inl stored), same⟩
  | included =>
      subst named
      refine ⟨contact.effect _ notBefore now, (mem_of_rows rows).mpr
        (.inr (List.mem_map_of_mem ?_)), rfl⟩
      refine List.mem_map.mpr ⟨_, List.mem_filter.mpr ⟨member, ?_⟩, rfl⟩
      simp

end Steps

theorem late_owed_run (config : WorkerConfig) (actions : List CampaignAction) :
    Reads (campaignRun config actions) ∧
      Owed (campaignRun config actions).store CohortRow.isLate :=
  run_invariant (campaignStep config)
    (fun system => Reads system ∧ Owed system.store CohortRow.isLate)
    (fun _ action both =>
      have step := campaignStep_systemStep config both.1 action
      ⟨step.reads both.1, step.store.owed both.2 fun _ late => .inl late⟩)
    ⟨reads_initial, fun _ member => by cases member⟩ actions

theorem owed_run (config : WorkerConfig) {system : CampaignSystem}
    (reads : Reads system) (known : document system.store key ≠ none)
    (owed : Owed system.store (CohortRow.admittedTo key))
    (actions : List CampaignAction) :
    document (run (campaignStep config) system actions).store key ≠ none ∧
      Owed (run (campaignStep config) system actions).store
        (CohortRow.admittedTo key) :=
  (run_invariant (campaignStep config)
    (fun system => Reads system ∧ document system.store key ≠ none ∧
      Owed system.store (CohortRow.admittedTo key))
    (fun before action ⟨reads, known, owed⟩ => by
      have step := campaignStep_systemStep config reads action
      refine ⟨step.reads reads, ?_, step.store.owed owed fun row admitted => ?_⟩
      · obtain ⟨bound, found⟩ := Option.ne_none_iff_exists'.mp known
        rw [step.store.document found]
        exact Option.some_ne_none bound
      · rw [CohortRow.admittedTo, Bool.and_eq_true, decide_eq_true_iff]
          at admitted
        rw [admitted.1]
        exact .inr known)
    ⟨reads, known, owed⟩ actions).2

theorem length_listEffects_eq (bounded : Bounded store)
    (owed : Owed store (CohortRow.admittedTo key)) :
    (listEffects store key).length = admittedCount store key := by
  apply Nat.le_antisymm (length_listEffects_le bounded key)
  rw [admittedCount, List.countP_eq_length_filter,
    ← List.length_map CohortRow.key, ← List.length_map Effect.key]
  refine List.Subperm.length_le (List.Nodup.subperm ?_ ?_)
  · exact store.cohort.primaryKey.sublist
      (List.Sublist.map _ List.filter_sublist)
  · intro rowKey member
    obtain ⟨row, inside, rfl⟩ := List.mem_map.mp member
    obtain ⟨stored, admitted⟩ := List.mem_filter.mp inside
    obtain ⟨effect, due, same⟩ := owed row stored admitted
    refine List.mem_map.mpr ⟨effect, List.mem_filter.mpr ⟨due, ?_⟩, same⟩
    rw [CohortRow.admittedTo, Bool.and_eq_true] at admitted
    rw [same]
    exact admitted.1

/-- In every state reached after a campaign was authorized, its report counts
each of its effects in one bucket, and as many as the cohort admits: the members
it included and those that arrived late. -/
theorem report_conserved (config : WorkerConfig)
    (earlier later : List CampaignAction) (key : String × String)
    (principalId : String) (permitted : Bool) (now : Int)
    (authorized : (authorize config.hashing (campaignRun config earlier).store
      key principalId permitted now).1 = .ok ()) :
    let store := (campaignRun config (earlier ++
      .authorize key principalId permitted now :: later)).store
    ∃ reported, report store key = .ok reported ∧
      reported.audienceTotal = (cohortMembers store key .included).length +
        (cohortMembers store key .late).length ∧
      (∀ outcome, reported.outcomes.get outcome =
        (bucket store key outcome).length) ∧
      (∀ effect ∈ listEffects store key,
        ∃! outcome, effect ∈ bucket store key outcome) ∧
      ∀ row ∈ store.cohort, row.admittedTo key = true →
        ∃! effect, effect ∈ listEffects store key ∧ effect.key = row.key := by
  intro store
  obtain ⟨reads, late⟩ := late_owed_run config earlier
  have done : authorize config.hashing (campaignRun config earlier).store key
      principalId permitted now = (.ok (), (campaignStep config
        (campaignRun config earlier)
        (.authorize key principalId permitted now)).store) :=
    Prod.ext authorized rfl
  have opened := authorize_owed late done
  have step := campaignStep_systemStep config reads
    (.authorize key principalId permitted now)
  obtain ⟨known, owed⟩ := owed_run config (step.reads reads)
    (authorize_known done) opened later
  have reached : run (campaignStep config) (campaignStep config
      (campaignRun config earlier) (.authorize key principalId permitted now))
      later = campaignRun config (earlier ++
        .authorize key principalId permitted now :: later) :=
    (run_append _ _ earlier (.authorize key principalId permitted now ::
      later)).symm
  rw [reached] at known owed
  obtain ⟨reported, succeeds, total, counts⟩ := report_ok known
  refine ⟨reported, succeeds, ?_, counts, fun effect => bucket_unique,
    fun row member admitted => ?_⟩
  · rw [total, length_listEffects_eq (bounded_run config _).2 owed,
      ← length_cohortMembers, List.length_append]
  · obtain ⟨effect, stored, same⟩ := owed row member admitted
    rw [CohortRow.admittedTo, Bool.and_eq_true] at admitted
    refine ⟨effect, ⟨List.mem_filter.mpr ⟨stored, ?_⟩, same⟩, ?_⟩
    · rw [same]
      exact admitted.1
    · intro other also
      exact Table.eq_of_key (List.mem_filter.mp also.1).1 stored
        (also.2.trans same.symm)

theorem report_conserved_late_arrival :
    let actions : List CampaignAction :=
      [.createPreview sampleKey "owner"
          { sampleDefinition with
            audienceCeiling := 2, includeLateArrivals := true }
          [sampleMember] [] 1 600 0,
        .authorize sampleKey "owner" true 0,
        .addLateAudienceMember 0 sampleKey
          { sampleMember with contactId := "other" },
        .advance 0 .proceed 1]
    ∃ reported, report (campaignRun sampleConfig actions).store sampleKey =
      .ok reported ∧ reported.audienceTotal = 2 := by
  intro actions
  obtain ⟨reported, succeeds, total, _⟩ := report_conserved sampleConfig
    (actions.take 1) (actions.drop 2) sampleKey "owner" true 0
    (by decide +kernel)
  refine ⟨reported, succeeds, total.trans ?_⟩
  decide +kernel

end AcpTask.Campaign
