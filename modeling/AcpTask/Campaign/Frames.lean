import AcpTask.Campaign.Halt

namespace AcpTask.Campaign

open Library

/-! What an action leaves of a campaign's document, of the cohort, and of the
claims there are. -/

def CampaignRow.document (row : CampaignRow) :
    Definition × String × String × String :=
  (row.definition, row.definitionHash, row.cohortHash, row.envelopeHash)

def document (store : CampaignStore) (key : String × String) :
    Option (Definition × String × String × String) :=
  (store.campaigns.find? key).map CampaignRow.document

/-- What every statement but five keeps: the documents, the cohort, and the
effects, none of which it claims. -/
structure Kept (store later : CampaignStore) : Prop where
  documents : ∀ key, document later key = document store key
  cohort : later.cohort = store.cohort
  effects : ∃ change : Effect → Effect,
    later.effects.rows = store.effects.rows.map change ∧
    ∀ row, (change row).key = row.key ∧
      ((change row).status = .claimed → row.status = .claimed)

namespace Kept

variable {store later last : CampaignStore}

theorem refl (store : CampaignStore) : Kept store store where
  documents := fun _ => rfl
  cohort := rfl
  effects := ⟨id, (List.map_id _).symm, fun _ => ⟨rfl, id⟩⟩

theorem trans (first : Kept store later) (second : Kept later last) :
    Kept store last where
  documents := fun key => (second.documents key).trans (first.documents key)
  cohort := second.cohort.trans first.cohort
  effects := by
    obtain ⟨change, mapped, keeps⟩ := first.effects
    obtain ⟨next, mappedNext, keepsNext⟩ := second.effects
    refine ⟨next ∘ change, ?_, fun row => ⟨?_, fun claimed => ?_⟩⟩
    · rw [mappedNext, mapped, List.map_map]
    · exact (keepsNext (change row)).1.trans (keeps row).1
    · exact (keeps row).2 ((keepsNext (change row)).2 claimed)

theorem of_campaigns {condition : CampaignRow → Bool}
    {assign : CampaignRow → CampaignRow}
    {keepsKey : ∀ row, (assign row).key = row.key}
    (keepsDocument : ∀ row, (assign row).document = row.document) :
    Kept store { store with
      campaigns := store.campaigns.updateWhere condition assign keepsKey } where
  documents := by
    intro key
    simp only [document, Table.find?_updateWhere, Option.map_map]
    congr 1
    funext row
    simp only [Function.comp_apply]
    split
    · exact keepsDocument row
    · rfl
  cohort := rfl
  effects := ⟨id, (List.map_id _).symm, fun _ => ⟨rfl, id⟩⟩

theorem of_effects {condition : Effect → Bool} {assign : Effect → Effect}
    {keepsKey : ∀ row, (assign row).key = row.key}
    (unclaims : ∀ row, condition row = true →
      (assign row).status = .claimed → row.status = .claimed) :
    Kept store { store with
      effects := store.effects.updateWhere condition assign keepsKey } where
  documents := fun _ => rfl
  cohort := rfl
  effects := by
    refine ⟨_, rfl, fun row => ?_⟩
    split
    · rename_i selected
      exact ⟨keepsKey row, unclaims row selected⟩
    · exact ⟨rfl, id⟩

variable (key : String × String)

theorem setStatus (status : CampaignStatus) (now : Int) :
    Kept store (setStatus store key status now) :=
  .of_campaigns (fun _ => by rfl)

theorem closeOpenEffects {key : String × String} {status : EffectStatus}
    (unclaimed : status ≠ .claimed) (reason : String) (now : Int) :
    Kept store (closeOpenEffects store key status reason now) :=
  .of_effects (fun _ _ claimed => absurd claimed unclaimed)

theorem recoverExpiredClaims (now : Int) :
    Kept store (recoverExpiredClaims store now) :=
  .of_effects (fun _ _ claimed => by cases claimed)

theorem reconcileEffect (key : EffectKey) (verdict : String)
    (providerId : Option String) (now : Int) :
    Kept store (reconcileEffect store key verdict providerId now).2 := by
  apply Kept.of_effects
  intro row _ claimed
  dsimp only at claimed
  split at claimed <;> cases claimed

theorem completeEffect (effect : Effect) (completion : Completion)
    (now : Int) :
    Kept store (completeEffect store effect completion now).2 := by
  apply Kept.of_effects
  intro row selected _
  simp only [Bool.and_eq_true, beq_iff_eq] at selected
  exact selected.2.1.1

theorem requireReaffirmation (reaffirmWithinSeconds now : Int) :
    Kept store (requireReaffirmation store key reaffirmWithinSeconds now) :=
  .of_campaigns (fun _ => by rfl)

theorem reaffirm (principalId : String) (now : Int) :
    Kept store (reaffirm store key principalId now).2 :=
  .of_campaigns (fun _ => by rfl)

theorem invalidate (now : Int) :
    Kept store (invalidate store key now) :=
  (setStatus key _ now).trans (closeOpenEffects (by decide) _ now)

theorem expire (now : Int) :
    Kept store (expire store key now) :=
  (setStatus key _ now).trans (closeOpenEffects (by decide) _ now)

theorem stop (reason : String) (now : Int) :
    Kept store (stop store key reason now) :=
  (setStatus key _ now).trans (closeOpenEffects (by decide) _ now)

theorem drainRemaining (reason : String) (now : Int) :
    Kept store (drainRemaining store key reason now) :=
  (setStatus key _ now).trans (closeOpenEffects (by decide) _ now)

end Kept

inductive StoreStep (hashing : Hashing) (store later : CampaignStore) :
    Prop where
  | kept (keeps : Kept store later)
  | claim (workerId : String) (now leaseSeconds : Int)
      (scope : Option (String × String)) (effect : Effect)
      (claimed : claimNext store workerId now leaseSeconds scope =
        (some effect, later))
  | create (key : String × String) (principalId : String)
      (definition : Definition) (audience : List Member)
      (exclusions : List Exclusion)
      (estimatedSpendMicros approvalTtlSeconds now : Int)
      (created : createPreview hashing store key principalId definition
        audience exclusions estimatedSpendMicros approvalTtlSeconds now =
          (.ok (), later))
  | authorize (key : String × String) (principalId : String)
      (permitted : Bool) (now : Int)
      (authorized : authorize hashing store key principalId permitted now =
        (.ok (), later))
  | arrive (campaign : CampaignRow) (member : Member) (now : Int)
      (known : document store campaign.key = some campaign.document)
      (admitted : (addLateAudienceMember store campaign member now).2 = later)

def Phase.Known (store : CampaignStore) : Phase → Prop
  | .admitting campaign _ =>
      document store campaign.key = some campaign.document
  | _ => True

def Reads (system : CampaignSystem) : Prop :=
  ∀ process, (system.processes process).Known system.store

structure SystemStep (hashing : Hashing) (system next : CampaignSystem) :
    Prop where
  store : StoreStep hashing system.store next.store
  processes : ∃ process phase, phase.Known system.store ∧
    next.processes = Function.update system.processes process phase

section Steps

variable {config : WorkerConfig} {system : CampaignSystem} {process : Nat}
  {phase : Phase} {store : CampaignStore}

theorem SystemStep.commit
    (step : StoreStep config.hashing system.store store)
    (known : phase.Known system.store) :
    SystemStep config.hashing system ((system.write store).move process
      phase) where
  store := step
  processes := ⟨process, phase, known, rfl⟩

theorem SystemStep.log {event : CampaignEvent}
    (step : StoreStep config.hashing system.store store)
    (known : phase.Known system.store) :
    SystemStep config.hashing system
      (((system.write store).log event).move process phase) where
  store := step
  processes := ⟨process, phase, known, rfl⟩

theorem SystemStep.move (known : phase.Known system.store) :
    SystemStep config.hashing system (system.move process phase) where
  store := .kept (.refl _)
  processes := ⟨process, phase, known, rfl⟩

theorem SystemStep.write (reads : Reads system)
    (step : StoreStep config.hashing system.store store) :
    SystemStep config.hashing system (system.write store) where
  store := step
  processes := ⟨0, system.processes 0, reads 0,
    (Function.update_eq_self ..).symm⟩

theorem SystemStep.stay (reads : Reads system) :
    SystemStep config.hashing system system :=
  SystemStep.write reads (.kept (.refl _))

variable {key : String × String}

theorem SystemStep.halt (keeps : Kept system.store store)
    (known : phase.Known system.store) :
    SystemStep config.hashing system
      ((system.halt key store).move process phase) := by
  unfold CampaignSystem.halt
  split
  · exact .log (.kept keeps) known
  · exact .commit (.kept keeps) known

theorem SystemStep.start (reads : Reads system)
    {next : CampaignRow → Option Phase}
    (known : ∀ row phase, system.store.campaigns.find? key = some row →
      next row = some phase → phase.Known system.store) :
    SystemStep config.hashing system (system.start process key next) := by
  unfold CampaignSystem.start
  split
  · rename_i phase _ chosen
    obtain ⟨row, found, begun⟩ := Option.bind_eq_some_iff.mp chosen
    exact .move (known row phase found begun)
  · exact .stay reads

theorem Phase.known_of_admits (admits : phase.admits = false) :
    phase.Known store := by
  cases phase with
  | admitting => cases admits
  | _ => trivial

theorem executeStatement_systemStep {rest : List Statement} (now : Int)
    (statement : Statement) :
    SystemStep config.hashing system
      (executeStatement system process key rest now statement) := by
  cases statement with
  | setStatus status =>
      exact .commit (.kept (.setStatus key status now)) trivial
  | drainRemaining reason =>
      exact .commit (.kept (.drainRemaining key reason now)) trivial
  | finalize =>
      simp only [executeStatement]
      split <;> exact .move trivial
  | finalizeStatus =>
      simp only [executeStatement]
      split
      · exact .move trivial
      · split <;> exact .move trivial

end Steps

variable {system : CampaignSystem}

theorem advance_systemStep (config : WorkerConfig) (reads : Reads system)
    (process : Nat) (answer : Answer) (now : Int) :
    SystemStep config.hashing system
      (advance config system process answer now) := by
  cases advance_advanced config system process answer now with
  | stay same =>
      rw [same]
      exact .stay reads
  | move phase _ admits equal =>
      rw [equal]
      exact .move (Phase.known_of_admits admits)
  | write writes =>
      unfold advance
      generalize held : system.processes process = phase at writes ⊢
      cases writes with
      | changed key => exact .halt (.invalidate key now) trivial
      | unentitled key =>
          dsimp only
          split
          · exact .halt (.requireReaffirmation key _ now) trivial
          · exact .commit (.kept (.requireReaffirmation key _ now)) trivial
      | overdue tick key => exact .halt (.expire key tick) trivial
      | halting key => exact .halt (.stop key _ now) trivial
      | reviving => exact .commit (.kept (.setStatus _ _ now)) trivial
      | ready =>
          dsimp only
          split
          · exact .move trivial
          · rename_i effect store claimed
            exact .log (.claim _ _ _ _ effect claimed) trivial
      | cleared | dispatching => exact .log (.kept (.refl _)) trivial
      | settling _ effect completion =>
          exact .commit (.kept (.completeEffect effect completion now)) trivial
      | finishing => exact executeStatement_systemStep now _
      | pausing key => exact .halt (.setStatus key _ now) trivial
      | resuming key => exact .log (.kept (.setStatus key _ now)) trivial
      | reaffirming key principalId =>
          dsimp only
          split
          · exact .log (.kept (.reaffirm key principalId now)) trivial
          · exact .commit (.kept (.reaffirm key principalId now)) trivial
      | admitting campaign member =>
          have known := reads process
          rw [held] at known
          exact .commit (.arrive campaign member now known rfl) trivial

section Additions

variable {store later : CampaignStore}

theorem insertCohorts_ok {Item : Type} {rowOf : Item → CohortRow}
    {items : List Item}
    (filled : items.foldlM (fun store item =>
      insertCohort store (rowOf item)) store = .ok later) :
    later.cohort.rows = store.cohort.rows ++ items.map rowOf ∧
      later.campaigns = store.campaigns ∧ later.effects = store.effects := by
  induction items generalizing store with
  | nil =>
      cases filled
      exact ⟨(List.append_nil _).symm, rfl, rfl⟩
  | cons item rest induction =>
      rw [List.foldlM_cons, bind_eq_ok] at filled
      obtain ⟨middle, inserted, finished⟩ := filled
      obtain ⟨rows, campaigns, effects⟩ := induction finished
      have frame := insertCohort_frame inserted
      have grown : middle.cohort.rows =
          store.cohort.rows ++ [rowOf item] := by
        unfold insertCohort at inserted
        split at inserted
        · rename_i cohort success
          cases inserted
          exact (Table.insert?_eq_some_iff.mp success).2
        · cases inserted
      refine ⟨?_, campaigns.trans frame.1, effects.trans frame.2⟩
      rw [rows, grown, List.append_assoc, List.map_cons, List.singleton_append]

theorem insertExclusions_rows {Item : Type} (rowOf : Item → CohortRow)
    (items : List Item) (store : CampaignStore) :
    ∃ added : List CohortRow,
      (items.foldl (fun store item =>
          insertCohortOrIgnore store (rowOf item)) store).cohort.rows =
        store.cohort.rows ++ added ∧
      ∀ row ∈ added, ∃ item ∈ items, row = rowOf item := by
  induction items generalizing store with
  | nil => exact ⟨[], (List.append_nil _).symm, fun _ member => by cases member⟩
  | cons item rest induction =>
      obtain ⟨added, rows, from'⟩ :=
        induction (insertCohortOrIgnore store (rowOf item))
      have later : ∀ row ∈ added, ∃ other ∈ item :: rest, row = rowOf other :=
        fun row member => by
          obtain ⟨other, inside, same⟩ := from' row member
          exact ⟨other, List.mem_cons_of_mem item inside, same⟩
      rw [List.foldl_cons, rows]
      unfold insertCohortOrIgnore
      split
      · rename_i cohort success
        refine ⟨rowOf item :: added, ?_, ?_⟩
        · rw [(Table.insert?_eq_some_iff.mp success).2, List.append_assoc]
          rfl
        · intro row member
          rcases List.mem_cons.mp member with rfl | inside
          · exact ⟨item, List.mem_cons_self, rfl⟩
          · exact later row inside
      · exact ⟨added, rfl, later⟩

theorem insertEffects_ok {Item : Type} {rowOf : Item → Effect}
    {items : List Item}
    (filled : items.foldlM (fun store item =>
      insertEffect store (rowOf item)) store = .ok later) :
    later.effects.rows = store.effects.rows ++ items.map rowOf ∧
      later.campaigns = store.campaigns ∧ later.cohort = store.cohort := by
  induction items generalizing store with
  | nil =>
      cases filled
      exact ⟨(List.append_nil _).symm, rfl, rfl⟩
  | cons item rest induction =>
      rw [List.foldlM_cons, bind_eq_ok] at filled
      obtain ⟨middle, inserted, finished⟩ := filled
      obtain ⟨rows, campaigns, cohort⟩ := induction finished
      unfold insertEffect at inserted
      split at inserted
      · rename_i effects success
        cases inserted
        refine ⟨?_, campaigns, cohort⟩
        rw [rows, (Table.insert?_eq_some_iff.mp success).2,
          List.append_assoc, List.map_cons, List.singleton_append]
      · cases inserted

def previewed (hashing : Hashing) (definition : Definition)
    (audience : List Member) : Definition × String × String × String :=
  let cohortHash := hashing.cohort (cohortProof (distinctMembers audience))
  (definition.sorted, hashing.definition definition.sorted, cohortHash,
    hashing.envelopeOf definition cohortHash)

theorem createPreview_ok {hashing : Hashing} {key : String × String}
    {principalId : String} {definition : Definition} {audience : List Member}
    {exclusions : List Exclusion}
    {estimatedSpendMicros approvalTtlSeconds now : Int}
    (created : createPreview hashing store key principalId definition audience
      exclusions estimatedSpendMicros approvalTtlSeconds now =
        (.ok (), later)) :
    validateDefinition definition = .ok () ∧
    ((distinctMembers audience).length : Int) ≤ definition.audienceCeiling ∧
    document store key = none ∧
    (∀ other, document later other =
      if key = other then some (previewed hashing definition audience)
      else document store other) ∧
    later.effects = store.effects ∧
    ∃ added : List CohortRow,
      later.cohort.rows = store.cohort.rows ++
        (distinctMembers audience).map
          (fun member => ⟨key.1, key.2, member, .included⟩) ++ added ∧
      ∀ row ∈ added, ∃ exclusion ∈ exclusions, row =
        ⟨key.1, key.2, exclusion.member definition,
          .excluded exclusion.reason⟩ := by
  unfold createPreview at created
  rw [transaction_ok_iff] at created
  simp only [bind_eq_ok, pure_eq_ok, Prod.mk.injEq, require_eq_ok,
    decide_eq_true_iff] at created
  obtain ⟨_, valid, _, within', opened, inserted, filled, finished, -, rfl⟩ :=
    created
  obtain ⟨rows, campaigns, effects⟩ := insertCohorts_ok finished
  obtain ⟨added, addedRows, from'⟩ := insertExclusions_rows
    (fun exclusion : Exclusion => (⟨key.1, key.2, exclusion.member definition,
      .excluded exclusion.reason⟩ : CohortRow)) exclusions filled
  have frame := insertExclusions_frame
    (fun exclusion : Exclusion => (⟨key.1, key.2, exclusion.member definition,
      .excluded exclusion.reason⟩ : CohortRow)) exclusions filled
  unfold insertCampaign at inserted
  split at inserted
  · rename_i table success
    cases inserted
    refine ⟨valid, within', ?_, fun other => ?_, frame.2.trans effects,
      added, ?_, from'⟩
    · have absent := (Table.insert?_eq_some_iff.mp success).1
      simp only [document]
      rw [show store.campaigns.find? key = none from absent]
      rfl
    · simp only [document, frame.1, campaigns, Table.find?_of_insert? success]
      split
      · rfl
      · rfl
    · rw [addedRows, rows]
  · cases inserted

theorem authorize_ok {hashing : Hashing} {key : String × String}
    {principalId : String} {permitted : Bool} {now : Int}
    (authorized : authorize hashing store key principalId permitted now =
      (.ok (), later)) :
    (∀ other, document later other = document store other) ∧
    later.cohort = store.cohort ∧ ∃ notBefore,
    later.effects.rows = store.effects.rows ++
      (cohortMembers store key .included).map
        fun member => member.effect key notBefore now := by
  unfold authorize at authorized
  rw [transaction_ok_iff] at authorized
  simp only [bind_eq_ok, pure_eq_ok, Prod.mk.injEq, require_eq_ok, beq_iff_eq]
    at authorized
  obtain ⟨campaign, read, _, _, _, _, _, _, _, bound, _, _, filled, finished,
    -, rfl⟩ := authorized
  obtain ⟨rows, campaigns, cohort⟩ := insertEffects_ok finished
  rw [get] at read
  split at read
  · rename_i row found
    cases read
    refine ⟨fun other => ?_, cohort, _, rows⟩
    simp only [document, campaigns, updateCampaign, Table.find?_updateWhere,
      Option.map_map]
    cases inside : store.campaigns.find? other with
    | none => rfl
    | some stored =>
        simp only [Option.map_some, Function.comp_apply]
        split
        · rename_i named
          have same : stored = campaign := by
            have sameKey := of_decide_eq_true named
            rw [(Table.find?_eq_some_iff.mp inside).2] at sameKey
            rw [sameKey, found] at inside
            exact (Option.some.inj inside).symm
          rw [same]
          simp only [CampaignRow.document, bound]
        · rfl
  · cases read

theorem addLateAudienceMember_cases (store : CampaignStore)
    (campaign : CampaignRow) (member : Member) (now : Int) :
    (addLateAudienceMember store campaign member now).2 = store ∨
    ∃ notBefore later,
      (addLateAudienceMember store campaign member now).2 = later ∧
      ((cohortMembers store campaign.key .included ++
          cohortMembers store campaign.key .late).length : Int) <
        campaign.definition.audienceCeiling ∧
      later.campaigns = store.campaigns ∧
      later.cohort.rows = store.cohort.rows ++
        [⟨campaign.key.1, campaign.key.2, member, .late⟩] ∧
      later.effects.rows = store.effects.rows ++
        [member.effect campaign.key notBefore now] := by
  simp only [addLateAudienceMember]
  split
  · exact .inl rfl
  · rename_i below
    split
    · exact .inl rfl
    · rename_i cohort admitted
      have rows := (Table.insert?_eq_some_iff.mp admitted).2
      unfold transaction
      split
      · rename_i value later committed
        simp only [bind_eq_ok, pure_eq_ok, Prod.mk.injEq] at committed
        obtain ⟨_, inserted, _, rfl⟩ := committed
        unfold insertEffect at inserted
        split at inserted
        · rename_i effects success
          cases inserted
          exact .inr ⟨_, _, rfl, not_le.mp below, rfl, rows,
            (Table.insert?_eq_some_iff.mp success).2⟩
        · cases inserted
      · exact .inl rfl

theorem claimNext_ok {workerId : String} {now leaseSeconds : Int}
    {scope : Option (String × String)} {effect : Effect}
    (claimed : claimNext store workerId now leaseSeconds scope =
      (some effect, later)) :
    ∃ campaign, store.campaigns.find? effect.key.campaign = some campaign ∧
      (claimedCount store campaign.key : Int) <
        campaign.definition.concurrency ∧
      (∀ other, document later other = document store other) ∧
      later.cohort = store.cohort ∧
      later.effects.rows = store.effects.rows.map fun row =>
        if (decide (row.key = effect.key) && row.status.open) = true then
          claimedEffect workerId now leaseSeconds row
        else row := by
  unfold claimNext at claimed
  split at claimed
  · cases claimed
  · rename_i campaign row chosen
    cases claimed
    have room := List.find?_some (show List.find? _ _ = _ from chosen)
    rw [decide_eq_true_iff] at room
    obtain ⟨_, _, _, found⟩ := chooseClaim_some chosen
    refine ⟨campaign, found, room, fun other => ?_, rfl, rfl⟩
    exact (Kept.setStatus campaign.key .running now).documents other

end Additions

theorem StoreStep.document {hashing : Hashing} {store later : CampaignStore}
    (step : StoreStep hashing store later) {key : String × String}
    {bound : Definition × String × String × String}
    (found : document store key = some bound) :
    Campaign.document later key = some bound := by
  cases step with
  | kept keeps => rw [keeps.documents, found]
  | claim _ _ _ _ _ claimed =>
      obtain ⟨_, _, _, documents, _⟩ := claimNext_ok claimed
      rw [documents, found]
  | create _ _ _ _ _ _ _ _ created =>
      obtain ⟨_, _, absent, documents, _⟩ := createPreview_ok created
      rw [documents, if_neg, found]
      rintro rfl
      rw [found] at absent
      cases absent
  | authorize _ _ _ _ authorized => rw [(authorize_ok authorized).1, found]
  | arrive campaign member now _ admitted =>
      rw [← admitted, Campaign.document,
        (addLateAudienceMember_adds campaign member now).1]
      exact found

theorem Phase.Known.later {hashing : Hashing} {store later : CampaignStore}
    {phase : Phase} (known : phase.Known store)
    (step : StoreStep hashing store later) : phase.Known later := by
  cases phase with
  | admitting => exact step.document known
  | _ => trivial

theorem SystemStep.reads {hashing : Hashing} {next : CampaignSystem}
    (step : SystemStep hashing system next) (reads : Reads system) :
    Reads next := by
  obtain ⟨process, _, known, processes⟩ := step.processes
  rw [Reads, processes]
  exact (Function.forall_update_iff _ fun _ => Phase.Known next.store).mpr
    ⟨known.later step.store, fun other _ => (reads other).later step.store⟩

theorem campaignStep_systemStep (config : WorkerConfig) (reads : Reads system)
    (action : CampaignAction) :
    SystemStep config.hashing system (campaignStep config system action) := by
  cases action with
  | beginTick _ now =>
      simp only [campaignStep]
      split
      · exact .commit (.kept (.recoverExpiredClaims now)) trivial
      · exact .stay reads
  | advance process answer now =>
      exact advance_systemStep config reads process answer now
  | crash => exact .move trivial
  | recoverExpiredClaims now =>
      exact .write reads (.kept (.recoverExpiredClaims now))
  | createPreview =>
      refine .write reads (transaction_preserves (.kept (.refl _))
        fun _ _ committed => ?_)
      exact .create _ _ _ _ _ _ _ _ (transaction_ok_iff.mpr committed)
  | authorize =>
      refine .write reads (transaction_preserves (.kept (.refl _))
        fun _ _ committed => ?_)
      exact .authorize _ _ _ _ (transaction_ok_iff.mpr committed)
  | assertEnvelope | pause | resume | reaffirm =>
      apply SystemStep.start reads
      intro row phase _ chosen
      split at chosen <;> cases chosen
      trivial
  | expire =>
      apply SystemStep.start reads
      intro row phase _ chosen
      obtain ⟨_, _, chosen⟩ := Option.bind_eq_some_iff.mp chosen
      split at chosen <;> cases chosen
      trivial
  | stop key reason now =>
      simp only [campaignStep, CampaignSystem.halt]
      split
      · exact ⟨.kept (.stop key reason now), 0, system.processes 0, reads 0,
          (Function.update_eq_self ..).symm⟩
      · exact .write reads (.kept (.stop key reason now))
  | reconcile _ key verdict providerId now =>
      simp only [campaignStep]
      split
      · split
        · exact .commit
            (.kept (.reconcileEffect key verdict providerId now)) trivial
        · exact .stay reads
      · exact .stay reads
  | addLateAudienceMember _ key =>
      apply SystemStep.start reads
      intro row phase found chosen
      split at chosen <;> cases chosen
      have sameKey := (Table.find?_eq_some_iff.mp found).2
      simp only [Phase.Known, Campaign.document]
      rw [show row.key = key from sameKey, found]
      rfl

theorem reads_initial : Reads CampaignSystem.initial := fun _ => trivial

end AcpTask.Campaign
