import AcpTask.Campaign.AtMostOnce

namespace AcpTask.Campaign

open Library

/-! A campaign is halted from the stop, pause, expiry or invalidation that
commits on it to the resume or reaffirmation that commits on it. -/

def halted (key : String × String) : List CampaignEvent → Bool
  | [] => false
  | .halted other :: older => decide (other = key) || halted key older
  | .resumed other :: older => !decide (other = key) && halted key older
  | _ :: older => halted key older

def ClaimAdmissible (event : CampaignEvent) (older : List CampaignEvent) :
    Prop :=
  ∀ key, event = .claimed key → halted key.campaign older = false

structure HaltHonoured (system : CampaignSystem) : Prop where
  claims : Lawful ClaimAdmissible system.events
  statuses : ∀ key row, halted key system.events = true →
    system.store.campaigns.find? key = some row → row.status.claimable = false

def CampaignStatus.startable (status : CampaignStatus) : Bool :=
  status.claimable || status == .audiencePreviewed

def StatusesMove (reopened : Option (String × String))
    (campaigns later : Table CampaignRow CampaignRow.key) : Prop :=
  ∀ key row, campaigns.find? key = some row →
    ∃ next, later.find? key = some next ∧
      (next.status.startable = true →
        row.status.startable = true ∨ reopened = some key)

namespace StatusesMove

variable {reopened : Option (String × String)}
  {campaigns later : Table CampaignRow CampaignRow.key}

theorem of_find? (kept : ∀ key row, campaigns.find? key = some row →
      later.find? key = some row) : StatusesMove reopened campaigns later :=
  fun key row found => ⟨row, kept key row found, .inl⟩

theorem refl (campaigns : Table CampaignRow CampaignRow.key) :
    StatusesMove reopened campaigns campaigns :=
  of_find? fun _ _ found => found

theorem update {condition : CampaignRow → Bool}
    {assign : CampaignRow → CampaignRow}
    (keepsKey : ∀ row, (assign row).key = row.key)
    (moves : ∀ row, campaigns.find? row.key = some row →
      condition row = true → (assign row).status.startable = true →
        row.status.startable = true ∨ reopened = some row.key) :
    StatusesMove reopened campaigns
      (campaigns.updateWhere condition assign keepsKey) := by
  intro key row found
  obtain ⟨_, rfl⟩ := Table.find?_eq_some_iff.mp found
  rw [Table.find?_updateWhere, found, Option.map_some]
  refine ⟨_, rfl, ?_⟩
  split
  · rename_i selected
    exact moves row found selected
  · exact .inl

end StatusesMove

section Statements

variable {reopened : Option (String × String)} {store : CampaignStore}

theorem setStatus_closes {status : CampaignStatus}
    (closes : status.startable = false) (key : String × String) (now : Int) :
    StatusesMove reopened store.campaigns
      (setStatus store key status now).campaigns := by
  apply StatusesMove.update (fun _ => by rfl)
  intro row _ _ starts
  rw [closes] at starts
  cases starts

theorem setStatus_reopens (status : CampaignStatus) (key : String × String)
    (now : Int) :
    StatusesMove (some key) store.campaigns
      (setStatus store key status now).campaigns := by
  apply StatusesMove.update (fun _ => by rfl)
  intro row _ selected _
  exact .inr (congrArg some (of_decide_eq_true selected).symm)

theorem requireReaffirmation_closes (key : String × String)
    (window now : Int) :
    StatusesMove reopened store.campaigns
      (requireReaffirmation store key window now).campaigns := by
  apply StatusesMove.update (fun _ => by rfl)
  intro row _ _ starts
  cases starts

theorem reaffirm_reopens (key : String × String) (principalId : String)
    (now : Int) :
    StatusesMove (some key) store.campaigns
      (reaffirm store key principalId now).2.campaigns := by
  apply StatusesMove.update (fun _ => by rfl)
  intro row _ selected _
  simp only [Bool.and_eq_true, decide_eq_true_eq] at selected
  exact .inr (congrArg some selected.1.symm)

theorem reaffirm_missed {key : String × String} {principalId : String}
    {now : Int} (missed : (reaffirm store key principalId now).1 = false) :
    StatusesMove reopened store.campaigns
      (reaffirm store key principalId now).2.campaigns := by
  apply StatusesMove.update (fun _ => by rfl)
  intro row found selected _
  simp only [Bool.and_eq_true, decide_eq_true_eq, beq_iff_eq] at selected
  rw [selected.1] at found
  simp [reaffirm, found, selected.2] at missed

variable {later : CampaignStore}

theorem authorize_statuses (hashing : Hashing) (key : String × String)
    (principalId : String) (permitted : Bool) (now : Int) :
    StatusesMove reopened store.campaigns
      (authorize hashing store key principalId permitted now).2.campaigns := by
  unfold authorize
  refine transaction_preserves
    (motive := fun later : CampaignStore =>
      StatusesMove reopened store.campaigns later.campaigns) (.refl _) ?_
  intro _ later committed
  simp only [bind_eq_ok, pure_eq_ok, Prod.mk.injEq, require_eq_ok, beq_iff_eq]
    at committed
  obtain ⟨campaign, found, _, _, _, previewed, _, _, _, _, _, _, _, filled, _,
    rfl⟩ := committed
  rw [get] at found
  split at found
  · rename_i row rowFound
    cases found
    have same := foldlM_invariant
      (fun later : CampaignStore => later.campaigns = _)
      (fun _ _ _ inserted same => (insertEffect_adds inserted).1.trans same)
      filled rfl
    rw [same]
    apply StatusesMove.update (fun _ => by rfl)
    intro other otherFound selected _
    rw [of_decide_eq_true selected, rowFound] at otherFound
    cases otherFound
    exact .inl (by rw [previewed]; rfl)
  · cases found

theorem claimNext_statuses {workerId : String} {now leaseSeconds : Int}
    {scope : Option (String × String)} {effect : Effect}
    (claimed : claimNext store workerId now leaseSeconds scope =
      (some effect, later)) :
    (∃ campaign, store.campaigns.find? effect.key.campaign = some campaign ∧
      campaign.status.claimable = true) ∧
    StatusesMove reopened store.campaigns later.campaigns := by
  unfold claimNext at claimed
  split at claimed
  · cases claimed
  · rename_i campaign row chosen
    obtain ⟨_, _, claimable, found⟩ := chooseClaim_some chosen
    cases claimed
    refine ⟨⟨campaign, found, claimable⟩, ?_⟩
    apply StatusesMove.update (fun _ => by rfl)
    intro other otherFound selected _
    have key : campaign.key = row.key.campaign :=
      (Table.find?_eq_some_iff.mp found).2
    rw [of_decide_eq_true selected, key, found] at otherFound
    cases otherFound
    exact .inl (by simp [CampaignStatus.startable, claimable])

end Statements

/-- A worker's unguarded `set_status` puts a halted campaign back among those a
claim may pick: `running` after a blocked connection, or what a deferred or a
throttled effect leaves behind. -/
def overwritesHalt (system : CampaignSystem) : CampaignAction → Bool
  | .advance process .proceed _ =>
      match system.processes process with
      | .reviving _ campaign => halted campaign.key system.events
      | .finishing key (.setStatus status :: _) =>
          status.startable && halted key system.events
      | _ => false
  | _ => false

inductive HaltStep (system next : CampaignSystem) : Prop where
  | quiet
      (campaigns : StatusesMove none system.store.campaigns
        next.store.campaigns)
      (events : next.events = system.events)
  | count (event : CampaignEvent) (counted : event.counted = true)
      (campaigns : StatusesMove none system.store.campaigns
        next.store.campaigns)
      (events : next.events = event :: system.events)
  | halt (key : String × String)
      (campaigns : StatusesMove none system.store.campaigns
        next.store.campaigns)
      (closed : ∃ row, next.store.campaigns.find? key = some row ∧
        row.status.startable = false)
      (events : next.events = .halted key :: system.events)
  | resume (key : String × String)
      (campaigns : StatusesMove (some key) system.store.campaigns
        next.store.campaigns)
      (events : next.events = .resumed key :: system.events)
  | claim (key : EffectKey)
      (campaigns : StatusesMove none system.store.campaigns
        next.store.campaigns)
      (claimable : ∃ row, system.store.campaigns.find? key.campaign =
        some row ∧ row.status.claimable = true)
      (events : next.events = .claimed key :: system.events)
  | reopen (key : String × String)
      (campaigns : StatusesMove (some key) system.store.campaigns
        next.store.campaigns)
      (unhalted : halted key system.events = false)
      (events : next.events = system.events)

/-- A halted campaign is one that nothing but a resume or a reaffirmation can
start. -/
structure Held (system : CampaignSystem) : Prop where
  claims : Lawful ClaimAdmissible system.events
  statuses : ∀ key, halted key system.events = true →
    ∃ row, system.store.campaigns.find? key = some row ∧
      row.status.startable = false

theorem held_initial : Held CampaignSystem.initial where
  claims := trivial
  statuses := fun _ isHalted => by cases isHalted

section Preserved

variable {system next : CampaignSystem} {key : String × String}

theorem StatusesMove.held {reopened : Option (String × String)}
    (campaigns : StatusesMove reopened system.store.campaigns
      next.store.campaigns)
    (kept : reopened ≠ some key)
    (before : ∃ row, system.store.campaigns.find? key = some row ∧
      row.status.startable = false) :
    ∃ row, next.store.campaigns.find? key = some row ∧
      row.status.startable = false := by
  obtain ⟨row, found, closed⟩ := before
  obtain ⟨later, laterFound, moves⟩ := campaigns key row found
  refine ⟨later, laterFound, ?_⟩
  cases starts : later.status.startable with
  | false => rfl
  | true =>
      rcases moves starts with startable | reopens
      · rw [closed] at startable
        cases startable
      · exact absurd reopens kept

theorem claimAdmissible_of_unclaimed {event : CampaignEvent}
    (unclaimed : ∀ key, event ≠ .claimed key) (older : List CampaignEvent) :
    ClaimAdmissible event older :=
  fun key same => absurd same (unclaimed key)

theorem HaltStep.held (step : HaltStep system next) (held : Held system) :
    Held next := by
  cases step with
  | quiet campaigns events =>
      refine ⟨by rw [events]; exact held.claims, ?_⟩
      intro key isHalted
      rw [events] at isHalted
      exact campaigns.held (by simp) (held.statuses key isHalted)
  | count event counted campaigns events =>
      refine ⟨?_, ?_⟩
      · rw [events]
        refine ⟨claimAdmissible_of_unclaimed ?_ _, held.claims⟩
        intro key same
        rw [same] at counted
        cases counted
      · intro key isHalted
        rw [events] at isHalted
        have before : halted key system.events = true := by
          cases event <;> first | exact isHalted | cases counted
        exact campaigns.held (by simp) (held.statuses key before)
  | halt _ campaigns closed events =>
      refine ⟨?_, ?_⟩
      · rw [events]
        exact ⟨claimAdmissible_of_unclaimed (by simp) _, held.claims⟩
      · intro other isHalted
        rw [events, halted, Bool.or_eq_true, decide_eq_true_eq] at isHalted
        rcases isHalted with same | before
        · rw [← same]
          exact closed
        · exact campaigns.held (by simp) (held.statuses other before)
  | resume _ campaigns events =>
      refine ⟨?_, ?_⟩
      · rw [events]
        exact ⟨claimAdmissible_of_unclaimed (by simp) _, held.claims⟩
      · intro other isHalted
        rw [events, halted, Bool.and_eq_true, Bool.not_eq_true',
          decide_eq_false_iff_not] at isHalted
        exact campaigns.held (by simpa using isHalted.1)
          (held.statuses other isHalted.2)
  | claim key campaigns claimable events =>
      refine ⟨?_, ?_⟩
      · rw [events]
        refine ⟨?_, held.claims⟩
        intro claimed same
        cases same
        cases isHalted : halted key.campaign system.events with
        | false => rfl
        | true =>
            obtain ⟨_, found, status⟩ := claimable
            obtain ⟨other, otherFound, closed⟩ :=
              held.statuses key.campaign isHalted
            rw [found] at otherFound
            cases otherFound
            simp [CampaignStatus.startable, status] at closed
      · intro other isHalted
        rw [events] at isHalted
        exact campaigns.held (by simp) (held.statuses other isHalted)
  | reopen _ campaigns unhalted events =>
      refine ⟨by rw [events]; exact held.claims, ?_⟩
      intro other isHalted
      rw [events] at isHalted
      refine campaigns.held ?_ (held.statuses other isHalted)
      intro same
      cases same
      rw [unhalted] at isHalted
      cases isHalted

end Preserved

section Step

variable {system : CampaignSystem} {process : Nat} {phase : Phase}

theorem HaltStep.move : HaltStep system (system.move process phase) :=
  .quiet (.refl _) rfl

variable {store : CampaignStore}

theorem HaltStep.commit
    (campaigns : StatusesMove none system.store.campaigns store.campaigns) :
    HaltStep system ((system.write store).move process phase) :=
  .quiet campaigns rfl

variable {key : String × String}

theorem HaltStep.halted {status : CampaignStatus} {now : Int}
    {next : CampaignSystem} (closes : status.startable = false)
    (campaigns : store.campaigns =
      (setStatus system.store key status now).campaigns)
    (committed : next.store = (system.halt key store).store)
    (recorded : next.events = (system.halt key store).events) :
    HaltStep system next := by
  have moves : StatusesMove none system.store.campaigns store.campaigns := by
    rw [campaigns]
    exact setStatus_closes closes key now
  unfold CampaignSystem.halt at committed recorded
  cases found : system.store.campaigns.find? key with
  | none =>
      simp only [found, Option.isSome_none, Bool.false_eq_true, if_false]
        at committed recorded
      refine .quiet ?_ recorded
      rw [committed]
      exact moves
  | some row =>
      simp only [found, Option.isSome_some, if_true] at committed recorded
      refine .halt key ?_ ⟨{ row with status, updatedAt := now }, ?_, closes⟩
        recorded
      · rw [committed]
        exact moves
      · have rowKey : row.key = key := (Table.find?_eq_some_iff.mp found).2
        rw [committed]
        change store.campaigns.find? key = _
        rw [campaigns]
        simp [setStatus, updateCampaign, found, rowKey]

theorem HaltStep.haltMove (status : CampaignStatus) (now : Int)
    (campaigns : store.campaigns =
      (setStatus system.store key status now).campaigns)
    (closes : status.startable = false) :
    HaltStep system ((system.halt key store).move process phase) :=
  .halted closes campaigns rfl rfl

theorem requireReaffirmation_haltStep (key : String × String)
    (window now : Int) :
    HaltStep system
      (if ((system.store.campaigns.find? key).filter fun row =>
          pausable row.status).isSome then
        (system.halt key (requireReaffirmation system.store key window
          now)).move process phase
      else (system.write (requireReaffirmation system.store key window
        now)).move process phase) := by
  split
  · rename_i selected
    obtain ⟨row, chosen⟩ := Option.isSome_iff_exists.mp selected
    obtain ⟨found, pauses⟩ := Option.filter_eq_some_iff.mp chosen
    have rowKey : row.key = key := (Table.find?_eq_some_iff.mp found).2
    simp only [CampaignSystem.halt, found, Option.isSome_some, if_true]
    let paused : CampaignRow :=
      { row with
        status := .paused, reaffirmBy := some (now + window), updatedAt := now }
    refine .halt key (requireReaffirmation_closes key window now)
      ⟨paused, ?_, rfl⟩ rfl
    change (requireReaffirmation system.store key window
      now).campaigns.find? key = _
    simp [requireReaffirmation, found, rowKey, pauses, paused]
  · exact .commit (requireReaffirmation_closes key window now)

theorem HaltStep.start {next : CampaignRow → Option Phase} :
    HaltStep system (system.start process key next) := by
  unfold CampaignSystem.start
  split
  · exact .move
  · exact .quiet (.refl _) rfl

end Step

theorem drainRemaining_statuses (store : CampaignStore)
    (key : String × String) (reason : String) (now : Int) :
    StatusesMove none store.campaigns
      (drainRemaining store key reason now).campaigns :=
  setStatus_closes rfl key now

theorem executeStatement_haltStep {system : CampaignSystem} {process : Nat}
    {key : String × String} {rest : List Statement} (now : Int)
    (statement : Statement)
    (unhalted : ∀ status, statement = .setStatus status →
      (status.startable && halted key system.events) = false) :
    HaltStep system
      (executeStatement system process key rest now statement) := by
  cases statement with
  | setStatus status =>
      cases starts : status.startable with
      | false => exact .commit (setStatus_closes starts key now)
      | true =>
          have open_ := unhalted status rfl
          rw [starts, Bool.true_and] at open_
          exact .reopen key (setStatus_reopens status key now) open_ rfl
  | drainRemaining reason =>
      exact .commit (drainRemaining_statuses system.store key reason now)
  | finalize =>
      simp only [executeStatement]
      split <;> exact .move
  | finalizeStatus =>
      simp only [executeStatement]
      split
      · exact .move
      · split <;> exact .move

theorem advance_haltStep (config : WorkerConfig) (system : CampaignSystem)
    (process : Nat) (answer : Answer) (now : Int)
    (guarded : overwritesHalt system (.advance process answer now) = false) :
    HaltStep system (advance config system process answer now) := by
  cases advance_advanced config system process answer now with
  | stay same =>
      rw [same]
      exact .quiet (.refl _) rfl
  | move phase _ _ equal =>
      rw [equal]
      exact .move
  | write writes =>
      unfold advance
      generalize held : system.processes process = phase at writes ⊢
      cases writes with
      | changed => exact .haltMove .invalidated now rfl rfl
      | unentitled key => exact requireReaffirmation_haltStep key 86400 now
      | overdue tick => exact .haltMove .expired tick rfl rfl
      | halting => exact .haltMove .stopped now rfl rfl
      | reviving _ campaign =>
          simp only [overwritesHalt, held] at guarded
          exact .reopen campaign.key (setStatus_reopens _ _ now) guarded rfl
      | ready tick campaign =>
          dsimp only
          split
          · exact .move
          · rename_i effect store claimed
            obtain ⟨claimable, campaigns⟩ := claimNext_statuses claimed
            exact .claim effect.key campaigns claimable rfl
      | cleared _ effect =>
          exact .count (.invoked effect.key) rfl (.refl _) rfl
      | dispatching _ effect =>
          exact .count (.throttled effect.key) rfl (.refl _) rfl
      | settling => exact .commit (.refl _)
      | finishing =>
          apply executeStatement_haltStep
          intro status same
          subst same
          simpa only [overwritesHalt, held] using guarded
      | pausing => exact .haltMove .paused now rfl rfl
      | resuming key => exact .resume key (setStatus_reopens _ key now) rfl
      | reaffirming key principalId =>
          dsimp only
          split
          · exact .resume key (reaffirm_reopens key principalId now) rfl
          · rename_i missed
            exact .commit (reaffirm_missed (by simpa using missed))
      | admitting =>
          apply HaltStep.commit
          rw [(addLateAudienceMember_adds ..).1]
          exact .refl _

theorem campaignStep_haltStep (config : WorkerConfig)
    (system : CampaignSystem) (action : CampaignAction)
    (guarded : overwritesHalt system action = false) :
    HaltStep system (campaignStep config system action) := by
  have stays : HaltStep system system := .quiet (.refl _) rfl
  cases action with
  | beginTick =>
      simp only [campaignStep]
      split
      · exact .commit (.refl _)
      · exact stays
  | advance process answer now =>
      exact advance_haltStep config system process answer now guarded
  | crash => exact .move
  | recoverExpiredClaims => exact .quiet (.refl _) rfl
  | createPreview =>
      exact .quiet (.of_find? (createPreview_adds ..).2) rfl
  | authorize key principalId permitted now =>
      exact .quiet (authorize_statuses config.hashing key principalId
        permitted now) rfl
  | assertEnvelope | expire => exact .start
  | stop key reason now =>
      have campaigns : (stop system.store key reason now).campaigns =
          (setStatus system.store key .stopped now).campaigns := rfl
      exact .halted rfl campaigns rfl rfl
  | reconcile =>
      simp only [campaignStep]
      split
      · split
        · exact .commit (.refl _)
        · exact stays
      · exact stays
  | pause | resume | reaffirm | addLateAudienceMember => exact .start

/-- In every run in which no worker's own status write lands on a campaign that
was halted since its tick read it, a halted campaign stays out of every claim
until it is resumed or reaffirmed. -/
theorem halt_honoured (config : WorkerConfig) (actions : List CampaignAction)
    (guarded : Along (campaignStep config)
      (fun system action => overwritesHalt system action = false)
      CampaignSystem.initial actions) :
    HaltHonoured (campaignRun config actions) := by
  have held : Held (campaignRun config actions) :=
    Along.invariant Held
      (fun system action held guard =>
        (campaignStep_haltStep config system action guard).held held)
      held_initial guarded
  refine ⟨held.claims, ?_⟩
  intro key row isHalted found
  obtain ⟨_, otherFound, closed⟩ := held.statuses key isHalted
  rw [found] at otherFound
  cases otherFound
  simp only [CampaignStatus.startable, Bool.or_eq_false_iff] at closed
  exact closed.1

/-- The campaign is stopped while its one message is being handed over; the
message goes out and nothing else does. -/
def stoppedRun : List CampaignAction :=
  claimedRun ++
  [.advance 0 (.decision .allowed) 2, .advance 0 (.throughput none) 2,
    .stop sampleKey "operator" 2,
    .advance 0 (.dispatched (.sent (some "SM1"))) 3, .advance 0 .proceed 3,
    .advance 0 .proceed 3, .advance 0 .proceed 3]

theorem halt_honoured_stopped :
    HaltHonoured (campaignRun sampleConfig stoppedRun) ∧
      halted sampleKey (campaignRun sampleConfig stoppedRun).events = true :=
  ⟨halt_honoured sampleConfig stoppedRun (by decide), by decide⟩

/-- The provider turns the message down for lack of throughput after the stop:
the worker defers it, writes `throttled` over `stopped`, and the next tick
claims it again. -/
def restartedRun : List CampaignAction :=
  claimedRun ++
  [.advance 0 (.decision .allowed) 2, .advance 0 (.throughput none) 2,
    .stop sampleKey "operator" 2,
    .advance 0 (.dispatched (.throughputExceeded 5)) 3, .advance 0 .proceed 3,
    .advance 0 .proceed 3, .advance 0 .proceed 3, .beginTick 0 9] ++
  [.proceed, .proceed, .proceed, .permitted true, .proceed,
    .emergencyStopped false, .connectionAvailable true, .proceed].map
      fun answer => .advance 0 answer 9

theorem stopped_campaign_claimed_again :
    ¬ ∀ (config : WorkerConfig) (actions : List CampaignAction),
      HaltHonoured (campaignRun config actions) := by
  intro honoured
  have lawful := (honoured sampleConfig restartedRun).claims
  have newest : ∃ older,
      (campaignRun sampleConfig restartedRun).events =
        .claimed sampleEffect :: older ∧ halted sampleKey older = true :=
    ⟨_, rfl, by decide⟩
  obtain ⟨_, events, isHalted⟩ := newest
  rw [events] at lawful
  have admitted := lawful.1 sampleEffect rfl
  rw [show sampleEffect.campaign = sampleKey from rfl, isHalted] at admitted
  cases admitted

end AcpTask.Campaign
