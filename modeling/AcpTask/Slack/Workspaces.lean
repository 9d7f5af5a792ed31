import AcpTask.Slack.Grounding
import AcpTask.Slack.Visibility

namespace AcpTask.Slack

open Concierge Data Library

/-! The targets of a turn belong to the workspace that the turn is used in. -/

section Stages

variable {library : StandardLibrary} {call : TurnCall} {turn : SlackTurn}
  {resolved later : ConversationState}

theorem allSelected_of (follows : Follows library call turn resolved later)
    (renames : call.Renames library turn resolved)
    (channel : call.NamesOnce library turn .channel → ∀ entity,
      later .activeChannel = some entity →
        call.Selects library turn .channel entity)
    (person : call.NamesOnce library turn .person →
      ((turn.name? .channel).isSome = true →
        call.NamesOnce library turn .channel) → ∀ entity,
      later .activePerson = some entity →
        call.Selects library turn .person entity) :
    AllSelected library call turn later := by
  intro field member entity found
  rcases follows.target field member entity found with selected | held
  · exact selected
  · have here : (resolved field).isSome = true := by
      rw [held]
      rfl
    have fields : field = .activeChannel ∨ field = .activePerson ∨
        field = .activeThread := by
      simpa [targetFields] using member
    rcases fields with rfl | rfl | rfl
    · exact ⟨.channel, rfl, channel (renames.channel here).2 entity found⟩
    · obtain ⟨_, once, passes⟩ := renames.person here
      exact ⟨.person, rfl, person once passes entity found⟩
    · rw [renames.thread] at held
      cases held

structure Underway (library : StandardLibrary) (call : TurnCall)
    (turn : SlackTurn) (resolved later : ConversationState) : Prop where
  under : GoesOnUnder call.usable turn resolved (connectionId? later)
  follows : Follows library call turn resolved later

theorem Underway.update (underway : Underway library call turn resolved later)
    {named : Named} {entity : Value}
    (selected : call.Selects library turn named entity) :
    Underway library call turn resolved
      (Function.update later named.field (some entity)) where
  under := by
    have apart : StateField.activeConnection ≠ named.field := by
      cases named <;> decide
    have same : connectionId? (Function.update later named.field
        (some entity)) = connectionId? later := by
      unfold connectionId? ConversationState.value
      rw [Function.update_of_ne apart]
    rw [same]
    exact underway.under
  follows := underway.follows.trans (Follows.update selected)

theorem connect_underway (supported : turn.operation ≠ "unsupported") :
    Meets (Underway library call turn resolved)
      (AsksWorkspace turn resolved) (connect turn resolved call.usable) := by
  refine (connect_meets supported).imp (fun next connected => ?_)
    fun _ asks => asks
  obtain ⟨rfl | ⟨connection, rfl⟩, under⟩ := connected
  · exact ⟨under, Follows.refl⟩
  · refine ⟨under, Follows.of_eq ?_ ?_⟩
    · intro field member
      exact Function.update_of_ne (connection_ne_target member) _ _
    · intro field _ there
      by_cases same : field = .activeConnection
      · subst same
        simp
      · rw [Function.update_of_ne same]
        exact there

theorem ground_underway (named : Named)
    (underway : Underway library call turn resolved later) :
    Meets (fun next => Underway library call turn resolved next ∧
        (∀ field, field ≠ named.field → next field = later field) ∧
        (call.NamesOnce library turn named → ∀ entity,
          next named.field = some entity →
            call.Selects library turn named entity))
      (AsksNamed library call turn named later)
      (ground library call turn named later) := by
  refine (ground_meets named).imp (fun next grounded => ?_) fun _ asks => asks
  rcases grounded with ⟨unnamed, rfl⟩ | ⟨entity, selected, rfl⟩
  · refine ⟨underway, fun _ _ => rfl, ?_⟩
    rintro ⟨name, hasName, _⟩
    cases unnamed.symm.trans hasName
  · refine ⟨underway.update selected,
      fun field apart => Function.update_of_ne apart _ _, ?_⟩
    intro _ other found
    rw [Function.update_self] at found
    cases found
    exact selected

theorem AsksNamed.grounded {named : Named} {result : SlackTurnResult}
    (asks : AsksNamed library call turn named later result)
    (underway : Underway library call turn resolved later)
    (renamed : call.Renames library turn resolved →
      AllSelected library call turn later) :
    Grounded library call turn resolved result := by
  obtain ⟨_, _, rows, rfl⟩ := asks.result
  refine ⟨rfl, underway.under, underway.follows, renamed, ?_⟩
  rintro need same other option entity offers kept
  cases same
  obtain ⟨asked, row, member, rfl⟩ := offers_needValue offers
  have one : named = other := by
    cases named <;> cases other <;> first | rfl | exact absurd asked (by decide)
  subst one
  exact rows row member entity (entity_of_select kept)

theorem not_offers_nil {field question : String} {named : Named}
    {option : Row} : ¬ Offers (needValue field question []) named option := by
  intro offers
  obtain ⟨_, _, member, _⟩ := offers_needValue offers
  cases member

theorem withPeriod_cases : withPeriod turn resolved = resolved ∨
    ∃ value, withPeriod turn resolved =
      Function.update resolved .readPeriod (some value) := by
  unfold withPeriod
  split
  · exact .inr ⟨_, rfl⟩
  · exact .inl rfl

theorem withPeriod_of_ne {field : StateField} (apart : field ≠ .readPeriod) :
    withPeriod turn resolved field = resolved field := by
  rcases @withPeriod_cases turn resolved with same | ⟨_, same⟩
  · rw [same]
  · rw [same, Function.update_of_ne apart]

theorem withPeriod_kept {field : StateField} (there : resolved field ≠ none) :
    withPeriod turn resolved field ≠ none := by
  by_cases same : field = .readPeriod
  · subst same
    rcases @withPeriod_cases turn resolved with same | ⟨_, same⟩
    · rw [same]
      exact there
    · simp [same]
  · rw [withPeriod_of_ne same]
    exact there

theorem groundedTurn_meets (supported : turn.operation ≠ "unsupported") :
    Meets (fun result => AsksWorkspace turn resolved result ∨
        Grounded library call turn resolved result)
      (fun result => AsksWorkspace turn resolved result ∨
        Grounded library call turn resolved result)
      (groundedTurn library call turn resolved) := by
  unfold groundedTurn
  have connects : Meets (Underway library call turn resolved)
      (AsksWorkspace turn resolved) (connect turn resolved call.usable) :=
    connect_underway supported
  refine Meets.seq connects (fun _ asks => .inl asks)
    fun connected underway => ?_
  refine Meets.seq (ground_underway .channel underway)
    (fun result asks => .inr ?_) fun withChannel grounded => ?_
  · refine asks.grounded underway fun renames => ?_
    exact allSelected_of underway.follows renames
      (fun once => absurd once asks.unclear)
      fun _ passes => absurd (passes asks.isNamed) asks.unclear
  obtain ⟨underway, _, channel⟩ := grounded
  refine Meets.seq (ground_underway .person underway)
    (fun result asks => .inr ?_) fun withPerson grounded => ?_
  · refine asks.grounded underway fun renames => ?_
    exact allSelected_of underway.follows renames channel
      fun once => absurd once asks.unclear
  obtain ⟨underway, others, person⟩ := grounded
  have renamed : call.Renames library turn resolved →
      AllSelected library call turn withPerson := by
    intro renames
    refine allSelected_of underway.follows renames ?_ fun once _ => person once
    intro once entity found
    rw [others .activeChannel (by decide)] at found
    exact channel once entity found
  split
  · refine Meets.returning_of fun result asked => .inr ?_
    obtain ⟨_, rfl⟩ := needInput_ok asked
    refine ⟨rfl, underway.under, underway.follows, renamed, ?_⟩
    rintro need same named option entity offers
    cases same
    exact absurd offers not_offers_nil
  · have targets : ∀ field ∈ targetFields,
        withPeriod turn withPerson field = withPerson field := by
      intro field member
      refine withPeriod_of_ne ?_
      rintro rfl
      exact absurd member (by decide)
    refine .inr ⟨rfl, ?_, underway.follows.trans (Follows.of_eq targets
      fun _ _ there => withPeriod_kept there), ?_, ?_⟩
    · change GoesOnUnder call.usable turn resolved
        (connectionId? (withPeriod turn withPerson))
      unfold connectionId? ConversationState.value
      rw [withPeriod_of_ne (by decide)]
      exact underway.under
    · intro renames field member entity found
      exact renamed renames field member entity
        ((targets field member).symm.trans found)
    · rintro need same
      cases same

end Stages

structure Understood (library : StandardLibrary) (active : ConversationState)
    (call : TurnCall) (turn : SlackTurn) (resolved : ConversationState) :
    Prop where
  notStatus : call.turn.operation ≠ "status"
  notCancel : turn.operation ≠ "cancel"
  answers : ∃ parsed,
    withPendingText call.turn (carriedOver active) = .ok parsed ∧
      withAnswer library active call.text parsed = .ok (turn, resolved)

section Turns

variable {library : StandardLibrary} {call : TurnCall}
  {active : ConversationState}

theorem withPendingText_operation {turn parsed : SlackTurn}
    {resolved : ConversationState}
    (read : withPendingText turn resolved = .ok parsed) :
    parsed.operation = turn.operation := by
  unfold withPendingText at read
  split at read
  · cases read
    rfl
  · split at read
    · cases read
    · cases read
      split <;> rfl
    · cases read
      rfl

variable {result : SlackTurnResult}

theorem parked_quiet (state : result.state ≠ .resolving)
    (nothing : result.resolved = fun _ => none) (need : result.need = none) :
    Parked active result where
  state := state
  connection := by rw [nothing]
  held := by
    intro field _ entity found
    rw [nothing] at found
    cases found
  offers := by
    intro _ some
    rw [need] at some
    cases some

theorem AsksWorkspace.parked {turn : SlackTurn} {resolved : ConversationState}
    (asks : AsksWorkspace turn resolved result)
    (understood : Understood library active call turn resolved) :
    Parked active result := by
  obtain ⟨_, _, rfl⟩ := asks
  refine ⟨(fun same => by cases same), by simp, ?_, ?_⟩
  · intro field member entity found
    change Function.update resolved _ _ field = some entity at found
    rw [Function.update_of_ne (connection_ne_target member)] at found
    obtain ⟨_, _, answers⟩ := understood.answers
    exact withAnswer_target answers member found
  · rintro need same named option offers
    cases same
    obtain ⟨asked, _⟩ := offers_needValue offers
    cases named <;> exact absurd asked (by decide)

def Traced (library : StandardLibrary) (active : ConversationState)
    (call : TurnCall) (result : SlackTurnResult) : Prop :=
  Parked active result ∨ ∃ turn resolved,
    Understood library active call turn resolved ∧
      Grounded library call turn resolved result

theorem turnStages_meets :
    Meets (Traced library active call) (Traced library active call)
      (turnStages library active call) := by
  unfold turnStages
  refine Meets.bind (Meets.raising_of fun parsed read => read)
    fun parsed read => ?_
  have operation := withPendingText_operation read
  split
  · refine Meets.returning_of fun result answered => .inl ?_
    obtain ⟨message, _, same⟩ := bind_eq_ok.mp answered
    cases same
    exact parked_quiet (fun same => by cases same) rfl rfl
  · rename_i notStatus
    refine Meets.bind (Meets.raising_of fun answered answers => answers)
      fun answered answers => ?_
    obtain ⟨turn, resolved⟩ := answered
    have understood (notCancel : turn.operation ≠ "cancel") :
        Understood library active call turn resolved :=
      ⟨by rwa [← operation], notCancel, parsed, read, answers⟩
    dsimp only
    split
    · rename_i unsupported
      refine Meets.returning_of fun result asked => .inr ?_
      obtain ⟨question, rfl⟩ := needInput_ok asked
      refine ⟨turn, resolved, understood ?_, rfl,
        .inl ⟨.inl unsupported, rfl⟩, Follows.refl, ?_, ?_⟩
      · rw [unsupported]
        decide
      · intro renames
        refine allSelected_of Follows.refl renames ?_ ?_
        · intro _ entity found
          exact absurd unsupported
            (renames.channel (congrArg Option.isSome found)).1
        · intro _ _ entity found
          exact absurd unsupported
            (renames.person (congrArg Option.isSome found)).1
      · rintro need same named option entity offers
        cases same
        exact absurd offers not_offers_nil
    · rename_i supported
      split
      · exact .inl (parked_quiet (fun same => by cases same) rfl rfl)
      · rename_i notCancel
        have traced : ∀ result, (AsksWorkspace turn resolved result ∨
            Grounded library call turn resolved result) →
              Traced library active call result := by
          rintro result (asks | grounded)
          · exact .inl (asks.parked (understood notCancel))
          · exact .inr ⟨turn, resolved, understood notCancel, grounded⟩
        exact (groundedTurn_meets supported).imp traced traced

theorem coordinate_traced (done : coordinate library active call = .ok result) :
    Traced library active call result :=
  Meets.of_finished turnStages_meets done

end Turns

abbrev TurnLog :=
  Logged ConversationState TurnCall (Except ServiceError SlackTurnResult)

abbrev TurnEvent := TurnCall × Except ServiceError SlackTurnResult

/-- The entity was there for the target when the log began, with this
connection, or a turn that went on under this connection selected it. -/
def SelectedUnder (library : StandardLibrary) (start : ConversationState)
    (log : List TurnEvent) (id : Option Value) (field : StateField)
    (entity : Value) : Prop :=
  (connectionId? start = id ∧ Holds start field entity) ∨
    ∃ call result named, (call, .ok result) ∈ log ∧
      connectionId? result.resolved = id ∧ Named.field named = field ∧
      TurnCall.Selects library call result.turn named entity

/-- The targets of a turn that is ready to go on were selected under the
connection it returns. -/
def Belongs (library : StandardLibrary) (start : ConversationState)
    (event : TurnEvent) (older : List TurnEvent) : Prop :=
  ∀ result, event.2 = .ok result → result.state = .resolving →
    ∀ field ∈ targetFields, ∀ entity, result.resolved field = some entity →
      SelectedUnder library start (event :: older)
        (connectionId? result.resolved) field entity

/-- Where the turn goes on under another connection than the conversation has,
it names anew every target that is held. -/
def Renewed (library : StandardLibrary) (logged : TurnLog)
    (call : TurnCall) : Prop :=
  ∀ turn resolved id, Understood library logged.state call turn resolved →
    GoesOnUnder call.usable turn resolved id →
      id ≠ connectionId? logged.state → call.Renames library turn resolved

theorem SelectedUnder.older {library : StandardLibrary}
    {start : ConversationState} {log : List TurnEvent} {id : Option Value}
    {field : StateField} {entity : Value}
    (selected : SelectedUnder library start log id field entity)
    (event : TurnEvent) :
    SelectedUnder library start (event :: log) id field entity := by
  rcases selected with initial | ⟨call, result, named, member, rest⟩
  · exact .inl initial
  · exact .inr ⟨call, result, named, .tail _ member, rest⟩

section Storing

variable {active : ConversationState} {result : SlackTurnResult}

theorem present_getD (state : ConversationState) (field : StateField) :
    (state.present field).getD .none = state.value field :=
  state.value_present field

theorem present_present (state : ConversationState) (field : StateField) :
    state.present.present field = state.present field := by
  unfold ConversationState.present
  cases state field with
  | none => rfl
  | some value => cases value <;> rfl

variable {field : StateField}

theorem applyTo_present_none {changes : Changes}
    (absent : changes.fields field = none) :
    (changes.applyTo active).present field = active.present field := by
  rw [← present_present active]
  unfold ConversationState.present Changes.applyTo
  rw [absent]
  rfl

theorem applyTo_present_some {changes : Changes}
    (there : changes.fields field ≠ none) :
    (changes.applyTo active).present field = changes.fields.present field := by
  unfold ConversationState.present Changes.applyTo
  cases assigned : changes.fields field with
  | none => exact absurd assigned there
  | some value => cases value <;> rfl

theorem turnFields_carried (member : field ∈ carriedFields) :
    turnFields result field = result.resolved field := by
  cases field <;> first | rfl | exact absurd member (by decide)

theorem keepTurn_present (apart : field ≠ .blockingNeed) :
    (keepTurn active result).present field =
      (Changes.applyTo { fields := turnFields result } active).present
        field := by
  unfold keepTurn
  dsimp only
  split
  · rfl
  · refine applyTo_present_none ?_
    cases field <;> first | rfl | exact absurd rfl apart

theorem carried_ne_need (member : field ∈ carriedFields) :
    field ≠ .blockingNeed := by
  rintro rfl
  exact absurd member (by decide)

theorem keepTurn_of_none (member : field ∈ carriedFields)
    (absent : result.resolved field = none) :
    (keepTurn active result).present field = active.present field := by
  rw [keepTurn_present (carried_ne_need member)]
  exact applyTo_present_none ((turnFields_carried member).trans absent)

theorem keepTurn_of_some (member : field ∈ carriedFields)
    (there : result.resolved field ≠ none) :
    (keepTurn active result).present field = result.resolved.present field := by
  rw [keepTurn_present (carried_ne_need member), applyTo_present_some]
  · unfold ConversationState.present
    dsimp only
    rw [turnFields_carried member]
  · change turnFields result field ≠ none
    rw [turnFields_carried member]
    exact there

theorem connectionId?_congr {first second : ConversationState}
    (same : first.present .activeConnection =
      second.present .activeConnection) :
    connectionId? first = connectionId? second := by
  unfold connectionId?
  rw [← present_getD, ← present_getD, same]

theorem present_some {state : ConversationState} {value : Value}
    (held : state.present field = some value) :
    state field = some value := by
  unfold ConversationState.present at held
  split at held
  · cases held
  · exact held

theorem keepTurn_target {entity : Value} (member : field ∈ carriedFields)
    (held : (keepTurn active result).present field = some entity) :
    result.resolved field = some entity ∨
      (result.resolved field = none ∧ active.present field = some entity) := by
  by_cases absent : result.resolved field = none
  · rw [keepTurn_of_none member absent] at held
    exact .inr ⟨absent, held⟩
  · rw [keepTurn_of_some member absent] at held
    exact .inl (present_some held)

theorem not_offers_none {named : Named} {option : Row} :
    ¬ Offers .none named option := by
  rintro ⟨_, _, same, _⟩
  cases same

theorem keepTurn_offers {named : Named} {option : Row}
    (offers : Offers ((keepTurn active result).value .blockingNeed) named
      option) :
    ∃ need, result.need = some need ∧ Offers need named option := by
  unfold keepTurn at offers
  dsimp only at offers
  split at offers
  · exact absurd offers not_offers_none
  · rename_i need asked
    refine ⟨need, asked, ?_⟩
    unfold ConversationState.value Changes.applyTo at offers
    dsimp only at offers
    cases need <;> exact offers

end Storing

def Traceable (library : StandardLibrary) (start : ConversationState)
    (logged : TurnLog) : Prop :=
  ∀ field ∈ targetFields, ∀ entity, Holds logged.state field entity →
    SelectedUnder library start logged.log (connectionId? logged.state) field
      entity

section Tracing

variable {library : StandardLibrary} {start : ConversationState}
  {logged : TurnLog} {call : TurnCall} {result : SlackTurnResult}

theorem target_carried {field : StateField} (member : field ∈ targetFields) :
    field ∈ carriedFields := by
  cases field <;> first | decide | exact absurd member (by decide)

variable {resolved : ConversationState}

theorem Grounded.selected {turn : SlackTurn}
    (traceable : Traceable library start logged)
    (renewed : Renewed library logged call)
    (understood : Understood library logged.state call turn resolved)
    (grounded : Grounded library call turn resolved result) {field : StateField}
    (member : field ∈ targetFields) {entity : Value}
    (found : result.resolved field = some entity) :
    SelectedUnder library start ((call, .ok result) :: logged.log)
      (connectionId? result.resolved) field entity := by
  have here : (∃ named, Named.field named = field ∧
        call.Selects library turn named entity) →
      SelectedUnder library start ((call, .ok result) :: logged.log)
        (connectionId? result.resolved) field entity := by
    rintro ⟨named, same, selects⟩
    rw [← grounded.made] at selects
    exact .inr ⟨call, result, named, List.mem_cons_self, rfl, same, selects⟩
  by_cases same : connectionId? result.resolved = connectionId? logged.state
  · rcases grounded.follows.target field member entity found with
      selected | held
    · exact here selected
    · obtain ⟨_, _, answers⟩ := understood.answers
      rw [same]
      exact (traceable field member entity
        (withAnswer_target answers member held)).older _
  · have renames := renewed turn resolved _ understood grounded.under same
    exact here (grounded.renamed renames field member entity found)

theorem Grounded.connectionId?_keepTurn {turn : SlackTurn}
    (understood : Understood library logged.state call turn resolved)
    (grounded : Grounded library call turn resolved result) :
    connectionId? (keepTurn logged.state result) =
      connectionId? result.resolved := by
  have member : StateField.activeConnection ∈ carriedFields := by decide
  refine connectionId?_congr ?_
  by_cases absent : result.resolved .activeConnection = none
  · have before : resolved .activeConnection = none := by
      by_contra there
      exact grounded.follows.kept _ member there absent
    obtain ⟨_, _, answers⟩ := understood.answers
    rw [keepTurn_of_none member absent, withAnswer_none answers member before]
    unfold ConversationState.present
    rw [absent]
  · exact keepTurn_of_some member absent

theorem Grounded.traceable {turn : SlackTurn}
    (traceable : Traceable library start logged)
    (renewed : Renewed library logged call)
    (understood : Understood library logged.state call turn resolved)
    (grounded : Grounded library call turn resolved result) :
    Traceable library start ⟨keepTurn logged.state result,
      (call, .ok result) :: logged.log⟩ := by
  intro field member entity holds
  dsimp only at holds ⊢
  rw [grounded.connectionId?_keepTurn understood]
  rcases holds with held | ⟨named, option, same, offers, kept⟩
  · rcases keepTurn_target (target_carried member) held with
      found | ⟨absent, before⟩
    · exact grounded.selected traceable renewed understood member found
    · exfalso
      have gone : resolved field = none := by
        by_contra there
        exact grounded.follows.kept _ (target_carried member) there absent
      obtain ⟨_, _, answers⟩ := understood.answers
      rw [withAnswer_none answers (target_carried member) gone] at before
      cases before
  · obtain ⟨need, asked, offers⟩ := keepTurn_offers offers
    exact .inr ⟨call, result, named, List.mem_cons_self, rfl, same,
      grounded.offers need asked named option entity offers kept⟩

theorem Parked.traceable (traceable : Traceable library start logged)
    (parked : Parked logged.state result) :
    Traceable library start ⟨keepTurn logged.state result,
      (call, .ok result) :: logged.log⟩ := by
  have same : connectionId? (keepTurn logged.state result) =
      connectionId? logged.state :=
    connectionId?_congr (keepTurn_of_none (by decide) parked.connection)
  intro field member entity holds
  dsimp only at holds ⊢
  rw [same]
  refine SelectedUnder.older (traceable field member entity ?_) _
  rcases holds with held | ⟨named, option, _, offers, _⟩
  · rcases keepTurn_target (target_carried member) held with
      found | ⟨_, before⟩
    · exact parked.held field member entity found
    · exact .inl before
  · obtain ⟨need, asked, offers⟩ := keepTurn_offers offers
    exact absurd offers (parked.offers need asked named option)

theorem turnStep_traceable (traceable : Traceable library start logged)
    (renewed : Renewed library logged call) :
    Traceable library start (logStep (turnStep library) logged call) ∧
      Belongs library start
        (call, (turnStep library logged.state call).1) logged.log := by
  unfold logStep turnStep
  cases outcome : coordinate library logged.state call with
  | error =>
      refine ⟨fun field member entity holds => ?_, fun result same => ?_⟩
      · exact (traceable field member entity holds).older _
      · cases same
  | ok result =>
      have unstored : Traceable library start
          ⟨logged.state, (call, .ok result) :: logged.log⟩ :=
        fun field member entity holds =>
          (traceable field member entity holds).older _
      rcases coordinate_traced outcome with
        parked | ⟨turn, resolved, understood, grounded⟩
      · refine ⟨?_, ?_⟩
        · dsimp only
          split
          · exact parked.traceable traceable
          · exact unstored
        · rintro other same state
          cases same
          exact absurd state parked.state
      · refine ⟨?_, ?_⟩
        · dsimp only
          split
          · exact grounded.traceable traceable renewed understood
          · exact unstored
        · rintro other same _ field member entity found
          cases same
          exact grounded.selected traceable renewed understood member found

end Tracing

/-- Along the runs in which a turn that goes on under another connection names
anew every target that is held, the targets of every turn that is ready to go
on were selected under the connection it returns. -/
theorem targets_belong (library : StandardLibrary) (start : ConversationState)
    (calls : List TurnCall)
    (along : Along (logStep (turnStep library)) (Renewed library) ⟨start, []⟩
      calls) :
    Lawful (Belongs library start)
      (run (logStep (turnStep library)) ⟨start, []⟩ calls).log := by
  refine (Along.invariant (fun logged => Traceable library start logged ∧
    Lawful (Belongs library start) logged.log) ?_ ?_ along).2
  · rintro logged call ⟨traceable, lawful⟩ renewed
    obtain ⟨next, belongs⟩ := turnStep_traceable traceable renewed
    exact ⟨next, belongs, lawful⟩
  · exact ⟨fun field _ entity holds => .inl ⟨rfl, holds⟩, trivial⟩


def acmeInstallation : Row :=
  [("connection_id", .str "conn:acme"), ("status", .str "connected")]

def betaInstallation : Row :=
  [("connection_id", .str "conn:beta"), ("status", .str "connected")]

def generalChannel (id : String) : Row :=
  [("id", .str id), ("name", .str "general")]

def postTurn (channelName : Option String) : SlackTurn where
  operation := "post"
  locale := "en"
  channelName := channelName
  messageText := some "hello"

def acmeCall : TurnCall where
  text := "post \"hello\" in #general"
  turn := postTurn (some "general")
  installations := [acmeInstallation]
  channels := [generalChannel "C1"]
  users := []

def betaCall (text : String) (channelName : Option String) : TurnCall where
  text := text
  turn := postTurn channelName
  installations := [betaInstallation]
  channels := [generalChannel "C2"]
  users := []

/-- With the channel named anew, the other workspace does no harm. -/
theorem targets_belong_renewed :
    Lawful (Belongs slackService.library nothingResolved)
      (run (logStep (turnStep slackService.library)) ⟨nothingResolved, []⟩
        [acmeCall,
          betaCall "post \"hello\" in #general" (some "general")]).log := by
  refine targets_belong slackService.library nothingResolved _ ⟨?_, ?_, trivial⟩
  · rintro turn resolved id ⟨_, _, parsed, read, answers⟩ _ _
    cases read
    cases answers
    exact ⟨rfl, (fun held => by cases held), fun held => by cases held⟩
  · rintro turn resolved id ⟨_, _, parsed, read, answers⟩ _ _
    cases read
    cases answers
    refine ⟨rfl, (fun _ => ⟨by decide, "general", rfl, generalChannel "C2",
      by decide +kernel⟩), fun held => by cases held⟩

def shownResult (outcome : Except ServiceError SlackTurnResult) :
    Option (TurnState × Option Value × Option Value × SlackTurn) :=
  outcome.toOption.map fun result => (result.state,
    connectionId? result.resolved, result.resolved .activeChannel,
    result.turn)

def generalEntity : Value := .dict [("id", .str "C1"), ("name", .str "general")]

/-- The other workspace is posted to in the first one's channel. -/
theorem channel_of_other_workspace :
    ¬ ∀ (library : StandardLibrary) (start : ConversationState)
      (calls : List TurnCall),
      Lawful (Belongs library start)
        (run (logStep (turnStep library)) ⟨start, []⟩ calls).log := by
  intro lawful
  let first := turnStep slackService.library nothingResolved acmeCall
  let second := turnStep slackService.library first.2
    (betaCall "post \"hello\"" none)
  have belongs : Belongs slackService.library nothingResolved
      (betaCall "post \"hello\"" none, second.1) [(acmeCall, first.1)] :=
    (lawful slackService.library nothingResolved
      [acmeCall, betaCall "post \"hello\"" none]).1
  have earlier : shownResult first.1 = some (.resolving,
      some (.str "conn:acme"), some generalEntity,
      postTurn (some "general")) := by decide +kernel
  have later : shownResult second.1 = some (.resolving,
      some (.str "conn:beta"), some generalEntity, postTurn none) := by
    decide +kernel
  cases outcome : second.1 with
  | error =>
      rw [outcome] at later
      cases later
  | ok result =>
      rw [outcome] at later belongs
      have shown := Option.some.inj later
      have state := congrArg Prod.fst shown
      have under := congrArg (fun facts => facts.2.1) shown
      have channel := congrArg (fun facts => facts.2.2.1) shown
      have turn := congrArg (fun facts => facts.2.2.2) shown
      have selected := belongs result rfl state .activeChannel (by decide)
        generalEntity channel
      rw [show connectionId? result.resolved = some (.str "conn:beta")
        from under] at selected
      rcases selected with ⟨initial, _⟩ | ⟨_, other, named, member, id,
        _, _, hasName, _⟩
      · cases initial
      · rcases List.mem_cons.mp member with same | before
        · cases same
          rw [show result.turn = postTurn none from turn] at hasName
          cases named <;> cases hasName
        · have same : Except.ok other = first.1 :=
            congrArg Prod.snd (List.mem_singleton.mp before)
          rw [← same] at earlier
          have acme := congrArg (fun facts => facts.2.1)
            (Option.some.inj earlier)
          have beta : some (Value.str "conn:acme") = some (.str "conn:beta") :=
            Eq.trans (Eq.symm acme) id
          exact absurd beta (by decide)

end AcpTask.Slack
