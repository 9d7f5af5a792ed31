import AcpTask.Data.Json
import AcpTask.Slack.Coordinator

namespace AcpTask.Slack

open Concierge Data Library

def connectionId? (state : ConversationState) : Option Value :=
  (state.value .activeConnection).item? "id"

def targetFields : List StateField :=
  [.activeChannel, .activePerson, .activeThread]

def Offers (need : Value) (named : Named) (option : Row) : Prop :=
  ∃ items options, need = .dict items ∧
    Value.lookup items "field" = .str named.asked ∧
    (Value.lookup items "options").listOr? = some options ∧
    .dict option ∈ options

/-- The conversation has the entity for a target, or would with an answer to
its need. -/
def Holds (state : ConversationState) (field : StateField) (entity : Value) :
    Prop :=
  state.present field = some entity ∨
    ∃ named option, Named.field named = field ∧
      Offers (state.value .blockingNeed) named option ∧
      named.entity option = .ok entity

def TurnCall.Selects (library : StandardLibrary) (call : TurnCall)
    (turn : SlackTurn) (named : Named) (entity : Value) : Prop :=
  ∃ name, turn.name? named = some name ∧ ∃ row ∈ call.rows named,
    named.fits library name row = true ∧ named.entity row = .ok entity

def TurnCall.NamesOnce (library : StandardLibrary) (call : TurnCall)
    (turn : SlackTurn) (named : Named) : Prop :=
  ∃ name, turn.name? named = some name ∧ ∃ row,
    (call.rows named).filter (fun row => named.fits library name row) = [row]

structure TurnCall.Renames (library : StandardLibrary) (call : TurnCall)
    (turn : SlackTurn) (resolved : ConversationState) : Prop where
  thread : resolved .activeThread = none
  channel : (resolved .activeChannel).isSome = true →
    turn.operation ≠ "unsupported" ∧ call.NamesOnce library turn .channel
  person : (resolved .activePerson).isSome = true →
    turn.operation ≠ "unsupported" ∧ call.NamesOnce library turn .person ∧
      ((turn.name? .channel).isSome = true →
        call.NamesOnce library turn .channel)

def Lost (resolved : ConversationState) (usable : List Row) : Prop :=
  resolved .activeConnection = none ∨ ∃ connection,
    resolved .activeConnection = some connection ∧
      connection.truthy = true ∧ stillUsable connection usable = .ok false

/-- The id of the connection that a turn goes on under: of the one it holds, or
of the only one in use. -/
def GoesOnUnder (usable : List Row) (turn : SlackTurn)
    (resolved : ConversationState) (id : Option Value) : Prop :=
  ((turn.operation = "unsupported" ∨ ¬ Lost resolved usable) ∧
      id = connectionId? resolved) ∨
    turn.operation ≠ "unsupported" ∧ Lost resolved usable ∧
      ∃ selected, usable = [selected] ∧ id = Value.get? selected "connection_id"

theorem optionItems_ok {option : Value} {items : Row} :
    optionItems option = .ok items ↔ option = .dict items := by
  cases option <;> simp [optionItems, asItems?]

variable {active : ConversationState} {field : StateField}

theorem carriedOver_some {value : Value}
    (held : carriedOver active field = some value) :
    active.present field = some value := by
  unfold carriedOver at held
  split at held
  · exact held
  · cases held

theorem carriedOver_none (member : field ∈ carriedFields)
    (held : carriedOver active field = none) :
    active.present field = none := by
  simpa [carriedOver, member] using held

variable {library : StandardLibrary}

theorem chosenOption_mem {value : String} {options : List Row} {selected : Row}
    (chosen : chosenOption library value options = some selected) :
    selected ∈ options := by
  unfold chosenOption at chosen
  dsimp only at chosen
  split at chosen
  · rename_i only
    cases chosen
    exact List.mem_of_mem_filter (only ▸ List.mem_singleton_self _)
  · split at chosen
    · rename_i only
      cases chosen
      exact List.mem_of_mem_filter (only ▸ List.mem_singleton_self _)
    · cases chosen

theorem entity_answered {named : Named} {selected : Row}
    {answered : ConversationState} {target : StateField} {entity : Value}
    (answers : (do
      let entity ← named.entity selected
      pure (Function.update nothingResolved named.field (some entity))) =
        Except.ok answered)
    (found : answered target = some entity) :
    named.field = target ∧ named.entity selected = .ok entity := by
  obtain ⟨_, here, same⟩ := bind_eq_ok.mp answers
  cases same
  by_cases same : target = named.field
  · subst same
    rw [Function.update_self] at found
    cases found
    exact ⟨rfl, here⟩
  · rw [Function.update_of_ne same] at found
    cases found

variable {target : StateField}

theorem answeredWith_target {field : Value} {selected : Row}
    {answered : ConversationState} {entity : Value}
    (asks : ["workspace", "channel", "person"].any field.isText = true)
    (answers : answeredWith field selected = .ok answered)
    (member : target ∈ targetFields) (found : answered target = some entity) :
    ∃ named : Named, named.field = target ∧ field = .str named.asked ∧
      named.entity selected = .ok entity := by
  obtain ⟨kind, listed, same⟩ := List.any_eq_true.mp asks
  have text := Value.isText_iff.mp same
  subst text
  have kinds : kind = "workspace" ∨ kind = "channel" ∨ kind = "person" := by
    simpa using listed
  rcases kinds with rfl | rfl | rfl
  · obtain ⟨_, _, same⟩ := bind_eq_ok.mp answers
    cases same
    have other : target ≠ .activeConnection := by
      rintro rfl
      exact absurd member (by decide)
    rw [Function.update_of_ne other] at found
    cases found
  · obtain ⟨target, entity⟩ :=
      @entity_answered .channel selected answered _ _ answers found
    exact ⟨.channel, target, rfl, entity⟩
  · obtain ⟨target, entity⟩ :=
      @entity_answered .person selected answered _ _ answers found
    exact ⟨.person, target, rfl, entity⟩

variable {parsed : SlackTurn}

theorem answerBlockingNeed_target {text : String} {turn : SlackTurn}
    {answered : ConversationState} {need : Row} {entity : Value}
    (answers : answerBlockingNeed library text parsed active need =
      .ok (turn, answered)) (member : target ∈ targetFields)
    (found : answered target = some entity) :
    ∃ named option, Named.field named = target ∧
      Offers (.dict need) named option ∧ named.entity option = .ok entity := by
  unfold answerBlockingNeed at answers
  dsimp only at answers
  split at answers
  · cases answers
  · rename_i options listed
    split at answers
    · split at answers
      · cases answers
        cases found
      · obtain ⟨_, _, same⟩ := bind_eq_ok.mp answers
        cases same
        cases found
    · split at answers
      · cases answers
        cases found
      · obtain ⟨_, _, answers⟩ := bind_eq_ok.mp answers
        split at answers
        · rename_i asks
          rw [Bool.and_eq_true] at asks
          obtain ⟨rows, read, answers⟩ := bind_eq_ok.mp answers
          unfold answerBySelection at answers
          split at answers
          · cases answers
            cases found
          · rename_i selected chosen
            obtain ⟨kept, answer, answers⟩ := bind_eq_ok.mp answers
            obtain ⟨_, _, same⟩ := bind_eq_ok.mp answers
            cases same
            obtain ⟨named, same, asked, held⟩ :=
              answeredWith_target asks.1 answer member found
            obtain ⟨option, inside, items⟩ :=
              (mem_mapM_iff read).mp (chosenOption_mem chosen)
            cases optionItems_ok.mp items
            exact ⟨named, selected, same,
              ⟨need, options, rfl, asked, listed, inside⟩, held⟩
        · cases answers
          cases found

theorem withAnswer_target {resolved : ConversationState} {text : String}
    {turn : SlackTurn} {entity : Value}
    (answers : withAnswer library active text parsed = .ok (turn, resolved))
    (member : target ∈ targetFields) (found : resolved target = some entity) :
    Holds active target entity := by
  unfold withAnswer at answers
  split at answers
  · rename_i need pending
    obtain ⟨⟨later, answered⟩, here, same⟩ := bind_eq_ok.mp answers
    cases same
    rcases Option.or_eq_some_iff.mp found with first | ⟨_, carried⟩
    · have offered := answerBlockingNeed_target here member first
      rw [← pending] at offered
      exact .inr offered
    · exact .inl (carriedOver_some carried)
  · cases answers
    exact .inl (carriedOver_some found)

theorem withAnswer_none {resolved : ConversationState} {text : String}
    {turn : SlackTurn}
    (answers : withAnswer library active text parsed = .ok (turn, resolved))
    (member : field ∈ carriedFields) (absent : resolved field = none) :
    active.present field = none := by
  unfold withAnswer at answers
  split at answers
  · obtain ⟨⟨_, _⟩, _, same⟩ := bind_eq_ok.mp answers
    cases same
    exact carriedOver_none member (Option.or_eq_none_iff.mp absent).2
  · cases answers
    exact carriedOver_none member absent

/-- A stage drops nothing that is held, and a target that is new to it is one
that the turn selects. -/
structure Follows (library : StandardLibrary) (call : TurnCall)
    (turn : SlackTurn) (resolved later : ConversationState) : Prop where
  kept : ∀ field ∈ carriedFields, resolved field ≠ none → later field ≠ none
  target : ∀ field ∈ targetFields, ∀ entity, later field = some entity →
    (∃ named, Named.field named = field ∧
      call.Selects library turn named entity) ∨ resolved field = some entity

def AllSelected (library : StandardLibrary) (call : TurnCall)
    (turn : SlackTurn) (later : ConversationState) : Prop :=
  ∀ field ∈ targetFields, ∀ entity, later field = some entity →
    ∃ named, Named.field named = field ∧ call.Selects library turn named entity

def OffersSelected (library : StandardLibrary) (call : TurnCall)
    (result : SlackTurnResult) : Prop :=
  ∀ need, result.need = some need → ∀ named option entity,
    Offers need named option → Named.entity named option = .ok entity →
      call.Selects library result.turn named entity

/-- A turn that ends without a connection of its own resolves nothing that the
conversation does not hold. -/
structure Parked (active : ConversationState) (result : SlackTurnResult) :
    Prop where
  state : result.state ≠ .resolving
  connection : result.resolved .activeConnection = none
  held : ∀ field ∈ targetFields, ∀ entity,
    result.resolved field = some entity → Holds active field entity
  offers : ∀ need, result.need = some need → ∀ named option,
    ¬ Offers need named option

structure Grounded (library : StandardLibrary) (call : TurnCall)
    (turn : SlackTurn) (resolved : ConversationState)
    (result : SlackTurnResult) : Prop where
  made : result.turn = turn
  under : GoesOnUnder call.usable turn resolved (connectionId? result.resolved)
  follows : Follows library call turn resolved result.resolved
  renamed : call.Renames library turn resolved →
    AllSelected library call turn result.resolved
  offers : OffersSelected library call result

namespace Follows

variable {library : StandardLibrary} {call : TurnCall} {turn : SlackTurn}
  {resolved middle later : ConversationState}

theorem of_eq (same : ∀ field ∈ targetFields, later field = resolved field)
    (kept : ∀ field ∈ carriedFields, resolved field ≠ none →
      later field ≠ none) :
    Follows library call turn resolved later where
  kept := kept
  target := by
    intro field member entity found
    rw [same field member] at found
    exact .inr found

theorem refl : Follows library call turn resolved resolved :=
  of_eq (fun _ _ => rfl) fun _ _ there => there

theorem trans (first : Follows library call turn resolved middle)
    (second : Follows library call turn middle later) :
    Follows library call turn resolved later where
  kept := fun field member there =>
    second.kept field member (first.kept field member there)
  target := by
    intro field member entity found
    rcases second.target field member entity found with selected | before
    · exact .inl selected
    · exact first.target field member entity before

theorem update {named : Named} {entity : Value}
    (selected : call.Selects library turn named entity) :
    Follows library call turn resolved
      (Function.update resolved named.field (some entity)) where
  kept := by
    intro field _ there
    by_cases same : field = named.field
    · subst same
      simp
    · rw [Function.update_of_ne same]
      exact there
  target := by
    intro field _ other found
    by_cases same : field = named.field
    · subst same
      rw [Function.update_self] at found
      cases found
      exact .inl ⟨named, rfl, selected⟩
    · rw [Function.update_of_ne same] at found
      exact .inr found

end Follows

section Stages

variable {library : StandardLibrary} {call : TurnCall} {turn : SlackTurn}
  {resolved : ConversationState}

theorem needInput_ok {field : String} {candidates : List Row}
    {result : SlackTurnResult}
    (asked : needInput turn resolved field candidates = .ok result) :
    ∃ question, result = {
      state := .needsInput, turn, resolved
      need := some (needValue field question candidates) } := by
  unfold needInput at asked
  split at asked
  · cases asked
  · rename_i question _
    cases asked
    exact ⟨question, rfl⟩

theorem offers_needValue {field question : String} {candidates : List Row}
    {named : Named} {option : Row}
    (offers : Offers (needValue field question candidates) named option) :
    field = named.asked ∧
      ∃ row ∈ candidates, option = Value.select row optionKeys := by
  obtain ⟨_, options, same, asked, listed, inside⟩ := offers
  cases same
  have own : Value.str field = .str named.asked := asked
  have rows : candidates.map
      (fun row => .dict (Value.select row optionKeys)) = options := by
    have read : (Value.list (candidates.map fun row =>
        .dict (Value.select row optionKeys))).listOr? = some options := listed
    rw [Value.listOr?_list] at read
    exact Option.some.inj read
  rw [← rows] at inside
  obtain ⟨row, member, same⟩ := List.mem_map.mp inside
  exact ⟨Value.str.inj own, row, member, (Value.dict.inj same).symm⟩

theorem itemOf_ok {items : Row} {key : String} {value : Value} :
    itemOf items key = .ok value ↔ Value.get? items key = some value := by
  unfold itemOf
  cases Value.get? items key <;> simp

theorem entity_of_select {named : Named} {row : Row} {entity : Value}
    (kept : named.entity (Value.select row optionKeys) = .ok entity) :
    named.entity row = .ok entity := by
  cases named with
  | channel =>
      obtain ⟨id, hasId, rest⟩ := bind_eq_ok.mp kept
      obtain ⟨name, hasName, same⟩ := bind_eq_ok.mp rest
      cases same
      refine bind_eq_ok.mpr ⟨id, itemOf_ok.mpr ?_,
        bind_eq_ok.mpr ⟨name, itemOf_ok.mpr ?_, rfl⟩⟩
      · exact Value.get?_of_select (itemOf_ok.mp hasId)
      · exact Value.get?_of_select (itemOf_ok.mp hasName)
  | person =>
      have same : Value.select (Value.select row optionKeys) personKeys =
          Value.select row personKeys := Value.select_select (by decide)
      change Except.ok (Value.dict (Value.select (Value.select row optionKeys)
        personKeys)) = _ at kept
      rw [same] at kept
      exact kept

theorem connectionRef_ok {row : Row} {connection : Value}
    (kept : connectionRef row = .ok connection) :
    connection.item? "id" = Value.get? row "connection_id" := by
  obtain ⟨_, hasId, same⟩ := bind_eq_ok.mp kept
  cases same
  rw [itemOf_ok.mp hasId]
  rfl

theorem connectionId?_update (connection : Value) :
    connectionId? (Function.update resolved .activeConnection
      (some connection)) = connection.item? "id" := by
  unfold connectionId? ConversationState.value
  rw [Function.update_self]
  rfl

theorem connection_ne_target {field : StateField}
    (member : field ∈ targetFields) : field ≠ .activeConnection := by
  rintro rfl
  exact absurd member (by decide)

def AsksWorkspace (turn : SlackTurn) (resolved : ConversationState)
    (result : SlackTurnResult) : Prop :=
  ∃ question candidates, result = {
    state := .needsInput, turn
    resolved := Function.update resolved .activeConnection none
    need := some (needValue "workspace" question candidates) }

theorem selectConnection_meets (supported : turn.operation ≠ "unsupported")
    {usable : List Row} (lost : Lost resolved usable) :
    Meets (fun next => (∃ connection, next =
        Function.update resolved .activeConnection (some connection)) ∧
        GoesOnUnder usable turn resolved (connectionId? next))
      (AsksWorkspace turn resolved)
      (selectConnection turn resolved usable) := by
  unfold selectConnection
  split
  · rename_i selected
    refine Meets.bind (Meets.raising_of fun connection kept => kept)
      fun connection kept => ?_
    refine ⟨⟨connection, rfl⟩, .inr ⟨supported, lost, selected, rfl, ?_⟩⟩
    rw [connectionId?_update]
    exact connectionRef_ok kept
  · refine Meets.returning_of fun result asked => ?_
    obtain ⟨question, rfl⟩ := needInput_ok asked
    exact ⟨question, usable, rfl⟩

theorem connect_meets (supported : turn.operation ≠ "unsupported")
    {usable : List Row} :
    Meets (fun next => (next = resolved ∨ ∃ connection, next =
        Function.update resolved .activeConnection (some connection)) ∧
        GoesOnUnder usable turn resolved (connectionId? next))
      (AsksWorkspace turn resolved) (connect turn resolved usable) := by
  unfold connect
  split
  · rename_i absent
    exact (selectConnection_meets supported (.inl absent)).imp
      (fun _ next => ⟨.inr next.1, next.2⟩) fun _ asks => asks
  · rename_i connection held
    split
    · rename_i truthy
      refine Meets.bind (Meets.raising_of fun kept usable => usable)
        fun kept still => ?_
      cases kept with
      | true =>
          refine ⟨.inl rfl, .inl ⟨.inr ?_, rfl⟩⟩
          rintro (absent | ⟨other, same, _, gone⟩)
          · rw [held] at absent
            cases absent
          · cases held.symm.trans same
            cases still.symm.trans gone
      | false =>
          exact (selectConnection_meets supported
            (.inr ⟨connection, held, truthy, still⟩)).imp
            (fun _ next => ⟨.inr next.1, next.2⟩) fun _ asks => asks
    · rename_i falsy
      refine ⟨.inl rfl, .inl ⟨.inr ?_, rfl⟩⟩
      rintro (absent | ⟨other, same, truthy, _⟩)
      · rw [held] at absent
        cases absent
      · cases held.symm.trans same
        exact falsy truthy

theorem selects_of_filter {named : Named} {name : String} {row : Row}
    {entity : Value} (hasName : turn.name? named = some name)
    (member : row ∈ (call.rows named).filter fun row =>
      named.fits library name row) (kept : named.entity row = .ok entity) :
    call.Selects library turn named entity := by
  obtain ⟨listed, fits⟩ := List.mem_filter.mp member
  exact ⟨name, hasName, row, listed, fits, kept⟩

structure AsksNamed (library : StandardLibrary) (call : TurnCall)
    (turn : SlackTurn) (named : Named) (resolved : ConversationState)
    (result : SlackTurnResult) : Prop where
  isNamed : (turn.name? named).isSome = true
  unclear : ¬ call.NamesOnce library turn named
  result : ∃ question candidates, (∀ row ∈ candidates, ∀ entity,
      named.entity row = .ok entity → call.Selects library turn named entity) ∧
    result = {
      state := .needsInput, turn, resolved
      need := some (needValue named.asked question candidates) }

theorem ground_meets (named : Named) :
    Meets (fun next => (turn.name? named = none ∧ next = resolved) ∨
        ∃ entity, call.Selects library turn named entity ∧
          next = Function.update resolved named.field (some entity))
      (AsksNamed library call turn named resolved)
      (ground library call turn named resolved) := by
  unfold ground
  split
  · rename_i unnamed
    exact .inl ⟨unnamed, rfl⟩
  · rename_i name hasName
    split
    · rename_i row only
      refine Meets.bind (Meets.raising_of fun entity kept => kept)
        fun entity kept => ?_
      refine .inr ⟨entity, selects_of_filter hasName ?_ kept, rfl⟩
      rw [only]
      exact List.mem_singleton_self row
    · rename_i several
      refine Meets.returning_of fun result asked => ?_
      obtain ⟨question, rfl⟩ := needInput_ok asked
      refine ⟨by rw [hasName]; rfl, ?_, question, _,
        fun row member entity kept => selects_of_filter hasName member kept,
        rfl⟩
      rintro ⟨other, same, row, only⟩
      cases hasName.symm.trans same
      exact several row only

end Stages

end AcpTask.Slack
