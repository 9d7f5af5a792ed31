import AcpTask.Data.Sorted
import AcpTask.Concierge.Turns

namespace AcpTask.Concierge

open Data Library
open Data.Value (lookup get? sortKeys sortPairs ReadBack)
open Outbox

/-! `apply_conversation_answer` as one call, from its read of the conversation
to the conversation it hands back. -/

/-- The object that `json.loads` gives back. -/
def ConversationState.readBack (state : ConversationState) :
    ConversationState := fun field =>
  (state field).map sortKeys

def Conversation.readBack (row : Conversation) : Conversation :=
  { row with state := row.state.readBack }

structure AnswerResult where
  conversation : Option Conversation
  duplicate : Bool
  workflowRunId : Option String
  workflowRevisionId : Option String

def conversationAnswerResult (conversation : Option Conversation)
    (answer : ConciergeAnswer) (duplicate : Bool) : AnswerResult where
  conversation
  duplicate
  workflowRunId := answer.workflowRunId
  workflowRevisionId := answer.workflowRevisionId

def applyConversationAnswer (encoding : Encoding) (store : ConversationStore)
    (call : AnswerCall) :
    Except ConversationError AnswerResult × ConversationStore :=
  match answerArguments call with
  | .error error => (.error error, store)
  | .ok () =>
      let read := getConversation store.row call.now false
      let current := read.1.map Conversation.readBack
      let store := { store with row := read.2 }
      match answerPrepared encoding store current call with
      | .error error => (.error error, store)
      | .ok none =>
          match store.answers.find? call.idempotencyKey with
          | none => (.error conversationUnavailable, store)
          | some prior =>
              (.ok (conversationAnswerResult current prior true), store)
      | .ok (some answered) =>
          match answerTransaction store answered with
          | (.error error, later) => (.error error, later)
          | (.ok (), later) =>
              let shown := getConversation later.row call.now false
              (.ok (conversationAnswerResult
                  (shown.1.map Conversation.readBack) answered.answer false),
                { later with row := shown.2 })

theorem ConversationState.value_readBack (state : ConversationState)
    (field : StateField) :
    state.readBack.value field = sortKeys (state.value field) := by
  unfold ConversationState.value ConversationState.readBack
  cases state field with
  | none => rw [Option.map_none, Option.getD_none, sortKeys]
  | some => rfl

theorem sortKeys_eq_none_iff {value : Value} :
    sortKeys value = .none ↔ value = .none := by
  cases value <;> simp [sortKeys]

def answerSlot (fieldName : String) : StateField :=
  (entityField? fieldName).getD .knownInputs

theorem answerKeeps_of_entityField? {fieldName : String} {entity : StateField}
    (named : entityField? fieldName = some entity) :
    entity.answerKeeps = true ∧ entity ≠ .knownInputs := by
  unfold entityField? at named
  split at named <;> cases named <;> simp [StateField.answerKeeps]

theorem answerKeeps_answerSlot (fieldName : String) :
    (answerSlot fieldName).answerKeeps = true := by
  unfold answerSlot
  cases named : entityField? fieldName with
  | none => rfl
  | some => exact (answerKeeps_of_entityField? named).1

theorem entityField?_of_answerSlot {fieldName : String}
    (slot : answerSlot fieldName = .knownInputs) :
    entityField? fieldName = none := by
  unfold answerSlot at slot
  cases named : entityField? fieldName with
  | none => rfl
  | some =>
      rw [named] at slot
      exact absurd slot (answerKeeps_of_entityField? named).2

def keptState (read : ConversationState) : ConversationState := fun field =>
  if field.answerKeeps then read.present field else none

variable {read state : ConversationState} {call : AnswerCall}

theorem answeredState_eq (answered : answeredState read call = .ok state) :
    ∃ value, state =
      Function.update (keptState read) (answerSlot call.fieldName)
        (some value) := by
  unfold answeredState at answered
  unfold answerSlot
  cases named : entityField? call.fieldName with
  | some =>
      rw [named] at answered
      cases answered
      exact ⟨call.value, rfl⟩
  | none =>
      rw [named] at answered
      cases known : asDict? (read.value .knownInputs) with
      | none =>
          rw [known] at answered
          cases answered
      | some =>
          rw [known] at answered
          cases answered
          exact ⟨_, rfl⟩

theorem keptState_value (read : ConversationState) (field : StateField) :
    (keptState read).value field =
      if field.answerKeeps then read.value field else .none := by
  rw [← read.value_present field]
  unfold ConversationState.value keptState
  split <;> rfl

theorem answeredState_value (answered : answeredState read call = .ok state)
    {field : StateField} (other : field ≠ answerSlot call.fieldName) :
    state.value field =
      if field.answerKeeps then read.value field else .none := by
  obtain ⟨_, rfl⟩ := answeredState_eq answered
  rw [← keptState_value]
  unfold ConversationState.value
  rw [Function.update_of_ne other]

/-! The items of `known_inputs`. -/

def knownItems (state : ConversationState) : List (String × Value) :=
  (asDict? (state.value .knownInputs)).getD []

theorem fixed_of_pairItem? {item : Value} {pair : String × Value}
    (fixed : sortKeys item = item) (read : pairItem? item = some pair) :
    sortKeys pair.2 = pair.2 := by
  unfold pairItem? at read
  split at read
  · cases read
    simp only [sortKeys, Value.sortKeysItems, Value.list.injEq,
      List.cons.injEq] at fixed
    exact fixed.2.1
  · split at read
    · cases read
      exact Value.sortKeys_eq_str_iff.mpr rfl
    · cases read
  · cases read

theorem fixed_of_mapM {items : List Value} {pairs : List (String × Value)}
    (fixed : Value.sortKeysItems items = items)
    (read : items.mapM pairItem? = some pairs) :
    ∀ item ∈ pairs, sortKeys item.2 = item.2 := by
  induction items generalizing pairs with
  | nil =>
      cases read
      exact fun _ member => by cases member
  | cons _ _ induction =>
      rw [Value.sortKeysItems] at fixed
      obtain ⟨first, rest⟩ := List.cons.inj fixed
      rw [List.mapM_cons] at read
      obtain ⟨_, here, more⟩ := Option.bind_eq_some_iff.mp read
      obtain ⟨_, later, same⟩ := Option.bind_eq_some_iff.mp more
      cases same
      exact List.forall_mem_cons.mpr
        ⟨fixed_of_pairItem? first here, induction rest later⟩

theorem readBack_foldl {pairs built : List (String × Value)}
    (readBack : ReadBack built)
    (fixed : ∀ item ∈ pairs, sortKeys item.2 = item.2) :
    ReadBack (pairs.foldl
      (fun built item => Value.insertItem built item.1 item.2) built) := by
  induction pairs generalizing built with
  | nil => exact readBack
  | cons head _ induction =>
      exact induction
        (readBack.insertItem head.1 (fixed head List.mem_cons_self))
        fun item member => fixed item (List.mem_cons_of_mem _ member)

theorem readBack_of_asDict? {value : Value} {items : List (String × Value)}
    (fixed : sortKeys value = value) (dict : asDict? value = some items) :
    ReadBack items := by
  have empty : ReadBack [] := ⟨.nil, fun _ member => by cases member⟩
  unfold asDict? Value.orEmpty at dict
  cases truthy : value.truthy with
  | false =>
      simp only [truthy, Bool.false_eq_true, if_false,
        Option.some.injEq] at dict
      exact dict ▸ empty
  | true =>
      simp only [truthy, if_true] at dict
      cases value with
      | dict =>
          cases dict
          rw [sortKeys] at fixed
          exact Value.dict.inj fixed ▸ Value.readBack_sortPairs items
      | list =>
          obtain ⟨_, mapped, rfl⟩ := Option.map_eq_some_iff.mp dict
          rw [sortKeys] at fixed
          exact readBack_foldl empty
            (fixed_of_mapM (Value.list.inj fixed) mapped)
      | _ => cases dict

theorem answeredState_known (answered : answeredState read call = .ok state)
    (slot : answerSlot call.fieldName = .knownInputs) :
    asDict? (read.value .knownInputs) = some (knownItems read) ∧
      state.value .knownInputs = .dict
        (Value.insertItem (knownItems read) call.fieldName call.value) := by
  unfold answeredState at answered
  rw [entityField?_of_answerSlot slot] at answered
  unfold knownItems
  cases known : asDict? (read.value .knownInputs) with
  | none =>
      rw [known] at answered
      cases answered
  | some =>
      rw [known] at answered
      cases answered
      exact ⟨rfl, rfl⟩

theorem truthy_sortPairs {items : List (String × Value)} {key : String}
    {value : Value} (found : get? items key = some value) :
    (Value.dict (sortPairs items)).truthy = true := by
  have kept := Value.get?_sortPairs items key
  rw [found] at kept
  cases sorted : sortPairs items with
  | nil =>
      rw [sorted] at kept
      cases kept
  | cons => rfl

theorem answeredState_lookup {answered : ConversationState}
    (applied : answeredState state.readBack call = .ok answered)
    (slot : answerSlot call.fieldName = .knownInputs) {key : String}
    (other : call.fieldName ≠ key) :
    lookup (knownItems answered.readBack) key =
      lookup (knownItems state.readBack) key := by
  obtain ⟨before, written⟩ := answeredState_known applied slot
  have fixed : sortKeys (state.readBack.value .knownInputs) =
      state.readBack.value .knownInputs := by
    rw [state.value_readBack, Value.sortKeys_sortKeys]
  have readBack := readBack_of_asDict? fixed before
  have after : knownItems answered.readBack = sortPairs
      (Value.insertItem (knownItems state.readBack) call.fieldName
        call.value) := by
    have inserted := readBack.ordered.get?_insertItem call.fieldName
      call.value call.fieldName
    rw [if_pos rfl] at inserted
    unfold knownItems asDict? Value.orEmpty
    rw [answered.value_readBack, written, sortKeys,
      if_pos (truthy_sortPairs inserted)]
    rfl
  unfold lookup
  rw [after, Value.get?_sortPairs, readBack.ordered.get?_insertItem,
    if_neg other]
  cases found : get? (knownItems state.readBack) key with
  | none => rfl
  | some => exact readBack.fixed_of_get? found

theorem answerPrepared_some {encoding : Encoding} {store : ConversationStore}
    {current : Option Conversation} {answered : Answered}
    (prepared : answerPrepared encoding store current call =
      .ok (some answered)) :
    ∃ read, current = some read ∧
      answeredState read.state call = .ok answered.state ∧
      answered.answer.workflowRunId = call.workflowRunId ∧
      answered.answer.workflowRevisionId = call.workflowRevisionId ∧
      answered.answer.appliedAt = call.now := by
  unfold answerPrepared at prepared
  cases current with
  | none => cases prepared
  | some read =>
      cases found : store.answers.find? call.idempotencyKey with
      | some =>
          simp only [found, bind_eq_ok] at prepared
          obtain ⟨_, _, same⟩ := prepared
          cases same
      | none =>
          simp only [found, bind_eq_ok] at prepared
          obtain ⟨_, _, _, applied, same⟩ := prepared
          cases same
          exact ⟨read, rfl, applied, rfl, rfl, rfl⟩

theorem applyConversationAnswer_recorded {encoding : Encoding}
    {store after : ConversationStore} {result : AnswerResult}
    (applied : applyConversationAnswer encoding store call =
      (.ok result, after)) (recorded : result.duplicate = false) :
    ∃ state, answeredState store.row.state.readBack call = .ok state ∧
      after.row = { store.row with
        status := .interpreting, state := state
        workflowRunId := call.workflowRunId.or store.row.workflowRunId
        workflowRevisionId :=
          call.workflowRevisionId.or store.row.workflowRevisionId
        updatedAt := call.now } ∧
      result.conversation = some after.row.readBack := by
  unfold applyConversationAnswer at applied
  cases accepted : answerArguments call with
  | error => simp [accepted] at applied
  | ok _ =>
      simp only [accepted] at applied
      split at applied
      · cases applied
      · split at applied
        · cases applied
        · obtain ⟨same, _⟩ := Prod.mk.inj applied
          cases same
          cases recorded
      · rename_i answered prepared
        obtain ⟨read, shown, state, run, revision, time⟩ :=
          answerPrepared_some prepared
        obtain ⟨row, here, rfl⟩ := Option.map_eq_some_iff.mp shown
        obtain ⟨same, inTime⟩ := getConversation_eq_some here
        rw [same] at here applied
        cases here
        simp only [answerTransaction] at applied
        split at applied
        · cases applied
        · rename_i later transacted
          split at transacted
          · cases transacted
          · cases transacted
            have live : getConversation (answered.assign store.row) call.now
                false = _ := getConversation_of_live rfl inTime
            rw [live] at applied
            cases applied
            exact ⟨answered.state, state,
              by simp [Answered.assign, run, revision, time], rfl⟩

/-- Between two states, nothing but the answer to a need and the need itself
has changed; beside an answer that is put in `known_inputs`, the other inputs
that are known stay. -/
structure OnlyAnswered (before after : ConversationState)
    (fieldName : String) : Prop where
  fields : ∀ field, field ≠ .blockingNeed → field ≠ answerSlot fieldName →
    after.value field = before.value field
  inputs : answerSlot fieldName = .knownInputs → ∀ key, fieldName ≠ key →
    lookup (knownItems after) key = lookup (knownItems before) key

/-- An answer that is recorded changes nothing but its field and the blocking
need exactly when no field that answers do not carry along holds a value. -/
theorem answer_changes_only_its_field_iff {encoding : Encoding}
    {store after : ConversationStore} {call : AnswerCall}
    {result : AnswerResult}
    (applied : applyConversationAnswer encoding store call =
      (.ok result, after)) (recorded : result.duplicate = false) :
    OnlyAnswered store.row.state.readBack after.row.state.readBack
        call.fieldName ↔
      ∀ field : StateField, field.answerKeeps = false →
        field ≠ .blockingNeed → store.row.state.value field = .none := by
  obtain ⟨state, answered, row, _⟩ :=
    applyConversationAnswer_recorded applied recorded
  have written : after.row.state = state := by rw [row]
  rw [written]
  have later : ∀ {field : StateField}, field ≠ answerSlot call.fieldName →
      state.readBack.value field = if field.answerKeeps then
        store.row.state.readBack.value field else .none := by
    intro field other
    rw [state.value_readBack, answeredState_value answered other]
    split
    · rw [store.row.state.value_readBack, Value.sortKeys_sortKeys]
    · rw [sortKeys]
  constructor
  · intro only field dropped notNeed
    have other : field ≠ answerSlot call.fieldName := by
      rintro rfl
      rw [answerKeeps_answerSlot] at dropped
      cases dropped
    have same := only.fields field notNeed other
    rw [later other, dropped, if_neg Bool.false_ne_true,
      store.row.state.value_readBack] at same
    exact sortKeys_eq_none_iff.mp same.symm
  · intro absent
    refine ⟨fun field notNeed other => ?_,
      fun slot key other => answeredState_lookup answered slot other⟩
    rw [later other]
    split
    · rfl
    · rename_i dropped
      rw [store.row.state.value_readBack,
        absent field (Bool.not_eq_true _ ▸ dropped) notNeed, sortKeys]

def answerEncoding : Encoding := ⟨⟨fun _ => "json"⟩, fun _ => "sha256"⟩

def localeNeeded (known : ConversationState) : ConversationStore where
  row := {
    conversationId := "conversation:1", tenantId := "tenant"
    principalId := "principal", status := .needsInput
    state := Function.update known .blockingNeed
      (some (.dict [("field", .str "locale")]))
    stateVersion := 1, workflowRunId := none, workflowRevisionId := none
    presentation := none, presentationHash := none
    createdAt := 0, updatedAt := 0, expiresAt := 180, contentExpiresAt := 180
    closedAt := none }
  turns := Table.empty
  answers := Table.empty
  outbox := OutboxStore.empty

def localeAnswer : AnswerCall :=
  ⟨"answer:1", "locale", .str "es", 1, none, none⟩

def channelKnown : ConversationState := fun
  | .activeChannel => some (.str "C1")
  | _ => none

/-- The channel a conversation is about outlives the answer. -/
theorem localeAnswer_keeps_the_channel :
    OnlyAnswered (localeNeeded channelKnown).row.state.readBack
      (applyConversationAnswer answerEncoding (localeNeeded channelKnown)
        localeAnswer).2.row.state.readBack "locale" := by
  refine (@answer_changes_only_its_field_iff _ _ _ localeAnswer _ rfl rfl).mpr
    fun field dropped notNeed => ?_
  cases field <;> first | exact absurd rfl notNeed | rfl | cases dropped

def messageKnown : ConversationState := fun
  | .activeMessage => some (.str "M1")
  | _ => none

/-- The message it is about does not. -/
theorem localeAnswer_drops_the_message :
    (∃ result, (applyConversationAnswer answerEncoding
        (localeNeeded messageKnown) localeAnswer).1 = .ok result ∧
      result.duplicate = false) ∧
    ¬ OnlyAnswered (localeNeeded messageKnown).row.state.readBack
      (applyConversationAnswer answerEncoding (localeNeeded messageKnown)
        localeAnswer).2.row.state.readBack "locale" := by
  refine ⟨⟨_, rfl, rfl⟩, fun only => ?_⟩
  have same := only.fields .activeMessage (by decide) (by decide)
  cases same

end AcpTask.Concierge
