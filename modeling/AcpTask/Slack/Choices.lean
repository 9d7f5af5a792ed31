import AcpTask.Slack.Grounding
import AcpTask.Slack.Visibility

namespace AcpTask.Slack

open Concierge Data Library

/-! Answering a question with a label of one of the options it offers. -/

section Definitions

variable (library : StandardLibrary)

def labelOf (option : Row) (key : String) : String :=
  normalizeName library (Value.lookup option key)

def DistinctLabels (options : List Row) : Prop :=
  options.Pairwise fun first second => ∀ key ∈ labelKeys, ∀ other ∈ labelKeys,
    labelOf library first key ≠ "" →
      labelOf library first key ≠ labelOf library second other

def answerForm (text : String) : String :=
  normalizeName library (.str (String.ofList
    ((library.strip text).toList.map fun character =>
      if character = '·' then ' ' else character)))

def identifierKeys : List String := ["connection_id", "team_id", "id", "handle"]

structure Question (need : Row) (options : List Row) : Prop where
  field : ∃ field ∈ ["workspace", "channel", "person"],
    Value.lookup need "field" = .str field
  options : Value.lookup need "options" = .list (options.map .dict)

/-- The turn ends, and the conversation goes on with the option, which the
answer was taken to mean. -/
def Selects (active : ConversationState) (call : TurnCall) (need : Row)
    (options : List Row) (option : Row) : Prop :=
  chosenOption library (library.strip call.text) options = some option ∧
    ∃ answered result,
      answeredWith (Value.lookup need "field") option = .ok answered ∧
      coordinate library active call = .ok result ∧
      ∀ slot entity, answered slot = some entity →
        result.resolved slot = some entity

/-- The answer says a label of the option, and no identifier of another; nor
any label of another, unless it says an identifier of the option. -/
structure Unambiguous (text : String) (options : List Row) (option : Row) :
    Prop where
  said : mentions library (answerForm library text) option labelKeys = true
  identified : ∀ other ∈ options, other ≠ option →
    mentions library (answerForm library text) other identifierKeys = false
  alone : mentions library (answerForm library text) option identifierKeys =
      true ∨ ∀ other ∈ options, other ≠ option →
    mentions library (answerForm library text) other labelKeys = false

/-- The operation that the conversation has, or else the turn. -/
def answeredOperation (active : ConversationState) (call : TurnCall) : Value :=
  (active.value .operation).orElse (.str call.turn.operation)

/-- The conversation and the stored rows are of the types they are declared
with, and the locale is one that there are questions in. -/
structure Typed (active : ConversationState) (call : TurnCall) : Prop where
  draft : ((carriedOver active).value .pendingDraft).orEmpty.item? "text" ≠
    none
  connection : ∀ connection ∈ active.present .activeConnection,
    connection.item? "id" ≠ none
  rows : ∀ row ∈ call.usable, ∃ id,
    Value.get? row "connection_id" = some (.str id)
  operation : ∃ operation, answeredOperation active call = .str operation
  locale : ∃ locale ∈ ["es", "en"],
    (active.value .locale).orElse (.str call.turn.locale) = .str locale

def entityKeys : Value → List String
  | .str "workspace" => ["connection_id"]
  | .str "channel" => ["id", "name"]
  | _ => []

/-- The turn is no question about the connection and does not go on with a
cancellation, the option has what is stored of it, and a workspace is connected
unless there is no operation yet. -/
structure Reachable (active : ConversationState) (call : TurnCall)
    (need option : Row) : Prop where
  turn : call.turn.operation ≠ "status"
  operation : answeredOperation active call ≠ .str "cancel"
  complete : ∀ key ∈ entityKeys (Value.lookup need "field"),
    (Value.get? option key).isSome = true
  connected : Value.lookup need "field" = .str "workspace" →
    answeredOperation active call ≠ .str "unsupported" →
      ∃ row ∈ call.usable, (Value.lookup row "connection_id").equals
        (Value.lookup option "connection_id") = true

end Definitions

theorem filter_eq_singleton_iff {Item : Type} {apart : Item → Item → Prop}
    {items : List Item} {item : Item} {test : Item → Bool}
    (distinct : items.Pairwise apart) (self : ¬ apart item item)
    (member : item ∈ items) :
    items.filter test = [item] ↔
      test item = true ∧ ∀ other ∈ items, other ≠ item → test other = false := by
  constructor
  · intro filtered
    have only : ∀ {other}, other ∈ items → test other = true →
        other = item := by
      intro other inside passes
      rw [← List.mem_singleton, ← filtered]
      exact List.mem_filter.mpr ⟨inside, passes⟩
    have passes : item ∈ items.filter test := filtered ▸ List.mem_singleton_self _
    refine ⟨(List.mem_filter.mp passes).2, fun other inside different => ?_⟩
    exact Bool.eq_false_of_not_eq_true fun passes =>
      different (only inside passes)
  · rintro ⟨passes, others⟩
    induction items with
    | nil => cases member
    | cons first rest induction =>
        rw [List.pairwise_cons] at distinct
        have restOthers := (List.forall_mem_cons.mp others).2
        rcases List.mem_cons.mp member with rfl | later
        · rw [List.filter_cons_of_pos passes, List.filter_eq_nil_iff.mpr]
          intro other inside
          rw [restOthers other inside fun same => self (same ▸ distinct.1 _ inside)]
          exact Bool.false_ne_true
        · have different : first ≠ item := by
            rintro rfl
            exact self (distinct.1 _ later)
          rw [List.filter_cons_of_neg
            (by simp [others first List.mem_cons_self different])]
          exact induction distinct.2 later restOthers

variable {library : StandardLibrary} {text : String} {options : List Row}
  {option : Row}

theorem mentions_labels {form : String} {row : Row}
    (identified : mentions library form row identifierKeys = true) :
    mentions library form row labelKeys = true := by
  have among : ∀ key ∈ identifierKeys, key ∈ labelKeys := by decide
  obtain ⟨key, member, said⟩ := List.any_eq_true.mp identified
  exact List.any_eq_true.mpr ⟨key, among key member, said⟩

theorem answerBlockingNeed_question {need : Row} (question : Question need options)
    (offered : options ≠ []) (parsed : SlackTurn) (active : ConversationState) :
    answerBlockingNeed library text parsed active need =
      answerBySelection library text parsed active (Value.lookup need "field")
        options := by
  obtain ⟨⟨_, among, named⟩, listed⟩ := question
  have read : (options.map Value.dict).mapM optionItems = .ok options := by
    rw [mapM_eq_ok_iff, List.forall₂_map_left_iff]
    exact List.forall₂_same.mpr fun _ _ => rfl
  simp only [answerBlockingNeed, named, listed, Value.listOr?_list]
  simp only [List.mem_cons, List.not_mem_nil, or_false] at among
  rcases among with rfl | rfl | rfl <;>
    simp [Value.isText, Value.hashable, require, read, offered, bind, Except.bind]

theorem chosenOption_eq_some_iff :
    chosenOption library (library.strip text) options = some option ↔
      options.filter (mentions library (answerForm library text) ·
          identifierKeys) = [option] ∨
        (∀ other, options.filter (mentions library (answerForm library text) ·
          identifierKeys) ≠ [other]) ∧
        options.filter (mentions library (answerForm library text) ·
          labelKeys) = [option] := by
  rw [answerForm]
  unfold chosenOption
  dsimp only [identifierKeys]
  split
  · rename_i selected single
    simp [single]
  · rename_i several
    rw [or_iff_right (several option), and_iff_right several]
    split
    · rename_i selected single
      simp [single]
    · rename_i none
      exact iff_of_false nofun (none option)

theorem chosenOption_iff_unambiguous (distinct : DistinctLabels library options)
    (self : ¬ ∀ key ∈ labelKeys, ∀ other ∈ labelKeys,
      labelOf library option key ≠ "" →
        labelOf library option key ≠ labelOf library option other)
    (member : option ∈ options) :
    chosenOption library (library.strip text) options = some option ↔
      Unambiguous library text options option := by
  have identified := @filter_eq_singleton_iff _ _ _ _
    (mentions library (answerForm library text) · identifierKeys) distinct self
    member
  have labelled := @filter_eq_singleton_iff _ _ _ _
    (mentions library (answerForm library text) · labelKeys) distinct self
    member
  rw [chosenOption_eq_some_iff, identified, labelled]
  constructor
  · rintro (⟨own, others⟩ | ⟨_, own, others⟩)
    · exact ⟨mentions_labels own, others, .inl own⟩
    · refine ⟨own, fun other inside different => ?_, .inr others⟩
      refine Bool.eq_false_of_not_eq_true fun said => ?_
      have label := mentions_labels said
      rw [others other inside different] at label
      cases label
  · rintro ⟨said, unsaid, own | others⟩
    · exact .inl ⟨own, unsaid⟩
    · cases own : mentions library (answerForm library text) option
          identifierKeys with
      | true => exact .inl ⟨rfl, unsaid⟩
      | false =>
          refine .inr ⟨fun other single => ?_, said, others⟩
          have inside : other ∈ options.filter
              (mentions library (answerForm library text) · identifierKeys) :=
            single ▸ List.mem_singleton_self other
          obtain ⟨inside, passes⟩ := List.mem_filter.mp inside
          by_cases same : other = option
          · rw [same, own] at passes
            cases passes
          · rw [unsaid other inside same] at passes
            cases passes

section Turns

variable {active resolved : ConversationState} {call : TurnCall}
  {turn : SlackTurn} {usable : List Row} {need : Row}
  {answered : ConversationState}

theorem needInput_known (known : turn.locale ∈ ["es", "en"]) {field : String}
    (among : field ∈ ["operation", "workspace", "channel", "person", "thread",
      "message_text"]) (candidates : List Row) : ∃ result,
    needInput turn resolved field candidates = .ok result ∧
      result.resolved = resolved := by
  unfold needInput
  have asked : (question? turn.locale field).isSome = true := by
    simp only [List.mem_cons, List.not_mem_nil, or_false] at known among
    rcases known with same | same <;>
      rcases among with rfl | rfl | rfl | rfl | rfl | rfl <;> rw [same] <;> rfl
  obtain ⟨question, found⟩ := Option.isSome_iff_exists.mp asked
  rw [found]
  exact ⟨_, rfl, rfl⟩

theorem missingField?_known {field : String}
    (missing : missingField? turn resolved = some field) :
    field ∈ ["operation", "workspace", "channel", "person", "thread",
      "message_text"] := by
  unfold missingField? at missing
  dsimp only at missing
  split at missing
  · cases missing
    decide
  · split at missing
    · cases missing
      decide
    · split at missing
      · cases missing
        decide
      · split at missing
        · cases missing
          decide
        · cases missing

/-- The stage goes on with the connection, or ends the turn with it. -/
def Settles (stage : TurnStage ConversationState)
    (connected : ConversationState) : Prop :=
  stage = .ok connected ∨
    ∃ result, stage = .error (.returned result) ∧ result.resolved = connected

theorem selectConnection_settles (known : turn.locale ∈ ["es", "en"])
    (rows : ∀ row ∈ usable, ∃ id,
      Value.get? row "connection_id" = some (.str id)) :
    ∃ connection, Settles (selectConnection turn resolved usable)
        (Function.update resolved .activeConnection connection) ∧
      (connection = none ∨ ∃ row ∈ usable, ∃ id label,
        Value.get? row "connection_id" = some (.str id) ∧
          connection = some (.dict [("id", .str id), ("label", label)])) := by
  unfold selectConnection
  split
  · rename_i selected
    obtain ⟨id, stored⟩ := rows selected (.head _)
    refine ⟨_, .inl ?_, .inr ⟨selected, .head _, id, teamLabel selected, stored,
      rfl⟩⟩
    rw [connectionRef, itemOf, stored]
    rfl
  · obtain ⟨result, asked, same⟩ := @needInput_known
      (Function.update resolved .activeConnection none) turn known "workspace"
      (by decide) usable
    refine ⟨none, .inr ⟨result, ?_, same⟩, .inl rfl⟩
    rw [asked]
    rfl

theorem connect_eq (stored : ∀ connection ∈ resolved .activeConnection,
      connection.item? "id" ≠ none) :
    connect turn resolved usable = .ok resolved ∨
      connect turn resolved usable = selectConnection turn resolved usable := by
  unfold connect
  split
  · exact .inr rfl
  · rename_i connection held
    split
    · unfold stillUsable
      split
      · exact .inr rfl
      · split
        · rename_i unread
          exact absurd unread (stored connection held)
        · rename_i id _
          cases kept : usable.any fun row =>
              (Value.lookup row "connection_id").equals id with
          | true =>
              exact .inl rfl
          | false =>
              exact .inr rfl
    · exact .inl rfl

theorem connect_chosen {id label : Value} (chosen :
      resolved .activeConnection = some (.dict [("id", id), ("label", label)])) :
    connect turn resolved usable =
      if ∃ row ∈ usable, (Value.lookup row "connection_id").equals id = true
      then .ok resolved else selectConnection turn resolved usable := by
  have kept : stillUsable (.dict [("id", id), ("label", label)]) usable =
      .ok (usable.any fun row =>
        (Value.lookup row "connection_id").equals id) := by
    unfold stillUsable
    cases usable <;> rfl
  unfold connect
  simp only [chosen, kept]
  by_cases connected : ∃ row ∈ usable,
      (Value.lookup row "connection_id").equals id = true
  · rw [if_pos connected, List.any_eq_true.mpr connected]
    rfl
  · rw [if_neg connected, Bool.eq_false_iff.mpr fun any =>
      connected (List.any_eq_true.mp any)]
    rfl

/-- The turn names nothing, in a locale that there are questions in. -/
structure Bare (turn : SlackTurn) : Prop where
  locale : turn.locale ∈ ["es", "en"]
  channel : turn.channelName = none
  person : turn.personName = none
  period : turn.periodDays = none

/-- A turn that names nothing keeps what is resolved behind the connection. -/
theorem groundedTurn_settled (bare : Bare turn) {connected : ConversationState}
    (settles : Settles (connect turn resolved call.usable) connected) :
    ∃ result, finished (groundedTurn library call turn resolved) = .ok result ∧
      result.resolved = connected := by
  have unnamed : ∀ named, turn.name? named = none := by
    intro named
    cases named
    · rw [SlackTurn.name?, bare.channel]
      rfl
    · rw [SlackTurn.name?, bare.person]
      rfl
  have grounds : ∀ named, ground library call turn named connected =
      .ok connected := by
    intro named
    rw [ground, unnamed]
    rfl
  unfold groundedTurn
  rcases settles with connects | ⟨result, ends, same⟩
  · rw [connects]
    simp only [bind, Except.bind, grounds]
    cases missing : missingField? turn connected with
    | some field =>
        obtain ⟨result, asked, same⟩ :=
          needInput_known bare.locale (missingField?_known missing) []
        refine ⟨result, ?_, same⟩
        dsimp only
        rw [asked]
        rfl
    | none =>
        refine ⟨_, rfl, ?_⟩
        rw [resolvingResult, withPeriod, bare.period]
        rfl
  · exact ⟨result, by rw [ends]; rfl, same⟩

theorem withPendingText_typed (typed : Typed active call) : ∃ parsed,
    withPendingText call.turn (carriedOver active) = .ok parsed ∧
      parsed.operation = call.turn.operation ∧
      parsed.locale = call.turn.locale := by
  unfold withPendingText
  split
  · exact ⟨_, rfl, rfl, rfl⟩
  · split
    · rename_i unread
      exact absurd unread typed.draft
    · refine ⟨_, rfl, ?_⟩
      split <;> exact ⟨rfl, rfl⟩
    · exact ⟨_, rfl, rfl, rfl⟩

theorem answeredWith_ok_iff (question : Question need options) :
    (∃ answered, answeredWith (Value.lookup need "field") option =
      .ok answered) ↔
      ∀ key ∈ entityKeys (Value.lookup need "field"),
        (Value.get? option key).isSome = true := by
  obtain ⟨⟨field, among, named⟩, _⟩ := question
  rw [named]
  simp only [List.mem_cons, List.not_mem_nil, or_false] at among
  rcases among with rfl | rfl | rfl
  · cases found : Value.get? option "connection_id" <;>
      simp [answeredWith, Value.isText, connectionRef, itemOf, entityKeys,
        found, bind, Except.bind, pure, Except.pure]
  · cases id : Value.get? option "id" <;>
      cases name : Value.get? option "name" <;>
        simp [answeredWith, Value.isText, Named.entity, itemOf, entityKeys, id,
          name, bind, Except.bind, pure, Except.pure]
  · simp [answeredWith, Value.isText, Named.entity, entityKeys, bind,
      Except.bind, pure, Except.pure]

/-- How the turn goes on once it is answered. -/
def resumed (library : StandardLibrary) (call : TurnCall) (turn : SlackTurn)
    (resolved : ConversationState) : TurnStage SlackTurnResult :=
  if turn.operation = "unsupported" then
    returning (needInput turn resolved "operation" [])
  else if turn.operation = "cancel" then pure { state := .cancelled, turn }
  else groundedTurn library call turn resolved

theorem coordinate_answered (typed : Typed active call)
    (question : Question need options)
    (pending : active.value .blockingNeed = .dict need)
    (notStatus : call.turn.operation ≠ "status")
    (chosen : chosenOption library (library.strip call.text) options =
      some option) (member : option ∈ options) :
    ∃ operation locale : String, locale ∈ ["es", "en"] ∧
      answeredOperation active call = .str operation ∧
      ∀ answered, answeredWith (Value.lookup need "field") option =
          .ok answered →
        coordinate library active call = finished (resumed library call
          { operation, locale, refersToActiveTarget := true }
          fun field => (answered field).or (carriedOver active field)) := by
  obtain ⟨parsed, read, operated, located⟩ := withPendingText_typed typed
  obtain ⟨operation, isOperation⟩ := typed.operation
  obtain ⟨locale, among, isLocale⟩ := typed.locale
  refine ⟨operation, locale, among, isOperation, fun answered done => ?_⟩
  have answering : answeringTurn active parsed none =
      .ok { operation, locale, refersToActiveTarget := true } := by
    unfold answeredOperation at isOperation
    rw [answeringTurn, operated, located, isOperation, isLocale]
  have answers : answerBlockingNeed library call.text parsed active need =
      .ok ({ operation, locale, refersToActiveTarget := true }, answered) := by
    rw [answerBlockingNeed_question question (List.ne_nil_of_mem member),
      answerBySelection, chosen]
    simp only [done, answering, bind, Except.bind, pure, Except.pure]
  have withAnswered : withAnswer library active call.text parsed =
      .ok ({ operation, locale, refersToActiveTarget := true },
        fun field => (answered field).or (carriedOver active field)) := by
    rw [withAnswer, pending]
    simp only [answers, bind, Except.bind, pure, Except.pure]
  rw [← operated] at notStatus
  rw [coordinate, turnStages, read]
  simp only [raising, Except.mapError, bind, Except.bind, if_neg notStatus,
    withAnswered, resumed]

theorem answeredWith_slot (question : Question need options)
    (done : answeredWith (Value.lookup need "field") option = .ok answered) :
    ∃ slot entity, answered = Function.update nothingResolved slot (some entity) ∧
      (Value.lookup need "field" = .str "workspace" ∧ slot = .activeConnection ∧
          entity = .dict [("id", Value.lookup option "connection_id"),
            ("label", teamLabel option)] ∨
        Value.lookup need "field" ≠ .str "workspace" ∧
          slot ≠ .activeConnection) := by
  obtain ⟨⟨field, among, named⟩, _⟩ := question
  rw [named] at done ⊢
  simp only [List.mem_cons, List.not_mem_nil, or_false] at among
  unfold answeredWith at done
  rcases among with rfl | rfl | rfl
  · cases stored : Value.get? option "connection_id" with
    | none => simp [Value.isText, connectionRef, itemOf, stored, bind,
        Except.bind] at done
    | some id =>
        have read : Value.lookup option "connection_id" = id := by
          rw [Value.lookup, stored]
          rfl
        simp [Value.isText, connectionRef, itemOf, stored, bind, Except.bind,
          pure, Except.pure] at done
        exact ⟨_, _, done.symm, .inl ⟨rfl, rfl, by rw [read]⟩⟩
  · rw [if_neg (by decide)] at done
    obtain ⟨entity, _, same⟩ := bind_eq_ok.mp done
    cases same
    exact ⟨_, _, rfl, .inr ⟨by decide, by decide⟩⟩
  · rw [if_neg (by decide)] at done
    obtain ⟨entity, _, same⟩ := bind_eq_ok.mp done
    cases same
    exact ⟨_, _, rfl, .inr ⟨by decide, by decide⟩⟩

/-- A turn that goes on with a chosen connection ends with it exactly when it is
among the connected ones. -/
theorem groundedTurn_workspace_iff (typed : Typed active call)
    (bare : Bare turn)
    {id label : Value} (chosen : resolved .activeConnection =
      some (.dict [("id", id), ("label", label)])) :
    (∃ result, finished (groundedTurn library call turn resolved) = .ok result ∧
        result.resolved .activeConnection =
          some (.dict [("id", id), ("label", label)])) ↔
      ∃ row ∈ call.usable,
        (Value.lookup row "connection_id").equals id = true := by
  have connects := @connect_chosen resolved turn call.usable _ _ chosen
  constructor
  · rintro ⟨result, ended, kept⟩
    by_contra unconnected
    rw [if_neg unconnected] at connects
    obtain ⟨connection, settles, replaced⟩ := @selectConnection_settles
      resolved turn call.usable bare.locale typed.rows
    rw [← connects] at settles
    obtain ⟨other, ends, same⟩ := groundedTurn_settled bare settles
    cases ended.symm.trans ends
    rw [same, Function.update_self] at kept
    rcases replaced with rfl | ⟨row, member, id, label, stored, rfl⟩
    · cases kept
    · have listed : Value.lookup row "connection_id" = .str id := by
        rw [Value.lookup, stored]
        rfl
      simp only [Option.some.injEq, Value.dict.injEq, List.cons.injEq,
        Prod.mk.injEq, true_and, and_true] at kept
      refine unconnected ⟨row, member, ?_⟩
      rw [listed, ← kept.1]
      simp [Value.equals, Value.number?]
  · intro connected
    rw [if_pos connected] at connects
    obtain ⟨result, ended, same⟩ := groundedTurn_settled bare (.inl connects)
    exact ⟨result, ended, by rw [same, chosen]⟩

theorem groundedTurn_keeps (typed : Typed active call) (bare : Bare turn)
    (stored : ∀ connection ∈ resolved .activeConnection,
      connection.item? "id" ≠ none) :
    ∃ result, finished (groundedTurn library call turn resolved) = .ok result ∧
      ∀ slot, slot ≠ .activeConnection →
        result.resolved slot = resolved slot := by
  obtain ⟨connection, settles, _⟩ := @selectConnection_settles
    resolved turn call.usable bare.locale typed.rows
  rcases @connect_eq resolved turn call.usable stored with connects | connects
  · obtain ⟨result, ended, same⟩ := groundedTurn_settled bare (.inl connects)
    exact ⟨result, ended, fun slot _ => by rw [same]⟩
  · rw [← connects] at settles
    obtain ⟨result, ended, same⟩ := groundedTurn_settled bare settles
    exact ⟨result, ended, fun slot other => by
      rw [same, Function.update_of_ne other]⟩

theorem resumed_selects_iff (typed : Typed active call)
    (question : Question need options)
    (done : answeredWith (Value.lookup need "field") option = .ok answered)
    {operation locale : String} (known : locale ∈ ["es", "en"]) :
    (∃ result, finished (resumed library call
          { operation, locale, refersToActiveTarget := true }
          fun field => (answered field).or (carriedOver active field)) =
        .ok result ∧ ∀ slot entity, answered slot = some entity →
          result.resolved slot = some entity) ↔
      operation ≠ "cancel" ∧ (Value.lookup need "field" = .str "workspace" →
        operation ≠ "unsupported" → ∃ row ∈ call.usable,
          (Value.lookup row "connection_id").equals
            (Value.lookup option "connection_id") = true) := by
  obtain ⟨slot, entity, rfl, kind⟩ := answeredWith_slot question done
  set turn : SlackTurn := { operation, locale, refersToActiveTarget := true }
  set resolved : ConversationState := fun field =>
    (Function.update nothingResolved slot (some entity) field).or
      (carriedOver active field) with merged
  have chosen : resolved slot = some entity := by
    rw [merged]
    simp
  have keeps : ∀ {result : SlackTurnResult}, (∀ field value,
      Function.update nothingResolved slot (some entity) field = some value →
        result.resolved field = some value) ↔
      result.resolved slot = some entity := by
    intro result
    constructor
    · exact fun kept => kept slot entity (Function.update_self ..)
    · intro kept field value answers
      by_cases same : field = slot
      · rw [same, Function.update_self] at answers
        rw [same, kept, ← answers]
      · rw [Function.update_of_ne same] at answers
        cases answers
  simp only [keeps, resumed]
  by_cases unsupported : turn.operation = "unsupported"
  · obtain ⟨result, asked, same⟩ := @needInput_known resolved turn known
      "operation" (by decide) []
    rw [if_pos unsupported, asked]
    have notCancel : operation ≠ "cancel" := fun cancel => by
      have : "cancel" = "unsupported" := cancel ▸ unsupported
      exact absurd this (by decide)
    exact iff_of_true ⟨result, rfl, by rw [same, chosen]⟩
      ⟨notCancel, fun _ other => absurd unsupported other⟩
  rw [if_neg unsupported]
  by_cases cancel : turn.operation = "cancel"
  · rw [if_pos cancel]
    refine iff_of_false ?_ fun reach => reach.1 cancel
    rintro ⟨result, ended, kept⟩
    cases ended
    cases kept
  rw [if_neg cancel]
  have bare : Bare turn := ⟨known, rfl, rfl, rfl⟩
  -- what is left is the connection: only of a workspace it is the one chosen
  rcases kind with ⟨workspace, rfl, rfl⟩ | ⟨other, elsewhere⟩
  · rw [@groundedTurn_workspace_iff library active resolved call turn typed
      bare _ _ chosen]
    exact ⟨fun connected => ⟨cancel, fun _ _ => connected⟩,
      fun reach => reach.2 workspace unsupported⟩
  · refine iff_of_true ?_ ⟨cancel, fun workspace => absurd workspace other⟩
    have stored : ∀ connection ∈ resolved .activeConnection,
        connection.item? "id" ≠ none := by
      intro connection held
      rw [merged] at held
      simp only [Function.update_of_ne elsewhere.symm, nothingResolved,
        Option.none_or] at held
      exact typed.connection connection held
    obtain ⟨result, ended, same⟩ := @groundedTurn_keeps library active resolved
      call turn typed bare stored
    exact ⟨result, ended, by rw [same slot elsewhere, chosen]⟩

theorem coordinate_status (typed : Typed active call)
    (status : call.turn.operation = "status") {result : SlackTurnResult}
    (ended : coordinate library active call = .ok result) :
    result.resolved = fun _ => none := by
  obtain ⟨parsed, read, operated, _⟩ := withPendingText_typed typed
  rw [← operated] at status
  rw [coordinate, turnStages, read] at ended
  simp only [raising, Except.mapError, bind, Except.bind, if_pos status,
    statusResult] at ended
  cases said : statusMessage parsed.locale call.usable with
  | error error =>
      rw [said] at ended
      cases ended
  | ok message =>
      rw [said] at ended
      cases ended
      rfl

end Turns

/-- An option is selected by its label exactly when the label is unambiguous
and the turn reaches the question: names are looked for anywhere in the
answer. -/
theorem selects_iff {active : ConversationState} {call : TurnCall} {need : Row}
    {key : String} (question : Question need options)
    (pending : active.value .blockingNeed = .dict need)
    (distinct : DistinctLabels library options) (member : option ∈ options)
    (among : key ∈ labelKeys) (visible : labelOf library option key ≠ "")
    (typed : Typed active call) :
    Selects library active call need options option ↔
      Unambiguous library call.text options option ∧
        Reachable active call need option := by
  have self : ¬ ∀ key ∈ labelKeys, ∀ other ∈ labelKeys,
      labelOf library option key ≠ "" →
        labelOf library option key ≠ labelOf library option other :=
    fun apart => apart key among key among visible rfl
  rw [← chosenOption_iff_unambiguous distinct self member, Selects]
  refine and_congr_right fun chosen => ?_
  constructor
  · rintro ⟨answered, result, done, ended, kept⟩
    have turn : call.turn.operation ≠ "status" := by
      intro status
      obtain ⟨slot, entity, rfl, _⟩ := answeredWith_slot question done
      have held := kept slot entity (Function.update_self ..)
      rw [coordinate_status typed status ended] at held
      cases held
    obtain ⟨operation, locale, known, operated, runs⟩ :=
      coordinate_answered typed question pending turn chosen member
    rw [runs answered done] at ended
    obtain ⟨goesOn, connected⟩ :=
      (resumed_selects_iff typed question done known).mp ⟨result, ended, kept⟩
    refine ⟨turn, ?_, (answeredWith_ok_iff question).mp ⟨answered, done⟩, ?_⟩
    · rw [operated]
      exact fun same => goesOn (Value.str.inj same)
    · rw [operated]
      exact fun workspace supported => connected workspace fun same =>
        supported (congrArg Value.str same)
  · intro reach
    obtain ⟨operation, locale, known, operated, runs⟩ :=
      coordinate_answered typed question pending reach.turn chosen member
    obtain ⟨answered, done⟩ := (answeredWith_ok_iff question).mpr reach.complete
    have goesOn := reach.operation
    have connected := reach.connected
    rw [operated] at goesOn connected
    obtain ⟨result, ended, kept⟩ :=
      (resumed_selects_iff typed question done known).mpr
        ⟨fun same => goesOn (congrArg Value.str same),
          fun workspace supported => connected workspace fun same =>
            supported (Value.str.inj same)⟩
    exact ⟨answered, result, done, by rw [runs answered done, ended], kept⟩

def generalChannels : List Row :=
  [[("id", .str "C1"), ("name", .str "general")],
    [("id", .str "C2"), ("name", .str "general team")]]

def whichChannel : Row :=
  [("field", .str "channel"), ("options", .list (generalChannels.map .dict))]

def askedChannel : ConversationState
  | .blockingNeed => some (.dict whichChannel)
  | .operation => some (.str "read")
  | .locale => some (.str "en")
  | _ => none

def channelAnswer (text : String) : TurnCall where
  text := text
  turn := { operation := "clarify", locale := "en" }
  installations := [[("connection_id", .str "slack-1"),
    ("status", .str "connected")]]
  channels := generalChannels
  users := []

theorem askedChannel_typed (text : String) :
    Typed askedChannel (channelAnswer text) where
  draft := by decide
  connection := nofun
  rows := by
    intro row member
    rw [List.mem_singleton.mp member]
    exact ⟨"slack-1", rfl⟩
  operation := ⟨"read", rfl⟩
  locale := ⟨"en", by decide, rfl⟩

theorem selects_iff_general :
    Selects slackService.library askedChannel (channelAnswer "general")
        whichChannel generalChannels
        [("id", .str "C1"), ("name", .str "general")] ↔
      Unambiguous slackService.library "general" generalChannels
          [("id", .str "C1"), ("name", .str "general")] ∧
        Reachable askedChannel (channelAnswer "general") whichChannel
          [("id", .str "C1"), ("name", .str "general")] :=
  @selects_iff slackService.library generalChannels _ askedChannel
    (channelAnswer "general") whichChannel "name"
    ⟨⟨"channel", by decide, rfl⟩, rfl⟩ rfl
    (by unfold DistinctLabels; decide +kernel) (.head _) (by decide)
    (by decide +kernel) (askedChannel_typed "general")

/-- The name of one channel is a part of the name of the other. -/
theorem general_team_not_selected :
    ¬ ∀ (library : StandardLibrary) (key : String) (active : ConversationState)
      (call : TurnCall) (need : Row) (options : List Row) (option : Row),
      Question need options → active.value .blockingNeed = .dict need →
      DistinctLabels library options → option ∈ options → key ∈ labelKeys →
      Value.lookup option key = .str call.text →
      labelOf library option key ≠ "" → Typed active call →
      Reachable active call need option →
      Selects library active call need options option := by
  intro selects
  have chosen := (selects slackService.library "name" askedChannel
    (channelAnswer "general team") whichChannel generalChannels _
    ⟨⟨"channel", by decide, rfl⟩, rfl⟩ rfl
    (by unfold DistinctLabels; decide +kernel) (.tail _ (.head _)) (by decide)
    rfl (by decide +kernel) (askedChannel_typed _)
    ⟨by decide, by decide, by decide, nofun⟩).1
  have nobody : (chosenOption slackService.library
      (slackService.library.strip "general team") generalChannels).isSome =
        false := by decide +kernel
  rw [show slackService.library.strip "general team" =
    slackService.library.strip (channelAnswer "general team").text from rfl,
    chosen] at nobody
  cases nobody

end AcpTask.Slack
