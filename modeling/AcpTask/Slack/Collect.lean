import Mathlib.Data.List.TakeDrop
import AcpTask.Data.Value

namespace AcpTask.Slack

open Data

/-! A bounded read of Slack messages, page by page.  `none` is an exception. -/

structure BoundedSlackRead where
  maxPages : Int := 5
  maxMessages : Int := 100
  maxThreadMessages : Int := 50
  maxCitations : Int := 10

structure SlackQuery where
  channelId : Value
  oldest : Value
  latest : Value := .none
  userId : Value := .none
  threadTs : Value := .none

structure PageRequest where
  cursor : Value
  limit : Int

structure EvidenceMessage where
  channelId : Value
  messageTs : Value
  authorId : Value
  text : Value
  threadTs : Value
  relation : String

structure Citation where
  channelId : Value
  messageTs : Value
  permalink : Value
  authorId : Value

structure SlackEvidence where
  messages : List EvidenceMessage
  citations : List Citation
  citationComplete : Bool
  isPartial : Bool
  partialReason : Option String

namespace SlackQuery

variable (query : SlackQuery)

def message? : Value → Option EvidenceMessage
  | .dict items =>
      if query.userId.truthy &&
          !(Value.lookup items "user").equals query.userId then none
      else some {
        channelId := query.channelId
        messageTs := Value.lookup items "ts"
        authorId := Value.lookup items "user"
        text := (Value.get? items "text").getD (.str "")
        threadTs := Value.lookup items "thread_ts"
        relation :=
          if query.threadTs.truthy &&
              (Value.lookup items "ts").equals query.threadTs then "parent"
          else if query.threadTs.truthy then "reply" else "message" }
  | _ => none

def takeBatch (limit : Int) :
    List EvidenceMessage → List Value → List EvidenceMessage × Bool
  | messages, [] => (messages, false)
  | messages, message :: rest =>
      match query.message? message with
      | none => takeBatch limit messages rest
      | some kept =>
          if limit ≤ (messages ++ [kept]).length then
            (messages ++ [kept], rest.any fun rest =>
              (query.message? rest).isSome)
          else takeBatch limit (messages ++ [kept]) rest

end SlackQuery

def pageBatch? : Value → Option (List Value)
  | .dict items => (Value.lookup items "messages").listOr?
  | _ => some []

def pageCursor : Value → Value
  | .dict items => Value.lookup items "next_cursor"
  | _ => .none

def pagePartial : Value → Bool
  | .dict items => (Value.lookup items "partial").truthy
  | _ => false

structure Collected where
  pages : Nat := 0
  cursor : Value := .none
  messages : List EvidenceMessage := []
  providerPartial : Bool := false
  truncated : Bool := false

section Collect

variable (fetchPage : Nat → PageRequest → Option Value) (query : SlackQuery)
  (limit : Int)

def pageRequest (cursor : Value) (count : Nat) : PageRequest :=
  ⟨cursor, min 100 (limit - count)⟩

/-- The loop, with the pages it may still fetch; the page of a call is
whatever `fetch_page` answers then. -/
def collectPages : Nat → Collected → Option Collected
  | 0, state => some state
  | remaining + 1, state =>
      if limit ≤ state.messages.length then some state
      else do
        let page ← fetchPage state.pages
          (pageRequest limit state.cursor state.messages.length)
        let batch ← pageBatch? page
        let taken := query.takeBatch limit state.messages batch
        let next : Collected := {
          pages := state.pages + 1
          cursor := pageCursor page
          messages := taken.1
          providerPartial := pagePartial page
          truncated := taken.2 }
        if next.cursor.truthy then collectPages remaining next else some next

/-- `messages[:count]`. -/
def sliced {α : Type} (count : Int) (items : List α) : List α :=
  items.take (if 0 ≤ count then count else items.length + count).toNat

def cite (permalink : Value → Value → Option Value)
    (message : EvidenceMessage) : Option (Option Citation) :=
  if !message.messageTs.truthy then some none
  else do
    let .dict source ← permalink query.channelId message.messageTs | none
    let link ← Value.get? source "permalink"
    some (some ⟨query.channelId, message.messageTs, link, message.authorId⟩)

def cited (permalink : Option (Value → Value → Option Value))
    (messages : List EvidenceMessage) : Option (List Citation) :=
  match permalink with
  | none => some []
  | some permalink =>
      (messages.mapM (cite query permalink)).map List.reduceOption

def BoundedSlackRead.budget (read : BoundedSlackRead) : Int :=
  if query.threadTs.truthy then read.maxThreadMessages else read.maxMessages

def BoundedSlackRead.collect (read : BoundedSlackRead)
    (permalink : Option (Value → Value → Option Value)) :
    Option SlackEvidence := do
  let state ← collectPages fetchPage query (read.budget query)
    read.maxPages.toNat {}
  let budgetPartial := state.cursor.truthy ||
    (decide (read.maxPages ≤ state.pages) && state.providerPartial)
  let messages := if permalink.isSome then
      sliced read.maxCitations state.messages else state.messages
  let citations ← cited query permalink messages
  some {
    messages, citations
    citationComplete := permalink.isSome
    isPartial := budgetPartial || state.truncated
    partialReason :=
      if query.threadTs.truthy && state.truncated then some "thread_budget"
      else if budgetPartial || state.truncated then
        some "message_or_page_budget"
      else none }

/-- The provider's pages up to the one without a cursor: how many, the last of
them, the matching messages of all, and how many there are before the last. -/
structure ProviderRead where
  matched : List EvidenceMessage
  before : Nat
  pages : Nat
  final : Value

inductive Provides : Nat → Value → Nat → ProviderRead → Prop
  | last {call : Nat} {cursor page : Value} {count : Nat} {batch : List Value}
      (fetched : fetchPage call (pageRequest limit cursor count) = some page)
      (listed : pageBatch? page = some batch)
      (ends : (pageCursor page).truthy = false) :
      Provides call cursor count
        ⟨batch.filterMap query.message?, count, 1, page⟩
  | more {call : Nat} {cursor page : Value} {count : Nat} {batch : List Value}
      {rest : ProviderRead}
      (fetched : fetchPage call (pageRequest limit cursor count) = some page)
      (listed : pageBatch? page = some batch)
      (goesOn : (pageCursor page).truthy = true)
      (others : Provides (call + 1) (pageCursor page)
        (count + (batch.filterMap query.message?).length) rest) :
      Provides call cursor count
        { rest with
          matched := batch.filterMap query.message? ++ rest.matched
          pages := rest.pages + 1 }

/-- Not partial, the evidence has every matching message of every page; and no
more messages than the budget. -/
def Complete (evidence : SlackEvidence) : Prop :=
  (evidence.isPartial = false → ∃ read,
    Provides fetchPage query limit 0 .none 0 read ∧
      evidence.messages = read.matched) ∧
  evidence.messages.length ≤ limit

structure ProviderRead.Within (provided : ProviderRead) (maxPages : Int) :
    Prop where
  pages : provided.pages ≤ maxPages
  before : provided.before < limit
  matched : provided.matched.length ≤ limit
  whole : provided.pages = maxPages → pagePartial provided.final = false

/-- The budgets let the read begin, or there is nothing to find; and what it
cites in full is within the budget of citations. -/
structure Adequate (read : BoundedSlackRead) (cites : Bool) : Prop where
  messages : 0 ≤ limit
  begins : 0 < read.maxPages ∧ 0 < limit ∨ ∃ provided : ProviderRead,
    Provides fetchPage query limit 0 .none 0 provided ∧ provided.matched = []
  citations : cites = true → ∀ provided : ProviderRead,
    Provides fetchPage query limit 0 .none 0 provided →
      provided.Within limit read.maxPages →
        provided.matched.length ≤ read.maxCitations ∨ provided.matched = []

end Collect

section Collecting

variable {fetchPage : Nat → PageRequest → Option Value} {query : SlackQuery}
  {limit : Int}

theorem takeBatch_eq {messages : List EvidenceMessage} (batch : List Value)
    (room : messages.length < limit) :
    query.takeBatch limit messages batch =
      ((messages ++ batch.filterMap query.message?).take limit.toNat,
        decide (limit < (messages ++ batch.filterMap query.message?).length)) := by
  induction batch generalizing messages with
  | nil =>
      rw [SlackQuery.takeBatch, List.filterMap_nil, List.append_nil,
        List.take_of_length_le (by omega), decide_eq_false (by omega)]
  | cons message batch induction =>
      rw [SlackQuery.takeBatch]
      cases kept : query.message? message with
      | none =>
          rw [List.filterMap_cons_none kept]
          exact induction room
      | some evidence =>
          rw [List.filterMap_cons_some kept, List.append_cons]
          dsimp only
          split
          · rename_i full
            have exactly : limit.toNat = (messages ++ [evidence]).length := by
              rw [List.length_append, List.length_singleton] at full ⊢
              omega
            rw [exactly, List.take_left]
            congr 1
            rw [Bool.eq_iff_iff, List.any_eq_true, decide_eq_true_iff,
              List.length_append]
            have count : limit = (messages ++ [evidence]).length := by omega
            rw [count]
            have some := List.length_pos_iff_exists_mem
              (l := batch.filterMap query.message?)
            constructor
            · rintro ⟨rest, member, isSome⟩
              obtain ⟨found, is⟩ := Option.isSome_iff_exists.mp isSome
              have := some.mpr ⟨found, List.mem_filterMap.mpr ⟨rest, member, is⟩⟩
              omega
            · intro longer
              obtain ⟨found, member⟩ := some.mp (by omega)
              obtain ⟨rest, listed, is⟩ := List.mem_filterMap.mp member
              exact ⟨rest, listed, by rw [is]; rfl⟩
          · rename_i room
            exact induction (by omega)

theorem Provides.unique {call : Nat} {cursor : Value} {count : Nat}
    {first second : ProviderRead}
    (one : Provides fetchPage query limit call cursor count first)
    (other : Provides fetchPage query limit call cursor count second) :
    first = second := by
  induction one generalizing second with
  | last fetched listed ends =>
      cases other with
      | last again same =>
          obtain rfl := Option.some.inj (fetched.symm.trans again)
          obtain rfl := Option.some.inj (listed.symm.trans same)
          rfl
      | more again _ goesOn =>
          obtain rfl := Option.some.inj (fetched.symm.trans again)
          exact absurd (ends.symm.trans goesOn) Bool.false_ne_true
  | more fetched listed goesOn _ induction =>
      cases other with
      | last again _ ends =>
          obtain rfl := Option.some.inj (fetched.symm.trans again)
          exact absurd (ends.symm.trans goesOn) Bool.false_ne_true
      | more again same _ others =>
          obtain rfl := Option.some.inj (fetched.symm.trans again)
          obtain rfl := Option.some.inj (listed.symm.trans same)
          rw [induction others]

def Collected.next (state : Collected) (query : SlackQuery) (limit : Int)
    (page : Value) (batch : List Value) : Collected where
  pages := state.pages + 1
  cursor := pageCursor page
  messages := (state.messages ++ batch.filterMap query.message?).take
    limit.toNat
  providerPartial := pagePartial page
  truncated := decide (limit <
    (state.messages ++ batch.filterMap query.message?).length)

variable {remaining : Nat} {state : Collected}

theorem collectPages_succ (room : state.messages.length < limit) :
    collectPages fetchPage query limit (remaining + 1) state =
      ((fetchPage state.pages
        (pageRequest limit state.cursor state.messages.length)).bind fun page =>
          (pageBatch? page).bind fun batch =>
            if (pageCursor page).truthy then
              collectPages fetchPage query limit remaining
                (state.next query limit page batch)
            else some (state.next query limit page batch)) := by
  rw [collectPages, if_neg (by omega)]
  congr 1
  funext page
  congr 1
  funext batch
  rw [takeBatch_eq batch room]
  rfl

theorem collectPages_full (full : limit ≤ state.messages.length) :
    collectPages fetchPage query limit remaining state = some state := by
  cases remaining with
  | zero => rfl
  | succ => rw [collectPages, if_pos full]

theorem Collected.next_messages {state : Collected} {page : Value}
    {batch : List Value} (fits : (state.messages.length +
      (batch.filterMap query.message?).length : Nat) ≤ limit) :
    (state.next query limit page batch).messages =
        state.messages ++ batch.filterMap query.message? ∧
      (state.next query limit page batch).truncated = false := by
  rw [Collected.next]
  constructor
  · apply List.take_of_length_le
    rw [List.length_append]
    omega
  · apply decide_eq_false
    rw [List.length_append]
    omega

theorem collectPages_ends {final : Collected}
    (collects : collectPages fetchPage query limit remaining state =
      some final) (begins : 0 < remaining)
    (room : state.messages.length < limit) (ends : final.cursor.truthy = false)
    (whole : final.truncated = false) :
    ∃ provided, Provides fetchPage query limit state.pages state.cursor
        state.messages.length provided ∧
      final.messages = state.messages ++ provided.matched ∧
      final.pages = state.pages + provided.pages ∧
      provided.pages ≤ remaining ∧ provided.before < limit ∧
      final.providerPartial = pagePartial provided.final := by
  induction remaining generalizing state with
  | zero => exact absurd begins (Nat.lt_irrefl 0)
  | succ remaining induction =>
      rw [collectPages_succ room] at collects
      obtain ⟨page, fetched, collects⟩ := Option.bind_eq_some_iff.mp collects
      obtain ⟨batch, listed, collects⟩ := Option.bind_eq_some_iff.mp collects
      cases goesOn : (pageCursor page).truthy with
      | false =>
          rw [goesOn, if_neg Bool.false_ne_true] at collects
          obtain rfl := Option.some.inj collects
          have fits := of_decide_eq_false whole
          rw [List.length_append] at fits
          obtain ⟨messages, _⟩ :=
            @Collected.next_messages query limit state page batch (by omega)
          exact ⟨_, .last fetched listed goesOn, messages, rfl,
            Nat.succ_le_succ (Nat.zero_le remaining), room, rfl⟩
      | true =>
          rw [goesOn, if_pos rfl] at collects
          by_cases full : limit ≤ (state.next query limit page
              batch).messages.length
          · rw [collectPages_full full] at collects
            obtain rfl := Option.some.inj collects
            exact absurd (goesOn.symm.trans ends) Bool.noConfusion
          · have more : 0 < remaining := by
              cases remaining with
              | zero =>
                  obtain rfl := Option.some.inj collects
                  exact absurd (goesOn.symm.trans ends) Bool.noConfusion
              | succ remaining => exact Nat.succ_pos remaining
            have fits : (state.messages.length +
                (batch.filterMap query.message?).length : Nat) ≤ limit := by
              rw [Collected.next, List.length_take, List.length_append] at full
              omega
            obtain ⟨messages, _⟩ :=
              @Collected.next_messages query limit state page batch fits
            obtain ⟨_, others, all, pages, within, before, isPartial⟩ :=
              induction collects more (by omega)
            rw [messages, List.length_append] at others
            rw [messages, List.append_assoc] at all
            refine ⟨_, .more fetched listed goesOn others, all, ?_,
              Nat.succ_le_succ within, before, isPartial⟩
            rw [pages, Collected.next]
            dsimp only
            omega

theorem Provides.count_le {call : Nat} {cursor : Value} {count : Nat}
    {provided : ProviderRead}
    (provides : Provides fetchPage query limit call cursor count provided) :
    count ≤ provided.before := by
  induction provides with
  | last => exact le_rfl
  | more _ _ _ _ induction => exact (Nat.le_add_right _ _).trans induction

theorem Provides.collected {call : Nat} {cursor : Value} {count : Nat}
    {provided : ProviderRead}
    (provides : Provides fetchPage query limit call cursor count provided)
    {remaining : Nat} {state : Collected} (calls : state.pages = call)
    (cursors : state.cursor = cursor) (length : state.messages.length = count)
    (enough : provided.pages ≤ remaining) (before : provided.before < limit)
    (fits : (count + provided.matched.length : Nat) ≤ limit) :
    ∃ final, collectPages fetchPage query limit remaining state = some final ∧
      final.cursor.truthy = false ∧ final.truncated = false ∧
      final.messages = state.messages ++ provided.matched ∧
      final.pages = state.pages + provided.pages ∧
      final.providerPartial = pagePartial provided.final := by
  have room : (count : Int) < limit := by
    have least := provides.count_le
    omega
  induction provides generalizing remaining state with
  | last fetched listed ends =>
      subst calls cursors length
      obtain ⟨remaining, rfl⟩ := Nat.exists_eq_succ_of_ne_zero
        (Nat.pos_iff_ne_zero.mp enough)
      obtain ⟨messages, whole⟩ := Collected.next_messages fits
      refine ⟨_, ?_, ends, whole, messages, rfl, rfl⟩
      rw [collectPages_succ room, fetched, Option.bind_some, listed,
        Option.bind_some, ends, if_neg Bool.false_ne_true]
  | @more _ _ page _ batch rest fetched listed goesOn others induction =>
      subst calls cursors length
      obtain ⟨remaining, rfl⟩ := Nat.exists_eq_succ_of_ne_zero
        (Nat.pos_iff_ne_zero.mp (Nat.zero_lt_of_lt enough))
      rw [List.length_append] at fits
      obtain ⟨messages, _⟩ :=
        @Collected.next_messages query limit state page batch (by omega)
      have count := others.count_le
      dsimp only at before
      obtain ⟨final, collects, ends, whole, all, pages, isPartial⟩ :=
        @induction remaining (state.next query limit page batch) rfl rfl
          (by rw [messages, List.length_append])
          (Nat.le_of_succ_le_succ enough) before (by omega) (by omega)
      refine ⟨final, ?_, ends, whole, ?_, ?_, isPartial⟩
      · rw [collectPages_succ room, fetched, Option.bind_some, listed,
          Option.bind_some, goesOn, if_pos rfl, collects]
      · rw [all, messages, List.append_assoc]
      · rw [pages, Collected.next]
        dsimp only
        omega

theorem sliced_eq_iff {α : Type} {count : Int} {items : List α} :
    sliced count items = items ↔ items.length ≤ count ∨ items = [] := by
  rw [sliced, List.take_eq_self_iff, ← List.length_eq_zero_iff]
  split <;> omega

theorem length_sliced_le {α : Type} (count : Int) (items : List α) :
    (sliced count items).length ≤ items.length :=
  List.length_take_le' _ _

theorem collect_some {read : BoundedSlackRead}
    {permalink : Option (Value → Value → Option Value)}
    {evidence : SlackEvidence}
    (returned : read.collect fetchPage query permalink = some evidence) :
    ∃ state, collectPages fetchPage query (read.budget query)
        read.maxPages.toNat {} = some state ∧
      evidence.messages = (if permalink.isSome then
        sliced read.maxCitations state.messages else state.messages) ∧
      evidence.isPartial = (state.cursor.truthy ||
        (decide (read.maxPages ≤ state.pages) && state.providerPartial) ||
          state.truncated) := by
  obtain ⟨state, collects, returned⟩ := Option.bind_eq_some_iff.mp returned
  obtain ⟨_, _, returned⟩ := Option.bind_eq_some_iff.mp returned
  obtain rfl := Option.some.inj returned
  exact ⟨state, collects, rfl, rfl⟩

theorem collectPages_length {final : Collected}
    (collects : collectPages fetchPage query limit remaining state =
      some final) (within : state.messages.length ≤ limit) :
    final.messages.length ≤ limit := by
  induction remaining generalizing state with
  | zero =>
      obtain rfl := Option.some.inj collects
      exact within
  | succ _ induction =>
      by_cases room : state.messages.length < limit
      · rw [collectPages_succ room] at collects
        obtain ⟨page, _, collects⟩ := Option.bind_eq_some_iff.mp collects
        obtain ⟨batch, _, collects⟩ := Option.bind_eq_some_iff.mp collects
        have next : ((state.next query limit page batch).messages.length :
            Int) ≤ limit := by
          rw [Collected.next, List.length_take]
          omega
        split at collects
        · exact induction collects next
        · obtain rfl := Option.some.inj collects
          exact next
      · rw [collectPages_full (by omega)] at collects
        obtain rfl := Option.some.inj collects
        exact within

theorem collectPages_never {maxPages : Int}
    (never : ¬ (0 < maxPages ∧ 0 < limit)) :
    collectPages fetchPage query limit maxPages.toNat {} =
      some ({} : Collected) := by
  by_cases pages : 0 < maxPages
  · have full : limit ≤ ({} : Collected).messages.length := by
      show limit ≤ 0
      omega
    exact collectPages_full full
  · rw [Int.toNat_of_nonpos (by omega)]
    rfl

theorem sliced_length_le {read : BoundedSlackRead} {evidence : SlackEvidence}
    {cites : Bool} (messages : evidence.messages = if cites then
      sliced read.maxCitations state.messages else state.messages) :
    evidence.messages.length ≤ state.messages.length := by
  rw [messages]
  split
  · exact length_sliced_le _ _
  · exact le_rfl

end Collecting

/-- Of what a call returns. -/
theorem complete_iff (fetchPage : Nat → PageRequest → Option Value)
    (query : SlackQuery) (read : BoundedSlackRead)
    (permalink : Option (Value → Value → Option Value))
    (evidence : SlackEvidence)
    (returned : read.collect fetchPage query permalink = some evidence) :
    Complete fetchPage query (read.budget query) evidence ↔
      Adequate fetchPage query (read.budget query) read permalink.isSome := by
  obtain ⟨state, collects, messages, isPartial⟩ := collect_some returned
  generalize read.budget query = limit at collects ⊢
  have shorter := sliced_length_le messages
  by_cases begins : 0 < read.maxPages ∧ 0 < limit
  · have empty : (({} : Collected).messages.length : Int) ≤ limit :=
      Int.le_of_lt begins.2
    have within := collectPages_length collects empty
    constructor
    · rintro ⟨complete, _⟩
      refine ⟨Int.le_of_lt begins.2, .inl begins, ?_⟩
      intro cites provided provides fits
      obtain ⟨pages, before, matched, whole⟩ := fits
      obtain ⟨_, again, ends, untruncated, all, count, flag⟩ :=
        @Provides.collected fetchPage query limit 0 .none 0 provided provides
          read.maxPages.toNat {} rfl rfl rfl (by omega) before (by omega)
      obtain rfl := Option.some.inj (again.symm.trans collects)
      have reported : evidence.isPartial = false := by
        rw [isPartial, ends, untruncated, flag, Bool.or_false, Bool.false_or,
          Bool.and_eq_false_imp, decide_eq_true_iff, count]
        intro reached
        apply whole
        dsimp only at reached
        omega
      obtain ⟨other, same, equal⟩ := complete reported
      rw [← provides.unique same, messages, if_pos cites, all] at equal
      exact sliced_eq_iff.mp equal
    · rintro ⟨_, _, citations⟩
      refine ⟨fun reported => ?_, by omega⟩
      rw [isPartial, Bool.or_eq_false_iff, Bool.or_eq_false_iff,
        Bool.and_eq_false_imp, decide_eq_true_iff] at reported
      obtain ⟨⟨ends, whole⟩, untruncated⟩ := reported
      obtain ⟨provided, provides, all, count, pages, before, flag⟩ :=
        collectPages_ends collects (by omega) begins.2 ends untruncated
      refine ⟨provided, provides, ?_⟩
      rw [messages, all]
      split
      · rename_i cites
        apply sliced_eq_iff.mpr
        apply citations cites provided provides
        constructor
        · omega
        · exact before
        · rw [all] at within
          exact within
        · intro last
          rw [← flag]
          apply whole
          rw [count, ← last]
          exact_mod_cast Nat.le_add_left _ _
      · rfl
  · rw [collectPages_never begins] at collects
    obtain rfl := Option.some.inj collects
    have nothing : evidence.messages = [] := List.length_eq_zero_iff.mp
      (Nat.le_zero.mp shorter)
    have reported : evidence.isPartial = false := by
      rw [isPartial]
      show (false || (decide _ && false) || false) = false
      rw [Bool.and_false]
      rfl
    rw [Complete, nothing]
    constructor
    · rintro ⟨complete, most⟩
      obtain ⟨provided, provides, none⟩ := complete reported
      refine ⟨most, .inr ⟨provided, provides, none.symm⟩, ?_⟩
      intro _ other same _
      rw [← provides.unique same]
      exact .inr none.symm
    · rintro ⟨most, reads, _⟩
      obtain ⟨provided, provides, none⟩ := reads.resolve_left begins
      exact ⟨fun _ => ⟨provided, provides, none.symm⟩, most⟩

def threeMessages : Nat → PageRequest → Option Value := fun _ _ =>
  some (.dict [("messages", .list [.dict [("ts", .str "1")],
    .dict [("ts", .str "2")], .dict [("ts", .str "3")]])])

def linked (channelId messageTs : Value) : Option Value :=
  some (.dict [("permalink", .list [channelId, messageTs])])

def channelQuery : SlackQuery := ⟨.str "C1", .str "0", .none, .none, .none⟩

theorem complete_iff_of_three : ∃ evidence,
    BoundedSlackRead.collect threeMessages channelQuery {} none =
        some evidence ∧
      Complete threeMessages channelQuery 100 evidence := by
  refine ⟨_, rfl, (complete_iff threeMessages channelQuery {} none _ rfl).mpr
    ⟨by decide, .inl ⟨by decide, by decide⟩, ?_⟩⟩
  intro cites
  cases cites

/-- With two citations at most, the third message is cut off, and the read is
not partial. -/
theorem uncited_messages_dropped : ∃ evidence,
    BoundedSlackRead.collect threeMessages channelQuery { maxCitations := 2 }
        (some linked) = some evidence ∧
      ¬ Complete threeMessages channelQuery 100 evidence := by
  refine ⟨_, rfl, ?_⟩
  rintro ⟨complete, _⟩
  obtain ⟨_, provides, messages⟩ := complete rfl
  have all := provides.unique (.last rfl rfl rfl)
  rw [all] at messages
  exact absurd (congrArg List.length messages) (by decide)

end AcpTask.Slack
