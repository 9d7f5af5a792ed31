import AcpTask.Concierge.Sync

namespace AcpTask.Concierge

open Data Workflow

/-! A complete outcome that is delivered a second time: the worker stopped after
the projection and before the watermark advanced. -/

structure Conversation.Same (left right : Conversation) : Prop where
  status : left.status = right.status
  state : left.state = right.state
  workflowRunId : left.workflowRunId = right.workflowRunId
  workflowRevisionId : left.workflowRevisionId = right.workflowRevisionId
  presentation : left.presentation = right.presentation
  presentationHash : left.presentationHash = right.presentationHash
  closedAt : left.closedAt = right.closedAt

theorem Conversation.Same.refl (row : Conversation) : row.Same row :=
  ⟨rfl, rfl, rfl, rfl, rfl, rfl, rfl⟩

def Conversation.readAt (row : Conversation) (now : Int) : Conversation :=
  if row.lapsed now then row.expire now else row

theorem Conversation.readAt_expire (row : Conversation) (now later : Int) :
    (row.expire now).readAt later = row.expire now := by
  simp [Conversation.readAt, Conversation.lapsed, Conversation.expire,
    ConversationStatus.terminal]

theorem Changes.value_applyTo (changes : Changes) (state : ConversationState)
    (field : StateField) :
    (changes.applyTo state).value field =
      (changes.fields field).getD (state.value field) := by
  cases change : changes.fields field with
  | none =>
      rw [Option.getD_none, ← state.value_present field]
      simp [ConversationState.value, Changes.applyTo, change]
  | some value =>
      cases value <;> simp [ConversationState.value, Changes.applyTo, change]

theorem ConversationState.present_present (state : ConversationState) :
    state.present.present = state.present := by
  funext field
  cases stored : state field with
  | none => simp [ConversationState.present, stored]
  | some value => cases value <;> simp [ConversationState.present, stored]

theorem Changes.applyTo_applyTo (changes : Changes)
    (state : ConversationState) :
    changes.applyTo (changes.applyTo state) = changes.applyTo state := by
  funext field
  cases change : changes.fields field with
  | none =>
      have kept : ∀ other : ConversationState,
          changes.applyTo other field = other.present field := fun other => by
        simp [Changes.applyTo, change]
      have present : (changes.applyTo state).present field =
          state.present.present field := by
        simp only [ConversationState.present, kept state]
      rw [kept, kept, present, state.present_present]
  | some value => cases value <;> simp [Changes.applyTo, change]

namespace Projected

variable (hash : Value → String) (projected second : Projected)
variable (row : Conversation) (now later : Int)

theorem write_state :
    (projected.write hash row now).state =
      ({ fields := projected.fields } : Changes).applyTo row.state := by
  unfold Projected.write
  cases projected.presentation <;> rfl

theorem write_status :
    (projected.write hash row now).status = projected.status := by
  unfold Projected.write
  cases projected.presentation <;> rfl

theorem write_expiresAt :
    (projected.write hash row now).expiresAt = now + syncTtlSeconds := by
  unfold Projected.write
  cases projected.presentation <;> rfl

theorem write_presentation :
    (projected.write hash row now).presentation =
      (projected.presentation <|> row.presentation) := by
  unfold Projected.write
  cases projected.presentation <;> rfl

theorem write_presentationHash :
    (projected.write hash row now).presentationHash =
      (projected.presentation.map hash <|> row.presentationHash) := by
  unfold Projected.write
  cases projected.presentation <;> rfl

theorem write_links :
    (projected.write hash row now).workflowRunId = row.workflowRunId ∧
      (projected.write hash row now).workflowRevisionId =
        row.workflowRevisionId ∧
      (projected.write hash row now).tenantId = row.tenantId ∧
      (projected.write hash row now).closedAt = row.closedAt := by
  unfold Projected.write
  cases projected.presentation <;> exact ⟨rfl, rfl, rfl, rfl⟩

theorem write_again :
    (projected.write hash (projected.write hash row now) later).Same
      (projected.write hash row now) where
  status := by rw [write_status, write_status]
  state := by
    rw [write_state, write_state, Changes.applyTo_applyTo]
  workflowRunId := (write_links hash projected _ later).1
  workflowRevisionId := (write_links hash projected _ later).2.1
  presentation := by
    rw [write_presentation, write_presentation]
    cases projected.presentation <;> rfl
  presentationHash := by
    rw [write_presentationHash, write_presentationHash]
    cases projected.presentation <;> rfl
  closedAt := (write_links hash projected _ later).2.2.2

structure Agrees (first second : Projected) (row : Conversation) : Prop where
  status : second.status = first.status
  fields : ∀ field value, second.fields field = some value →
    (first.fields field).getD (row.state.value field) = value
  presentation : ∀ presented, second.presentation = some presented →
    (first.presentation <|> row.presentation) = some presented

theorem Agrees.of_same {first second : Projected}
    (same : (second.write hash (first.write hash row now) later).Same
      (first.write hash row now)) : Agrees first second row where
  status := by
    have status := same.status
    rwa [write_status, write_status] at status
  fields := fun field value assigned => by
    have shown := congrArg (fun state : ConversationState => state.value field)
      same.state
    simp only [write_state, Changes.value_applyTo, assigned,
      Option.getD_some] at shown
    exact shown.symm
  presentation := fun presented stored => by
    have shown := same.presentation
    rw [write_presentation, write_presentation, stored] at shown
    exact shown.symm

def Settled (first : Projected) (second : Option Projected) : Prop :=
  ∀ projected, second = some projected →
    (projected.write hash (first.write hash row now) later).Same
      (first.write hash row now)

theorem Settled.none (first : Projected) :
    Settled hash row now later first none := nofun

theorem Settled.self (first : Projected) :
    Settled hash row now later first (some first) := fun _ equation => by
  cases equation
  exact write_again hash first row now later

variable {hash row now later} in
theorem Settled.agrees {first second : Projected}
    (settled : Settled hash row now later first (some second)) :
    Agrees first second row :=
  Agrees.of_same hash row now later (settled second rfl)

end Projected

/-- The locale that is read once the state has been written: a stored null is
dropped by the write, and the default takes its place. -/
def writtenLocale (state : ConversationState) : Value :=
  (state.present .locale).getD (.str "es")

def LocaleKept (state : ConversationState) : Prop := state .locale ≠ some .none

theorem writtenLocale_eq_iff (state : ConversationState) :
    writtenLocale state = (View.of state).locale ↔ LocaleKept state := by
  unfold writtenLocale LocaleKept View.of ConversationState.present
  cases stored : state .locale with
  | none => simp
  | some locale => cases locale <;> simp

theorem View.locale_of_applyTo {fields : ConversationState}
    (untouched : fields .locale = none) (state : ConversationState) :
    (View.of (({ fields } : Changes).applyTo state)).locale =
      writtenLocale state := by
  simp [View.of, Changes.applyTo, untouched, writtenLocale]

theorem View.of_applyTo {fields : ConversationState}
    (untouched : ∀ field, field ≠ .readProgress → fields field = none)
    (state : ConversationState) :
    View.of (({ fields } : Changes).applyTo state) =
      { View.of state with
        locale := writtenLocale state
        readProgress :=
          (fields .readProgress).getD (View.of state).readProgress } := by
  have locale := View.locale_of_applyTo (untouched .locale nofun) state
  have value := fun field => ({ fields } : Changes).value_applyTo state field
  have others : ∀ field, field ≠ .readProgress →
      (({ fields } : Changes).applyTo state).value field =
        state.value field := fun field other => by
    rw [value field]
    simp [untouched field other]
  simp only [View.of] at locale ⊢
  rw [locale, value .readProgress, others .operation nofun,
    others .activePerson nofun, others .activeThread nofun,
    others .resolutionRequest nofun]

inductive ReadSource where
  | listing (listing : Listing)
  | links (links : List (Value × Value))
  | page (fetched : Fetched)

def readSource? (library : StandardLibrary) (steps : List Step) :
    Option ReadSource := do
  match ← channelListing? library (steps.map stepOutput) with
  | some listing => pure (.listing listing)
  | none =>
      let links ← steps.mapM stepLink?
      match links.filterMap id with
      | [] => (fetched? steps).map .page
      | links => pure (.links links)

def ReadSource.branch? (library : StandardLibrary) (view : View) :
    ReadSource → Option ReadBranch
  | .listing listed =>
      some (.listed (listed.presentation view.locale view.operation))
  | .links found => (presentLinkedSlackRead? library view found).map .linked
  | .page fetched => pageBranch? library view fetched

theorem readBranch?_eq (library : StandardLibrary) (view : View)
    (steps : List Step) :
    readBranch? library view steps =
      (readSource? library steps).bind (ReadSource.branch? library view) := by
  unfold readBranch? readSource?
  cases channelListing? library (steps.map stepOutput) with
  | none => rfl
  | some listed =>
      cases listed with
      | some => rfl
      | none =>
          cases steps.mapM stepLink? with
          | none => rfl
          | some links =>
              simp only [Option.bind_eq_bind, Option.bind_some]
              cases links.filterMap id with
              | nil => cases fetched? steps <;> rfl
              | cons link links =>
                  simp only [ReadSource.branch?, Option.pure_def,
                    Option.bind_some]
                  cases presentLinkedSlackRead? library view
                    (link :: links) <;> rfl

def ReadProgress.prior (read : ReadProgress) : Prior :=
  ⟨read.messages, read.examined, read.pages⟩

theorem prior?_state (library : StandardLibrary) (read : ReadProgress) :
    prior? library read.state.orEmpty = some read.prior := by
  simp [prior?, Value.orEmpty, Value.truthy, ReadProgress.state,
    ReadProgress.prior, Value.lookup, Value.get?]

theorem prior?_awaitingLinks (library : StandardLibrary)
    (read : ReadProgress) (directory : Value) :
    prior? library (read.awaitingLinks directory).orEmpty =
      some read.prior := by
  simp [prior?, Value.orEmpty, Value.truthy, ReadProgress.awaitingLinks,
    ReadProgress.prior, Value.lookup, Value.get?]

structure PageReading where
  prior : Prior
  page : ReadPage
  linksDispatched : Value

def reading? (library : StandardLibrary) (view : View) (fetched : Fetched) :
    Option PageReading := do
  let progress := view.readProgress.orEmpty
  let prior ← prior? library progress
  let page ← readPage? view fetched.output fetched.input
  let linksDispatched ← progress.item? "links_dispatched"
  pure ⟨prior, page, linksDispatched⟩

def PageReading.read (reading : PageReading) : ReadProgress :=
  accumulate reading.prior reading.page

def PageReading.again (reading : PageReading) : PageReading :=
  ⟨reading.read.prior, reading.page, .none⟩

def PageReading.anew (reading : PageReading) : PageReading :=
  ⟨⟨[], 0, 0⟩, reading.page, .none⟩

def PageReading.presented? (library : StandardLibrary) (locale : Value)
    (fetched : Fetched) (reading : PageReading) : Option Presented :=
  presentSlackEvidence? library reading.read.messages
    (reading.read.cursor.truthy || reading.read.budgetExhausted) fetched.input
    locale fetched.directory

def PageReading.branch? (library : StandardLibrary) (locale : Value)
    (fetched : Fetched) (reading : PageReading) : Option ReadBranch :=
  if reading.read.continues then some (.continuing reading.read.state)
  else if reading.read.messages.isEmpty || reading.linksDispatched.truthy then
    (reading.presented? library locale fetched).map .finished
  else some (.awaiting (reading.read.awaitingLinks fetched.directory))

section Branches

variable {library : StandardLibrary} {locale : Value} {fetched : Fetched}
variable {reading : PageReading}

theorem PageReading.branch?_continuing
    (continues : reading.read.continues = true) :
    reading.branch? library locale fetched =
      some (.continuing reading.read.state) := by
  simp [PageReading.branch?, continues]

theorem PageReading.branch?_awaiting (finished : reading.read.continues = false)
    (kept : reading.read.messages ≠ [])
    (undispatched : reading.linksDispatched.truthy = false) :
    reading.branch? library locale fetched =
      some (.awaiting (reading.read.awaitingLinks fetched.directory)) := by
  simp [PageReading.branch?, finished, kept, undispatched]

theorem PageReading.branch?_finished (finished : reading.read.continues = false)
    (answers : reading.read.messages = [] ∨
      reading.linksDispatched.truthy = true) :
    reading.branch? library locale fetched =
      (reading.presented? library locale fetched).map .finished := by
  rcases answers with empty | dispatched
  · simp [PageReading.branch?, finished, empty]
  · simp [PageReading.branch?, finished, dispatched]

end Branches

theorem pageBranch?_eq (library : StandardLibrary) (view : View)
    (fetched : Fetched) :
    pageBranch? library view fetched =
      (reading? library view fetched).bind
        (PageReading.branch? library view.locale fetched) := by
  simp only [pageBranch?, reading?]
  cases prior? library view.readProgress.orEmpty with
  | none => rfl
  | some prior =>
      cases readPage? view fetched.output fetched.input with
      | none => rfl
      | some page =>
          cases view.readProgress.orEmpty.item? "links_dispatched" with
          | none => rfl
          | some dispatched =>
              simp only [Option.bind_eq_bind, Option.bind_some,
                Option.pure_def, PageReading.branch?, PageReading.presented?,
                PageReading.read]
              by_cases continues : (accumulate prior page).continues = true <;>
                by_cases empty : (accumulate prior page).messages = [] <;>
                by_cases dispatched : dispatched.truthy = true <;>
                simp [continues, empty, dispatched, Option.map_eq_bind]

theorem reading?_again {library : StandardLibrary} {view : View}
    {fetched : Fetched} {reading : PageReading}
    (read : reading? library view fetched = some reading)
    (locale : Value) {progress : Value} {prior : Prior}
    (stored : prior? library progress.orEmpty = some prior)
    (undispatched : progress.orEmpty.item? "links_dispatched" = some .none) :
    reading? library { view with locale, readProgress := progress } fetched =
      some ⟨prior, reading.page, .none⟩ := by
  have paged : readPage? { view with locale, readProgress := progress }
      fetched.output fetched.input = some reading.page := by
    simp only [reading?, Option.bind_eq_bind, Option.bind_eq_some_iff,
      Option.pure_def, Option.some.injEq] at read
    obtain ⟨_, _, _, paged, _, _, rfl⟩ := read
    exact paged
  simp [reading?, stored, paged, undispatched]

theorem reading?_channel {library : StandardLibrary} {view : View}
    {fetched : Fetched} {reading : PageReading}
    (read : reading? library view fetched = some reading) :
    ∃ channelId, fetched.input.item? "channel_id" = some channelId := by
  simp only [reading?, readPage?, Option.bind_eq_bind,
    Option.bind_eq_some_iff] at read
  obtain ⟨_, _, _, ⟨_, _, _, _, channelId, channel, _⟩, _⟩ := read
  exact ⟨channelId, channel⟩

namespace PageReading

variable (reading : PageReading)

@[simp] theorem read_cursor :
    reading.read.cursor = reading.page.cursor := rfl

@[simp] theorem again_page :
    reading.again.page = reading.page := rfl

@[simp] theorem anew_page :
    reading.anew.page = reading.page := rfl

theorem anew_messages_eq_nil_iff :
    reading.anew.read.messages = [] ↔ reading.page.kept = [] := by
  simp [anew, read, accumulate, readMessageBudget]

theorem anew_continues_iff :
    reading.anew.read.continues = true ↔
      reading.page.cursor.truthy = true ∧
        reading.page.examined < readMessageBudget := by
  have spent : reading.anew.read.spent =
      decide (readMessageBudget ≤ reading.page.examined) := by
    simp [ReadProgress.spent, anew, read, accumulate, readPageBudget]
  simp [ReadProgress.continues, spent]

theorem presented?_eq (library : StandardLibrary) (locale : Value)
    (fetched : Fetched) (reading : PageReading) :
    reading.presented? library locale fetched =
      presentSlackEvidence? library reading.read.messages
        reading.page.cursor.truthy fetched.input locale fetched.directory := by
  have truncated : (reading.read.cursor.truthy ||
      reading.read.budgetExhausted) = reading.page.cursor.truthy := by
    rw [ReadProgress.budgetExhausted, read_cursor]
    cases reading.page.cursor.truthy <;> simp
  rw [presented?, truncated]

theorem again_pages :
    reading.again.read.pages = reading.read.pages + 1 := rfl

theorem again_examined :
    reading.again.read.examined =
      reading.read.examined + reading.page.examined := rfl

theorem again_messages_eq_nil_iff :
    reading.again.read.messages = [] ↔ reading.read.messages = [] := by
  simp only [again, read, accumulate, ReadProgress.prior, readMessageBudget,
    List.take_eq_nil_iff, List.append_eq_nil_iff]
  constructor
  · rintro (impossible | ⟨read, -⟩)
    · cases impossible
    · exact read
  · rintro (impossible | ⟨earlier, kept⟩)
    · cases impossible
    · exact .inr ⟨.inr ⟨earlier, kept⟩, kept⟩

theorem again_spent {reading : PageReading}
    (spent : reading.read.spent = true) :
    reading.again.read.spent = true := by
  have pages := reading.again_pages
  have examined := reading.again_examined
  simp only [ReadProgress.spent, Bool.or_eq_true, decide_eq_true_eq] at spent ⊢
  omega

theorem again_finished {reading : PageReading}
    (finished : reading.read.continues = false) :
    reading.again.read.continues = false := by
  simp only [ReadProgress.continues, read_cursor,
    Bool.and_eq_false_iff, Bool.not_eq_false'] at finished ⊢
  exact finished.imp_right again_spent

end PageReading

section Presenting

variable {library : StandardLibrary} {messages : List Value} {truncated : Bool}
variable {input locale directory : Value} {presented : Presented}

theorem presentSlackEvidence?_unreadable
    (unreadable : messages.filterMap readable? = []) :
    presentSlackEvidence? library messages truncated input locale directory =
      presentSlackEvidence? library [] truncated input locale directory := by
  simp [presentSlackEvidence?, unreadable]

theorem presentSlackEvidence?_eq_some
    (presents : presentSlackEvidence? library messages truncated input locale
      directory = some presented) :
    presented.locale = locale ∧ presented.truncated = truncated ∧
      (presented.citations = [] → messages.filterMap readable? = []) := by
  simp only [presentSlackEvidence?, Option.bind_eq_bind,
    Option.bind_eq_some_iff, Option.pure_def, Option.some.injEq] at presents
  obtain ⟨_, _, _, _, _, _, _, _, rfl⟩ := presents
  exact ⟨rfl, rfl, List.map_eq_nil_iff.mp⟩

theorem presentSlackEvidence?_bare
    (presents : presentSlackEvidence? library messages truncated input locale
      directory = some presented) (other : Value) :
    ∃ bare, presentSlackEvidence? library [] truncated input other directory =
      some bare ∧ bare.locale = other ∧ bare.citations = [] := by
  simp only [presentSlackEvidence?, Option.bind_eq_bind,
    Option.bind_eq_some_iff, Option.pure_def, Option.some.injEq] at presents
  obtain ⟨_, channel, _, dated, _, labelled, _⟩ := presents
  exact ⟨_, by simp [presentSlackEvidence?, channel, dated, labelled]; rfl,
    rfl, rfl⟩

theorem presentSlackEvidence?_unlabelled
    (unlabelled : authorLabels? directory = none) :
    presentSlackEvidence? library messages truncated input locale directory =
      none := by
  simp only [presentSlackEvidence?, unlabelled]
  cases input.item? "channel_id" <;> cases evidencePeriod? input <;> rfl

theorem authorLabels?_eq_none {channelId : Value}
    (channel : input.item? "channel_id" = some channelId)
    (raised : presentSlackEvidence? library [] truncated input locale
      directory = none) : authorLabels? directory = none := by
  cases labels : authorLabels? directory with
  | none => rfl
  | some labels =>
      cases input with
      | dict => simp [presentSlackEvidence?, evidencePeriod?, labels] at raised
      | _ => cases channel

end Presenting

theorem Presented.value_injective {left right : Presented}
    (same : left.value = right.value) :
    left.citations = right.citations ∧ left.locale = right.locale ∧
      left.truncated = right.truncated := by
  simp only [Presented.value, Value.dict.injEq, List.cons.injEq,
    Prod.mk.injEq, Value.list.injEq, Value.bool.injEq, true_and] at same
  obtain ⟨-, -, citations, locale, truncated, -⟩ := same
  have injective : Function.Injective Value.dict := fun _ _ => Value.dict.inj
  exact ⟨injective.list_map citations, locale, truncated⟩

/-- What is read again after the first projection, and when that shows: a page
whose messages are kept is kept twice, and one that is presented is presented
from a progress that has been dropped. -/
def PageReading.Repeatable (library : StandardLibrary)
    (state : ConversationState) (fetched : Fetched) (reading : PageReading) : Prop :=
  if reading.read.continues then
    reading.read.messages = [] ∧ reading.again.read.spent = true ∧
      authorLabels? fetched.directory = none
  else if reading.read.messages.isEmpty || reading.linksDispatched.truthy then
    (reading.presented? library (View.of state).locale fetched).isSome →
      LocaleKept state ∧ reading.page.kept = [] ∧
        reading.read.messages.filterMap readable? = [] ∧
        ¬ (reading.page.cursor.truthy = true ∧
          reading.page.examined < readMessageBudget)
  else False

section Pages

variable {library : StandardLibrary} {hash : Value → String}
variable {row : Conversation} {now later : Int} {fetched : Fetched}
variable {reading : PageReading}

def secondRead? (library : StandardLibrary) (state : ConversationState)
    (source : ReadSource) (branch : ReadBranch) : Option Projected :=
  (source.branch? library (View.of
    (({ fields := branch.projected.fields } : Changes).applyTo state))).map
      ReadBranch.projected

theorem ReadBranch.untouched (branch : ReadBranch) (field : StateField)
    (other : field ≠ .readProgress) : branch.projected.fields field = none := by
  cases branch <;> cases field <;> first | rfl | exact absurd rfl other

section Read

variable (read : reading? library (View.of row.state) fetched = some reading)

include read

theorem secondRead?_eq {branch : ReadBranch} {progress : Value} {prior : Prior}
    (writes : branch.projected.fields .readProgress = some progress)
    (stored : prior? library progress.orEmpty = some prior)
    (undispatched : progress.orEmpty.item? "links_dispatched" = some .none) :
    secondRead? library row.state (.page fetched) branch =
      (PageReading.branch? library (writtenLocale row.state) fetched
        ⟨prior, reading.page, .none⟩).map ReadBranch.projected := by
  rw [secondRead?, View.of_applyTo branch.untouched, writes, Option.getD_some,
    ReadSource.branch?, pageBranch?_eq, reading?_again read _ stored undispatched,
    Option.bind_some]

theorem settled_awaiting (finished : reading.read.continues = false)
    (kept : reading.read.messages ≠ []) :
    ¬ Projected.Settled hash row now later
      (ReadBranch.projected
        (.awaiting (reading.read.awaitingLinks fetched.directory)))
      (secondRead? library row.state (.page fetched)
        (.awaiting (reading.read.awaitingLinks fetched.directory))) := by
  have keptAgain : reading.again.read.messages ≠ [] :=
    fun empty => kept (reading.again_messages_eq_nil_iff.mp empty)
  rw [secondRead?_eq read rfl (prior?_awaitingLinks library _ _) rfl,
    ← PageReading.again,
    PageReading.branch?_awaiting (reading.again_finished finished) keptAgain
      rfl]
  intro settled
  have progress := settled.agrees.fields .readProgress _ rfl
  simp [ReadBranch.projected, readProgressField, ReadProgress.awaitingLinks,
    reading.again_pages] at progress

theorem settled_continuing (continues : reading.read.continues = true) :
    Projected.Settled hash row now later
        (ReadBranch.projected (.continuing reading.read.state))
        (secondRead? library row.state (.page fetched)
          (.continuing reading.read.state)) ↔
      reading.read.messages = [] ∧ reading.again.read.spent = true ∧
        authorLabels? fetched.directory = none := by
  rw [secondRead?_eq read rfl (prior?_state library _) rfl, ← PageReading.again]
  have cursor : reading.page.cursor.truthy = true :=
    (Bool.and_eq_true_iff.mp continues).1
  constructor
  · intro settled
    cases continuesAgain : reading.again.read.continues with
    | true =>
        rw [PageReading.branch?_continuing continuesAgain] at settled
        have progress := settled.agrees.fields .readProgress _ rfl
        simp [ReadBranch.projected, readProgressField, ReadProgress.state,
          reading.again_pages] at progress
    | false =>
        have spent : reading.again.read.spent = true := by
          simpa [ReadProgress.continues, cursor] using continuesAgain
        by_cases empty : reading.again.read.messages = []
        · refine ⟨reading.again_messages_eq_nil_iff.mp empty, spent, ?_⟩
          rw [PageReading.branch?_finished continuesAgain (.inl empty)]
            at settled
          obtain ⟨_, channel⟩ := reading?_channel read
          cases presents : reading.again.presented? library
              (writtenLocale row.state) fetched with
          | none =>
              rw [PageReading.presented?, empty] at presents
              exact authorLabels?_eq_none channel presents
          | some =>
              rw [presents] at settled
              exact absurd settled.agrees.status nofun
        · rw [PageReading.branch?_awaiting continuesAgain empty rfl] at settled
          have progress := settled.agrees.fields .readProgress _ rfl
          simp [ReadBranch.projected, readProgressField, ReadProgress.state,
            ReadProgress.awaitingLinks] at progress
  · rintro ⟨empty, spent, unlabelled⟩
    have finishedAgain : reading.again.read.continues = false := by
      simp [ReadProgress.continues, spent]
    rw [PageReading.branch?_finished finishedAgain
      (.inl (reading.again_messages_eq_nil_iff.mpr empty)),
      PageReading.presented?, presentSlackEvidence?_unlabelled unlabelled]
    exact Projected.Settled.none hash row now later _

theorem settled_finished {presented : Presented}
    (presents : reading.presented? library (View.of row.state).locale fetched = some presented) :
    Projected.Settled hash row now later
        (ReadBranch.projected (.finished presented))
        (secondRead? library row.state (.page fetched) (.finished presented)) ↔
      LocaleKept row.state ∧ reading.page.kept = [] ∧
        reading.read.messages.filterMap readable? = [] ∧
        ¬ (reading.page.cursor.truthy = true ∧
          reading.page.examined < readMessageBudget) := by
  rw [secondRead?_eq read rfl rfl rfl, ← PageReading.anew,
    ← reading.anew_continues_iff, ← reading.anew_messages_eq_nil_iff]
  rw [PageReading.presented?_eq] at presents
  constructor
  · intro settled
    cases continues : reading.anew.read.continues with
    | true =>
        rw [PageReading.branch?_continuing continues] at settled
        exact absurd settled.agrees.status nofun
    | false =>
        by_cases empty : reading.anew.read.messages = []
        · obtain ⟨_, presentsBare, locale, citations⟩ :=
            presentSlackEvidence?_bare presents (writtenLocale row.state)
          rw [PageReading.branch?_finished continues (.inl empty),
            PageReading.presented?_eq, empty, PageReading.anew_page,
            presentsBare] at settled
          have shown := settled.agrees.presentation _ rfl
          obtain ⟨sameCitations, sameLocale, -⟩ :=
            Presented.value_injective (Option.some.inj shown)
          obtain ⟨ownLocale, -, unreadable⟩ :=
            presentSlackEvidence?_eq_some presents
          refine ⟨?_, empty, unreadable (sameCitations.trans citations), nofun⟩
          rw [← writtenLocale_eq_iff, ← locale, ← sameLocale, ownLocale]
        · rw [PageReading.branch?_awaiting continues empty rfl] at settled
          exact absurd settled.agrees.status nofun
  · rintro ⟨locale, empty, unreadable, finishedAnew⟩
    rw [presentSlackEvidence?_unreadable unreadable] at presents
    rw [PageReading.branch?_finished (Bool.eq_false_of_not_eq_true finishedAnew)
      (.inl empty), PageReading.presented?_eq, empty, PageReading.anew_page,
      (writtenLocale_eq_iff row.state).mpr locale, presents]
    exact Projected.Settled.self hash row now later _

end Read

variable (hash now later) in
theorem settled_page {branch : ReadBranch}
    (read : reading? library (View.of row.state) fetched = some reading)
    (branched : reading.branch? library (View.of row.state).locale fetched =
      some branch) :
    Projected.Settled hash row now later branch.projected
        (secondRead? library row.state (.page fetched) branch) ↔
      reading.Repeatable library row.state fetched := by
  unfold PageReading.Repeatable
  cases continues : reading.read.continues with
  | true =>
      rw [PageReading.branch?_continuing continues] at branched
      cases branched
      simpa using settled_continuing read continues
  | false =>
      by_cases answers : reading.read.messages = [] ∨
          reading.linksDispatched.truthy = true
      · rw [PageReading.branch?_finished continues answers,
          Option.map_eq_some_iff] at branched
        obtain ⟨_, presents, rfl⟩ := branched
        simpa [answers, presents] using settled_finished read presents
      · obtain ⟨kept, undispatched⟩ := not_or.mp answers
        rw [PageReading.branch?_awaiting continues kept
          (Bool.eq_false_of_not_eq_true undispatched)] at branched
        cases branched
        simpa [kept, undispatched] using settled_awaiting read continues kept

end Pages

def nothingLinked (locale : Value) (truncated : Bool) : Presented where
  answer := noMessages locale
  citations := []
  citationComplete := true
  locale := locale
  truncated := truncated
  period := .none

theorem presentLinkedSlackRead?_eq_some {library : StandardLibrary}
    {view : View} {links : List (Value × Value)} {presented : Presented}
    (presents : presentLinkedSlackRead? library view links = some presented) :
    ∃ messages exhausted,
      (view.readProgress.orEmpty.item? "messages").bind Value.listOr? =
          some messages ∧
        view.readProgress.orEmpty.item? "budget_exhausted" = some exhausted ∧
        presented.locale = view.locale ∧
        presented.truncated = exhausted.truthy ∧
        (presented.citations = [] → messages.filterMap readable? = []) ∧
        (messages.filterMap readable? = [] →
          presented = nothingLinked view.locale exhausted.truthy) := by
  simp only [presentLinkedSlackRead?, Option.bind_eq_bind,
    Option.bind_eq_some_iff, Option.pure_def, Option.some.injEq] at presents
  obtain ⟨_, found, messages, listed, exhausted, said, _, _,
    directory, _, bare, presentsBare, citations, linked, rfl⟩ := presents
  obtain ⟨locale, truncated, uncited⟩ :=
    presentSlackEvidence?_eq_some presentsBare
  refine ⟨messages, exhausted, by simp [found, listed], said, locale, truncated,
    fun empty => uncited ?_, fun unreadable => ?_⟩
  · change citations = [] at empty
    subst empty
    cases cited : bare.citations with
    | nil => rfl
    | cons => simp [cited, Option.bind_eq_some_iff] at linked
  · rw [presentSlackEvidence?_unreadable unreadable] at presentsBare
    cases labels : authorLabels? directory with
    | none =>
        rw [presentSlackEvidence?_unlabelled labels] at presentsBare
        cases presentsBare
    | some labels =>
        simp [presentSlackEvidence?, evidencePeriod?, labels] at presentsBare
        subst presentsBare
        cases linked
        rfl

theorem channelAnswer_locale (operation : Value) (names : List String) :
    channelAnswer (.str "es") operation names ≠
      channelAnswer .none operation names := by
  intro same
  have initial := congrArg (fun answer : String => answer.toList.head?) same
  by_cases nobody : names.isEmpty = true
  · simp [channelAnswer, Value.isText, nobody] at initial
  · simp [channelAnswer, Value.isText, nobody] at initial

theorem locale_of_not_kept {state : ConversationState}
    (dropped : ¬ LocaleKept state) :
    (View.of state).locale = .none ∧ writtenLocale state = .str "es" := by
  have stored : state .locale = some .none := by_contra dropped
  simp [View.of, writtenLocale, ConversationState.present, stored]

theorem Listing.presentation_eq_iff (listing : Listing) (operation : Value)
    (state : ConversationState) :
    listing.presentation (writtenLocale state) operation =
        listing.presentation (View.of state).locale operation ↔
      LocaleKept state := by
  constructor
  · intro same
    by_contra dropped
    obtain ⟨read, written⟩ := locale_of_not_kept dropped
    rw [read, written] at same
    simp only [Listing.presentation, Value.dict.injEq, List.cons.injEq,
      Prod.mk.injEq, Value.str.injEq, true_and] at same
    exact channelAnswer_locale operation listing.names same.1
  · intro kept
    rw [(writtenLocale_eq_iff state).mpr kept]

/-- No message that could be shown is left of the read, and its budget was not
exhausted. -/
def NothingRead (progress : Value) : Prop :=
  (∀ messages, (progress.item? "messages").bind Value.listOr? = some messages →
    messages.filterMap readable? = []) ∧
  ∀ exhausted, progress.item? "budget_exhausted" = some exhausted →
    exhausted.truthy = false

def ReadSource.Repeatable (library : StandardLibrary)
    (state : ConversationState) : ReadSource → Prop
  | .listing _ => LocaleKept state
  | .links found =>
      (presentLinkedSlackRead? library (View.of state) found).isSome →
        LocaleKept state ∧ NothingRead (View.of state).readProgress.orEmpty
  | .page fetched => ∀ reading,
      reading? library (View.of state) fetched = some reading →
        (reading.branch? library (View.of state).locale fetched).isSome →
          reading.Repeatable library state fetched

section Sources

variable {library : StandardLibrary} {hash : Value → String}
variable {row : Conversation} {now later : Int} {branch : ReadBranch}

theorem settled_listing (listing : Listing)
    (branched : (ReadSource.listing listing).branch? library
      (View.of row.state) = some branch) :
    Projected.Settled hash row now later branch.projected
        (secondRead? library row.state (.listing listing) branch) ↔
      LocaleKept row.state := by
  rw [← listing.presentation_eq_iff (View.of row.state).operation]
  cases branched
  rw [secondRead?, View.of_applyTo (ReadBranch.untouched _)]
  constructor
  · intro settled
    exact (Option.some.inj (settled.agrees.presentation _ rfl)).symm
  · intro same
    simp only [ReadSource.branch?, Option.map_some, same]
    exact Projected.Settled.self hash row now later _

theorem settled_links {links : List (Value × Value)} {presented : Presented}
    (presents : presentLinkedSlackRead? library (View.of row.state) links =
      some presented) :
    Projected.Settled hash row now later
        (ReadBranch.projected (.linked presented))
        (secondRead? library row.state (.links links) (.linked presented)) ↔
      LocaleKept row.state ∧
        NothingRead (View.of row.state).readProgress.orEmpty := by
  obtain ⟨messages, exhausted, listed, said, locale, truncated, uncited, bare⟩ :=
    presentLinkedSlackRead?_eq_some presents
  have second : secondRead? library row.state (.links links)
      (.linked presented) =
      some (ReadBranch.projected
        (.linked (nothingLinked (writtenLocale row.state) false))) := by
    rw [secondRead?, View.of_applyTo (ReadBranch.untouched _)]
    rfl
  rw [second]
  constructor
  · intro settled
    have shown := settled.agrees.presentation _ rfl
    obtain ⟨sameCitations, sameLocale, sameTruncated⟩ :=
      Presented.value_injective (Option.some.inj shown)
    refine ⟨?_, fun other found => ?_, fun other found => ?_⟩
    · rw [← writtenLocale_eq_iff, ← locale]
      exact sameLocale.symm
    · rw [listed] at found
      cases found
      exact uncited sameCitations
    · rw [said] at found
      cases found
      exact truncated.symm.trans sameTruncated
  · rintro ⟨kept, unreadable, budget⟩
    have nothing := bare (unreadable messages listed)
    rw [budget exhausted said, ← (writtenLocale_eq_iff row.state).mpr kept]
      at nothing
    rw [nothing]
    exact Projected.Settled.self hash row now later _

variable (hash now later) in
theorem settled_read {source : ReadSource}
    (branched : source.branch? library (View.of row.state) = some branch) :
    Projected.Settled hash row now later branch.projected
        (secondRead? library row.state source branch) ↔
      source.Repeatable library row.state := by
  cases source with
  | listing listing => exact settled_listing listing branched
  | links =>
      obtain ⟨_, presents, rfl⟩ := Option.map_eq_some_iff.mp branched
      simpa [ReadSource.Repeatable, presents] using settled_links presents
  | page fetched =>
      have paged : pageBranch? library (View.of row.state) fetched =
        some branch := branched
      rw [pageBranch?_eq, Option.bind_eq_some_iff] at paged
      obtain ⟨_, read, taken⟩ := paged
      have page := settled_page hash now later read taken
      simpa [ReadSource.Repeatable, read, taken] using page

end Sources

end AcpTask.Concierge
