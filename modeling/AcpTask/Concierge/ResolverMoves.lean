import AcpTask.Library.Run
import AcpTask.Outbox.Moves
import AcpTask.Concierge.ResolverRuns

namespace AcpTask.Concierge

open Data Library Outbox

/-! Any sequence of calls on the resolver runs, from an empty database, with
whatever else becomes of the outbox meanwhile. -/

def ResolverStatus.ended : ResolverStatus → Bool
  | .completed | .failed => true
  | _ => false

/-- `taken` has each token that was recorded for a live run, as often as it was,
and `published` each run as often as its completion was appended. -/
structure ResolverSystem where
  store : ResolverStore
  taken : List ((String × String) × String)
  published : List (String × String)

def ResolverSystem.initial : ResolverSystem :=
  ⟨⟨Table.empty, OutboxStore.empty⟩, [], []⟩

/-- No function of the repository cancels a run: `cancel` is whoever else sets
that status.  `others` is what the drainers, a purge and the other producers
make of the outbox. -/
inductive ResolverAction where
  | start (request : ResolverRequest) (resolverRunId : String) (live : Bool)
      (now : Int)
  | recordPage (key : String × String) (page : ResolverPage) (now : Int)
  | attach (key : String × String)
      (workflowRunId workflowRevisionId : Option String) (cursorToken : Value)
      (now : Int)
  | complete (key : String × String) (outcome : List (String × Value))
      (errorCode : Option String) (eventId : String) (now : Int)
  | cancel (key : String × String)
  | others (outbox : OutboxStore)

def ResolverStore.live (store : ResolverStore) (key : String × String) : Bool :=
  (store.runs.find? key).any fun row => !row.status.terminal

def publishes (before after : OutboxStore) (key : String × String) : Bool :=
  (deduped before key.2 (completionKey key.1)).isNone &&
    (deduped after key.2 (completionKey key.1)).isSome

def leavesCompletions (before after : OutboxStore) : Bool :=
  after.events.rows.all fun event =>
    !"slack-resolver:".toList.isPrefixOf event.dedupeKey.toList ||
      before.events.rows.any fun old =>
        old.dedupeKey == event.dedupeKey &&
          old.aggregate.tenantId == event.aggregate.tenantId

def slackResolverStep (encoding : Encoding) (system : ResolverSystem) :
    ResolverAction → ResolverSystem
  | .start request resolverRunId live now =>
      { system with
        store := (system.store.startSlackResolverRun request resolverRunId live
          now).2 }
  | .recordPage key page now =>
      let recorded := system.store.recordSlackResolverPage key page now
      { system with
        store := recorded.2
        taken := if recorded.1.isOk && system.store.live key then
            (key, page.token) :: system.taken
          else system.taken }
  | .attach key workflowRunId workflowRevisionId cursorToken now =>
      { system with
        store := (system.store.attachSlackResolverWorkflow key workflowRunId
          workflowRevisionId cursorToken now).2 }
  | .complete key outcome errorCode eventId now =>
      let later := (system.store.completeSlackResolverRun encoding key outcome
        errorCode eventId now).2
      { system with
        store := later
        published := if publishes system.store.outbox later.outbox key then
            key :: system.published
          else system.published }
  | .cancel key =>
      { system with
        store := { system.store with
          runs := system.store.runs.updateWhere
            (fun row => decide (row.key = key) && !row.status.terminal)
            (fun row => { row with status := .cancelled }) (fun _ => rfl) } }
  | .others outbox =>
      if leavesCompletions system.store.outbox outbox then
        { system with store := { system.store with outbox } }
      else system

def resolverSystem (encoding : Encoding) (actions : List ResolverAction) :
    ResolverSystem :=
  run (slackResolverStep encoding) ResolverSystem.initial actions

section Moves

variable {encoding : Encoding} {system next : ResolverSystem}

def Becomes (system next : ResolverSystem) (row : SlackResolverRun) : Prop :=
  ∀ key, next.store.runs.find? key =
    if key = row.key then some row else system.store.runs.find? key

def LiveRun (system : ResolverSystem) (row : SlackResolverRun) : Prop :=
  system.store.runs.find? row.key = some row ∧ row.status.terminal = false

structure SamePages (row later : SlackResolverRun) : Prop where
  key : later.key = row.key
  consumed : later.consumed = row.consumed
  pagesProcessed : later.pagesProcessed = row.pagesProcessed

inductive ResolverMove (system : ResolverSystem) : ResolverSystem → Prop
  | kept : ResolverMove system system
  | started {next : ResolverSystem} {row : SlackResolverRun}
      (absent : system.store.runs.find? row.key = none)
      (unfinished : row.status.ended = false) (unread : row.consumed = [])
      (uncounted : row.pagesProcessed = 0) (becomes : Becomes system next row)
      (outbox : next.store.outbox = system.store.outbox)
      (taken : next.taken = system.taken)
      (published : next.published = system.published) :
      ResolverMove system next
  | counted {next : ResolverSystem} {row : SlackResolverRun} (page : ResolverPage)
      (now : Int) (live : LiveRun system row)
      (fresh : page.token ∉ row.consumed)
      (becomes : Becomes system next (row.recordPage page now))
      (outbox : next.store.outbox = system.store.outbox)
      (taken : next.taken = (row.key, page.token) :: system.taken)
      (published : next.published = system.published) :
      ResolverMove system next
  | replayed {row : SlackResolverRun} {token : String}
      (live : LiveRun system row) (member : token ∈ row.consumed) :
      ResolverMove system
        { system with taken := (row.key, token) :: system.taken }
  | altered {next : ResolverSystem} {row later : SlackResolverRun}
      (live : LiveRun system row) (pages : SamePages row later)
      (unfinished : later.status.ended = false)
      (becomes : Becomes system next later)
      (outbox : next.store.outbox = system.store.outbox)
      (taken : next.taken = system.taken)
      (published : next.published = system.published) :
      ResolverMove system next
  | closed {next : ResolverSystem} {row later : SlackResolverRun}
      {event : OutboxEvent} (live : LiveRun system row)
      (pages : SamePages row later) (finished : later.status.ended = true)
      (becomes : Becomes system next later)
      (ofTenant : event.aggregate.tenantId = row.tenantId)
      (ofRun : event.dedupeKey = completionKey row.resolverRunId)
      (outbox : next.store.outbox = system.store.outbox ∧
          event ∈ system.store.outbox.events ∨
        next.store.outbox.events.rows =
          system.store.outbox.events.rows ++ [event])
      (taken : next.taken = system.taken)
      (published : next.published =
        if publishes system.store.outbox next.store.outbox row.key then
          row.key :: system.published
        else system.published) :
      ResolverMove system next
  | others {outbox : OutboxStore}
      (leaves : leavesCompletions system.store.outbox outbox = true) :
      ResolverMove system { system with store := { system.store with outbox } }

variable {row : SlackResolverRun}

theorem find?_updateLive {runs : Table SlackResolverRun SlackResolverRun.key}
    (found : runs.find? row.key = some row) (live : row.status.terminal = false)
    (assign : SlackResolverRun → SlackResolverRun)
    (keepsKey : ∀ row, (assign row).key = row.key) (key : String × String) :
    (runs.updateWhere
        (fun other => decide (other.key = row.key) && !other.status.terminal)
        assign keepsKey).find? key =
      if key = row.key then some (assign row) else runs.find? key := by
  rw [Table.find?_updateWhere]
  by_cases same : key = row.key
  · rw [if_pos same, same, found, Option.map_some, if_pos (by simp [live])]
  · rw [if_neg same]
    cases present : runs.find? key with
    | none => rfl
    | some =>
        have named := (Table.find?_eq_some_iff.mp present).2
        rw [Option.map_some, if_neg (by simp [named, same])]

theorem find?_updateKey {runs : Table SlackResolverRun SlackResolverRun.key}
    (found : runs.find? row.key = some row)
    (assign : SlackResolverRun → SlackResolverRun)
    (keepsKey : ∀ row, (assign row).key = row.key) (key : String × String) :
    (runs.updateWhere (fun other => decide (other.key = row.key)) assign
        keepsKey).find? key =
      if key = row.key then some (assign row) else runs.find? key := by
  rw [Table.find?_updateWhere_key]
  by_cases same : key = row.key
  · rw [if_pos same, if_pos same, same, found, Option.map_some]
  · rw [if_neg same, if_neg same]

theorem start_cases (store : ResolverStore) (request : ResolverRequest)
    (resolverRunId : String) (live : Bool) (now : Int) :
    (store.startSlackResolverRun request resolverRunId live now).2 = store ∨
      ∃ runs, store.runs.insert? (request.row resolverRunId now) = some runs ∧
        (store.startSlackResolverRun request resolverRunId live now).2 =
          { store with runs } := by
  generalize done : store.startSlackResolverRun request resolverRunId live now =
    result
  obtain ⟨_, later⟩ := result
  rcases transaction_cases done with same | ⟨_, committed⟩
  · exact .inl same
  simp only [bind_eq_ok, require_eq_ok] at committed
  obtain ⟨_, _, _, _, _, _, _, _, body⟩ := committed
  split at body
  · cases body
    exact .inl rfl
  · split at body
    · cases body
    · rename_i runs inserted
      cases body
      exact .inr ⟨runs, inserted, rfl⟩

theorem start_move (request : ResolverRequest) (resolverRunId : String)
    (live : Bool) (now : Int) :
    ResolverMove system (slackResolverStep encoding system
      (.start request resolverRunId live now)) := by
  simp only [slackResolverStep]
  rcases start_cases system.store request resolverRunId live now with
    same | ⟨runs, inserted, done⟩
  · rw [same]
    exact .kept
  · rw [done]
    have absent := (Table.insert?_eq_some_iff.mp inserted).1
    refine .started absent rfl rfl rfl (fun key => ?_) rfl rfl rfl
    dsimp only
    rw [Table.find?_of_insert? inserted]
    simp only [eq_comm]

theorem record_refused {store : ResolverStore} {key : String × String}
    (found : store.runs.find? key = some row) {page : ResolverPage}
    (refuses : row.refuses page = true)
    (now : Int) :
    store.recordSlackResolverPage key page now = (.ok (row, none), store) := by
  unfold ResolverStore.recordSlackResolverPage transaction
  simp only [found, refuses, if_true]
  rfl

theorem record_cases {store : ResolverStore} {key : String × String}
    (found : store.runs.find? key = some row) {page : ResolverPage}
    (accepts : row.refuses page = false)
    (now : Int) :
    store.recordSlackResolverPage key page now = (.error .typeError, store) ∨
      store.recordSlackResolverPage key page now =
        (.ok (row.recordPage page now, some (row.count page)), {
          store with
          runs := store.runs.updateWhere
            (fun other => decide (other.key = key))
            (fun other => other.recordPage page now) (fun _ => rfl) }) := by
  unfold ResolverStore.recordSlackResolverPage transaction
  simp only [found, accepts, Bool.false_eq_true, if_false]
  cases page.nextCursor.serializable with
  | false => exact .inl rfl
  | true => exact .inr rfl

variable (key : String × String)

theorem record_move (page : ResolverPage) (now : Int) :
    ResolverMove system
      (slackResolverStep encoding system (.recordPage key page now)) := by
  simp only [slackResolverStep]
  cases found : system.store.runs.find? key with
  | none =>
      have absent : system.store.recordSlackResolverPage key page now =
          (.error (.keyError "resolver run not found"), system.store) := by
        unfold ResolverStore.recordSlackResolverPage transaction
        simp only [found]
        rfl
      rw [absent]
      exact .kept
  | some row =>
      have named := (Table.find?_eq_some_iff.mp found).2
      subst named
      have live : system.store.live row.key = !row.status.terminal := by
        rw [ResolverStore.live, found, Option.any_some]
      cases terminal : row.status.terminal with
      | true =>
          rw [record_refused found
            (by rw [ResolverRun.refuses, terminal, Bool.true_or]), live,
            terminal]
          exact .kept
      | false =>
          cases seen : row.consumed.contains page.token with
          | true =>
              rw [record_refused found
                (by rw [ResolverRun.refuses, seen, Bool.or_true]), live,
                terminal]
              exact .replayed ⟨found, terminal⟩ (by simpa using seen)
          | false =>
              have accepts : row.refuses page = false := by
                rw [ResolverRun.refuses, terminal, seen, Bool.or_false]
              rcases record_cases found accepts now with failed | applied
              · rw [failed]
                exact .kept
              · rw [applied, live, terminal]
                exact .counted page now ⟨found, terminal⟩
                  (by simpa using seen)
                  (find?_updateKey found (fun other =>
                    other.recordPage page now) fun _ => rfl) rfl rfl rfl

theorem alter_move (assign : SlackResolverRun → SlackResolverRun)
    (keepsKey : ∀ row, (assign row).key = row.key)
    (pages : ∀ row, SamePages row (assign row))
    (unfinished : ∀ row, (assign row).status.ended = false) :
    ResolverMove system { system with
      store := { system.store with
        runs := system.store.runs.updateWhere
          (fun row => decide (row.key = key) && !row.status.terminal)
          assign keepsKey } } := by
  cases found : system.store.runs.find? key with
  | none =>
      rw [Table.updateWhere_eq_self]
      · exact .kept
      · intro row member selected
        have named := (Bool.and_eq_true_iff.mp selected).1
        exact absurd (of_decide_eq_true named)
          (Table.find?_eq_none_iff.mp found row member)
  | some row =>
      have named := (Table.find?_eq_some_iff.mp found).2
      subst named
      cases terminal : row.status.terminal with
      | false =>
          refine .altered ⟨found, terminal⟩ (pages row) (unfinished row)
            (fun other => ?_) rfl rfl rfl
          rw [keepsKey]
          exact find?_updateLive found terminal assign keepsKey other
      | true =>
          rw [Table.updateWhere_eq_self]
          · exact .kept
          · intro other member selected
            obtain ⟨same, live⟩ := Bool.and_eq_true_iff.mp selected
            have equal := Table.eq_of_key member
              (Table.find?_eq_some_iff.mp found).1 (of_decide_eq_true same)
            rw [equal, terminal] at live
            cases live

theorem attach_move (workflowRunId workflowRevisionId : Option String)
    (cursorToken : Value) (now : Int) :
    ResolverMove system (slackResolverStep encoding system
      (.attach key workflowRunId workflowRevisionId cursorToken now)) := by
  simp only [slackResolverStep, ResolverStore.attachSlackResolverWorkflow,
    transaction]
  split
  · rename_i value later committed
    split at committed
    · simp only [bind_eq_ok, require_eq_ok, pure_eq_ok, Prod.mk.injEq]
        at committed
      obtain ⟨_, _, _, rfl⟩ := committed
      exact alter_move key (fun row => row.attach workflowRunId
        workflowRevisionId cursorToken now) (fun _ => rfl)
        (fun _ => ⟨rfl, rfl, rfl⟩) (fun _ => rfl)
    · cases committed
      exact .kept
  · exact .kept

theorem cancel_move :
    ResolverMove system (slackResolverStep encoding system (.cancel key)) :=
  alter_move key (fun row => { row with status := .cancelled }) (fun _ => rfl)
    (fun _ => ⟨rfl, rfl, rfl⟩) (fun _ => rfl)

theorem others_move (outbox : OutboxStore) :
    ResolverMove system
      (slackResolverStep encoding system (.others outbox)) := by
  simp only [slackResolverStep]
  split
  · rename_i leaves
    exact .others leaves
  · exact .kept

theorem publishes_self (outbox : OutboxStore) (key : String × String) :
    publishes outbox outbox key = false := by
  unfold publishes
  cases deduped outbox key.2 (completionKey key.1) <;> rfl

theorem complete_cases (encoding : Encoding) (store : ResolverStore)
    (key : String × String) (outcome : List (String × Value))
    (errorCode : Option String) (eventId : String) (now : Int) :
    (store.completeSlackResolverRun encoding key outcome errorCode eventId
        now).2 = store ∨
      ∃ row kind event outbox, store.runs.find? key = some row ∧
        row.status.terminal = false ∧
        appendOutboxEvent encoding.toJson store.outbox
            ⟨row.tenantId, "conversation", row.conversationId⟩
            "conversation.resolver_completed" (completionEvent row kind)
            (completionKey row.resolverRunId) eventId now 5 none =
          (.ok event, outbox) ∧
        (store.completeSlackResolverRun encoding key outcome errorCode eventId
            now).2 = {
          outbox
          runs := store.runs.updateWhere
            (fun other => decide (other.key = key) && !other.status.terminal)
            (fun other => other.close kind outcome errorCode now)
            (fun _ => rfl) } := by
  generalize done : store.completeSlackResolverRun encoding key outcome
    errorCode eventId now = result
  unfold ResolverStore.completeSlackResolverRun at done
  obtain ⟨_, later⟩ := result
  cases named : outcomeKind? outcome with
  | none =>
      rw [named] at done
      cases done
      exact .inl rfl
  | some kind =>
      rw [named] at done
      rcases transaction_cases done with same | ⟨_, committed⟩
      · exact .inl same
      split at committed
      · cases committed
      · rename_i row found
        split at committed
        · cases committed
          exact .inl rfl
        · rename_i live
          obtain ⟨_, _, body⟩ := bind_eq_ok.mp committed
          split at body
          · cases body
          · rename_i event outbox appended
            cases body
            exact .inr ⟨row, kind, event, outbox, found,
              Bool.not_eq_true _ ▸ live, appended, rfl⟩

theorem complete_move (outcome : List (String × Value))
    (errorCode : Option String) (eventId : String) (now : Int) :
    ResolverMove system (slackResolverStep encoding system
      (.complete key outcome errorCode eventId now)) := by
  simp only [slackResolverStep]
  rcases complete_cases encoding system.store key outcome
    errorCode eventId now with same | ⟨row, kind, event, outbox, found, live,
      appended, done⟩
  · rw [same, publishes_self]
    exact .kept
  · rw [done]
    have named := (Table.find?_eq_some_iff.mp found).2
    subst named
    have added : event.aggregate.tenantId = row.tenantId ∧
        event.dedupeKey = completionKey row.resolverRunId ∧
          (outbox = system.store.outbox ∧
              event ∈ system.store.outbox.events ∨
            outbox.events.rows =
              system.store.outbox.events.rows ++ [event]) := by
      rcases appendOutboxEvent_ok appended with
        ⟨prior, -, same⟩ | ⟨-, rows, ofAggregate, -, -, ofRun⟩
      · obtain ⟨member, ofTenant, ofRun⟩ := deduped_eq_some prior
        exact ⟨ofTenant, ofRun, .inl ⟨same, member⟩⟩
      · exact ⟨by rw [ofAggregate], ofRun, .inr rows⟩
    have pages : SamePages row (row.close kind outcome errorCode now) :=
      ⟨rfl, rfl, rfl⟩
    have finished : (row.close kind outcome errorCode now).status.ended =
        true := by
      unfold SlackResolverRun.close
      dsimp only
      split <;> rfl
    exact .closed ⟨found, live⟩ pages finished
      (find?_updateLive found live (fun other =>
        other.close kind outcome errorCode now) fun _ => rfl)
      added.1 added.2.1 added.2.2 rfl rfl

theorem slackResolverStep_move (encoding : Encoding) (system : ResolverSystem)
    (action : ResolverAction) :
    ResolverMove system (slackResolverStep encoding system action) := by
  cases action with
  | start => exact start_move ..
  | recordPage => exact record_move ..
  | attach => exact attach_move ..
  | complete => exact complete_move ..
  | cancel key => exact cancel_move key
  | others outbox => exact others_move outbox

end Moves

end AcpTask.Concierge
