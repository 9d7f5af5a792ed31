import AcpTask.Collaboration.Tasks
import AcpTask.Library.Run

namespace AcpTask.Collaboration

open Data Library

/-! Which answers reach the agent, in any sequence of calls.  The need that an
answer is for is the caller's to know: the store is not told. -/

inductive Outcome where
  | repeated
  | failed
  | refused
  | accepted
  deriving DecidableEq

/-- A call of `continue_task` that found its task open. -/
structure Delivery where
  taskId : String
  need : Nat
  resolvedFields : Fields
  permissions : Fields
  digest : String
  outcome : Outcome
  deriving DecidableEq

def Delivery.returned (delivery : Delivery) : Bool :=
  delivery.outcome == .refused || delivery.outcome == .accepted

def sameFields (first second : Fields) : Bool :=
  decide (Value.sortPairs first = Value.sortPairs second)

def Delivery.sameAnswer (first second : Delivery) : Bool :=
  first.taskId == second.taskId && first.need == second.need &&
    sameFields first.resolvedFields second.resolvedFields &&
    sameFields first.permissions second.permissions

def DeliveredOnce (delivery : Delivery) (older : List Delivery) : Prop :=
  delivery.outcome ≠ .repeated ↔
    ¬ ∃ earlier ∈ older, earlier.sameAnswer delivery = true ∧
      earlier.returned = true

instance (delivery : Delivery) (older : List Delivery) :
    Decidable (DeliveredOnce delivery older) :=
  inferInstanceAs (Decidable (_ ↔ _))

structure CollaborationSystem where
  store : TaskStore
  deliveries : List Delivery

def CollaborationSystem.initial : CollaborationSystem := ⟨Table.empty, []⟩

inductive CollaborationAction where
  | createTask (taskId agentId capability : String)
      (conversationId : Option String) (context : Context) (now : Int)
  | getTask (taskId : String) (includeExpired : Bool) (now : Int)
  | recordNeed (taskId : String) (need : Value) (now : Int)
  | resolveNeed (taskId : String) (need : Value) (sources : Sources)
      (now : Int)
  | continueTask (taskId : String) (need : Nat)
      (resolvedFields permissions : Fields) (now : Int) (sent : Sent)
      (later : Int)

def outcomeOf (sent : Sent) (answered : Bool) : Outcome :=
  match sent with
  | .raised => .failed
  | .returned _ => if answered then .accepted else .refused

def collaborationStep (setting : Setting) (system : CollaborationSystem) :
    CollaborationAction → CollaborationSystem
  | .createTask taskId agentId capability conversationId context now =>
      { system with
        store := (createTask setting system.store taskId agentId capability
          conversationId context now).2 }
  | .getTask taskId includeExpired now =>
      { system with store := (getTask system.store taskId includeExpired now).2 }
  | .recordNeed taskId need now =>
      { system with
        store := (recordNeed setting system.store taskId need now).2 }
  | .resolveNeed taskId need sources now =>
      { system with
        store := (resolveNeed setting system.store taskId need sources now).2 }
  | .continueTask taskId need resolvedFields permissions now sent later =>
      let answer := continueTask setting system.store taskId resolvedFields
        permissions now sent later
      { store := answer.2
        deliveries :=
          match (beginContinuation setting system.store taskId resolvedFields
              permissions now).1 with
          | .rejected _ => system.deliveries
          | .repeated digest _ =>
              ⟨taskId, need, resolvedFields, permissions, digest, .repeated⟩ ::
                system.deliveries
          | .sending _ _ digest =>
              ⟨taskId, need, resolvedFields, permissions, digest,
                outcomeOf sent answer.1.isOk⟩ :: system.deliveries }

def collaborationRun (setting : Setting) (actions : List CollaborationAction) :
    CollaborationSystem :=
  run (collaborationStep setting) .initial actions

/-- Of what was sent under the digest of a call and came back, exactly the same
answers had their response accepted. -/
def AnswersApart (setting : Setting) (system : CollaborationSystem) :
    CollaborationAction → Prop
  | .continueTask taskId need resolvedFields permissions _ _ _ =>
      ∀ state ∈ system.store.find? taskId, ∀ earlier ∈ system.deliveries,
        earlier.taskId = taskId ∧ earlier.returned = true ∧
          answerDigest setting taskId state.conversationId resolvedFields
            permissions = some earlier.digest →
        (earlier.outcome = .accepted ↔
          earlier.sameAnswer ⟨taskId, need, resolvedFields, permissions,
            earlier.digest, .accepted⟩ = true)
  | _ => True

structure Keeps (store later : TaskStore) : Prop where
  old : ∀ taskId state, store.find? taskId = some state →
    ∃ next, later.find? taskId = some next ∧
      next.conversationId = state.conversationId ∧
      next.continuationReceipts = state.continuationReceipts
  new : ∀ taskId next, store.find? taskId = none →
    later.find? taskId = some next → next.continuationReceipts = []

namespace Keeps

variable {store later last : TaskStore} {state old : TaskState}

theorem refl (store : TaskStore) : Keeps store store where
  old _ state found := ⟨state, found, rfl, rfl⟩
  new _ _ absent found := by
    rw [absent] at found
    cases found

theorem trans (first : Keeps store later) (second : Keeps later last) :
    Keeps store last where
  old taskId state found := by
    obtain ⟨next, present, named, kept⟩ := first.old taskId state found
    obtain ⟨final, reached, also, still⟩ := second.old taskId next present
    exact ⟨final, reached, also.trans named, still.trans kept⟩
  new taskId next absent found := by
    cases middle : later.find? taskId with
    | none => exact second.new taskId next middle found
    | some state =>
        obtain ⟨_, reached, _, kept⟩ := second.old taskId state middle
        cases found.symm.trans reached
        rw [kept]
        exact first.new taskId state absent middle

end Keeps

section Calls

variable {setting : Setting} {store later : TaskStore} {state old : TaskState}
  {taskId : String} {now : Int}

theorem find?_write (store : TaskStore) (state : TaskState) (taskId : String) :
    (write store state).find? taskId =
      if taskId = state.taskId then
        (store.find? taskId).map fun _ => state
      else store.find? taskId := by
  rw [write, Table.find?_updateWhere]
  cases found : store.find? taskId with
  | none => split <;> rfl
  | some =>
      have named := (Table.find?_eq_some_iff.mp found).2
      rw [Option.map_some, Option.map_some]
      by_cases same : taskId = state.taskId
      · rw [if_pos same, if_pos (decide_eq_true (named.trans same))]
        obtain rfl := same
        rw [named]
      · rw [if_neg same, if_neg]
        rw [decide_eq_true_iff, named]
        exact same

theorem write_keeps (found : store.find? state.taskId = some old)
    (named : state.conversationId = old.conversationId)
    (receipts : state.continuationReceipts = old.continuationReceipts) :
    Keeps store (write store state) where
  old taskId row present := by
    rw [find?_write]
    by_cases same : taskId = state.taskId
    · subst same
      cases found.symm.trans present
      exact ⟨state, by rw [if_pos rfl, found]; rfl, named, receipts⟩
    · exact ⟨row, by rw [if_neg same, present], rfl, rfl⟩
  new taskId next absent present := by
    rw [find?_write, absent] at present
    split at present <;> cases present

theorem expireIfNeeded_keeps (found : store.find? state.taskId = some state)
    (now : Int) : Keeps store (expireIfNeeded store state now).2 := by
  unfold expireIfNeeded
  split
  · exact write_keeps found rfl rfl
  · exact Keeps.refl store

theorem active_cases (store : TaskStore) (taskId : String) (now : Int) :
    (∃ error later, active store taskId now = (.error error, later) ∧
      Keeps store later) ∨
    ∃ state, active store taskId now = (.ok state, store) ∧
      store.find? taskId = some state ∧ state.taskId = taskId := by
  unfold active
  split
  · exact .inl ⟨_, _, rfl, Keeps.refl store⟩
  · rename_i state found
    have named := (Table.find?_eq_some_iff.mp found).2
    dsimp only
    split
    · refine .inl ⟨_, _, rfl, expireIfNeeded_keeps ?_ now⟩
      rw [named]
      exact found
    · rename_i open'
      refine .inr ⟨state, ?_, found, named⟩
      unfold expireIfNeeded at open' ⊢
      split
      · rename_i overdue
        rw [if_pos overdue] at open'
        exact absurd rfl open'
      · rfl

theorem saved_cases (store : TaskStore) (state : TaskState) (now : Int)
    (answer : Except StateError Fields) :
    (∃ error, saved store state now answer = (.error error, store)) ∨
      saved store state now answer =
        (answer, write store { state with updatedAt := now }) := by
  unfold saved save
  cases state.serializable with
  | false => exact .inl ⟨_, rfl⟩
  | true => exact .inr rfl

theorem saved_keeps (found : store.find? state.taskId = some old)
    (named : state.conversationId = old.conversationId)
    (receipts : state.continuationReceipts = old.continuationReceipts)
    (answer : Except StateError Fields) :
    Keeps store (saved store state now answer).2 := by
  rcases saved_cases store state now answer with ⟨_, same⟩ | written
  · rw [same]
    exact Keeps.refl store
  · rw [written]
    exact write_keeps found named receipts

theorem getTask_keeps (store : TaskStore) (taskId : String)
    (includeExpired : Bool) (now : Int) :
    Keeps store (getTask store taskId includeExpired now).2 := by
  unfold getTask
  split
  · exact Keeps.refl store
  · rename_i state found
    have present : store.find? state.taskId = some state := by
      rw [(Table.find?_eq_some_iff.mp found).2]
      exact found
    have kept := expireIfNeeded_keeps present now
    dsimp only
    split <;> exact kept

theorem insert_keeps (fresh : state.continuationReceipts = [])
    (inserted : insert store state = .ok later) : Keeps store later := by
  unfold insert at inserted
  split at inserted
  · cases inserted
  · split at inserted
    · cases inserted
    · split at inserted
      · rename_i added
        cases inserted
        constructor
        · intro taskId row found
          exact ⟨row, Table.insert?_keeps added found, rfl, rfl⟩
        · intro taskId next absent found
          rw [Table.find?_of_insert? added] at found
          split at found
          · cases found
            exact fresh
          · rw [absent] at found
            cases found
      · cases inserted

theorem createTask_keeps (setting : Setting) (store : TaskStore)
    (taskId agentId capability : String) (conversationId : Option String)
    (context : Context) (now : Int) :
    Keeps store (createTask setting store taskId agentId capability
      conversationId context now).2 := by
  unfold createTask
  split
  · exact Keeps.refl store
  · dsimp only
    split
    · rename_i current found
      have present : store.find? current.taskId = some current := by
        rw [(Table.find?_eq_some_iff.mp found).2]
        exact found
      have kept := expireIfNeeded_keeps present now
      split
      · exact kept
      · rename_i running
        split
        · exact kept
        · split
          · exact kept
          · rename_i merged
            refine Keeps.trans ?_ (getTask_keeps _ taskId false now)
            have same : (expireIfNeeded store current now).2 = store := by
              unfold expireIfNeeded at running ⊢
              split
              · rename_i overdue
                rw [if_pos overdue] at running
                exact absurd rfl running
              · rfl
            rw [same] at merged
            unfold save at merged
            split at merged
            · cases merged
              exact write_keeps present rfl rfl
            · cases merged
    · split
      · exact Keeps.refl store
      · rename_i inserted
        exact (insert_keeps rfl inserted).trans (getTask_keeps _ taskId false now)

theorem recordNeed_keeps (setting : Setting) (store : TaskStore)
    (taskId : String) (need : Value) (now : Int) :
    Keeps store (recordNeed setting store taskId need now).2 := by
  unfold recordNeed
  split
  · exact Keeps.refl store
  · rcases active_cases store taskId now with
      ⟨error, later, closed, kept⟩ | ⟨state, opened, found, rfl⟩
    · rw [closed]
      exact kept
    · rw [opened]
      dsimp only
      split
      · exact Keeps.refl store
      · split
        · exact Keeps.refl store
        · rename_i recorded
          refine Keeps.trans ?_ (getTask_keeps _ _ false now)
          unfold save at recorded
          split at recorded
          · cases recorded
            exact write_keeps found rfl rfl
          · cases recorded

section Found

variable {need confirmations : Fields} {sources : Sources}
  (found : store.find? state.taskId = some old)
  (named : state.conversationId = old.conversationId)
  (receipts : state.continuationReceipts = old.continuationReceipts)

include found named receipts

theorem resolvePermission_keeps :
    Keeps store (resolvePermission store state need now).2 := by
  unfold resolvePermission
  split
  · split <;>
      exact saved_keeps (by exact found) (by exact named) (by exact receipts) _
  · exact Keeps.refl store

theorem resolveApproval_keeps :
    Keeps store (resolveApproval store state need confirmations now).2 := by
  unfold resolveApproval
  split
  · split <;>
      exact saved_keeps (by exact found) (by exact named) (by exact receipts) _
  · exact Keeps.refl store

theorem resolveInput_keeps :
    Keeps store (resolveInput setting store state need sources now).2 := by
  unfold resolveInput
  split
  · exact Keeps.refl store
  · split
    · exact Keeps.refl store
    · split <;>
      exact saved_keeps (by exact found) (by exact named) (by exact receipts) _

end Found

theorem resolveNeed_keeps (setting : Setting) (store : TaskStore)
    (taskId : String) (need : Value) (sources : Sources) (now : Int) :
    Keeps store (resolveNeed setting store taskId need sources now).2 := by
  unfold resolveNeed
  split
  · exact Keeps.refl store
  · rcases active_cases store taskId now with
      ⟨_, _, closed, kept⟩ | ⟨state, opened, found, rfl⟩
    · rw [closed]
      exact kept
    · rw [opened]
      dsimp only
      split
      · exact Keeps.refl store
      · split
        · exact resolvePermission_keeps found rfl rfl
        · split
          · exact resolveApproval_keeps found rfl rfl
          · exact resolveInput_keeps found rfl rfl

theorem beginContinuation_cases (setting : Setting) (store : TaskStore)
    (taskId : String) (resolvedFields permissions : Fields) (now : Int) :
    ∃ begun later, beginContinuation setting store taskId resolvedFields
        permissions now = (begun, later) ∧ Keeps store later ∧
      ((∃ error, begun = .rejected error) ∨
        ∃ state digest, store.find? taskId = some state ∧
          answerDigest setting taskId state.conversationId resolvedFields
            permissions = some digest ∧
          ((∃ receipt, begun = .repeated digest receipt ∧
              (Items.get? state.continuationReceipts digest).isSome = true) ∨
            ∃ agentId envelope, begun = .sending agentId envelope digest ∧
              Items.get? state.continuationReceipts digest = none)) := by
  unfold beginContinuation
  split
  · exact ⟨_, _, rfl, Keeps.refl store, .inl ⟨_, rfl⟩⟩
  · rcases active_cases store taskId now with
      ⟨error, later, closed, kept⟩ | ⟨state, opened, found, rfl⟩
    · rw [closed]
      exact ⟨_, _, rfl, kept, .inl ⟨_, rfl⟩⟩
    · rw [opened]
      dsimp only
      cases hashed : answerDigest setting state.taskId state.conversationId
          resolvedFields permissions with
      | none => exact ⟨_, _, rfl, Keeps.refl store, .inl ⟨_, rfl⟩⟩
      | some digest =>
          dsimp only
          cases prior : Items.get? state.continuationReceipts digest with
          | some receipt =>
              exact ⟨_, _, rfl, Keeps.refl store, .inr ⟨state, digest, found,
                hashed, .inl ⟨receipt, rfl, by rw [prior]; rfl⟩⟩⟩
          | none =>
              dsimp only
              unfold save
              split
              · rename_i fails
                split at fails
                · cases fails
                · cases fails
                  exact ⟨_, _, rfl, Keeps.refl store, .inl ⟨_, rfl⟩⟩
              · rename_i succeeds
                split at succeeds
                · cases succeeds
                  exact ⟨_, _, rfl, write_keeps found rfl rfl,
                    .inr ⟨state, digest, found, hashed,
                      .inr ⟨_, _, rfl, prior⟩⟩⟩
                · cases succeeds

theorem endContinuation_cases (store : TaskStore) (taskId digest : String)
    (sent : Sent) (now : Int) :
    (outcomeOf sent (endContinuation store taskId digest sent now).1.isOk ≠
        .accepted ∧
      Keeps store (endContinuation store taskId digest sent now).2) ∨
    ∃ state next result, store.find? taskId = some state ∧
      next.taskId = taskId ∧ next.conversationId = state.conversationId ∧
      next.continuationReceipts =
        Items.assign digest result state.continuationReceipts ∧
      outcomeOf sent (endContinuation store taskId digest sent now).1.isOk =
        .accepted ∧
      (endContinuation store taskId digest sent now).2 = write store next := by
  unfold endContinuation
  rcases active_cases store taskId now with
    ⟨error, later, closed, kept⟩ | ⟨state, opened, found, rfl⟩
  · rw [closed]
    refine .inl ⟨?_, kept⟩
    cases sent <;> exact fun same => by cases same
  · rw [opened]
    cases sent with
    | raised =>
        refine .inl ⟨fun same => (by cases same), ?_⟩
        dsimp only
        exact @saved_keeps store _ state now (by exact found) (by rfl) (by rfl) _
    | returned response =>
        dsimp only
        split
        · rcases saved_cases store _ now _ with ⟨error, fails⟩ | written
          · rw [fails]
            exact .inl ⟨fun same => (by cases same), Keeps.refl store⟩
          · rw [written]
            refine .inr ⟨state, _, continued state response, found, ?_, ?_,
              ?_, rfl, rfl⟩ <;> rfl
        · split
          · exact .inl ⟨fun same => (by cases same), Keeps.refl store⟩
          · rcases saved_cases store _ now _ with ⟨error, fails⟩ | written
            · rw [fails]
              exact .inl ⟨fun same => (by cases same), Keeps.refl store⟩
            · rw [written]
              refine .inr ⟨state, _, continued state response, found, ?_, ?_,
                ?_, rfl, rfl⟩ <;> rfl

end Calls

theorem sameFields_iff {first second : Fields} :
    sameFields first second = true ↔
      (Value.dict first).sortKeys = (Value.dict second).sortKeys := by
  rw [sameFields, decide_eq_true_iff, Value.sortKeys, Value.sortKeys,
    Value.dict.injEq]

theorem sortPairs_congr {key : String} {first second : Value}
    {rest others : Fields} (values : first.sortKeys = second.sortKeys)
    (pairs : Value.sortPairs rest = Value.sortPairs others) :
    Value.sortPairs ((key, first) :: rest) =
      Value.sortPairs ((key, second) :: others) := by
  rw [Value.sortPairs, Value.sortPairs, values, pairs]

theorem answerDigest_unique {setting : Setting}
    {taskId conversationId digest other : String}
    {resolvedFields permissions fields allowed : Fields}
    (answers : sameFields resolvedFields fields = true)
    (permits : sameFields permissions allowed = true)
    (hashed : answerDigest setting taskId conversationId resolvedFields
      permissions = some digest)
    (also : answerDigest setting taskId conversationId fields allowed =
      some other) : digest = other := by
  rw [sameFields_iff] at answers permits
  simp only [answerDigest, Option.map_eq_some_iff, Value.dumps,
    Option.ite_none_right_eq_some, Option.some.injEq] at hashed also
  obtain ⟨_, ⟨_, rfl⟩, rfl⟩ := hashed
  obtain ⟨_, ⟨_, rfl⟩, rfl⟩ := also
  rw [Value.sortKeys, Value.sortKeys, sortPairs_congr rfl
    (sortPairs_congr rfl (sortPairs_congr answers (sortPairs_congr permits
      rfl)))]

/-- The receipts are those of the responses accepted, under the digests of
their answers. -/
structure Receipted (setting : Setting) (system : CollaborationSystem) :
    Prop where
  receipts : ∀ taskId state, system.store.find? taskId = some state →
    ∀ digest,
      (Items.get? state.continuationReceipts digest).isSome = true ↔
        ∃ delivery ∈ system.deliveries, delivery.taskId = taskId ∧
          delivery.digest = digest ∧ delivery.outcome = .accepted
  digests : ∀ delivery ∈ system.deliveries, ∃ state,
    system.store.find? delivery.taskId = some state ∧
      answerDigest setting delivery.taskId state.conversationId
        delivery.resolvedFields delivery.permissions = some delivery.digest

namespace Receipted

variable {setting : Setting} {system : CollaborationSystem} {later : TaskStore}

theorem initial (setting : Setting) : Receipted setting .initial where
  receipts _ _ found := by cases found
  digests _ member := by cases member

theorem keeps (receipted : Receipted setting system)
    (kept : Keeps system.store later) :
    Receipted setting { system with store := later } where
  receipts taskId next found digest := by
    cases present : system.store.find? taskId with
    | some state =>
        obtain ⟨_, reached, _, same⟩ := kept.old taskId state present
        cases found.symm.trans reached
        rw [same]
        exact receipted.receipts taskId state present digest
    | none =>
        rw [kept.new taskId next present found]
        constructor
        · intro received
          cases received
        · rintro ⟨delivery, member, rfl, _⟩
          obtain ⟨state, stored, _⟩ := receipted.digests delivery member
          rw [present] at stored
          cases stored
  digests delivery member := by
    obtain ⟨state, found, hashed⟩ := receipted.digests delivery member
    obtain ⟨next, reached, named, _⟩ := kept.old _ state found
    exact ⟨next, reached, by rw [named]; exact hashed⟩

theorem log (receipted : Receipted setting system) {delivery : Delivery}
    {state : TaskState}
    (found : system.store.find? delivery.taskId = some state)
    (hashed : answerDigest setting delivery.taskId state.conversationId
      delivery.resolvedFields delivery.permissions = some delivery.digest)
    (unaccepted : delivery.outcome ≠ .accepted) :
    Receipted setting { system with
      deliveries := delivery :: system.deliveries } where
  receipts taskId state present digest := by
    refine (receipted.receipts taskId state present digest).trans
      ⟨fun ⟨other, member, rest⟩ => ⟨other, .tail _ member, rest⟩, ?_⟩
    rintro ⟨other, member, named, same, accepted⟩
    rcases List.mem_cons.mp member with rfl | old
    · exact absurd accepted unaccepted
    · exact ⟨other, old, named, same, accepted⟩
  digests := List.forall_mem_cons.mpr ⟨⟨state, found, hashed⟩,
    receipted.digests⟩

theorem accept (receipted : Receipted setting system) {delivery : Delivery}
    {state next : TaskState} {result : Fields}
    (found : system.store.find? delivery.taskId = some state)
    (hashed : answerDigest setting delivery.taskId state.conversationId
      delivery.resolvedFields delivery.permissions = some delivery.digest)
    (accepted : delivery.outcome = .accepted)
    (sameTask : next.taskId = delivery.taskId)
    (named : next.conversationId = state.conversationId)
    (receipt : next.continuationReceipts =
      Items.assign delivery.digest result state.continuationReceipts) :
    Receipted setting ⟨write system.store next,
      delivery :: system.deliveries⟩ where
  receipts taskId row present digest := by
    rw [find?_write] at present
    by_cases same : taskId = next.taskId
    · rw [if_pos same, same, sameTask, found] at present
      cases present
      rw [receipt, Items.get?_assign]
      by_cases here : digest = delivery.digest
      · rw [if_pos here]
        refine iff_of_true rfl ⟨delivery, List.mem_cons_self, ?_, here.symm,
          accepted⟩
        exact (same.trans sameTask).symm
      · rw [if_neg here, receipted.receipts _ state found]
        rw [same, sameTask]
        constructor
        · rintro ⟨other, member, rest⟩
          exact ⟨other, .tail _ member, rest⟩
        · rintro ⟨other, member, also, digested, rest⟩
          rcases List.mem_cons.mp member with rfl | old
          · exact absurd digested.symm here
          · exact ⟨other, old, also, digested, rest⟩
    · rw [if_neg same] at present
      refine (receipted.receipts taskId row present digest).trans
        ⟨fun ⟨other, member, rest⟩ => ⟨other, .tail _ member, rest⟩, ?_⟩
      rintro ⟨other, member, also, rest⟩
      rcases List.mem_cons.mp member with rfl | old
      · exact absurd (also.symm.trans sameTask.symm) same
      · exact ⟨other, old, also, rest⟩
  digests := by
    have moved : ∀ taskId row, system.store.find? taskId = some row →
        ∃ other, (write system.store next).find? taskId = some other ∧
          other.conversationId = row.conversationId := by
      intro taskId row present
      rw [find?_write]
      by_cases same : taskId = next.taskId
      · rw [if_pos same, present]
        rw [same, sameTask, found] at present
        cases present
        exact ⟨next, rfl, named⟩
      · rw [if_neg same]
        exact ⟨row, present, rfl⟩
    intro other member
    have known : ∃ row, system.store.find? other.taskId = some row ∧
        answerDigest setting other.taskId row.conversationId
          other.resolvedFields other.permissions = some other.digest := by
      rcases List.mem_cons.mp member with rfl | old
      · exact ⟨state, found, hashed⟩
      · exact receipted.digests other old
    obtain ⟨row, present, digested⟩ := known
    obtain ⟨later, reached, same⟩ := moved other.taskId row present
    exact ⟨later, reached, by rw [same]; exact digested⟩

end Receipted

section Runs

variable {setting : Setting} {system : CollaborationSystem}

theorem Receipted.once (receipted : Receipted setting system)
    {taskId digest : String} {need : Nat} {resolvedFields permissions : Fields}
    {now later : Int} {sent : Sent} {state : TaskState}
    (found : system.store.find? taskId = some state)
    (hashed : answerDigest setting taskId state.conversationId resolvedFields
      permissions = some digest)
    (apart : AnswersApart setting system
      (.continueTask taskId need resolvedFields permissions now sent later))
    (outcome : Outcome) :
    (Items.get? state.continuationReceipts digest).isSome = true ↔
      ∃ earlier ∈ system.deliveries, earlier.sameAnswer
        ⟨taskId, need, resolvedFields, permissions, digest, outcome⟩ = true ∧
        earlier.returned = true := by
  rw [receipted.receipts taskId state found]
  have condition := apart state found
  constructor
  · rintro ⟨earlier, member, named, rfl, accepted⟩
    have back : earlier.returned = true := by
      rw [Delivery.returned, accepted]
      rfl
    have same := (condition earlier member ⟨named, back, hashed⟩).mp accepted
    exact ⟨earlier, member, same, back⟩
  · rintro ⟨earlier, member, same, back⟩
    have parts := same
    simp only [Delivery.sameAnswer, Bool.and_eq_true, beq_iff_eq] at parts
    obtain ⟨⟨⟨named, _⟩, answers⟩, permits⟩ := parts
    obtain ⟨_, present, digested⟩ := receipted.digests earlier member
    rw [named, found] at present
    cases present
    rw [named] at digested
    have equal := answerDigest_unique answers permits digested hashed
    refine ⟨earlier, member, named, equal, ?_⟩
    exact (condition earlier member ⟨named, back, equal ▸ hashed⟩).mpr same

theorem collaborationStep_continue (receipted : Receipted setting system)
    {taskId : String} {need : Nat} {resolvedFields permissions : Fields}
    {now later : Int} {sent : Sent}
    (apart : AnswersApart setting system
      (.continueTask taskId need resolvedFields permissions now sent later))
    (once : Lawful DeliveredOnce system.deliveries) :
    Receipted setting (collaborationStep setting system
        (.continueTask taskId need resolvedFields permissions now sent later)) ∧
      Lawful DeliveredOnce (collaborationStep setting system
        (.continueTask taskId need resolvedFields permissions now sent
          later)).deliveries := by
  obtain ⟨_, store, begins, kept, cases⟩ := beginContinuation_cases setting
    system.store taskId resolvedFields permissions now
  dsimp only [collaborationStep, continueTask]
  rw [begins]
  rcases cases with ⟨error, rfl⟩ | ⟨state, digest, found, hashed, rest⟩
  · exact ⟨receipted.keeps kept, once⟩
  · have agrees := receipted.once found hashed apart
    rcases rest with ⟨receipt, rfl, present⟩ | ⟨agentId, envelope, rfl, absent⟩
    · refine ⟨?_, ?_, once⟩
      · have logged := @Receipted.log setting system receipted ⟨taskId, need,
          resolvedFields, permissions, digest, .repeated⟩ state found hashed
          (fun same => by cases same)
        exact logged.keeps kept
      · refine iff_of_false (fun differs => differs rfl) (fun none => none ?_)
        exact (agrees .repeated).mp present
    · dsimp only
      have none : ∀ outcome, ¬ ∃ earlier ∈ system.deliveries,
          earlier.sameAnswer ⟨taskId, need, resolvedFields, permissions, digest,
            outcome⟩ = true ∧ earlier.returned = true := by
        intro outcome some
        have present := (agrees outcome).mpr some
        rw [absent] at present
        cases present
      have sending : ∀ answered, outcomeOf sent answered ≠ .repeated := by
        intro answered
        cases sent with
        | raised => exact fun same => by cases same
        | returned => cases answered <;> exact fun same => by cases same
      refine ⟨?_, iff_of_true (sending _) (none _), once⟩
      obtain ⟨open', reached, named, _⟩ := kept.old taskId state found
      rcases endContinuation_cases store taskId digest sent later with
        ⟨unaccepted, still⟩ |
          ⟨row, next, result, present, sameTask, conversation, received,
            accepted, written⟩
      · exact (@Receipted.log setting system receipted ⟨taskId, need,
          resolvedFields, permissions, digest, _⟩ state found hashed
          unaccepted).keeps (kept.trans still)
      · rw [written]
        cases reached.symm.trans present
        have middle := receipted.keeps kept
        exact @Receipted.accept setting _ middle ⟨taskId, need, resolvedFields,
          permissions, digest, _⟩ open' next result reached
          (by rw [named]; exact hashed) accepted sameTask conversation received

/-- Where nothing else was sent under the digest of an answer and none of its
responses was refused, every answer to a need is sent, and after the sender has
returned it is not sent again. -/
theorem delivered_once (setting : Setting) (actions : List CollaborationAction)
    (apart : Along (collaborationStep setting) (AnswersApart setting) .initial
      actions) :
    Lawful DeliveredOnce (collaborationRun setting actions).deliveries := by
  refine (Along.invariant (fun system : CollaborationSystem =>
    Receipted setting system ∧ Lawful DeliveredOnce system.deliveries) ?_
    ⟨Receipted.initial setting, trivial⟩ apart).2
  rintro system action ⟨receipted, once⟩ condition
  cases action with
  | createTask taskId agentId capability conversationId context now =>
      exact ⟨receipted.keeps (createTask_keeps setting system.store taskId
        agentId capability conversationId context now), once⟩
  | getTask taskId includeExpired now =>
      exact ⟨receipted.keeps (getTask_keeps system.store taskId includeExpired
        now), once⟩
  | recordNeed taskId need now =>
      exact ⟨receipted.keeps (recordNeed_keeps setting system.store taskId need
        now), once⟩
  | resolveNeed taskId need sources now =>
      exact ⟨receipted.keeps (resolveNeed_keeps setting system.store taskId need
        sources now), once⟩
  | continueTask => exact collaborationStep_continue receipted condition once

def sampleSetting : Setting where
  protocol := ⟨["task.needs_input", "task.needs_approval"], "task.needs_input",
    "task.needs_permission", "task.needs_approval", "task.progress",
    "task.continue"⟩
  timeoutSeconds := 1800
  sha256 := fun _ => "digest"
  str := fun _ => ""

def sampleNeed (taskId : String) : Value :=
  .dict [("type", .str "task.needs_approval"), ("task_id", .str taskId),
    ("conversation_id", .str "task"), ("reason", .str "approve"),
    ("proposal", .dict [])]

def sampleAnswer (need : Nat) (response : Value) : CollaborationAction :=
  .continueTask "task" need [("approved", .bool true)] [] 1 (.returned response)
    2

def sampleDelivery (need : Nat) (outcome : Outcome) : Delivery :=
  ⟨"task", need, [("approved", .bool true)], [], "digest", outcome⟩

def repeatedRun : List CollaborationAction :=
  [.createTask "task" "agent" "book" none {} 0,
    sampleAnswer 1 (sampleNeed "task"), sampleAnswer 1 (sampleNeed "task")]

theorem repeatedRun_apart : Along (collaborationStep sampleSetting)
    (AnswersApart sampleSetting) .initial repeatedRun := by
  refine ⟨trivial, ?_, ?_, trivial⟩
  · intro state found earlier member
    exact absurd member List.not_mem_nil
  · intro state found earlier member conditions
    have sent : (collaborationStep sampleSetting (collaborationStep
        sampleSetting .initial (.createTask "task" "agent" "book" none {} 0))
        (sampleAnswer 1 (sampleNeed "task"))).deliveries =
        [sampleDelivery 1 .accepted] := by
      decide +kernel
    rw [sent, List.mem_singleton] at member
    rw [member]
    exact iff_of_true rfl rfl

theorem delivered_once_repeated :
    (collaborationRun sampleSetting repeatedRun).deliveries =
        [sampleDelivery 1 .repeated, sampleDelivery 1 .accepted] ∧
      Lawful DeliveredOnce
        [sampleDelivery 1 .repeated, sampleDelivery 1 .accepted] := by
  have reached : (collaborationRun sampleSetting repeatedRun).deliveries =
      [sampleDelivery 1 .repeated, sampleDelivery 1 .accepted] := by
    decide +kernel
  -- the run stays a variable: its log is long to evaluate
  obtain ⟨actions, same⟩ : ∃ actions, actions = repeatedRun := ⟨_, rfl⟩
  have along := repeatedRun_apart
  rw [← same] at along reached
  have once := delivered_once sampleSetting actions along
  rw [reached] at once
  exact ⟨same ▸ reached, once⟩

/-- A response that names another task is refused after the sender has returned,
and the answer is sent again; the same approval of a second proposal is not
sent. -/
theorem delivered_twice_or_never :
    ¬ Lawful DeliveredOnce (collaborationRun sampleSetting
        [.createTask "task" "agent" "book" none {} 0,
          sampleAnswer 1 (sampleNeed "other"),
          sampleAnswer 1 (sampleNeed "task")]).deliveries ∧
      ¬ Lawful DeliveredOnce (collaborationRun sampleSetting
        [.createTask "task" "agent" "book" none {} 0,
          sampleAnswer 1 (sampleNeed "task"),
          sampleAnswer 2 (sampleNeed "task")]).deliveries := by
  have twice : (collaborationRun sampleSetting
      [.createTask "task" "agent" "book" none {} 0,
        sampleAnswer 1 (sampleNeed "other"),
        sampleAnswer 1 (sampleNeed "task")]).deliveries =
      [sampleDelivery 1 .accepted, sampleDelivery 1 .refused] := by
    decide +kernel
  have never : (collaborationRun sampleSetting
      [.createTask "task" "agent" "book" none {} 0,
        sampleAnswer 1 (sampleNeed "task"),
        sampleAnswer 2 (sampleNeed "task")]).deliveries =
      [sampleDelivery 2 .repeated, sampleDelivery 1 .accepted] := by
    decide +kernel
  rw [twice, never]
  decide +kernel

end Runs

end AcpTask.Collaboration
