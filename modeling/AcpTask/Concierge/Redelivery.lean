import AcpTask.Concierge.Reread

namespace AcpTask.Concierge

open Data Library Workflow

/-! A page of a resolver run is counted once: the run keeps the tokens it has
consumed. -/

def ResolverRuns.Refuses (runs : ResolverRuns) (key : String × String)
    (page : ResolverPage) : Prop :=
  ∃ run, runs.find? key = some run ∧ run.refuses page = true

theorem recordSlackResolverPage_refused {runs : ResolverRuns}
    {key : String × String} {page : ResolverPage}
    (refused : runs.Refuses key page) (now : Int) :
    recordSlackResolverPage runs key page now = (some none, runs) := by
  obtain ⟨_, found, refuses⟩ := refused
  simp [recordSlackResolverPage, found, refuses]

theorem ResolverRuns.Refuses.complete {runs : ResolverRuns}
    {key : String × String} {page : ResolverPage}
    (refused : runs.Refuses key page) (outcome : Value) (now : Int) :
    (completeSlackResolverRun runs key outcome now).Refuses key page := by
  obtain ⟨run, found, refuses⟩ := refused
  by_cases live : run.key = key ∧ run.status.terminal = false
  · refine ⟨run.complete outcome now, ?_, rfl⟩
    simp [completeSlackResolverRun, found, live.1, live.2]
  · refine ⟨run, ?_, refuses⟩
    simp only [completeSlackResolverRun, Table.find?_updateWhere, found,
      Option.map_some, Bool.and_eq_true, decide_eq_true_eq,
      Bool.not_eq_true', live, if_false]

theorem recordSlackResolverPage_cases (runs : ResolverRuns)
    (key : String × String) (page : ResolverPage) (now : Int) :
    recordSlackResolverPage runs key page now = (none, runs) ∧
        runs.find? key = none ∨
      ∃ count, (recordSlackResolverPage runs key page now).1 = some count ∧
        (recordSlackResolverPage runs key page now).2.Refuses key page := by
  cases found : runs.find? key with
  | none => exact .inl ⟨by simp [recordSlackResolverPage, found], rfl⟩
  | some run =>
      refine .inr ?_
      by_cases refuses : run.refuses page = true
      · exact ⟨none, by simp [recordSlackResolverPage, found, refuses],
          run, by simp [recordSlackResolverPage, found, refuses], refuses⟩
      · refine ⟨some (run.count page),
          by simp [recordSlackResolverPage, found, refuses],
          run.apply page now, ?_, ?_⟩
        · have ownKey := (Table.find?_eq_some_iff.mp found).2
          simp [recordSlackResolverPage, found, refuses, ownKey]
        · simp [ResolverRun.refuses, ResolverRun.apply]

theorem recordIfAny_again (runs : ResolverRuns) (tenantId : String)
    (run : Option (String × ResolverPage)) (outcome : Option Value)
    (now later : Int) :
    (recordIfAny (completeIfAny (recordIfAny runs tenantId run now).2 tenantId
        run outcome now) tenantId run later).1 =
      (recordIfAny runs tenantId run now).1.map fun _ => none := by
  cases run with
  | none => rfl
  | some run =>
      obtain ⟨id, page⟩ := run
      simp only [recordIfAny]
      obtain ⟨missing, absent⟩ | ⟨_, counted, refused⟩ :=
        recordSlackResolverPage_cases runs (id, tenantId) page now
      · rw [missing]
        cases outcome with
        | none => simp [completeIfAny, recordSlackResolverPage, absent]
        | some =>
            simp [completeIfAny, completeSlackResolverRun,
              recordSlackResolverPage, absent]
      · rw [counted, Option.map_some]
        cases outcome with
        | none =>
            rw [completeIfAny, recordSlackResolverPage_refused refused]
            intro id page outcome _ impossible
            cases impossible
        | some outcome =>
            rw [completeIfAny,
              recordSlackResolverPage_refused (refused.complete outcome now)]

theorem decision?_again (resolution : Resolution)
    (page : Option (Option PageCount)) :
    decision? resolution (page.map fun _ => none) = none ∨
      decision? resolution (page.map fun _ => none) =
        decision? resolution page := by
  unfold decision?
  rcases resolution.found with _ | ⟨item, _ | ⟨other, items⟩⟩
  · cases page with
    | none => exact .inr rfl
    | some => exact .inl rfl
  · exact .inr rfl
  · exact .inr rfl

section Resolving

variable {library : StandardLibrary} {runs : ResolverRuns} {tenantId : String}
variable {request : Value} {step : Step} {resolution : Resolution} {now : Int}

theorem resolve_projected
    (resolved : resolution? library request step = some resolution) :
    (resolve library runs tenantId request step now).1 =
      (decision? resolution
        (recordIfAny runs tenantId resolution.run now).1).map
          (Decision.projected resolution) := by
  simp only [resolve, resolved]
  cases decision? resolution
    (recordIfAny runs tenantId resolution.run now).1 <;> rfl

variable (runs tenantId now) in
theorem resolve_runs
    (resolved : resolution? library request step = some resolution) :
    ∃ outcome, (resolve library runs tenantId request step now).2 =
      completeIfAny (recordIfAny runs tenantId resolution.run now).2 tenantId
        resolution.run outcome now := by
  simp only [resolve, resolved]
  cases decision? resolution
    (recordIfAny runs tenantId resolution.run now).1 with
  | none =>
      refine ⟨none, ?_⟩
      cases resolution.run <;> rfl
  | some => exact ⟨_, rfl⟩

variable (library runs tenantId request step now) in
theorem resolve_again (later : Int) :
    (resolve library (resolve library runs tenantId request step now).2 tenantId
        request step later).1 = none ∨
      (resolve library (resolve library runs tenantId request step now).2
        tenantId request step later).1 =
        (resolve library runs tenantId request step now).1 := by
  cases resolved : resolution? library request step with
  | none => exact .inl (by simp [resolve, resolved])
  | some resolution =>
      obtain ⟨_, left⟩ := resolve_runs runs tenantId now resolved
      rw [left, resolve_projected resolved, resolve_projected resolved,
        recordIfAny_again]
      rcases decision?_again resolution
        (recordIfAny runs tenantId resolution.run now).1 with raised | same
      · exact .inl (by rw [raised, Option.map_none])
      · exact .inr (by rw [same])

end Resolving

def resolving? (state : ConversationState) (steps : List Step) : Option Step :=
  if (View.of state).resolutionRequest.truthy then resolverStep steps else none

theorem onlyEffect_write_of_read {steps : List Step}
    (reads : onlyEffect steps .read = true) :
    onlyEffect steps .write = false := by
  cases steps with
  | nil => cases reads
  | cons step =>
      simp only [onlyEffect, List.all_cons, Bool.and_eq_true] at reads
      have effect : step.effect = .read := eq_of_beq reads.2.1
      simp [onlyEffect, effect]

theorem ReadSource.repeatable_of_raised {library : StandardLibrary}
    {state : ConversationState} {source : ReadSource}
    (raised : source.branch? library (View.of state) = none) :
    source.Repeatable library state := by
  cases source with
  | listing => cases raised
  | links links =>
      have presents : presentLinkedSlackRead? library (View.of state) links =
        none := Option.map_eq_none_iff.mp raised
      simp [ReadSource.Repeatable, presents]
  | page fetched =>
      intro reading read taken
      have paged : pageBranch? library (View.of state) fetched = none := raised
      rw [pageBranch?_eq, read, Option.bind_some] at paged
      simp [paged] at taken

def CompleteRepeatable (library : StandardLibrary) (state : ConversationState)
    (steps : List Step) : Prop :=
  resolving? state steps = none →
    (onlyEffect steps .read = true → bindable (View.of state).operation = true →
      ∀ source, readSource? library steps = some source →
        source.Repeatable library state) ∧
    (onlyEffect steps .write = true → LocaleKept state)

section Complete

variable {library : StandardLibrary} {hash : Value → String}
variable {store : SyncStore} {steps : List Step} {tenantId : String}
variable {now later : Int} {first : Projected}

theorem completeProjected_resolving {step : Step}
    (waits : resolving? store.row.state steps = some step) :
    completeProjected library store steps tenantId now =
      let resolved := resolve library store.runs tenantId
        (View.of store.row.state).resolutionRequest step now
      (resolved.1, { store with runs := resolved.2 }) := by
  simp only [resolving?, Option.ite_none_right_eq_some] at waits
  simp only [completeProjected, waits.1, waits.2]

theorem completeProjected_plain
    (unresolved : resolving? store.row.state steps = none) :
    (completeProjected library store steps tenantId now).1 =
      if onlyEffect steps .read then
        if bindable (View.of store.row.state).operation then
          ((readSource? library steps).bind (ReadSource.branch? library
            (View.of store.row.state))).map ReadBranch.projected
        else none
      else if onlyEffect steps .write then
        some (writtenProjected (View.of store.row.state).locale)
      else some { status := .succeeded } := by
  rw [← readBranch?_eq]
  simp only [completeProjected]
  split
  case h_1 step waits truthy => simp [resolving?, waits, truthy] at unresolved
  case h_2 => split_ifs <;> rfl

theorem completeProjected_row :
    (completeProjected library store steps tenantId now).2.row = store.row := by
  simp only [completeProjected]
  split
  case h_1 => rfl
  case h_2 => split_ifs <;> rfl

structure Projected.Keeps (projected : Projected) : Prop where
  locale : projected.fields .locale = none
  operation : projected.fields .operation = none
  resolutionRequest : projected.fields .resolutionRequest = none
  live : projected.status.terminal = false

theorem Decision.projected_keeps (resolution : Resolution)
    (decision : Decision) : (decision.projected resolution).Keeps := by
  cases decision <;> exact ⟨rfl, rfl, rfl, rfl⟩

theorem ReadBranch.projected_keeps (branch : ReadBranch) :
    branch.projected.Keeps := by
  cases branch <;> exact ⟨rfl, rfl, rfl, rfl⟩

theorem completeProjected_keeps
    (projects : (completeProjected library store steps tenantId now).1 =
      some first) : first.Keeps := by
  cases waits : resolving? store.row.state steps with
  | some step =>
      rw [completeProjected_resolving waits] at projects
      cases resolved : resolution? library
          (View.of store.row.state).resolutionRequest step with
      | none => simp [resolve, resolved] at projects
      | some resolution =>
          simp only [resolve_projected resolved,
            Option.map_eq_some_iff] at projects
          obtain ⟨decision, _, rfl⟩ := projects
          exact decision.projected_keeps resolution
  | none =>
      rw [completeProjected_plain waits] at projects
      split_ifs at projects
      · obtain ⟨branch, _, rfl⟩ := Option.map_eq_some_iff.mp projects
        exact branch.projected_keeps
      · cases projects
        exact ⟨rfl, rfl, rfl, rfl⟩
      · cases projects
        exact ⟨rfl, rfl, rfl, rfl⟩

theorem Projected.Keeps.request_write (keeps : first.Keeps)
    (row : Conversation) :
    (View.of (first.write hash row now).state).resolutionRequest =
      (View.of row.state).resolutionRequest := by
  simp [View.of, Projected.write_state, Changes.value_applyTo,
    keeps.resolutionRequest]

theorem Projected.Keeps.operation_write (keeps : first.Keeps)
    (row : Conversation) :
    (View.of (first.write hash row now).state).operation =
      (View.of row.state).operation := by
  simp [View.of, Projected.write_state, Changes.value_applyTo, keeps.operation]

theorem settled_written (row : Conversation) :
    Projected.Settled hash row now later
        (writtenProjected (View.of row.state).locale)
        (some (writtenProjected (writtenLocale row.state))) ↔
      LocaleKept row.state := by
  constructor
  · intro settled
    have shown := settled.agrees.presentation _ rfl
    have sent := Option.some.inj shown
    simp only [messageSent, Value.dict.injEq, List.cons.injEq, Prod.mk.injEq,
      true_and] at sent
    exact (writtenLocale_eq_iff row.state).mp sent.2.1.symm
  · intro kept
    rw [(writtenLocale_eq_iff row.state).mpr kept]
    exact Projected.Settled.self hash row now later _

variable (later) in
theorem settled_complete {left : SyncStore}
    (projects : (completeProjected library store steps tenantId now).1 =
      some first)
    (row : left.row = first.write hash store.row now)
    (runs : left.runs =
      (completeProjected library store steps tenantId now).2.runs) :
    Projected.Settled hash store.row now later first
        (completeProjected library left steps tenantId later).1 ↔
      CompleteRepeatable library store.row.state steps := by
  have keeps := completeProjected_keeps projects
  have request : (View.of left.row.state).resolutionRequest =
      (View.of store.row.state).resolutionRequest := by
    rw [row, keeps.request_write]
  have operation : (View.of left.row.state).operation =
      (View.of store.row.state).operation := by
    rw [row, keeps.operation_write]
  have waitsAgain : resolving? left.row.state steps =
      resolving? store.row.state steps := by
    rw [resolving?, resolving?, request]
  cases waits : resolving? store.row.state steps with
  | some step =>
      rw [completeProjected_resolving waits] at projects runs
      rw [completeProjected_resolving (waitsAgain.trans waits), request, runs]
      refine iff_of_true ?_ fun unresolved => by simp [waits] at unresolved
      rcases resolve_again library store.runs tenantId
        (View.of store.row.state).resolutionRequest step now later with
        raised | same
      · rw [raised]
        exact Projected.Settled.none hash store.row now later first
      · rw [same, projects]
        exact Projected.Settled.self hash store.row now later first
  | none =>
      rw [completeProjected_plain waits] at projects
      rw [completeProjected_plain (waitsAgain.trans waits), operation]
      simp only [CompleteRepeatable, waits, true_implies]
      by_cases reads : onlyEffect steps .read = true
      · by_cases bound : bindable (View.of store.row.state).operation = true
        · simp only [reads, bound, if_true, Option.map_eq_some_iff,
            Option.bind_eq_some_iff] at projects ⊢
          obtain ⟨_, ⟨_, sourced, branched⟩, rfl⟩ := projects
          have once := settled_read hash now later branched
          rw [secondRead?] at once
          rw [sourced, Option.bind_some, row, Projected.write_state]
          simpa [onlyEffect_write_of_read reads] using once
        · simp [reads, bound] at projects
      · by_cases writes : onlyEffect steps .write = true
        · simp only [reads, writes, if_true] at projects ⊢
          cases projects
          have locale : (View.of left.row.state).locale =
              writtenLocale store.row.state := by
            rw [row, Projected.write_state]
            exact View.locale_of_applyTo keeps.locale _
          simpa [locale] using settled_written store.row
        · simp only [reads, writes] at projects ⊢
          cases projects
          simpa using Projected.Settled.self hash store.row now later _

variable (later) in
theorem raised_complete {left : SyncStore}
    (raised : (completeProjected library store steps tenantId now).1 = none)
    (row : left.row = store.row)
    (runs : left.runs =
      (completeProjected library store steps tenantId now).2.runs) :
    CompleteRepeatable library store.row.state steps ∧
      (completeProjected library left steps tenantId later).1 = none := by
  cases waits : resolving? store.row.state steps with
  | some step =>
      rw [completeProjected_resolving waits] at raised runs
      rw [completeProjected_resolving (by rw [row]; exact waits), runs, row]
      refine ⟨fun unresolved => by simp [waits] at unresolved, ?_⟩
      rcases resolve_again library store.runs tenantId
        (View.of store.row.state).resolutionRequest step now later with
        again | same
      · exact again
      · exact same.trans raised
  | none =>
      rw [completeProjected_plain waits] at raised
      rw [completeProjected_plain (by rw [row]; exact waits), row]
      refine ⟨fun _ => ⟨fun reads bound source sourced => ?_,
        fun writes => ?_⟩, raised⟩
      · simp only [reads, bound, if_true, sourced, Option.bind_some,
          Option.map_eq_none_iff] at raised
        exact source.repeatable_of_raised raised
      · have reads : ¬ onlyEffect steps .read = true := fun reads => by
          rw [onlyEffect_write_of_read reads] at writes
          cases writes
        simp [reads, writes] at raised

end Complete

section Delivered

variable (library : StandardLibrary) (hash : Value → String)
variable (store : SyncStore) (steps : List Step) (revisionId tenantId : String)
variable (outcome : List (String × Value)) (now later : Int)

def delivered : SyncStore :=
  (syncConversationWorkflowOutcome library hash store steps revisionId tenantId
    outcome now).2

def deliveredTwice : SyncStore :=
  delivered library hash
    (delivered library hash store steps revisionId tenantId outcome now)
    steps revisionId tenantId outcome later

/-- The conversation is linked to the revision, was live when the outcome was
first projected and still is. -/
structure Live : Prop where
  linked : (linkedConversation [store.row] revisionId tenantId).isSome = true
  live : store.row.lapsed now = false
  still : later ≤ now + syncTtlSeconds

theorem linkedConversation_isSome_iff (row : Conversation) :
    (linkedConversation [row] revisionId tenantId).isSome = true ↔
      row.workflowRevisionId = some revisionId ∧ row.tenantId = tenantId ∧
        row.status.terminal = false := by
  simp [linkedConversation, and_assoc]

theorem delivered_unlinked
    (unlinked : (linkedConversation [store.row] revisionId tenantId).isSome =
      false) :
    delivered library hash store steps revisionId tenantId outcome now =
      store := by
  have absent : (linkedConversation [store.row] revisionId tenantId).isNone =
    true := by simpa using unlinked
  simp [delivered, syncConversationWorkflowOutcome, absent]

variable {outcome}

section Complete

variable (complete : Value.lookup outcome "status" = .str "complete")
  (linked : (linkedConversation [store.row] revisionId tenantId).isSome = true)

include complete linked

theorem delivered_lapsed (lapsed : store.row.lapsed now = true) :
    (delivered library hash store steps revisionId tenantId outcome now).row =
      store.row.expire now := by
  have present : (linkedConversation [store.row] revisionId tenantId).isNone =
    false := by simpa using linked
  simp [delivered, syncConversationWorkflowOutcome, present, complete,
    mappedStatus, lapsed]

theorem delivered_raised (live : store.row.lapsed now = false)
    (raised : (completeProjected library store steps tenantId now).1 = none) :
    delivered library hash store steps revisionId tenantId outcome now =
      (completeProjected library store steps tenantId now).2 := by
  have present : (linkedConversation [store.row] revisionId tenantId).isNone =
    false := by simpa using linked
  simp [delivered, syncConversationWorkflowOutcome, present, complete,
    mappedStatus, live, Value.isText, raised]

theorem delivered_projected {first : Projected}
    (live : store.row.lapsed now = false)
    (projects : (completeProjected library store steps tenantId now).1 = some first) :
    delivered library hash store steps revisionId tenantId outcome now =
      { (completeProjected library store steps tenantId now).2 with
        row := first.write hash store.row now } := by
  have present : (linkedConversation [store.row] revisionId tenantId).isNone =
    false := by simpa using linked
  simp [delivered, syncConversationWorkflowOutcome, present, complete,
    mappedStatus, live, Value.isText, projects, completeProjected_row]

end Complete

variable {library hash store steps revisionId tenantId now later}

theorem same_of_lapsed {once : SyncStore}
    (complete : Value.lookup outcome "status" = .str "complete")
    (linked : (linkedConversation [once.row] revisionId tenantId).isSome = true)
    (lapsed : once.row.lapsed later = true) :
    ((delivered library hash once steps revisionId tenantId outcome
      later).row.readAt later).Same (once.row.readAt later) := by
  rw [delivered_lapsed library hash once steps revisionId tenantId later
    complete linked lapsed, Conversation.readAt_expire, Conversation.readAt,
    if_pos lapsed]
  exact Conversation.Same.refl _

theorem same_of_unchanged {once twice : SyncStore}
    (unchanged : twice.row = once.row) :
    (twice.row.readAt later).Same (once.row.readAt later) := by
  rw [unchanged]
  exact Conversation.Same.refl _

theorem delivered_raised_twice
    (complete : Value.lookup outcome "status" = .str "complete")
    (linked : (linkedConversation [store.row] revisionId tenantId).isSome =
      true)
    (live : store.row.lapsed now = false)
    (raised : (completeProjected library store steps tenantId now).1 = none) :
    ((deliveredTwice library hash store steps revisionId tenantId outcome now
        later).row.readAt later).Same
      ((delivered library hash store steps revisionId tenantId outcome
        now).row.readAt later) := by
  have once := delivered_raised library hash store steps revisionId tenantId
    now complete linked live raised
  have row := (congrArg SyncStore.row once).trans completeProjected_row
  have runs := congrArg SyncStore.runs once
  have linkedAgain := linked
  rw [← row] at linkedAgain
  cases lapsed : (delivered library hash store steps revisionId tenantId
      outcome now).row.lapsed later with
  | true => exact same_of_lapsed complete linkedAgain lapsed
  | false =>
      have again := (raised_complete later raised row runs).2
      refine same_of_unchanged ?_
      rw [deliveredTwice, delivered_raised library hash _ steps revisionId
        tenantId later complete linkedAgain lapsed again]
      exact completeProjected_row

variable (hash now) in
theorem linked_again {first : Projected} (keeps : first.Keeps)
    (linked : (linkedConversation [store.row] revisionId tenantId).isSome =
      true) :
    (linkedConversation [first.write hash store.row now] revisionId
      tenantId).isSome = true := by
  rw [linkedConversation_isSome_iff] at linked ⊢
  obtain ⟨-, revision, tenant, -⟩ :=
    Projected.write_links hash first store.row now
  rw [revision, tenant, Projected.write_status]
  exact ⟨linked.1, linked.2.1, keeps.live⟩

theorem lapsed_again {first : Projected} (keeps : first.Keeps) :
    (first.write hash store.row now).lapsed later = true ↔
      now + syncTtlSeconds < later := by
  simp [Conversation.lapsed, Projected.write_status, Projected.write_expiresAt,
    keeps.live]

theorem readAt_of_live {row : Conversation} (live : row.lapsed later = false) :
    row.readAt later = row := by
  simp [Conversation.readAt, live]

theorem delivered_projected_twice {first : Projected}
    (complete : Value.lookup outcome "status" = .str "complete")
    (live : Live store revisionId tenantId now later)
    (projects : (completeProjected library store steps tenantId now).1 =
      some first) :
    ((deliveredTwice library hash store steps revisionId tenantId outcome now
        later).row.readAt later).Same
      ((delivered library hash store steps revisionId tenantId outcome
        now).row.readAt later) ↔
      CompleteRepeatable library store.row.state steps := by
  have once := delivered_projected library hash store steps revisionId tenantId
    now complete live.linked live.live projects
  have row := congrArg SyncStore.row once
  have runs := congrArg SyncStore.runs once
  have keeps := completeProjected_keeps projects
  have linkedAgain := linked_again hash now keeps live.linked
  have liveAgain : (first.write hash store.row now).lapsed later = false :=
    Bool.eq_false_of_not_eq_true fun lapsed =>
      absurd ((lapsed_again keeps).mp lapsed) (not_lt.mpr live.still)
  have settled := settled_complete later projects row runs
  rw [← settled, deliveredTwice]
  change _ = first.write hash store.row now at row
  rw [← row] at linkedAgain liveAgain
  cases again : (completeProjected library (delivered library hash store steps
      revisionId tenantId outcome now) steps tenantId later).1 with
  | none =>
      rw [delivered_raised library hash _ steps revisionId tenantId later
        complete linkedAgain liveAgain again]
      exact iff_of_true (same_of_unchanged completeProjected_row)
        (Projected.Settled.none hash store.row now later first)
  | some second =>
      have keepsAgain := completeProjected_keeps again
      have liveStill : (second.write hash (delivered library hash store steps
          revisionId tenantId outcome now).row later).lapsed later = false :=
        Bool.eq_false_of_not_eq_true fun lapsed => by
          have past := (lapsed_again keepsAgain).mp lapsed
          simp [syncTtlSeconds] at past
      rw [delivered_projected library hash _ steps revisionId tenantId later
        complete linkedAgain liveAgain again, readAt_of_live liveStill,
        readAt_of_live liveAgain, row]
      constructor
      · intro same projected equation
        cases equation
        exact same
      · intro settled
        exact settled second rfl

/-- A complete outcome that is projected twice leaves the conversation as it
was left once, exactly when the conversation is not live, or its projection is
one that can be repeated. -/
theorem projection_is_idempotent_iff
    (complete : Value.lookup outcome "status" = .str "complete") :
    ((deliveredTwice library hash store steps revisionId tenantId outcome now
        later).row.readAt later).Same
      ((delivered library hash store steps revisionId tenantId outcome
        now).row.readAt later) ↔
      (Live store revisionId tenantId now later →
        CompleteRepeatable library store.row.state steps) := by
  cases linked : (linkedConversation [store.row] revisionId
      tenantId).isSome with
  | false =>
      have unchanged := delivered_unlinked library hash store steps revisionId
        tenantId outcome
      refine iff_of_true (same_of_unchanged ?_) fun live => ?_
      · rw [deliveredTwice, unchanged now linked, unchanged later linked]
      · rw [live.linked] at linked
        cases linked
  | true =>
      cases lapsed : store.row.lapsed now with
      | true =>
          refine iff_of_true (same_of_unchanged ?_) fun live => ?_
          · have row := delivered_lapsed library hash store steps revisionId
              tenantId now complete linked lapsed
            rw [deliveredTwice, delivered_unlinked]
            simp [row, linkedConversation, Conversation.expire,
              ConversationStatus.terminal]
          · rw [live.live] at lapsed
            cases lapsed
      | false =>
          cases projects : (completeProjected library store steps tenantId
              now).1 with
          | none =>
              exact iff_of_true
                (delivered_raised_twice complete linked lapsed projects)
                fun _ => (raised_complete later projects
                  completeProjected_row rfl).1
          | some =>
              by_cases still : later ≤ now + syncTtlSeconds
              · rw [delivered_projected_twice complete ⟨linked, lapsed, still⟩
                  projects]
                exact ⟨fun repeatable _ => repeatable,
                  fun repeatable => repeatable ⟨linked, lapsed, still⟩⟩
              · refine iff_of_true ?_ fun live => absurd live.still still
                have keeps := completeProjected_keeps projects
                have row := congrArg SyncStore.row (delivered_projected library
                  hash store steps revisionId tenantId now complete linked
                  lapsed projects)
                refine same_of_lapsed complete ?_ ?_
                · rw [row]
                  exact linked_again hash now keeps linked
                · rw [row]
                  exact (lapsed_again keeps).mpr (not_le.mp still)

end Delivered

def sampleLibrary : StandardLibrary where
  str := fun
    | .str text => text
    | _ => "None"
  int := fun _ => none
  nfkd := id
  combining := fun _ => false
  lower := id
  isSpace := fun character => character == ' '
  instant := fun _ _ => none

def sampleStep (effect : StepEffect) (output : Value) : Step where
  workflowRevisionId := "revision:1"
  stepId := "step:1"
  workflowRunId := "run:1"
  tenantId := "tenant"
  capabilityId := "slack.conversations.history"
  capabilityVersion := "1"
  descriptorSnapshotHash := "hash"
  inputHash := "hash"
  input := .dict [("channel_id", .str "C1")]
  output := some output
  dependsOn := []
  effect := effect

def sampleSync : SyncStore where
  row := {
    conversationId := "conversation:1", tenantId := "tenant"
    principalId := "principal", status := .retrieving
    state := fun
      | .operation => some (.str "read")
      | _ => none
    stateVersion := 1, workflowRunId := some "run:1"
    workflowRevisionId := some "revision:1"
    presentation := none, presentationHash := none
    createdAt := 0, updatedAt := 0, expiresAt := 180, contentExpiresAt := 180
    closedAt := none }
  runs := Table.empty
  outcomeEvents := []

def completeOutcome : List (String × Value) := [("status", .str "complete")]

/-- A message that is sent is sent twice with the same words. -/
theorem projection_is_idempotent_iff_sent :
    ((deliveredTwice sampleLibrary (fun _ => "hash") sampleSync
        [sampleStep .write (.dict [])] "revision:1" "tenant" completeOutcome 1
        2).row.readAt 2).Same
      ((delivered sampleLibrary (fun _ => "hash") sampleSync
        [sampleStep .write (.dict [])] "revision:1" "tenant" completeOutcome
        1).row.readAt 2) :=
  (projection_is_idempotent_iff rfl).mpr fun _ _ =>
    And.intro (fun reads => by cases reads) (fun _ => nofun)

def samplePage : Value :=
  .dict [
    ("messages", .list [.dict [("text", .str "shipped"),
      ("ts", .str "1.0"), ("user", .str "U1")]]),
    ("next_cursor", .str "page:2")]

/-- The page is counted twice, and its message kept twice. -/
theorem redelivered_page_is_doubled :
    let once := delivered sampleLibrary (fun _ => "hash") sampleSync
      [sampleStep .read samplePage] "revision:1" "tenant" completeOutcome 1
    let twice := deliveredTwice sampleLibrary (fun _ => "hash") sampleSync
      [sampleStep .read samplePage] "revision:1" "tenant" completeOutcome 1 2
    ¬ (twice.row.readAt 2).Same (once.row.readAt 2) ∧
      (prior? sampleLibrary (once.row.state.value .readProgress)).map
          (fun prior => (prior.pages, prior.messages.length)) = some (1, 1) ∧
      (prior? sampleLibrary (twice.row.state.value .readProgress)).map
          (fun prior => (prior.pages, prior.messages.length)) = some (2, 2) :=
  ⟨fun same => absurd (congrFun same.state .readProgress) (by decide +kernel),
    by decide +kernel, by decide +kernel⟩

end AcpTask.Concierge
