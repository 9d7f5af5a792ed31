import AcpTask.Concierge.ResolverMoves

namespace AcpTask.Concierge

open Library Outbox

def Counted (taken : List ((String × String) × String)) (key : String × String)
    (row : SlackResolverRun) : Prop :=
  row.consumed.Nodup ∧ row.pagesProcessed = row.consumed.length ∧
    ∀ token, token ∈ row.consumed ↔ (key, token) ∈ taken

/-- A run has counted each token that was recorded for it once, and its
completion was published once if it has ended, else never. -/
structure Accounted (system : ResolverSystem) : Prop where
  pages : ∀ key row, system.store.runs.find? key = some row →
    Counted system.taken key row
  known : ∀ key token, (key, token) ∈ system.taken →
    system.store.runs.find? key ≠ none
  completions : ∀ event ∈ system.store.outbox.events, ∀ resolverRunId,
    event.dedupeKey = completionKey resolverRunId →
      ∃ row, system.store.runs.find?
          (resolverRunId, event.aggregate.tenantId) = some row ∧
        row.status.ended = true
  published : ∀ key, system.published.count key =
    if (system.store.runs.find? key).any fun row => row.status.ended
    then 1 else 0

theorem Accounted.initial : Accounted .initial where
  pages _ _ found := by cases found
  known _ _ member := by cases member
  completions _ member := by cases member
  published _ := rfl

theorem ended_of_terminal {status : ResolverStatus}
    (live : status.terminal = false) : status.ended = false := by
  cases status <;> first | rfl | cases live

theorem completionKey_inj {first second : String}
    (same : completionKey first = completionKey second) : first = second :=
  (String.append_right_inj "slack-resolver:").mp same

theorem isPrefixOf_completionKey (resolverRunId : String) :
    "slack-resolver:".toList.isPrefixOf
      (completionKey resolverRunId).toList = true := by
  rw [completionKey, String.toList_append, List.isPrefixOf_iff_prefix]
  exact List.prefix_append _ _

section Kept

variable {system next : ResolverSystem} {row later : SlackResolverRun}

theorem terminal_of_ended {status : ResolverStatus}
    (ended : status.ended = true) : status.terminal = true := by
  cases status <;> first | rfl | cases ended

theorem Becomes.find?_self (becomes : Becomes system next row) :
    next.store.runs.find? row.key = some row := by
  rw [becomes, if_pos rfl]

variable {key : String × String}

theorem Becomes.find?_other (becomes : Becomes system next row)
    (other : key ≠ row.key) :
    next.store.runs.find? key = system.store.runs.find? key := by
  rw [becomes, if_neg other]

theorem LiveRun.ne_of_over (live : LiveRun system row)
    {other : SlackResolverRun}
    (found : system.store.runs.find? key = some other)
    (terminal : other.status.terminal = true) : key ≠ row.key := by
  rintro rfl
  cases live.1.symm.trans found
  rw [live.2] at terminal
  cases terminal

theorem SamePages.ne (pages : SamePages row later) (other : key ≠ row.key) :
    key ≠ later.key := by
  rwa [pages.key]

theorem ResolverMove.over (move : ResolverMove system next)
    {other : SlackResolverRun}
    (found : system.store.runs.find? key = some other)
    (terminal : other.status.terminal = true) :
    next.store.runs.find? key = some other := by
  cases move with
  | kept | replayed | others => exact found
  | @started _ row absent unfinished unread uncounted becomes =>
      have differs : key ≠ row.key := by
        rintro rfl
        rw [absent] at found
        cases found
      rw [becomes.find?_other differs, found]
  | counted _ _ live _ becomes =>
      rw [becomes.find?_other (live.ne_of_over found terminal), found]
  | altered live pages _ becomes | closed live pages _ becomes =>
      have differs := pages.ne (live.ne_of_over found terminal)
      rw [becomes.find?_other differs, found]

variable {taken : List ((String × String) × String)}

theorem Counted.samePages (counted : Counted taken key row)
    (pages : SamePages row later) : Counted taken key later := by
  unfold Counted at counted ⊢
  rwa [pages.consumed, pages.pagesProcessed]

theorem Counted.record_other {other : String × String}
    (counted : Counted taken key row) (differs : key ≠ other) (token : String) :
    Counted ((other, token) :: taken) key row := by
  refine ⟨counted.1, counted.2.1, fun wanted => ?_⟩
  rw [counted.2.2 wanted, List.mem_cons, or_iff_right]
  rintro same
  exact differs (Prod.mk.inj same).1

theorem Counted.replay (counted : Counted taken key row) {token : String}
    (member : token ∈ row.consumed) :
    Counted ((key, token) :: taken) key row := by
  refine ⟨counted.1, counted.2.1, fun wanted => ?_⟩
  rw [List.mem_cons, ← counted.2.2 wanted, Prod.mk.injEq]
  constructor
  · exact .inr
  · rintro (⟨_, rfl⟩ | known)
    · exact member
    · exact known

theorem Counted.recordPage (counted : Counted taken key row) (page : ResolverPage)
    (now : Int) (fresh : page.token ∉ row.consumed) :
    Counted ((key, page.token) :: taken) key (row.recordPage page now) := by
  obtain ⟨nodup, length, known⟩ := counted
  refine ⟨?_, ?_, fun wanted => ?_⟩
  · exact nodup.append (List.nodup_singleton _)
      (List.disjoint_singleton.mpr fresh)
  · show row.pagesProcessed + 1 = ((row.consumed ++ [page.token]).length : Int)
    rw [length, List.length_append, List.length_singleton, Nat.cast_add,
      Nat.cast_one]
  · show wanted ∈ row.consumed ++ [page.token] ↔ _
    rw [List.mem_append, List.mem_singleton, List.mem_cons, known wanted,
      Prod.mk.injEq, or_comm]
    simp

theorem Becomes.ended (becomes : Becomes system next later)
    (before : (system.store.runs.find? later.key).any
      (fun run => run.status.ended) = false)
    (unfinished : later.status.ended = false) (key : String × String) :
    ((next.store.runs.find? key).any fun run => run.status.ended) =
      (system.store.runs.find? key).any fun run => run.status.ended := by
  by_cases same : key = later.key
  · rw [same, becomes.find?_self, before, Option.any_some, unfinished]
  · rw [becomes.find?_other same]

theorem LiveRun.unfinished (live : LiveRun system row) :
    (system.store.runs.find? row.key).any (fun run => run.status.ended) =
      false := by
  rw [live.1, Option.any_some, ended_of_terminal live.2]

theorem Accounted.unpublished (accounted : Accounted system)
    (live : LiveRun system row) {event : OutboxEvent}
    (member : event ∈ system.store.outbox.events)
    (ofTenant : event.aggregate.tenantId = row.tenantId) :
    event.dedupeKey ≠ completionKey row.resolverRunId := by
  intro ofRun
  obtain ⟨_, found, ended⟩ :=
    accounted.completions event member row.resolverRunId ofRun
  rw [ofTenant] at found
  exact live.ne_of_over found (terminal_of_ended ended) rfl

theorem Accounted.completions_kept (accounted : Accounted system)
    (move : ResolverMove system next) {event : OutboxEvent}
    (member : event ∈ system.store.outbox.events) {resolverRunId : String}
    (ofRun : event.dedupeKey = completionKey resolverRunId) :
    ∃ row, next.store.runs.find?
        (resolverRunId, event.aggregate.tenantId) = some row ∧
      row.status.ended = true := by
  obtain ⟨row, found, ended⟩ :=
    accounted.completions event member resolverRunId ofRun
  exact ⟨row, move.over found (terminal_of_ended ended), ended⟩

theorem Accounted.pages_kept (accounted : Accounted system)
    (becomes : Becomes system next later)
    (counted : Counted next.taken later.key later)
    (others : ∀ key row, key ≠ later.key → Counted system.taken key row →
      Counted next.taken key row)
    (key : String × String) (row : SlackResolverRun)
    (found : next.store.runs.find? key = some row) :
    Counted next.taken key row := by
  by_cases same : key = later.key
  · subst same
    cases becomes.find?_self.symm.trans found
    exact counted
  · rw [becomes.find?_other same] at found
    exact others key row same (accounted.pages key row found)

theorem Accounted.known_kept (accounted : Accounted system)
    (becomes : Becomes system next later) {token : String}
    (member : (key, token) ∈ system.taken) :
    next.store.runs.find? key ≠ none := by
  by_cases same : key = later.key
  · rw [same, becomes.find?_self]
    exact Option.some_ne_none _
  · rw [becomes.find?_other same]
    exact accounted.known key token member

theorem Accounted.publishes (accounted : Accounted system)
    (live : LiveRun system row) {event : OutboxEvent} {after : OutboxStore}
    (ofTenant : event.aggregate.tenantId = row.tenantId)
    (ofRun : event.dedupeKey = completionKey row.resolverRunId)
    (appended : event ∈ after.events) :
    publishes system.store.outbox after row.key = true := by
  have absent : deduped system.store.outbox row.tenantId
      (completionKey row.resolverRunId) = none := by
    refine List.find?_eq_none.mpr fun old member matched => ?_
    simp only [Bool.and_eq_true, beq_iff_eq] at matched
    exact accounted.unpublished live member matched.1 matched.2
  have present : (deduped after row.tenantId
      (completionKey row.resolverRunId)).isSome = true := by
    refine List.find?_isSome.mpr ⟨event, appended, ?_⟩
    rw [ofTenant, ofRun, beq_self_eq_true, beq_self_eq_true, Bool.and_self]
  show ((deduped system.store.outbox row.tenantId
    (completionKey row.resolverRunId)).isNone && _) = true
  rw [absent, Option.isNone_none, Bool.true_and]
  exact present

theorem Accounted.move (accounted : Accounted system)
    (move : ResolverMove system next) : Accounted next := by
  have kept := fun event member resolverRunId ofRun =>
    @Accounted.completions_kept _ _ accounted move event member resolverRunId
      ofRun
  cases move with
  | kept => exact accounted
  | @started _ row absent unfinished unread uncounted becomes outbox taken
      published =>
      have counted : Counted next.taken row.key row := by
        unfold Counted
        rw [unread, uncounted, taken]
        refine ⟨List.nodup_nil, rfl, fun token => ?_⟩
        rw [iff_false_left List.not_mem_nil]
        exact fun member => accounted.known _ _ member absent
      refine ⟨accounted.pages_kept becomes counted
        fun key other _ counted => taken ▸ counted, ?_, ?_, fun key => ?_⟩
      · intro key token member
        exact accounted.known_kept becomes (taken ▸ member)
      · rw [outbox]
        exact kept
      · have before : (system.store.runs.find? row.key).any
            (fun run => run.status.ended) = false := by rw [absent]; rfl
        rw [published, becomes.ended before unfinished, accounted.published]
  | @counted _ row page now live fresh becomes outbox taken published =>
      have counted := (accounted.pages _ row live.1).recordPage page now fresh
      refine ⟨accounted.pages_kept becomes (taken ▸ counted)
        fun key other differs counted =>
          taken ▸ counted.record_other differs page.token,
        ?_, ?_, fun key => ?_⟩
      · intro key token member
        rw [taken, List.mem_cons] at member
        rcases member with same | member
        · cases same
          have current := becomes.find?_self
          exact fun absent => by cases current.symm.trans absent
        · exact accounted.known_kept becomes member
      · rw [outbox]
        exact kept
      · rw [published, becomes.ended live.unfinished rfl, accounted.published]
  | @replayed row token live member =>
      refine ⟨fun key other found => ?_, ?_, kept, accounted.published⟩
      · by_cases same : key = row.key
        · subst same
          cases live.1.symm.trans found
          exact (accounted.pages _ row live.1).replay member
        · exact (accounted.pages key other found).record_other same token
      · intro key wanted recorded
        rcases List.mem_cons.mp recorded with same | recorded
        · cases same
          rw [live.1]
          exact Option.some_ne_none _
        · exact accounted.known key wanted recorded
  | @altered _ row later live pages unfinished becomes outbox taken published =>
      have counted := (accounted.pages _ row live.1).samePages pages
      refine ⟨accounted.pages_kept becomes (taken ▸ pages.key ▸ counted)
        fun key other _ counted => taken ▸ counted, ?_, ?_, fun key => ?_⟩
      · intro key token member
        exact accounted.known_kept becomes (taken ▸ member)
      · rw [outbox]
        exact kept
      · rw [published, becomes.ended (pages.key ▸ live.unfinished) unfinished,
          accounted.published]
  | @closed _ row later event live pages finished becomes ofTenant ofRun outbox
      taken published =>
      have appended : next.store.outbox.events.rows =
          system.store.outbox.events.rows ++ [event] := by
        rcases outbox with ⟨_, member⟩ | appended
        · exact absurd ofRun (accounted.unpublished live member ofTenant)
        · exact appended
      have added : event ∈ next.store.outbox.events := by
        show event ∈ next.store.outbox.events.rows
        rw [appended]
        exact List.mem_append_right _ (List.mem_singleton_self event)
      have counted := (accounted.pages _ row live.1).samePages pages
      refine ⟨accounted.pages_kept becomes (taken ▸ pages.key ▸ counted)
        fun key other _ counted => taken ▸ counted, ?_, ?_, fun key => ?_⟩
      · intro key token member
        exact accounted.known_kept becomes (taken ▸ member)
      · intro other member resolverRunId named
        change other ∈ next.store.outbox.events.rows at member
        rw [appended, List.mem_append, List.mem_singleton] at member
        rcases member with old | rfl
        · exact kept other old resolverRunId named
        · have same := completionKey_inj (named.symm.trans ofRun)
          rw [same, ofTenant]
          have current := becomes.find?_self
          rw [pages.key] at current
          exact ⟨later, current, finished⟩
      · rw [published, if_pos (accounted.publishes live ofTenant ofRun added)]
        by_cases same : key = row.key
        · have current := becomes.find?_self
          rw [pages.key] at current
          rw [same, List.count_cons_self, accounted.published, current,
            live.unfinished, Option.any_some, finished]
          rfl
        · rw [List.count_cons_of_ne (Ne.symm same), accounted.published,
            becomes.find?_other (pages.ne same)]
  | others leaves =>
      refine ⟨accounted.pages, accounted.known, ?_, accounted.published⟩
      intro event member resolverRunId ofRun
      have covered := List.all_eq_true.mp leaves event member
      rw [ofRun, isPrefixOf_completionKey, Bool.not_true, Bool.false_or,
        List.any_eq_true] at covered
      obtain ⟨old, present, matched⟩ := covered
      simp only [Bool.and_eq_true, beq_iff_eq] at matched
      obtain ⟨row, found, ended⟩ :=
        accounted.completions old present resolverRunId matched.1
      exact ⟨row, matched.2 ▸ found, ended⟩

end Kept

theorem resolverSystem_accounted (encoding : Encoding)
    (actions : List ResolverAction) :
    Accounted (resolverSystem encoding actions) :=
  run_invariant (slackResolverStep encoding) Accounted
    (fun system action accounted =>
      accounted.move (slackResolverStep_move encoding system action))
    Accounted.initial actions

variable {system : ResolverSystem}

theorem over_after (encoding : Encoding) {key : String × String}
    {row : SlackResolverRun} (found : system.store.runs.find? key = some row)
    (terminal : row.status.terminal = true) (later : List ResolverAction) :
    (run (slackResolverStep encoding) system later).store.runs.find? key =
      some row :=
  run_invariant (slackResolverStep encoding)
    (fun system => system.store.runs.find? key = some row)
    (fun system action found =>
      (slackResolverStep_move encoding system action).over found terminal)
    found later

def ResolverSystem.tokens (system : ResolverSystem) (key : String × String) :
    List String :=
  (system.taken.filter fun recorded => recorded.1 == key).map Prod.snd

theorem ResolverSystem.mem_tokens_iff {key : String × String} {token : String} :
    token ∈ system.tokens key ↔ (key, token) ∈ system.taken := by
  simp [tokens]

theorem Counted.pagesProcessed {key : String × String} {row : SlackResolverRun}
    (counted : Counted system.taken key row) :
    row.pagesProcessed = (system.tokens key).dedup.length := by
  have same : row.consumed.Perm (system.tokens key).dedup := by
    refine (List.perm_ext_iff_of_nodup counted.1 (List.nodup_dedup _)).mpr
      fun token => ?_
    rw [List.mem_dedup, ResolverSystem.mem_tokens_iff]
    exact counted.2.2 token
  rw [counted.2.1, same.length_eq]

/-- After any calls, a run counts the distinct tokens recorded for it, a token
recorded again or for a run that is over changes nothing, a run that is over
stays what it is, and the completion of a run was appended once if the run has
completed or failed and otherwise never. -/
theorem slack_resolver_runs (encoding : Encoding)
    (actions : List ResolverAction) (key : String × String) :
    ∀ row, (resolverSystem encoding actions).store.runs.find? key = some row →
      row.pagesProcessed =
          ((resolverSystem encoding actions).tokens key).dedup.length ∧
      (∀ page now, row.status.terminal = true ∨
          page.token ∈ (resolverSystem encoding actions).tokens key →
        (resolverSystem encoding actions).store.recordSlackResolverPage key page
            now =
          (.ok (row, none), (resolverSystem encoding actions).store)) ∧
      (row.status.terminal = true → ∀ later,
        (resolverSystem encoding (actions ++ later)).store.runs.find? key =
          some row) ∧
      (resolverSystem encoding actions).published.count key =
        if row.status.ended then 1 else 0 := by
  intro row found
  have accounted := resolverSystem_accounted encoding actions
  have counted := accounted.pages key row found
  refine ⟨counted.pagesProcessed, fun page now idle => ?_,
    fun terminal later => ?_, ?_⟩
  · refine record_refused found ?_ now
    rcases idle with terminal | recorded
    · rw [ResolverRun.refuses, terminal, Bool.true_or]
    · have consumed := (counted.2.2 page.token).mpr
        (ResolverSystem.mem_tokens_iff.mp recorded)
      rw [ResolverRun.refuses, List.contains_iff_mem.mpr consumed,
        Bool.or_true]
  · unfold resolverSystem
    rw [run_append]
    exact over_after encoding found terminal later
  · rw [accounted.published, found, Option.any_some]

def resolverEncoding : Encoding := ⟨⟨fun _ => "json"⟩, fun _ => "sha256"⟩

def pagingRequest : ResolverRequest where
  conversationId := "conversation"
  tenantId := "tenant"
  principalId := "principal"
  connectionId := "connection"
  entityKind := "channel"
  queryHash := "hash"
  requestedStateVersion := 1

def pagedActions : List ResolverAction := [
  .start pagingRequest "run" true 1,
  .recordPage ("run", "tenant") ⟨none, .str "next", 3, none⟩ 2,
  .recordPage ("run", "tenant") ⟨none, .str "next", 3, none⟩ 2,
  .recordPage ("run", "tenant") ⟨some "next", .none, 2, none⟩ 3,
  .complete ("run", "tenant") [("kind", .str "matched")] none "event" 4,
  .complete ("run", "tenant") [("kind", .str "failed")] none "other" 5]

theorem paged_run_counts_two_pages :
    ∃ row, (resolverSystem resolverEncoding pagedActions).store.runs.find?
        ("run", "tenant") = some row ∧
      row.pagesProcessed = 2 ∧
      (∀ later, (resolverSystem resolverEncoding
        (pagedActions ++ later)).store.runs.find? ("run", "tenant") =
          some row) ∧
      (resolverSystem resolverEncoding pagedActions).published.count
        ("run", "tenant") = 1 := by
  have runs := slack_resolver_runs resolverEncoding pagedActions
    ("run", "tenant") _ rfl
  exact ⟨_, rfl, runs.1, runs.2.2.1 rfl, runs.2.2.2⟩

def cancelledActions : List ResolverAction := [
  .start pagingRequest "run" true 1,
  .recordPage ("run", "tenant") ⟨none, .str "next", 3, none⟩ 2,
  .cancel ("run", "tenant"),
  .complete ("run", "tenant") [("kind", .str "matched")] none "event" 3]

theorem cancelled_run_appends_nothing :
    ((resolverSystem resolverEncoding cancelledActions).store.runs.find?
        ("run", "tenant")).map (fun row => (row.status, row.pagesProcessed)) =
      some (.cancelled, 1) ∧
    (resolverSystem resolverEncoding cancelledActions).published.count
      ("run", "tenant") = 0 :=
  ⟨rfl, rfl⟩

end AcpTask.Concierge
