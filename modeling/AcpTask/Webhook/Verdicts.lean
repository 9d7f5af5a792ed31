import AcpTask.Library.Register
import AcpTask.Webhook.Delivery

namespace AcpTask.Webhook

open Library

/-! Of the statuses reported for an effect the verdict is what a register makes
of them, in the order in which their events were recorded. -/

def statusRank (status : String) : Nat := (statusRanks.lookup status).getD 0

def isTerminal (status : String) : Bool := terminalStatuses.contains status

def replaces (current status : String) : Bool :=
  if isTerminal current then current == "delivered" && status == "read"
  else !decide (statusRank status < statusRank current)

def ProviderEvent.reports (event : ProviderEvent)
    (message : String × String) : Option String :=
  match event.effectId, event.status with
  | some effectId, some status =>
      if effectId = "" ∨ status = "" then none
      else if (event.tenantId, effectId) = message then some status else none
  | _, _ => none

def statusesFor (message : String × String) (events : List ProviderEvent) :
    List String :=
  events.filterMap fun event => event.reports message

variable {message : String × String} {events : List ProviderEvent}
  {status : String}

theorem mem_statusesFor :
    status ∈ statusesFor message events ↔
      ∃ event ∈ events, event.reports message = some status :=
  List.mem_filterMap

def recorded (store : EventStore) (event : ProviderEvent) : EventStore :=
  (record store event).2

def verdictStatus (store : EventStore) (message : String × String) :
    Option String :=
  (store.verdicts.find? message).map EffectVerdict.status

def EffectVerdict.Ranked (row : EffectVerdict) : Prop :=
  row.rank = statusRank row.status ∧ row.terminal = isTerminal row.status

def Ranked (store : EventStore) : Prop := ∀ row ∈ store.verdicts, row.Ranked

theorem find?_upsertVerdict (verdicts : Table EffectVerdict EffectVerdict.key)
    (row : EffectVerdict) (message : String × String) :
    (upsertVerdict verdicts row).find? message =
      if row.key = message then some row else verdicts.find? message := by
  unfold upsertVerdict
  cases inserted : verdicts.insert? row with
  | some => exact Table.find?_of_insert? inserted message
  | none =>
      have present := Table.insert?_eq_none_iff.mp inserted
      dsimp only
      rw [Table.find?_updateWhere]
      by_cases same : row.key = message
      · rw [if_pos same, ← same]
        obtain ⟨old, found⟩ := Option.ne_none_iff_exists'.mp present
        have sameKey := (Table.find?_eq_some_iff.mp found).2
        have names := Prod.ext_iff.mp sameKey
        rw [found, Option.map_some, if_pos (decide_eq_true sameKey)]
        simp only at names
        rw [names.1, names.2]
      · rw [if_neg same]
        cases found : verdicts.find? message with
        | none => rfl
        | some old =>
            have sameKey := (Table.find?_eq_some_iff.mp found).2
            have differ : ¬ old.key = row.key := fun equal =>
              same (equal.symm.trans sameKey)
            rw [Option.map_some, if_neg (by simpa using differ)]

def ProviderEvent.verdict (event : ProviderEvent) (message : String × String)
    (status : String) : EffectVerdict where
  tenantId := message.1
  effectId := message.2
  providerId := event.providerId
  status := status
  rank := statusRank status
  terminal := isTerminal status
  updatedAt := event.receivedAt

variable {store : EventStore} {event : ProviderEvent}

theorem recorded_of_seen (seen : (record store event).1 = false) :
    recorded store event = store := by
  unfold recorded record at *
  split
  · rfl
  · rename_i events inserted
    rw [inserted] at seen
    cases seen

theorem find?_recorded_silent (silent : event.reports message = none) :
    (recorded store event).verdicts.find? message =
      store.verdicts.find? message := by
  unfold recorded record
  split
  · rfl
  · dsimp only
    unfold ProviderEvent.reports at silent
    split
    · rename_i effectId status effect reported
      rw [effect, reported] at silent
      dsimp only at silent
      split
      · rfl
      · rename_i named
        rw [if_neg named] at silent
        have other : ¬ (event.tenantId, effectId) = message := fun same => by
          rw [if_pos same] at silent
          cases silent
        unfold advanceVerdict
        dsimp only
        split
        · rw [find?_upsertVerdict, if_neg other]
        · rfl
    · rfl

theorem find?_recorded_reports (new : (record store event).1 = true)
    (reports : event.reports message = some status) :
    (recorded store event).verdicts.find? message =
      if advances (store.verdicts.find? message) status (statusRank status) =
          true
      then some (event.verdict message status)
      else store.verdicts.find? message := by
  unfold recorded record at *
  split
  · rename_i refused
    rw [refused] at new
    cases new
  · dsimp only
    unfold ProviderEvent.reports at reports
    cases effect : event.effectId with
    | none =>
        rw [effect] at reports
        cases reports
    | some effectId =>
        cases reported : event.status with
        | none =>
            rw [effect, reported] at reports
            cases reports
        | some value =>
            rw [effect, reported] at reports
            dsimp only at reports ⊢
            split at reports
            · cases reports
            · rename_i named
              split at reports
              · rename_i same
                cases reports
                subst same
                rw [if_neg named]
                unfold advanceVerdict
                dsimp only
                split
                · rename_i taken
                  rw [find?_upsertVerdict, if_pos rfl]
                  exact (if_pos taken).symm
                · rename_i kept
                  exact (if_neg kept).symm
              · cases reports

theorem ranked_empty : Ranked EventStore.empty := by
  intro row member
  cases member

theorem ranked_recorded (ranked : Ranked store) (event : ProviderEvent) :
    Ranked (recorded store event) := by
  intro row member
  have found := Table.find?_eq_some_iff.mpr ⟨member, rfl⟩
  have before : ∀ old, store.verdicts.find? row.key = some old → old.Ranked :=
    fun old found => ranked old (Table.find?_eq_some_iff.mp found).1
  cases new : (record store event).1 with
  | false =>
      rw [recorded_of_seen new] at found
      exact before row found
  | true =>
      cases reports : event.reports row.key with
      | none =>
          rw [find?_recorded_silent reports] at found
          exact before row found
      | some =>
          rw [find?_recorded_reports new reports] at found
          split at found
          · rw [← Option.some.inj found]
            exact ⟨rfl, rfl⟩
          · exact before row found

theorem advances_of_ranked {current : EffectVerdict} (ranked : current.Ranked)
    (status : String) :
    advances (some current) status (statusRank status) =
      replaces current.status status := by
  simp only [advances, replaces, ranked.1, ranked.2]

theorem verdict_recorded (ranked : Ranked store) (event : ProviderEvent)
    {verdict : EffectVerdict}
    (found : store.verdicts.find? message = some verdict) :
    (recorded store event).verdicts.find? message = some verdict ∨
    ∃ status, event.reports message = some status ∧
      replaces verdict.status status = true ∧
      (recorded store event).verdicts.find? message =
        some (event.verdict message status) := by
  cases new : (record store event).1 with
  | false =>
      rw [recorded_of_seen new]
      exact .inl found
  | true =>
      cases reports : event.reports message with
      | none =>
          rw [find?_recorded_silent reports]
          exact .inl found
      | some status =>
          have isRanked := ranked verdict (Table.find?_eq_some_iff.mp found).1
          rw [find?_recorded_reports new reports, found,
            advances_of_ranked isRanked]
          split
          · rename_i taken
            exact .inr ⟨status, rfl, taken, rfl⟩
          · exact .inl rfl

theorem verdictStatus_recorded (ranked : Ranked store)
    (new : (record store event).1 = true) (message : String × String) :
    verdictStatus (recorded store event) message =
      settle replaces (verdictStatus store message)
        (event.reports message).toList := by
  unfold verdictStatus
  cases reports : event.reports message with
  | none =>
      rw [find?_recorded_silent reports]
      rfl
  | some =>
      rw [find?_recorded_reports new reports]
      cases found : store.verdicts.find? message with
      | none => rfl
      | some current =>
          have isRanked := ranked current (Table.find?_eq_some_iff.mp found).1
          rw [advances_of_ranked isRanked]
          simp only [Option.map_some, Option.toList_some, settle_cons,
            settle_nil, takeReport]
          split <;> rfl

theorem statusRank_of_terminal (terminal : isTerminal status = true) :
    100 ≤ statusRank status := by
  have all : ∀ status ∈ terminalStatuses, 100 ≤ statusRank status := by
    decide
  exact all status (List.contains_iff_mem.mp terminal)

theorem statusRank_of_not_terminal (plain : isTerminal status = false) :
    statusRank status ≤ 40 := by
  unfold statusRank
  cases found : statusRanks.lookup status with
  | none => exact Nat.zero_le 40
  | some rank =>
      have entry : (status, rank) ∈ statusRanks := by
        obtain ⟨before, _, split, -⟩ := List.lookup_eq_some_iff.mp found
        rw [split]
        exact List.mem_append_right before List.mem_cons_self
      have all : ∀ entry ∈ statusRanks,
          isTerminal entry.1 = false → entry.2 ≤ 40 := by decide
      exact all (status, rank) entry plain

def OneOutcome (statuses : List String) : Prop :=
  ∃ outcome ∈ statuses, isTerminal outcome = true ∧
    ∀ status ∈ statuses, isTerminal status = true →
      status = outcome ∨ (status = "delivered" ∧ outcome = "read")

instance (statuses : List String) : Decidable (OneOutcome statuses) :=
  inferInstanceAs (Decidable (∃ outcome ∈ statuses, _))

def OneLeading (statuses : List String) : Prop :=
  ∃ leading ∈ statuses, ∀ status ∈ statuses, isTerminal status = false ∧
    (status ≠ leading → statusRank status < statusRank leading)

theorem outdoes_iff (top status : String) :
    Outdoes replaces top status ↔
      if isTerminal status then
        status = "delivered" ∧ top = "read"
      else isTerminal top = true ∨ statusRank status < statusRank top := by
  unfold Outdoes replaces
  cases terminal : isTerminal status with
  | true =>
      simp only [if_true, Bool.and_eq_true, beq_iff_eq]
      constructor
      · exact And.left
      · rintro ⟨rfl, rfl⟩
        exact ⟨⟨rfl, rfl⟩, by decide⟩
  | false =>
      simp only [Bool.false_eq_true, if_false, Bool.not_eq_true',
        decide_eq_false_iff_not, Nat.not_lt]
      have low := statusRank_of_not_terminal terminal
      cases topTerminal : isTerminal top with
      | true =>
          have high := statusRank_of_terminal topTerminal
          have unread : (status == "read") = false := by
            rw [beq_eq_false_iff_ne]
            rintro rfl
            cases terminal
          simp only [if_true, unread, Bool.and_false, true_or, iff_true]
          exact ⟨by omega, trivial⟩
      | false =>
          simp only [Bool.false_eq_true, if_false, Bool.not_eq_false',
            decide_eq_true_iff, false_or]
          omega

theorem outdone_iff (statuses : List String) :
    (∃ top ∈ statuses, ∀ status ∈ statuses, status ≠ top →
        Outdoes replaces top status) ↔
      OneOutcome statuses ∨ OneLeading statuses := by
  simp only [outdoes_iff]
  constructor
  · rintro ⟨top, member, outdoes⟩
    cases terminal : isTerminal top with
    | true =>
        refine .inl ⟨top, member, terminal, fun status inside final => ?_⟩
        by_cases same : status = top
        · exact .inl same
        · have outdone := outdoes status inside same
          rw [if_pos final] at outdone
          exact .inr outdone
    | false =>
        have plain : ∀ status ∈ statuses, isTerminal status = false := by
          intro status inside
          by_contra final
          rw [Bool.not_eq_false] at final
          have differ : status ≠ top := by
            rintro rfl
            rw [terminal] at final
            cases final
          have outdone := outdoes status inside differ
          rw [if_pos final] at outdone
          rw [outdone.2] at terminal
          cases terminal
        refine .inr ⟨top, member, fun status inside =>
          ⟨plain status inside, fun differ => ?_⟩⟩
        have outdone := outdoes status inside differ
        rw [plain status inside, terminal] at outdone
        simpa using outdone
  · rintro (⟨top, member, terminal, only⟩ | ⟨top, member, leads⟩)
    · refine ⟨top, member, fun status inside differ => ?_⟩
      split
      · rename_i final
        exact (only status inside final).resolve_left differ
      · exact .inl terminal
    · refine ⟨top, member, fun status inside differ => ?_⟩
      obtain ⟨plain, above⟩ := leads status inside
      rw [if_neg (by simp [plain])]
      exact .inr (above differ)

theorem statusRank_le_of_replaces {current : String}
    (replaced : replaces current status = true) :
    statusRank current ≤ statusRank status := by
  unfold replaces at replaced
  split at replaced
  · simp only [Bool.and_eq_true, beq_iff_eq] at replaced
    rw [replaced.1, replaced.2]
    decide
  · simpa using replaced

def recordAll (events : List ProviderEvent) : EventStore :=
  run recorded EventStore.empty events

theorem ranked_recordAll (events : List ProviderEvent) :
    Ranked (recordAll events) :=
  run_invariant recorded Ranked (fun _ event ranked =>
    ranked_recorded ranked event) ranked_empty events

def reported (message : String × String) :
    EventStore → List ProviderEvent → List String
  | _, [] => []
  | store, event :: rest =>
      (if (record store event).1 then (event.reports message).toList
        else []) ++ reported message (recorded store event) rest

theorem verdictStatus_run (ranked : Ranked store) (events : List ProviderEvent)
    (message : String × String) :
    verdictStatus (run recorded store events) message =
      settle replaces (verdictStatus store message)
        (reported message store events) := by
  induction events generalizing store with
  | nil => rfl
  | cons event _ induction =>
      rw [run_cons, induction (ranked_recorded ranked event)]
      simp only [reported, settle_append]
      cases new : (record store event).1 with
      | false => rw [recorded_of_seen new]; rfl
      | true => rw [if_pos rfl, ← verdictStatus_recorded ranked new]

theorem verdictStatus_recordAll (events : List ProviderEvent)
    (message : String × String) :
    verdictStatus (recordAll events) message =
      settle replaces none (reported message EventStore.empty events) :=
  verdictStatus_run ranked_empty events message

theorem mem_keys_run {key : String × String}
    (seen : (∃ row ∈ store.events, row.key = key) ∨
      ∃ event ∈ events, event.key = key) :
    ∃ row ∈ (run recorded store events).events, row.key = key := by
  induction events generalizing store with
  | nil =>
      rcases seen with stored | ⟨_, member, -⟩
      · exact stored
      · cases member
  | cons _ _ induction =>
      rw [run_cons]
      refine induction ?_
      rcases seen with stored | ⟨other, member, sameKey⟩
      · exact .inl (mem_keys_record.mpr (.inl stored))
      · rcases List.mem_cons.mp member with rfl | later
        · exact .inl (mem_keys_record.mpr (.inr sameKey))
        · exact .inr ⟨other, later, sameKey⟩

theorem key_recordAll (member : event ∈ events) :
    ∃ row ∈ (recordAll events).events, row.key = event.key :=
  mem_keys_run (.inr ⟨event, member, rfl⟩)

def Keyed (events : List ProviderEvent) : Prop :=
  ∀ first ∈ events, ∀ second ∈ events, first.key = second.key →
    first.effectId = second.effectId ∧ first.status = second.status

instance (events : List ProviderEvent) : Decidable (Keyed events) :=
  inferInstanceAs (Decidable (∀ first ∈ events, _))

theorem Keyed.reports (keyed : Keyed events) {first second : ProviderEvent}
    (firstMember : first ∈ events) (secondMember : second ∈ events)
    (same : first.key = second.key) (message : String × String) :
    first.reports message = second.reports message := by
  obtain ⟨effect, status⟩ := keyed first firstMember second secondMember same
  have tenant : first.tenantId = second.tenantId := congrArg Prod.fst same
  unfold ProviderEvent.reports
  rw [effect, status, tenant]

theorem mem_of_reported (member : status ∈ reported message store events) :
    status ∈ statusesFor message events := by
  induction events generalizing store with
  | nil => cases member
  | cons event _ induction =>
      rw [mem_statusesFor]
      simp only [reported] at member
      rcases List.mem_append.mp member with here | later
      · split at here
        · exact ⟨event, List.mem_cons_self, Option.mem_toList.mp here⟩
        · cases here
      · obtain ⟨source, inside, reports⟩ := mem_statusesFor.mp (induction later)
        exact ⟨source, List.mem_cons_of_mem event inside, reports⟩

theorem reported_of_mem (keyed : Keyed events) (member : event ∈ events)
    (unseen : ∀ row ∈ store.events, row.key ≠ event.key)
    (reports : event.reports message = some status) :
    status ∈ reported message store events := by
  induction events generalizing store with
  | nil => cases member
  | cons head rest induction =>
      simp only [reported]
      rw [List.mem_append]
      by_cases same : head.key = event.key
      · have new : (record store head).1 = true :=
          record_new_iff.mpr fun row inside => same ▸ unseen row inside
        left
        rw [if_pos new,
          keyed.reports List.mem_cons_self member same message, reports]
        exact List.mem_singleton_self status
      · right
        have inside : event ∈ rest := by
          rcases List.mem_cons.mp member with rfl | later
          · exact absurd rfl same
          · exact later
        refine induction (fun first firstMember second secondMember =>
            keyed first (List.mem_cons_of_mem head firstMember) second
              (List.mem_cons_of_mem head secondMember)) inside ?_
        intro row stored sameKey
        rcases mem_keys_record.mp ⟨row, stored, sameKey⟩ with
          ⟨old, oldMember, oldKey⟩ | headKey
        · exact unseen old oldMember oldKey
        · exact same headKey

theorem mem_reported_iff (keyed : Keyed events) :
    status ∈ reported message EventStore.empty events ↔
      status ∈ statusesFor message events := by
  constructor
  · exact mem_of_reported
  · intro member
    obtain ⟨_, inside, reports⟩ := mem_statusesFor.mp member
    refine reported_of_mem keyed inside ?_ reports
    intro row stored
    cases stored

theorem reported_of_distinct (distinct : (events.map ProviderEvent.key).Nodup)
    (unseen : ∀ event ∈ events, ∀ row ∈ store.events, row.key ≠ event.key) :
    reported message store events = statusesFor message events := by
  induction events generalizing store with
  | nil => rfl
  | cons event _ induction =>
      rw [List.map_cons, List.nodup_cons] at distinct
      have new := record_new_iff.mpr (unseen event List.mem_cons_self)
      simp only [reported, if_pos new]
      rw [induction distinct.2]
      · cases reports : event.reports message with
        | none => simp only [statusesFor, List.filterMap_cons, reports,
            Option.toList_none, List.nil_append]
        | some => simp only [statusesFor, List.filterMap_cons, reports,
            Option.toList_some, List.singleton_append]
      · intro later inside row stored sameKey
        rcases mem_keys_record.mp ⟨row, stored, sameKey⟩ with
          ⟨old, oldMember, oldKey⟩ | headKey
        · exact unseen later (List.mem_cons_of_mem event inside) old oldMember
            oldKey
        · exact distinct.1 (headKey ▸ List.mem_map_of_mem inside)

theorem verdictStatus_of_outdoes (keyed : Keyed events) {top : String}
    (member : top ∈ statusesFor message events)
    (outdoes : ∀ status ∈ statusesFor message events, status ≠ top → Outdoes replaces top status) :
    verdictStatus (recordAll events) message = some top := by
  rw [verdictStatus_recordAll]
  exact settle_of_outdoes ((mem_reported_iff keyed).mpr member)
    fun status inside => outdoes status ((mem_reported_iff keyed).mp inside)

theorem verdictStatus_same_set {first second : List ProviderEvent}
    (keyed : Keyed first) (same : ∀ event, event ∈ first ↔ event ∈ second)
    (decided : OneOutcome (statusesFor message first) ∨
      OneLeading (statusesFor message first)) :
    verdictStatus (recordAll first) message =
      verdictStatus (recordAll second) message := by
  have keyedToo : Keyed second := fun one oneMember other otherMember =>
    keyed one ((same one).mpr oneMember) other ((same other).mpr otherMember)
  have statuses : ∀ status,
      status ∈ (statusesFor message first) ↔
        status ∈ statusesFor message second := by
    intro status
    simp only [mem_statusesFor, same]
  obtain ⟨top, member, outdoes⟩ := (outdone_iff _).mpr decided
  rw [verdictStatus_of_outdoes keyed member outdoes]
  exact (verdictStatus_of_outdoes keyedToo ((statuses top).mp member)
    fun status inside => outdoes status ((statuses status).mpr inside)).symm

theorem verdictStatus_perm_iff (distinct : (events.map ProviderEvent.key).Nodup)
    (message : String × String) :
    (∀ other : List ProviderEvent, other.Perm events →
        verdictStatus (recordAll other) message =
          verdictStatus (recordAll events) message) ↔
      (statusesFor message events) = [] ∨
      OneOutcome (statusesFor message events) ∨
      OneLeading (statusesFor message events) := by
  have statuses : ∀ other : List ProviderEvent, other.Perm events →
      verdictStatus (recordAll other) message = settle replaces none
        (statusesFor message other) := by
    intro other permuted
    rw [verdictStatus_recordAll, reported_of_distinct
      ((permuted.map ProviderEvent.key).nodup_iff.mpr distinct)]
    intro event _ row stored
    cases stored
  have decided := @settle_perm_iff _ replaces _ _
    (fun event : ProviderEvent => event.reports message) events
  rw [← outdone_iff]
  refine Iff.trans ?_ decided
  constructor
  · intro same other permuted
    exact (statuses other permuted).symm.trans
      ((same other permuted).trans (statuses events (.refl events)))
  · intro same other permuted
    rw [statuses other permuted, statuses events (.refl events)]
    exact same other permuted

/-- Provider statuses converge: a rank never falls, a terminal verdict stays or
passes from delivered to read, a key counts once, and one outcome is reached in
every order. -/
theorem verdicts_converge (events : List ProviderEvent)
    (message : String × String) :
    (∀ (event : ProviderEvent) (verdict : EffectVerdict),
      (recordAll events).verdicts.find? message = some verdict →
      ∃ later, (recordAll (events ++ [event])).verdicts.find? message =
          some later ∧
        verdict.rank ≤ later.rank ∧
        (verdict.terminal = true → later = verdict ∨
          (verdict.status = "delivered" ∧ later.status = "read"))) ∧
    (∀ event : ProviderEvent, (∃ earlier ∈ events, earlier.key = event.key) →
      recordAll (events ++ [event]) = recordAll events) ∧
    (Keyed events → OneOutcome (statusesFor message events) →
      ∀ other : List ProviderEvent,
        (∀ event, event ∈ other ↔ event ∈ events) →
        verdictStatus (recordAll other) message =
          verdictStatus (recordAll events) message) ∧
    ((events.map ProviderEvent.key).Nodup →
      ((∀ other : List ProviderEvent, other.Perm events →
          verdictStatus (recordAll other) message =
            verdictStatus (recordAll events) message) ↔
        statusesFor message events = [] ∨
        OneOutcome (statusesFor message events) ∨
        OneLeading (statusesFor message events))) := by
  have appended : ∀ event, recordAll (events ++ [event]) =
      recorded (recordAll events) event := fun event => by
    rw [recordAll, run_append]
    rfl
  refine ⟨fun event verdict found => ?_, fun event seen => ?_,
    fun keyed outcome other same => ?_,
    fun distinct => verdictStatus_perm_iff distinct message⟩
  · have isRanked := ranked_recordAll events verdict
      (Table.find?_eq_some_iff.mp found).1
    rw [appended]
    rcases verdict_recorded (ranked_recordAll events) event found with
      kept | ⟨status, -, replaced, later⟩
    · exact ⟨verdict, kept, le_rfl, fun _ => .inl rfl⟩
    · refine ⟨_, later, ?_, fun terminal => .inr ?_⟩
      · rw [isRanked.1]
        exact statusRank_le_of_replaces replaced
      · rw [isRanked.2] at terminal
        rw [replaces, if_pos terminal] at replaced
        simp only [Bool.and_eq_true, beq_iff_eq] at replaced
        exact replaced
  · rw [appended]
    exact recorded_of_seen (Bool.eq_false_iff.mpr fun new => by
      obtain ⟨_, inside, sameKey⟩ := seen
      obtain ⟨row, stored, rowKey⟩ := key_recordAll inside
      exact record_new_iff.mp new row stored (rowKey.trans sameKey))
  · exact (verdictStatus_same_set keyed (fun event => (same event).symm)
      (.inl outcome)).symm

def statusEvent (status : String) : ProviderEvent where
  tenantId := "tenant"
  eventKey := status
  effectId := some "effect"
  providerId := some "message"
  identityAddress := "+15550100"
  eventType := .status
  status := some status
  payload := []
  receivedAt := 100

theorem verdicts_converge_delivered :
    verdictStatus (recordAll [statusEvent "read", statusEvent "sent",
        statusEvent "delivered", statusEvent "sent"]) ("tenant", "effect") =
      verdictStatus (recordAll [statusEvent "delivered", statusEvent "sent",
        statusEvent "read"]) ("tenant", "effect") := by
  refine (verdicts_converge [statusEvent "delivered", statusEvent "sent",
    statusEvent "read"] ("tenant", "effect")).2.2.1 (by decide +kernel)
    (by decide +kernel) _ fun event => ?_
  simp only [List.mem_cons, List.not_mem_nil, or_false]
  tauto

/-- Two reports of the one outcome `failed`; each order keeps the first. -/
theorem failed_outcomes_diverge :
    [statusEvent "failed", statusEvent "undelivered"].Perm
      [statusEvent "undelivered", statusEvent "failed"] ∧
    verificationOf "undelivered" = .failed ∧
    verificationOf "failed" = .failed ∧
    verdictStatus
        (recordAll [statusEvent "undelivered", statusEvent "failed"])
      ("tenant", "effect") = some "undelivered" ∧
    verdictStatus
        (recordAll [statusEvent "failed", statusEvent "undelivered"])
      ("tenant", "effect") = some "failed" := by
  refine ⟨List.Perm.swap _ _ [], ?_⟩
  decide +kernel

end AcpTask.Webhook
