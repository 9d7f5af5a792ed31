import AcpTask.Concierge.Versions

namespace AcpTask.Concierge

open Library Outbox

/-- The next statement is an `UPDATE` that leaves the version alone and finds a
row to change: an answer that is recorded, a live conversation that is closed,
or one that expires on being read.  Where the row already has the state and the
status that the `UPDATE` assigns, nothing changes. -/
def Unversioned (system : ConciergeSystem) : ConciergeAction → Prop
  | .advance process _ =>
      match system.processes process with
      | .expiring _ _ => ¬ (system.store.row.status = .expired ∧
          system.store.row.state = fun _ => none)
      | .recording answered _ =>
          system.store.answers.find? answered.answer.idempotencyKey = none ∧
            ¬ (system.store.row.status = .interpreting ∧
              system.store.row.state = answered.state)
      | .closing _ _ => system.store.row.status.terminal = false
      | _ => False
  | _ => False

def ConciergeAction.ticket? (system : ConciergeSystem) :
    ConciergeAction → Option Ticket
  | .advance process _ => (system.processes process).ticket?
  | _ => none

/-- How many writes the acting process has read: a call that holds no ticket
reads the row in the transaction that writes it. -/
def ConciergeAction.seen (system : ConciergeSystem) (action : ConciergeAction) :
    Nat :=
  match action.ticket? system with
  | some ticket => ticket.seen
  | none => system.writes

/-- The version increases whenever the stored state or status changes, and what
a write replaces was read by the one who writes. -/
def NoLostUpdate (encoding : Encoding) (system : ConciergeSystem)
    (action : ConciergeAction) : Prop :=
  let later := (conciergeStep encoding system action).store.row
  (¬ SameContent system.store.row later →
    system.store.row.stateVersion < later.stateVersion) ∧
  (Rewritten system.store.row later → action.seen system = system.writes)

instance (encoding : Encoding) (system : ConciergeSystem)
    (action : ConciergeAction) :
    Decidable (NoLostUpdate encoding system action) :=
  inferInstanceAs (Decidable (_ ∧ _))

section Rows

variable {row later : Conversation}

theorem SameContent.refl (row : Conversation) : SameContent row row :=
  ⟨rfl, rfl⟩

@[simp] theorem not_rewritten_self (row : Conversation) :
    ¬ Rewritten row row := by
  simp [Rewritten, SameContent]

theorem compareAndSwap_ok {version : Int} {revised : Revised}
    (swapped : compareAndSwap row version revised = .ok later) :
    (row.stateVersion : Int) = version ∧
      later.stateVersion = row.stateVersion + 1 := by
  unfold compareAndSwap at swapped
  split at swapped
  · rename_i level
    cases swapped
    exact ⟨level, rfl⟩
  · cases swapped

theorem commitConversationTurn_row (encoding : Encoding)
    (store : ConversationStore) (commit : TurnCommit) (eventId : String) :
    (commitConversationTurn encoding store commit eventId).2.row = store.row ∨
      (commitConversationTurn encoding store commit
        eventId).2.row.stateVersion = store.row.stateVersion + 1 := by
  unfold commitConversationTurn
  split
  · exact .inl rfl
  split
  · exact .inl rfl
  split
  · exact .inl rfl
  split
  · exact .inl rfl
  split
  · exact .inl rfl
  refine transaction_preserves
    (motive := fun later : ConversationStore => later.row = store.row ∨
      later.row.stateVersion = store.row.stateVersion + 1) (.inl rfl) ?_
  intro value later committed
  simp only [bind_eq_ok, require_eq_ok] at committed
  obtain ⟨_, _, _, _, _, swapped, _, _, appended⟩ := committed
  split at appended
  · cases appended
  · cases appended
    exact .inr (compareAndSwap_ok swapped).2

end Rows

section Steps

variable {encoding : Encoding} {system later : ConciergeSystem}

@[simp] theorem write_row (system : ConciergeSystem)
    (store : ConversationStore) : (system.write store).store = store := rfl

@[simp] theorem write_processes (system : ConciergeSystem)
    (store : ConversationStore) :
    (system.write store).processes = system.processes := rfl

@[simp] theorem move_store (system : ConciergeSystem) (process : Nat)
    (phase : ConciergePhase) : (system.move process phase).store =
      system.store := rfl

@[simp] theorem move_writes (system : ConciergeSystem) (process : Nat)
    (phase : ConciergePhase) : (system.move process phase).writes =
      system.writes := rfl

/-- No statement that writes: the tickets are old ones, or what the row has
now. -/
structure Quiet (system later : ConciergeSystem) : Prop where
  row : later.store.row = system.store.row
  writes : later.writes = system.writes
  tickets : ∀ process ticket,
    (later.processes process).ticket? = some ticket →
      (system.processes process).ticket? = some ticket ∨ ticket = system.ticket

theorem Quiet.refl (system : ConciergeSystem) : Quiet system system :=
  ⟨rfl, rfl, fun _ _ held => .inl held⟩

theorem Quiet.move {process : Nat} {phase : ConciergePhase}
    (held : ∀ ticket, phase.ticket? = some ticket →
      (system.processes process).ticket? = some ticket ∨
        ticket = system.ticket) :
    Quiet system (system.move process phase) where
  row := rfl
  writes := rfl
  tickets := by
    intro other ticket holds
    by_cases same : other = process
    · subst same
      exact held ticket (by simpa [ConciergeSystem.move] using holds)
    · exact .inl (by simpa [ConciergeSystem.move, same] using holds)

theorem Quiet.free {process : Nat} {phase : ConciergePhase}
    (none : phase.ticket? = none) :
    Quiet system (system.move process phase) :=
  .move fun ticket held => by simp [none] at held

/-- How the row after a statement that writes compares to the one before: a
guarded `UPDATE` found the version it had read, any other leaves the version. -/
inductive Wrote (system : ConciergeSystem) (action : ConciergeAction)
    (row : Conversation) : Prop where
  | swapped
      (level : ∀ ticket, action.ticket? system = some ticket →
        ticket.version = system.store.row.stateVersion)
      (moved : row.stateVersion = system.store.row.stateVersion + 1)
      (guarded : ¬ Unversioned system action)
  | left
      (version : row.stateVersion = system.store.row.stateVersion)
      (shows : Unversioned system action ↔ ¬ SameContent system.store.row row)

theorem resume_ticket? {current : Option Conversation} {ticket other : Ticket}
    {reading : Reading}
    (held : (reading.resume current ticket).ticket? = some other) :
    other = ticket := by
  cases reading with
  | update changes now ttlSeconds expectedVersion =>
      unfold Reading.resume at held
      cases prepared : updatePrepared current changes now ttlSeconds
          expectedVersion with
      | error => simp [prepared, ConciergePhase.ticket?] at held
      | ok =>
          simp only [prepared, ConciergePhase.ticket?, Option.some.injEq]
            at held
          exact held.symm
  | answer | close => exact (Option.some.inj held).symm
  | result => cases held

theorem conciergeAdvance_cases (encoding : Encoding) (system : ConciergeSystem)
    (process : Nat) (eventId : String) :
    (Quiet system (conciergeAdvance encoding system process eventId) ∧
      ¬ Unversioned system (.advance process eventId)) ∨
    ∃ store phase, conciergeAdvance encoding system process eventId =
        (system.write store).move process phase ∧
      phase.ticket? = none ∧
      Wrote system (.advance process eventId) store.row := by
  unfold conciergeAdvance
  cases phase : system.processes process with
  | idle => exact .inl ⟨.refl system, by simp [Unversioned, phase]⟩
  | reading =>
      refine .inl ⟨.move fun ticket held => .inr ?_, by
        simp [Unversioned, phase]⟩
      split at held
      · exact (Option.some.inj held).symm
      · exact resume_ticket? held
  | rereading =>
      exact .inl ⟨.move fun ticket held => .inr (resume_ticket? held), by
        simp [Unversioned, phase]⟩
  | answering =>
      refine .inl ⟨.move fun other held => .inl ?_, by
        simp [Unversioned, phase]⟩
      rw [phase]
      split at held
      · exact held
      · cases held
  | expiring =>
      refine .inr ⟨_, _, rfl, rfl, .left rfl ?_⟩
      simp [Unversioned, phase, SameContent, Conversation.expire]
  | closing =>
      refine .inr ⟨_, _, rfl, rfl, ?_⟩
      cases terminal : system.store.row.status.terminal with
      | true =>
          refine .left (by simp [closeUpdate, terminal]) ?_
          simp [Unversioned, phase, SameContent, closeUpdate, terminal]
      | false =>
          refine .left (by simp [closeUpdate, terminal, Conversation.close]) ?_
          have live : system.store.row.status ≠ .closed := by
            rintro closed
            simp [closed, ConversationStatus.terminal] at terminal
          simp [Unversioned, phase, SameContent, closeUpdate, terminal,
            Conversation.close, live]
  | recording answered =>
      refine .inr ⟨_, _, rfl, ?_, ?_⟩
      · split <;> rfl
      · unfold answerTransaction
        cases inserted : system.store.answers.insert? answered.answer with
        | none =>
            refine .left rfl ?_
            have taken := Table.insert?_eq_none_iff.mp inserted
            simp [Unversioned, phase, SameContent, taken]
        | some =>
            have absent := (Table.insert?_eq_some_iff.mp inserted).1
            refine .left rfl ?_
            simp [Unversioned, phase, SameContent, absent, Answered.assign]
  | swapping revised now ticket =>
      simp only
      cases swap : compareAndSwap system.store.row ticket.version revised with
      | error => exact .inl ⟨.free rfl, by simp [Unversioned, phase]⟩
      | ok row =>
          obtain ⟨_, moved⟩ := compareAndSwap_ok swap
          refine .inr ⟨{ system.store with row }, .reading (.result now), rfl,
            rfl, .swapped ?_ moved (by simp [Unversioned, phase])⟩
          intro other held
          simp only [ConciergeAction.ticket?, phase, ConciergePhase.ticket?,
            Option.some.injEq] at held
          subst held
          omega
  | committing commit =>
      refine .inr ⟨_, _, rfl, ?_, ?_⟩
      · split <;> rfl
      · rcases commitConversationTurn_row encoding system.store commit
            eventId with same | moved
        · refine .left (by rw [same]) ?_
          simp [Unversioned, phase, SameContent, same]
        · refine .swapped ?_ moved (by simp [Unversioned, phase])
          intro ticket held
          simp [ConciergeAction.ticket?, phase, ConciergePhase.ticket?] at held

theorem reserveTurn_row (store : ConversationStore) (turn : Turn) :
    (reserveTurn store turn).row = store.row := by
  unfold reserveTurn
  split
  · rfl
  · split <;> rfl

theorem conciergeStep_cases (encoding : Encoding) (system : ConciergeSystem)
    (action : ConciergeAction) :
    (Quiet system (conciergeStep encoding system action) ∧
      ¬ Unversioned system action) ∨
    ∃ process store phase, conciergeStep encoding system action =
        (system.write store).move process phase ∧
      phase.ticket? = none ∧ Wrote system action store.row := by
  cases action with
  | begin =>
      refine .inl ⟨?_, id⟩
      simp only [conciergeStep]
      split
      · split
        · exact .free rfl
        · exact .refl system
      · exact .refl system
  | beginCommit =>
      refine .inl ⟨?_, id⟩
      simp only [conciergeStep]
      split
      · exact .free rfl
      · exact .refl system
  | reserve turn =>
      exact .inl ⟨⟨reserveTurn_row system.store turn, rfl,
        fun _ _ held => .inl held⟩, id⟩
  | crash => exact .inl ⟨.free rfl, id⟩
  | advance process eventId =>
      rcases conciergeAdvance_cases encoding system process eventId with
        quiet | ⟨store, phase, equation, wrote⟩
      · exact .inl quiet
      · exact .inr ⟨process, store, phase, equation, wrote⟩

/-- Every ticket in hand is fresh: what was read is either outdated or all there
is. -/
def Current (system : ConciergeSystem) : Prop :=
  ∀ process ticket, (system.processes process).ticket? = some ticket →
    ticket.Fresh system.store.row.stateVersion system.writes

theorem Current.initial (store : ConversationStore) :
    Current (.initial store) := by
  intro process ticket held
  cases held

theorem Current.quiet (current : Current system)
    (quiet : Quiet system later) : Current later := by
  intro process ticket held
  rw [quiet.row, quiet.writes]
  rcases quiet.tickets process ticket held with old | rfl
  · exact current process ticket old
  · exact .read _ _

theorem held_of_write {process other : Nat} {store : ConversationStore}
    {phase : ConciergePhase} {ticket : Ticket} (none : phase.ticket? = none)
    (held : (((system.write store).move process phase).processes
      other).ticket? = some ticket) :
    (system.processes other).ticket? = some ticket := by
  by_cases same : other = process
  · subst same
    simp [ConciergeSystem.move, none] at held
  · simpa [ConciergeSystem.move, same] using held

theorem Current.step (current : Current system) {action : ConciergeAction}
    (versioned : ¬ Unversioned system action) :
    Current (conciergeStep encoding system action) := by
  rcases conciergeStep_cases encoding system action with
    ⟨quiet, _⟩ | ⟨process, store, phase, equation, none, wrote⟩
  · exact current.quiet quiet
  rw [equation]
  intro other ticket held
  have fresh := current other ticket (held_of_write none held)
  cases wrote with
  | swapped _ moved _ => exact fresh.written (by simp [moved]) _
  | left version shows =>
      have same : SameContent system.store.row store.row :=
        not_not.mp (mt shows.mpr versioned)
      have unwritten : ¬ Rewritten system.store.row store.row := by
        simp [Rewritten, same, version]
      simpa [ConciergeSystem.write, unwritten, version] using fresh

theorem seen_eq {action : ConciergeAction} (current : Current system)
    (level : ∀ ticket, action.ticket? system = some ticket →
      ticket.version = system.store.row.stateVersion) :
    action.seen system = system.writes := by
  unfold ConciergeAction.seen
  cases held : action.ticket? system with
  | none => rfl
  | some ticket =>
      cases action with
      | advance process =>
          exact (current process ticket held).current (level ticket held)
      | _ => cases held

/-- In a state whose tickets are fresh, the statements that lose an update are
those that change the conversation and leave its version alone. -/
theorem noLostUpdate_iff (current : Current system)
    (action : ConciergeAction) :
    NoLostUpdate encoding system action ↔ ¬ Unversioned system action := by
  unfold NoLostUpdate
  rcases conciergeStep_cases encoding system action with
    ⟨quiet, versioned⟩ | ⟨process, store, phase, equation, _, wrote⟩
  · simp [quiet.row, versioned, SameContent.refl]
  simp only [equation, move_store, write_row]
  cases wrote with
  | swapped level moved guarded =>
      have read := seen_eq current level
      simp [moved, guarded, read]
  | left version shows =>
      rw [shows, version]
      constructor
      · intro kept changed
        exact Nat.lt_irrefl _ (kept.1 changed)
      · intro same
        refine ⟨fun changed => absurd changed same, fun rewritten => ?_⟩
        rcases rewritten with changed | moved
        · exact absurd changed same
        · exact absurd version.symm moved

end Steps

/-- From any stored conversation, in any interleaving of any number of
processes, no update is lost and every change moves the version, exactly when no
answer, closing or expiry changes the row. -/
theorem no_conversation_update_is_lost (encoding : Encoding)
    (store : ConversationStore) (actions : List ConciergeAction) :
    Along (conciergeStep encoding) (NoLostUpdate encoding) (.initial store)
        actions ↔
      Along (conciergeStep encoding)
        (fun system action => ¬ Unversioned system action) (.initial store)
        actions :=
  Along.iff_of_invariant Current
    (fun _ action current => noLostUpdate_iff current action)
    (fun _ _ current versioned => current.step versioned)
    (Current.initial store) actions

def sampleEncoding : Encoding := ⟨⟨fun _ => "json"⟩, fun _ => "sha256"⟩

def sampleConversation : ConversationStore where
  row := {
    conversationId := "conversation:1", tenantId := "tenant"
    principalId := "principal", status := .needsInput
    state := fun
      | .blockingNeed => some (.dict [("field", .str "topic")])
      | _ => none
    stateVersion := 1, workflowRunId := none, workflowRevisionId := none
    presentation := none, presentationHash := none
    createdAt := 0, updatedAt := 0, expiresAt := 180, contentExpiresAt := 180
    closedAt := none }
  turns := Table.empty
  answers := Table.empty
  outbox := OutboxStore.empty

/-- One process reads the conversation for an update, another answers the
question, and the update goes through: it finds the version it has read. -/
def overwrittenAnswer : List ConciergeAction :=
  [.begin 0 (.update { status := some (.str "resolving") } 1 180 none),
    .begin 1 (.answer ⟨"answer:1", "topic", .str "releases", 1, none, none⟩),
    .advance 0 "", .advance 1 "", .advance 1 "", .advance 1 "",
    .advance 0 ""]

theorem recorded_answer_is_lost :
    ¬ Along (conciergeStep sampleEncoding) (NoLostUpdate sampleEncoding)
        (.initial sampleConversation) overwrittenAnswer ∧
      let store := (run (conciergeStep sampleEncoding)
        (.initial sampleConversation) overwrittenAnswer).store
      store.answers.rows.map ConciergeAnswer.fieldName = ["topic"] ∧
        store.row.stateVersion = 2 ∧
        store.row.state.value .knownInputs = .none := by
  decide +kernel

end AcpTask.Concierge
