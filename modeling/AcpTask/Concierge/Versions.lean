import AcpTask.Library.Run
import AcpTask.Library.Register
import AcpTask.Concierge.Repository

namespace AcpTask.Concierge

open Library

/-! Any number of processes that work on one conversation, each cut at every
statement it commits. -/

/-- The call that `get_conversation` is made for; `result` is the one whose
answer a call that has written hands back. -/
inductive Reading where
  | update (changes : Changes) (now ttlSeconds : Int)
      (expectedVersion : Option Int)
  | answer (call : AnswerCall)
  | close (now : Int)
  | result (now : Int)

def Reading.now : Reading → Int
  | .update _ now _ _ => now
  | .answer call => call.now
  | .close now => now
  | .result now => now

inductive ConciergePhase where
  | idle
  | reading (reading : Reading)
  | expiring (reading : Reading) (ticket : Ticket)
  | rereading (reading : Reading)
  | swapping (revised : Revised) (now : Int) (ticket : Ticket)
  | committing (commit : TurnCommit)
  | answering (current : Option Conversation) (call : AnswerCall)
      (ticket : Ticket)
  | recording (answered : Answered) (ticket : Ticket)
  | closing (now : Int) (ticket : Ticket)

def ConciergePhase.ticket? : ConciergePhase → Option Ticket
  | .expiring _ ticket | .swapping _ _ ticket | .answering _ _ ticket
  | .recording _ ticket | .closing _ ticket => some ticket
  | _ => none

/-- `writes` counts the writes that changed the conversation so far. -/
structure ConciergeSystem where
  store : ConversationStore
  processes : Nat → ConciergePhase
  writes : Nat

def ConciergeSystem.initial (store : ConversationStore) : ConciergeSystem :=
  ⟨store, fun _ => .idle, 0⟩

def SameContent (left right : Conversation) : Prop :=
  left.status = right.status ∧ left.state = right.state

instance (left right : Conversation) : Decidable (SameContent left right) :=
  inferInstanceAs (Decidable (_ ∧ _))

def Rewritten (row later : Conversation) : Prop :=
  ¬ SameContent row later ∨ row.stateVersion ≠ later.stateVersion

instance (row later : Conversation) : Decidable (Rewritten row later) :=
  inferInstanceAs (Decidable (_ ∨ _))

inductive ConciergeAction where
  | begin (process : Nat) (reading : Reading)
  | beginCommit (process : Nat) (commit : TurnCommit)
  | reserve (turn : Turn)
  | advance (process : Nat) (eventId : String)
  | crash (process : Nat)

namespace ConciergeSystem

def move (system : ConciergeSystem) (process : Nat) (phase : ConciergePhase) :
    ConciergeSystem :=
  { system with
    processes := Function.update system.processes process phase }

/-- A statement has left `store`. -/
def write (system : ConciergeSystem) (store : ConversationStore) :
    ConciergeSystem :=
  { system with
    store
    writes := if Rewritten system.store.row store.row then system.writes + 1
      else system.writes }

def ticket (system : ConciergeSystem) : Ticket :=
  ⟨system.store.row.stateVersion, system.writes⟩

end ConciergeSystem

/-- A call goes on with what `get_conversation` gave it. -/
def Reading.resume (current : Option Conversation) (ticket : Ticket) :
    Reading → ConciergePhase
  | .update changes now ttlSeconds expectedVersion =>
      match updatePrepared current changes now ttlSeconds expectedVersion with
      | .ok (_, revised) => .swapping revised now ticket
      | .error _ => .idle
  | .answer call => .answering current call ticket
  | .close now => .closing now ticket
  | .result _ => .idle

def Reading.accepted : Reading → Bool
  | .answer call => (answerArguments call).isOk
  | _ => true

def conciergeAdvance (encoding : Encoding) (system : ConciergeSystem)
    (process : Nat) (eventId : String) : ConciergeSystem :=
  match system.processes process with
  | .idle => system
  | .reading reading =>
      system.move process (if system.store.row.lapsed reading.now then
        .expiring reading system.ticket
      else reading.resume system.store.row.shown system.ticket)
  | .expiring reading _ =>
      (system.write { system.store with
        row := system.store.row.expire reading.now }).move process
        (.rereading reading)
  | .rereading reading =>
      system.move process (reading.resume system.store.row.shown system.ticket)
  | .swapping revised now ticket =>
      match compareAndSwap system.store.row ticket.version revised with
      | .error _ => system.move process .idle
      | .ok row =>
          (system.write { system.store with row }).move process
            (.reading (.result now))
  | .committing commit =>
      let committed :=
        commitConversationTurn encoding system.store commit eventId
      (system.write committed.2).move process
        (match committed.1 with
        | .ok true => .reading (.result commit.now)
        | _ => .idle)
  | .answering current call ticket =>
      system.move process
        (match answerPrepared encoding system.store current call with
        | .ok (some answered) => .recording answered ticket
        | _ => .idle)
  | .recording answered _ =>
      let recorded := answerTransaction system.store answered
      (system.write recorded.2).move process
        (match recorded.1 with
        | .ok () => .reading (.result answered.answer.appliedAt)
        | .error _ => .idle)
  | .closing now _ =>
      (system.write { system.store with
        row := (closeUpdate system.store.row now).2 }).move process .idle

/-- The insert of `begin_conversation_turn`, with the unique keys of its
table. -/
def reserveTurn (store : ConversationStore) (turn : Turn) :
    ConversationStore :=
  if store.turns.rows.any fun other =>
      other.turnVersion == turn.turnVersion ||
        (other.status == .started &&
          other.baseStateVersion == turn.baseStateVersion) then store
  else match store.turns.insert? turn with
    | none => store
    | some turns => { store with turns }

/-- A process that is busy begins nothing else; a crash is also what becomes of
a call whose next statement raises. -/
def conciergeStep (encoding : Encoding) (system : ConciergeSystem) :
    ConciergeAction → ConciergeSystem
  | .begin process reading =>
      match system.processes process with
      | .idle => if reading.accepted then
          system.move process (.reading reading) else system
      | _ => system
  | .beginCommit process commit =>
      match system.processes process with
      | .idle => system.move process (.committing commit)
      | _ => system
  | .reserve turn => { system with store := reserveTurn system.store turn }
  | .advance process eventId => conciergeAdvance encoding system process eventId
  | .crash process => system.move process .idle

end AcpTask.Concierge
