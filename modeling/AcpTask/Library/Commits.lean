import AcpTask.Library.Transaction

namespace AcpTask.Library

universe u v w

/-! A program that commits one transaction after another.  What it has committed
stays when it raises, and when it is cut off. -/

structure Committed (Store : Type u) (Error : Type v) (Value : Type w) where
  commits : List Store
  result : Except Error Value

def Committing (Store : Type u) (Error : Type v) (Value : Type w) :=
  Store → Committed Store Error Value

namespace Committing

variable {Store : Type u} {Error : Type v} {Value Later : Type w}

def after (program : Committing Store Error Value) (start : Store)
    (count : Nat) : Store :=
  ((program start).commits.take count).getLastD start

def ending (program : Committing Store Error Value) (start : Store) : Store :=
  (program start).commits.getLastD start

def done (value : Value) : Committing Store Error Value :=
  fun _ => ⟨[], .ok value⟩

def andThen (program : Committing Store Error Value)
    (next : Value → Committing Store Error Later) :
    Committing Store Error Later := fun start =>
  match (program start).result with
  | .error error => ⟨(program start).commits, .error error⟩
  | .ok value =>
      ⟨(program start).commits ++ (next value (program.ending start)).commits,
        (next value (program.ending start)).result⟩

instance : Monad (Committing Store Error) where
  pure := done
  bind := andThen

def query (read : Store → Except Error Value) : Committing Store Error Value :=
  fun start => ⟨[], read start⟩

def commit (body : Store → Except Error (Value × Store)) :
    Committing Store Error Value := fun start =>
  match body start with
  | .error error => ⟨[], .error error⟩
  | .ok (value, later) => ⟨[later], .ok value⟩

variable {program : Committing Store Error Value}
  {next : Value → Committing Store Error Later} {start : Store} {count : Nat}

variable {value : Value}

theorem bind_ok (returned : (program start).result = .ok value) :
    (program >>= next) start =
      ⟨(program start).commits ++
          (next value (program.ending start)).commits,
        (next value (program.ending start)).result⟩ := by
  show andThen program next start = _
  rw [andThen, returned]

variable {error : Error}

theorem bind_error (raised : (program start).result = .error error) :
    (program >>= next) start = ⟨(program start).commits, .error error⟩ := by
  show andThen program next start = _
  rw [andThen, raised]

theorem pure_apply (value : Value) (start : Store) :
    (pure value : Committing Store Error Value) start = ⟨[], .ok value⟩ := rfl

variable {body : Store → Except Error (Value × Store)}

theorem commit_ok {later : Store} (committed : body start = .ok (value, later)) :
    commit body start = ⟨[later], .ok value⟩ := by
  rw [commit, committed]

theorem commit_error (raised : body start = .error error) :
    commit body start = ⟨[], .error error⟩ := by
  rw [commit, raised]

theorem query_bind_ok {read : Store → Except Error Value}
    (returned : read start = .ok value) :
    (query read >>= next) start = next value start := by
  have outcome : (query read start).result = .ok value := returned
  rw [bind_ok outcome]
  rfl

theorem query_bind_error {read : Store → Except Error Value}
    (raised : read start = .error error) :
    (query read >>= next) start = ⟨[], .error error⟩ :=
  bind_error raised

theorem commit_bind_ok {later : Store}
    (committed : body start = .ok (value, later)) :
    (commit body >>= next) start =
      ⟨later :: (next value later).commits, (next value later).result⟩ := by
  have outcome := commit_ok committed
  rw [bind_ok (congrArg Committed.result outcome), ending, outcome]
  rfl

theorem commit_bind_error (raised : body start = .error error) :
    (commit body >>= next) start = ⟨[], .error error⟩ := by
  have outcome := commit_error raised
  rw [bind_error (congrArg Committed.result outcome), outcome]

theorem after_length : program.after start (program start).commits.length =
    program.ending start := by
  rw [after, List.take_length]
  rfl

def Keeps (relation : Store → Store → Prop)
    (program : Committing Store Error Value) : Prop :=
  ∀ start, ∀ store ∈ (program start).commits, relation start store

namespace Keeps

variable {relation : Store → Store → Prop}

theorem of_pure (value : Value) :
    Keeps relation (pure value : Committing Store Error Value) := by
  intro start store member
  cases member

theorem of_commit {body : Store → Except Error (Value × Store)}
    (step : ∀ start value later, body start = .ok (value, later) →
      relation start later) : Keeps relation (commit body) := by
  intro start store member
  cases outcome : body start with
  | error =>
      rw [commit_error outcome] at member
      cases member
  | ok pair =>
      rw [commit_ok outcome] at member
      rw [List.mem_singleton.mp member]
      exact step start pair.1 pair.2 outcome

theorem after [Std.Refl relation] (keeps : Keeps relation program)
    (start : Store) (count : Nat) :
    relation start (program.after start count) := by
  rw [Committing.after, List.getLastD_eq_getLast?]
  cases last : ((program start).commits.take count).getLast? with
  | none => exact Std.Refl.refl start
  | some store =>
      exact keeps start store (List.mem_of_mem_take (List.mem_of_getLast? last))

theorem ending [Std.Refl relation] (keeps : Keeps relation program)
    (start : Store) : relation start (program.ending start) := by
  rw [← after_length]
  exact keeps.after start _

theorem bind [Std.Refl relation] [IsTrans Store relation]
    (first : Keeps relation program)
    (second : ∀ value, Keeps relation (next value)) :
    Keeps relation (program >>= next) := by
  intro start store member
  cases returned : (program start).result with
  | error =>
      rw [bind_error returned] at member
      exact first start store member
  | ok value =>
      rw [bind_ok returned] at member
      rcases List.mem_append.mp member with early | late
      · exact first start store early
      · exact Trans.trans (first.ending start)
          (second value (program.ending start) store late)

end Keeps

end Committing

end AcpTask.Library
