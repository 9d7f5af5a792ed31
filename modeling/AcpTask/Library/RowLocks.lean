import Mathlib.Data.Option.Basic

namespace AcpTask.Library

universe u v w

/-! Rows under row locks at the isolation level READ COMMITTED.  A statement
reads what is committed and what its own transaction has written; it waits for
the lock of a row that it writes, or selects for update.  A row that is not
there can be locked by nobody but a transaction that inserts it. -/

structure RowLocks (Key : Type u) (Row : Type v) (Owner : Type w) where
  committed : Key → Option Row
  holder : Key → Option Owner
  draft : Key → Option Row

namespace RowLocks

variable {Key : Type u} {Row : Type v} {Owner : Type w}

def ofCommitted (committed : Key → Option Row) : RowLocks Key Row Owner where
  committed := committed
  holder := fun _ => none
  draft := fun _ => none

/-- What a transaction has still to commit: an assignment for each row that it
has written, and it holds those that there are. -/
def Owes (rows : RowLocks Key Row Owner) (owner : Owner)
    (assigned : Key → Option (Row → Row)) : Prop :=
  ∀ key,
    (rows.holder key = some owner → rows.draft key =
      (assigned key).bind fun assign => (rows.committed key).map assign) ∧
    (assigned key ≠ none → rows.committed key ≠ none →
      rows.holder key = some owner)

def Clean (rows : RowLocks Key Row Owner) : Prop :=
  ∀ key, rows.holder key = none → rows.draft key = none

structure Frame (rows later : RowLocks Key Row Owner) (owner : Owner) :
    Prop where
  holder : ∀ other, other ≠ owner → ∀ key,
    later.holder key = some other ↔ rows.holder key = some other
  draft : ∀ other, other ≠ owner → ∀ key, rows.holder key = some other →
    later.draft key = rows.draft key
  committed : ∀ other, other ≠ owner → ∀ key,
    rows.holder key = some other → later.committed key = rows.committed key

structure Steady (rows later : RowLocks Key Row Owner) (owner : Owner) :
    Prop extends Frame rows later owner where
  stored : ∀ key, later.committed key ≠ none → rows.committed key ≠ none

theorem Frame.refl (rows : RowLocks Key Row Owner) (owner : Owner) :
    Frame rows rows owner :=
  ⟨fun _ _ _ => Iff.rfl, fun _ _ _ _ => rfl, fun _ _ _ _ => rfl⟩

theorem Steady.refl (rows : RowLocks Key Row Owner) (owner : Owner) :
    Steady rows rows owner :=
  ⟨Frame.refl rows owner, fun _ => id⟩

variable {rows : RowLocks Key Row Owner}

theorem Frame.steady {later : RowLocks Key Row Owner} {owner : Owner}
    (frame : Frame rows later owner) (same : later.committed = rows.committed) :
    Steady rows later owner :=
  ⟨frame, fun key found => by rwa [same] at found⟩

theorem Steady.owes {later : RowLocks Key Row Owner} {owner : Owner}
    (steady : Steady rows later owner) (other : Owner) (apart : other ≠ owner)
    {assigned : Key → Option (Row → Row)} (owes : rows.Owes other assigned) :
    later.Owes other assigned := by
  intro key
  rw [steady.holder other apart]
  constructor
  · intro held
    rw [steady.draft other apart key held,
      steady.committed other apart key held]
    exact (owes key).1 held
  · intro owed found
    exact (owes key).2 owed (steady.stored key found)

theorem clean_ofCommitted (committed : Key → Option Row) :
    (ofCommitted committed : RowLocks Key Row Owner).Clean := fun _ _ => rfl

theorem owes_of_unheld {owner : Owner}
    (unheld : ∀ key, rows.holder key ≠ some owner) :
    rows.Owes owner fun _ => none :=
  fun key => ⟨fun held => absurd held (unheld key), fun owed => absurd rfl owed⟩

theorem owes_ofCommitted (committed : Key → Option Row) (owner : Owner) :
    (ofCommitted committed).Owes owner fun _ => none :=
  owes_of_unheld fun _ held => by cases held

section Transactions

variable [DecidableEq Owner]

def visible (rows : RowLocks Key Row Owner) (owner : Owner) (key : Key) :
    Option Row :=
  if rows.holder key = some owner then (rows.draft key).or (rows.committed key)
  else rows.committed key

def Available (rows : RowLocks Key Row Owner) (owner : Owner) (key : Key) :
    Prop :=
  ∀ other, rows.holder key = some other → other = owner

instance (rows : RowLocks Key Row Owner) (owner : Owner) (key : Key) :
    Decidable (rows.Available owner key) :=
  match held : rows.holder key with
  | none => isTrue fun other found => by rw [held] at found; cases found
  | some holder => decidable_of_iff (holder = owner)
      ⟨fun same other found => by
        rw [held] at found; exact (Option.some.inj found).symm.trans same,
      fun available => available holder held⟩

def release (rows : RowLocks Key Row Owner) (owner : Owner) :
    RowLocks Key Row Owner :=
  { rows with
    holder := fun key =>
      if rows.holder key = some owner then none else rows.holder key
    draft := fun key =>
      if rows.holder key = some owner then none else rows.draft key }

def commit (rows : RowLocks Key Row Owner) (owner : Owner) :
    RowLocks Key Row Owner :=
  { rows.release owner with committed := rows.visible owner }

variable {rows : RowLocks Key Row Owner} {owner : Owner} {key : Key}
  {assigned : Key → Option (Row → Row)}

theorem Owes.visible (owes : rows.Owes owner assigned)
    (free : assigned key = none) :
    rows.visible owner key = rows.committed key := by
  unfold RowLocks.visible
  split
  · rename_i held
    rw [(owes key).1 held, free, Option.bind_none, Option.none_or]
  · rfl

theorem Clean.release (clean : rows.Clean) (owner : Owner) :
    (rows.release owner).Clean := by
  intro key free
  simp only [RowLocks.release] at free ⊢
  split
  · rfl
  · rename_i other
    rw [if_neg other] at free
    exact clean key free

theorem holder_release_self (rows : RowLocks Key Row Owner) (owner : Owner)
    (key : Key) : (rows.release owner).holder key ≠ some owner := by
  simp only [RowLocks.release]
  split
  · exact fun held => by cases held
  · rename_i other
    exact other

theorem Owes.release (rows : RowLocks Key Row Owner) (owner : Owner) :
    (rows.release owner).Owes owner fun _ => none :=
  owes_of_unheld (holder_release_self rows owner)

theorem Owes.commit (rows : RowLocks Key Row Owner) (owner : Owner) :
    (rows.commit owner).Owes owner fun _ => none :=
  owes_of_unheld (holder_release_self rows owner)

theorem holder_release {other : Owner} (apart : other ≠ owner) :
    (rows.release owner).holder key = some other ↔
      rows.holder key = some other := by
  simp only [RowLocks.release]
  split
  · rename_i held
    rw [held, Option.some.injEq]
    exact iff_of_false (fun same => by cases same) (Ne.symm apart)
  · rfl

theorem Frame.release (rows : RowLocks Key Row Owner) (owner : Owner) :
    Frame rows (rows.release owner) owner where
  holder _ apart _ := holder_release apart
  draft other apart key held := by
    refine if_neg ?_
    rw [held, Option.some.injEq]
    exact apart
  committed _ _ _ _ := rfl

theorem Frame.commit (rows : RowLocks Key Row Owner) (owner : Owner) :
    Frame rows (rows.commit owner) owner where
  holder := (Frame.release rows owner).holder
  draft := (Frame.release rows owner).draft
  committed other apart key held := by
    refine if_neg ?_
    rw [held, Option.some.injEq]
    exact apart

theorem Owes.committed_commit (owes : rows.Owes owner assigned) (key : Key) :
    (rows.commit owner).committed key =
      ((assigned key).elim (rows.committed key) fun assign =>
        (rows.committed key).map assign) := by
  change rows.visible owner key = _
  cases owed : assigned key with
  | none => exact owes.visible owed
  | some assign =>
      unfold RowLocks.visible
      cases stored : rows.committed key with
      | none =>
          split
          · rename_i held
            rw [(owes key).1 held, owed, stored]
            rfl
          · rfl
      | some =>
          have held := (owes key).2 (by rw [owed]; exact Option.some_ne_none _)
            (by rw [stored]; exact Option.some_ne_none _)
          rw [if_pos held, (owes key).1 held, owed, stored]
          rfl

theorem Owes.steady (mine : rows.Owes owner assigned) :
    Steady rows (rows.commit owner) owner where
  toFrame := Frame.commit rows owner
  stored key found absent := by
    rw [mine.committed_commit, absent] at found
    cases owed : assigned key <;> simp [owed] at found

end Transactions

section Locks

variable [DecidableEq Key]

variable {rows later : RowLocks Key Row Owner} {owner : Owner} {key : Key}
  {assigned : Key → Option (Row → Row)}

def hold (rows : RowLocks Key Row Owner) (owner : Owner) (key : Key) :
    RowLocks Key Row Owner :=
  { rows with holder := Function.update rows.holder key (some owner) }

@[simp] theorem holder_hold_self (rows : RowLocks Key Row Owner)
    (owner : Owner) (key : Key) :
    (rows.hold owner key).holder key = some owner := by
  simp [hold]

theorem holder_hold_of_ne {other : Key} (apart : other ≠ key) :
    (rows.hold owner key).holder other = rows.holder other := by
  simp [hold, apart]

theorem Clean.hold (clean : rows.Clean) (owner : Owner) (key : Key) :
    (rows.hold owner key).Clean := by
  intro other free
  by_cases same : other = key
  · subst same
    rw [holder_hold_self] at free
    cases free
  · rw [holder_hold_of_ne same] at free
    exact clean other free

theorem Owes.hold (owes : rows.Owes owner assigned) (clean : rows.Clean)
    (available : rows.Available owner key) (free : assigned key = none) :
    (rows.hold owner key).Owes owner assigned := by
  intro other
  by_cases same : other = key
  · subst same
    refine ⟨fun _ => ?_, fun owed => absurd free owed⟩
    rw [free, Option.bind_none]
    cases held : rows.holder other with
    | none => exact clean other held
    | some holder =>
        obtain rfl := available holder held
        have drafted := (owes other).1 held
        rw [free, Option.bind_none] at drafted
        exact drafted
  · rw [holder_hold_of_ne same]
    exact owes other

theorem Frame.hold (available : rows.Available owner key) :
    Frame rows (rows.hold owner key) owner where
  holder other apart row := by
    by_cases same : row = key
    · subst same
      rw [holder_hold_self, Option.some.injEq]
      exact iff_of_false apart.symm fun held => apart (available other held)
    · rw [holder_hold_of_ne same]
  draft _ _ _ _ := rfl
  committed _ _ _ _ := rfl

variable [DecidableEq Owner]

/-- `SELECT … FOR UPDATE` of one row; `none` while it waits. -/
def lock? (rows : RowLocks Key Row Owner) (owner : Owner) (key : Key) :
    Option (RowLocks Key Row Owner) :=
  if rows.visible owner key = none then some rows
  else if rows.Available owner key then some (rows.hold owner key) else none

/-- A new version of one row, by `INSERT` or by `UPDATE`. -/
def put? (rows : RowLocks Key Row Owner) (owner : Owner) (key : Key)
    (row : Row) : Option (RowLocks Key Row Owner) :=
  if rows.Available owner key then
    some { rows.hold owner key with
      draft := Function.update rows.draft key (some row) }
  else none

/-- `UPDATE … SET assign` of one row. -/
def update? (rows : RowLocks Key Row Owner) (owner : Owner) (key : Key)
    (assign : Row → Row) : Option (RowLocks Key Row Owner) :=
  match rows.visible owner key with
  | none => some rows
  | some row => rows.put? owner key (assign row)

/-- `UPDATE … SET assign WHERE condition`, on the rows of a snapshot; a row is
looked at again once it is locked. -/
def updateWhere? (rows : RowLocks Key Row Owner) (owner : Owner)
    (condition : Row → Bool) (assign : Row → Row) :
    List Key → Option (RowLocks Key Row Owner)
  | [] => some rows
  | key :: rest =>
      if (rows.visible owner key).any condition then
        match rows.update? owner key assign with
        | some later => later.updateWhere? owner condition assign rest
        | none => none
      else rows.updateWhere? owner condition assign rest

theorem lock?_eq_some (locked : rows.lock? owner key = some later) :
    (rows.visible owner key = none ∧ later = rows) ∨
      (rows.Available owner key ∧ later = rows.hold owner key) := by
  unfold lock? at locked
  split at locked
  · rename_i absent
    exact .inl ⟨absent, (Option.some.inj locked).symm⟩
  · split at locked
    · rename_i available
      exact .inr ⟨available, (Option.some.inj locked).symm⟩
    · cases locked

theorem committed_lock? (locked : rows.lock? owner key = some later) :
    later.committed = rows.committed := by
  rcases lock?_eq_some locked with ⟨-, rfl⟩ | ⟨-, rfl⟩ <;> rfl

theorem Clean.lock? (clean : rows.Clean)
    (locked : rows.lock? owner key = some later) : later.Clean := by
  rcases lock?_eq_some locked with ⟨-, rfl⟩ | ⟨-, rfl⟩
  · exact clean
  · exact clean.hold owner key

theorem Frame.lock? (locked : rows.lock? owner key = some later) :
    Frame rows later owner := by
  rcases lock?_eq_some locked with ⟨-, rfl⟩ | ⟨available, rfl⟩
  · exact Frame.refl _ owner
  · exact Frame.hold available

theorem Steady.lock? (locked : rows.lock? owner key = some later) :
    Steady rows later owner :=
  (Frame.lock? locked).steady (committed_lock? locked)

theorem Owes.lock? (owes : rows.Owes owner assigned) (clean : rows.Clean)
    (free : assigned key = none)
    (locked : rows.lock? owner key = some later) :
    later.Owes owner assigned := by
  rcases lock?_eq_some locked with ⟨-, rfl⟩ | ⟨available, rfl⟩
  · exact owes
  · exact owes.hold clean available free

variable {row : Row}

theorem holder_lock? (locked : rows.lock? owner key = some later)
    (found : later.visible owner key = some row) :
    later.holder key = some owner := by
  rcases lock?_eq_some locked with ⟨absent, rfl⟩ | ⟨-, rfl⟩
  · rw [absent] at found
    cases found
  · exact holder_hold_self rows owner key

theorem put?_eq_some (written : rows.put? owner key row = some later) :
    rows.Available owner key ∧ later = { rows.hold owner key with
      draft := Function.update rows.draft key (some row) } := by
  unfold put? at written
  split at written
  · rename_i available
    exact ⟨available, (Option.some.inj written).symm⟩
  · cases written

variable {assign : Row → Row}

theorem update?_eq_some (written : rows.update? owner key assign = some later) :
    (rows.visible owner key = none ∧ later = rows) ∨
      ∃ row, rows.visible owner key = some row ∧
        rows.put? owner key (assign row) = some later := by
  unfold update? at written
  split at written
  · rename_i absent
    exact .inl ⟨absent, (Option.some.inj written).symm⟩
  · rename_i row found
    exact .inr ⟨row, found, written⟩

theorem Clean.put? (clean : rows.Clean)
    (written : rows.put? owner key row = some later) : later.Clean := by
  obtain ⟨-, rfl⟩ := put?_eq_some written
  intro other free
  by_cases same : other = key
  · subst same
    rw [holder_hold_self] at free
    cases free
  · rw [holder_hold_of_ne same] at free
    change Function.update rows.draft key (some row) other = none
    rw [Function.update_of_ne same]
    exact clean other free

theorem Frame.put? (written : rows.put? owner key row = some later) :
    Frame rows later owner := by
  obtain ⟨available, rfl⟩ := put?_eq_some written
  have frame := Frame.hold available
  refine ⟨frame.holder, fun other apart entry held => ?_, frame.committed⟩
  have same : entry ≠ key := by
    rintro rfl
    exact apart (available other held)
  simp [Function.update_of_ne same]

theorem committed_update? (written : rows.update? owner key assign = some later) :
    later.committed = rows.committed := by
  rcases update?_eq_some written with ⟨-, rfl⟩ | ⟨_, -, put⟩
  · rfl
  · rw [(put?_eq_some put).2]
    rfl

theorem Clean.update? (clean : rows.Clean)
    (written : rows.update? owner key assign = some later) : later.Clean := by
  rcases update?_eq_some written with ⟨-, rfl⟩ | ⟨_, -, put⟩
  · exact clean
  · exact clean.put? put

theorem Steady.update? (written : rows.update? owner key assign = some later) :
    Steady rows later owner := by
  rcases update?_eq_some written with ⟨-, rfl⟩ | ⟨_, -, put⟩
  · exact Steady.refl _ owner
  · exact (Frame.put? put).steady (committed_update? written)

theorem holder_update? {other : Key} (held : rows.holder other = some owner)
    (written : rows.update? owner key assign = some later) :
    later.holder other = some owner := by
  rcases update?_eq_some written with ⟨-, rfl⟩ | ⟨_, -, put⟩
  · exact held
  · obtain ⟨-, rfl⟩ := put?_eq_some put
    by_cases same : other = key
    · subst same
      exact holder_hold_self rows owner other
    · exact (holder_hold_of_ne same).trans held

theorem Owes.update? (owes : rows.Owes owner assigned)
    (free : assigned key = none)
    (written : rows.update? owner key assign = some later) :
    later.Owes owner (Function.update assigned key (some assign)) := by
  rcases update?_eq_some written with ⟨absent, rfl⟩ | ⟨_, found, put⟩
  · rw [owes.visible free] at absent
    intro other
    by_cases same : other = key
    · subst same
      rw [Function.update_self]
      refine ⟨fun held => ?_, fun _ stored => absurd absent stored⟩
      rw [(owes other).1 held, free, absent]
      rfl
    · rw [Function.update_of_ne same]
      exact owes other
  · rw [owes.visible free] at found
    obtain ⟨-, rfl⟩ := put?_eq_some put
    intro other
    by_cases same : other = key
    · subst same
      simp [RowLocks.hold, found]
    · simp only [RowLocks.hold, Function.update_of_ne same]
      exact owes other

def Drafts (rows : RowLocks Key Row Owner) (owner : Owner)
    (allowed : Key → Row → Prop) : Prop :=
  ∀ key row, rows.holder key = some owner → rows.draft key = some row →
    allowed key row

variable {allowed : Key → Row → Prop}

omit [DecidableEq Key] [DecidableEq Owner] in
theorem Frame.drafts (frame : Frame rows later owner) {other : Owner}
    (apart : other ≠ owner) (drafts : rows.Drafts other allowed) :
    later.Drafts other allowed := by
  intro key row held written
  have before := (frame.holder other apart key).mp held
  rw [frame.draft other apart key before] at written
  exact drafts key row before written

omit [DecidableEq Key] in
theorem Drafts.release (rows : RowLocks Key Row Owner) (owner : Owner)
    (allowed : Key → Row → Prop) :
    (rows.release owner).Drafts owner allowed :=
  fun key _ held => absurd held (holder_release_self rows owner key)

omit [DecidableEq Key] in
theorem visible_cases (found : rows.visible owner key = some row) :
    rows.committed key = some row ∨
      (rows.holder key = some owner ∧ rows.draft key = some row) := by
  unfold visible at found
  split at found
  · rename_i held
    rcases Option.or_eq_some_iff.mp found with written | ⟨_, stored⟩
    · exact .inr ⟨held, written⟩
    · exact .inl stored
  · exact .inl found

theorem Drafts.put? (drafts : rows.Drafts owner allowed)
    (fits : allowed key row) (written : rows.put? owner key row = some later) :
    later.Drafts owner allowed := by
  obtain ⟨-, rfl⟩ := put?_eq_some written
  intro other version held put
  change (rows.hold owner key).holder other = some owner at held
  change Function.update rows.draft key (some row) other = some version at put
  by_cases same : other = key
  · subst same
    rw [Function.update_self, Option.some.injEq] at put
    exact put ▸ fits
  · rw [Function.update_of_ne same] at put
    rw [holder_hold_of_ne same] at held
    exact drafts other version held put

theorem committed_put? (written : rows.put? owner key row = some later) :
    later.committed = rows.committed := by
  rw [(put?_eq_some written).2]
  rfl

variable {condition : Row → Bool}

theorem updateWhere?_cons {rest : List Key}
    (written : rows.updateWhere? owner condition assign (key :: rest) =
      some later) :
    rows.updateWhere? owner condition assign rest = some later ∨
      ∃ row middle, rows.visible owner key = some row ∧
        condition row = true ∧
        rows.put? owner key (assign row) = some middle ∧
        middle.updateWhere? owner condition assign rest = some later := by
  simp only [updateWhere?] at written
  split at written
  · rename_i selected
    obtain ⟨row, found, fits⟩ := (Option.any_eq_true _ _).mp selected
    split at written
    · rename_i middle put
      rcases update?_eq_some put with ⟨absent, _⟩ | ⟨other, same, put⟩
      · rw [absent] at found
        cases found
      · rw [found, Option.some.injEq] at same
        subst same
        exact .inr ⟨row, middle, found, fits, put, written⟩
    · cases written
  · exact .inl written

omit [DecidableEq Key] [DecidableEq Owner] in
theorem Frame.trans {middle : RowLocks Key Row Owner}
    (first : Frame rows middle owner) (second : Frame middle later owner) :
    Frame rows later owner where
  holder other apart row :=
    (second.holder other apart row).trans (first.holder other apart row)
  draft other apart row held :=
    (second.draft other apart row
      ((first.holder other apart row).mpr held)).trans
        (first.draft other apart row held)
  committed other apart row held :=
    (second.committed other apart row
      ((first.holder other apart row).mpr held)).trans
        (first.committed other apart row held)

theorem Frame.updateWhere? {keys : List Key}
    (written : rows.updateWhere? owner condition assign keys = some later) :
    Frame rows later owner ∧ later.committed = rows.committed := by
  induction keys generalizing rows with
  | nil =>
      cases written
      exact ⟨Frame.refl _ owner, rfl⟩
  | cons _ _ induction =>
      rcases updateWhere?_cons written with
        skipped | ⟨row, middle, _, _, put, others⟩
      · exact induction skipped
      · obtain ⟨frame, same⟩ := induction others
        exact ⟨(Frame.put? put).trans frame, same.trans (committed_put? put)⟩

theorem Drafts.updateWhere? {keys : List Key}
    (drafts : rows.Drafts owner allowed)
    (fits : ∀ key ∈ keys, ∀ row, condition row = true →
      (rows.committed key = some row ∨ allowed key row) →
        allowed key (assign row))
    (written : rows.updateWhere? owner condition assign keys = some later) :
    later.Drafts owner allowed := by
  induction keys generalizing rows with
  | nil =>
      cases written
      exact drafts
  | cons key _ induction =>
      have others := fun other member =>
        fits other (List.mem_cons_of_mem key member)
      rcases updateWhere?_cons written with
        skipped | ⟨row, middle, found, selected, put, written⟩
      · exact induction drafts others skipped
      · have here : allowed key (assign row) := by
          refine fits key List.mem_cons_self row selected ?_
          rcases visible_cases found with stored | ⟨held, draft⟩
          · exact .inl stored
          · exact .inr (drafts key row held draft)
        refine induction (drafts.put? here put) ?_ written
        rw [committed_put? put]
        exact others

end Locks

end RowLocks

end AcpTask.Library
