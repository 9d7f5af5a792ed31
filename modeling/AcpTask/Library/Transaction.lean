import Mathlib.Data.List.Forall2

namespace AcpTask.Library

universe u v w

variable {Store : Type u} {Error : Type v} {Value : Type w}

/-- `BEGIN … COMMIT` around a body that works on its own copy of the store; an
exception in the body rolls the copy back. -/
def transaction (store : Store)
    (body : Store → Except Error (Value × Store)) :
    Except Error Value × Store :=
  match body store with
  | .ok (value, committed) => (.ok value, committed)
  | .error error => (.error error, store)

theorem transaction_ok_iff {store committed : Store}
    {body : Store → Except Error (Value × Store)} {value : Value} :
    transaction store body = (.ok value, committed) ↔
      body store = .ok (value, committed) := by
  unfold transaction
  split
  all_goals
    rename_i outcome
    simp [outcome]

def Atomic (store : Store) (result : Except Error Value × Store) : Prop :=
  ∀ error, result.1 = .error error → result.2 = store

theorem transaction_atomic (store : Store)
    (body : Store → Except Error (Value × Store)) :
    Atomic store (transaction store body) := by
  intro error raised
  simp only [transaction] at raised ⊢
  cases outcome : body store with
  | ok => simp [outcome] at raised
  | error => rfl

theorem transaction_error {store later : Store} {error : Error}
    {body : Store → Except Error (Value × Store)}
    (raised : transaction store body = (.error error, later)) :
    later = store :=
  (congrArg Prod.snd raised).symm.trans
    (transaction_atomic store body error (congrArg Prod.fst raised))

theorem atomic_error (store : Store) (error : Error) :
    Atomic store ((.error error, store) : Except Error Value × Store) :=
  fun _ _ => rfl

theorem transaction_cases {store : Store}
    {body : Store → Except Error (Value × Store)}
    {result : Except Error Value × Store}
    (done : transaction store body = result) :
    result.2 = store ∨ ∃ value, body store = .ok (value, result.2) := by
  subst done
  cases outcome : body store with
  | ok pair => exact .inr ⟨pair.1, by simp [transaction, outcome]⟩
  | error => exact .inl (by simp [transaction, outcome])

theorem transaction_preserves {motive : Store → Prop} {store : Store}
    {body : Store → Except Error (Value × Store)} (before : motive store)
    (committed : ∀ value later, body store = .ok (value, later) →
      motive later) : motive (transaction store body).2 := by
  rcases @transaction_cases _ _ _ store body _ rfl with
    unchanged | ⟨value, success⟩
  · rw [unchanged]
    exact before
  · exact committed value _ success

variable {Result : Type w}

theorem bind_eq_ok {first : Except Error Value}
    {next : Value → Except Error Result} {result : Result} :
    (first >>= next) = .ok result ↔
      ∃ value, first = .ok value ∧ next value = .ok result := by
  cases first with
  | error | ok => simp [bind, Except.bind]

theorem pure_eq_ok {value result : Value} :
    (pure value : Except Error Value) = .ok result ↔ value = result := by
  simp [pure, Except.pure]

variable {error : Error}

theorem bind_eq_error {first : Except Error Value}
    {next : Value → Except Error Result} :
    (first >>= next) = .error error ↔
      first = .error error ∨
        ∃ value, first = .ok value ∧ next value = .error error := by
  cases first with
  | error | ok => simp [bind, Except.bind]

variable {Item : Type w} {step : Store → Item → Except Error Store}

theorem foldlM_invariant_of_mem (invariant : Store → Prop) {items : List Item}
    (preserved : ∀ store, ∀ item ∈ items, ∀ later,
      step store item = .ok later → invariant store → invariant later)
    {store later : Store} (finished : items.foldlM step store = .ok later)
    (initial : invariant store) : invariant later := by
  induction items generalizing store with
  | nil =>
      cases finished
      exact initial
  | cons item _ induction =>
      rw [List.foldlM_cons] at finished
      cases round : step store item with
      | error =>
          rw [round] at finished
          cases finished
      | ok middle =>
          rw [round] at finished
          exact induction
            (fun store other member =>
              preserved store other (List.mem_cons_of_mem item member))
            finished
            (preserved store item List.mem_cons_self middle round initial)

theorem foldlM_invariant (invariant : Store → Prop)
    (preserved : ∀ store item later, step store item = .ok later →
      invariant store → invariant later) {items : List Item}
    {store later : Store} (finished : items.foldlM step store = .ok later)
    (initial : invariant store) : invariant later :=
  foldlM_invariant_of_mem invariant
    (fun store item _ later => preserved store item later) finished initial

/-- `if not condition: raise error`. -/
def require (condition : Bool) (error : Error) : Except Error Unit :=
  if condition then .ok () else .error error

@[simp] theorem require_eq_ok {condition : Bool} {done : Unit} :
    require condition error = .ok done ↔ condition = true := by
  cases condition <;> simp [require]

@[simp] theorem require_eq_error {condition : Bool} {raised : Error} :
    require condition error = .error raised ↔
      condition = false ∧ error = raised := by
  cases condition <;> simp [require]

/-! Loops that collect. -/

variable {read : Item → Except Error Result} {results : List Result}

theorem mapM_spec {items : List Item}
    (collected : items.mapM read = .ok results) :
    (∀ result ∈ results, ∃ item ∈ items, read item = .ok result) ∧
      ∀ item ∈ items, ∃ result ∈ results, read item = .ok result := by
  induction items generalizing results with
  | nil =>
      cases collected
      exact ⟨fun _ member => (by cases member),
        fun _ member => (by cases member)⟩
  | cons item _ induction =>
      rw [List.mapM_cons] at collected
      obtain ⟨result, here, rest⟩ := bind_eq_ok.mp collected
      obtain ⟨_, remaining, same⟩ := bind_eq_ok.mp rest
      cases same
      obtain ⟨sound, complete⟩ := induction remaining
      constructor
      · intro other member
        rcases List.mem_cons.mp member with rfl | later
        · exact ⟨item, List.mem_cons_self, here⟩
        · obtain ⟨source, inside, found⟩ := sound other later
          exact ⟨source, .tail _ inside, found⟩
      · intro other member
        rcases List.mem_cons.mp member with rfl | later
        · exact ⟨result, List.mem_cons_self, here⟩
        · obtain ⟨found, inside, reads⟩ := complete other later
          exact ⟨found, .tail _ inside, reads⟩

theorem exists_mapM {items : List Item}
    (each : ∀ item ∈ items, ∃ result, read item = .ok result) :
    ∃ results, items.mapM read = .ok results := by
  induction items with
  | nil => exact ⟨[], rfl⟩
  | cons item items induction =>
      obtain ⟨⟨result, here⟩, rest⟩ := List.forall_mem_cons.mp each
      obtain ⟨results, collected⟩ := induction rest
      exact ⟨result :: results, by rw [List.mapM_cons, here, collected]; rfl⟩

theorem mem_mapM_iff {items : List Item}
    (collected : items.mapM read = .ok results) {result : Result} :
    result ∈ results ↔ ∃ item ∈ items, read item = .ok result := by
  obtain ⟨sound, complete⟩ := mapM_spec collected
  refine ⟨sound result, ?_⟩
  rintro ⟨item, member, here⟩
  obtain ⟨_, listed, there⟩ := complete item member
  cases here.symm.trans there
  exact listed

theorem mapM_eq_ok_iff {items : List Item} : items.mapM read = .ok results ↔
      List.Forall₂ (fun item result => read item = .ok result)
        items results := by
  induction items generalizing results with
  | nil =>
      rw [List.mapM_nil, List.forall₂_nil_left_iff]
      exact ⟨fun same => (Except.ok.inj same).symm,
        fun same => congrArg Except.ok same.symm⟩
  | cons _ _ induction =>
      simp only [List.mapM_cons, bind_eq_ok, List.forall₂_cons_left_iff,
        induction]
      constructor
      · rintro ⟨result, here, others, rest, same⟩
        exact ⟨result, others, here, rest, (Except.ok.inj same).symm⟩
      · rintro ⟨result, others, here, rest, rfl⟩
        exact ⟨result, here, others, rest, rfl⟩

theorem forM_eq_ok {Item : Type u} {check : Item → Except Error Unit}
    {items : List Item} :
    items.forM check = .ok () ↔ ∀ item ∈ items, check item = .ok () := by
  induction items with
  | nil => exact ⟨fun _ _ member => (by cases member), fun _ => rfl⟩
  | cons _ _ induction =>
      rw [List.forM, bind_eq_ok, List.forall_mem_cons, ← induction]
      exact ⟨fun ⟨_, here, rest⟩ => ⟨here, rest⟩,
        fun ⟨here, rest⟩ => ⟨(), here, rest⟩⟩

theorem forM_eq_error {Item : Type u} {check : Item → Except Error Unit}
    {items : List Item} :
    items.forM check = .error error ↔ ∃ before item after,
      items = before ++ item :: after ∧
        (∀ earlier ∈ before, check earlier = .ok ()) ∧
        check item = .error error := by
  induction items with
  | nil =>
      refine ⟨fun raised => (by cases raised), ?_⟩
      rintro ⟨before, item, after, same, _⟩
      cases before <;> cases same
  | cons head items induction =>
      rw [List.forM]
      cases here : check head with
      | error =>
          constructor
          · intro raised
            cases raised
            exact ⟨[], head, items, rfl, fun _ member => (by cases member),
              here⟩
          · rintro ⟨before, item, after, same, passed, raised⟩
            cases before with
            | nil =>
                cases same
                rw [here] at raised
                cases raised
                rfl
            | cons =>
                cases same
                have ok := passed head List.mem_cons_self
                rw [here] at ok
                cases ok
      | ok _ =>
          show items.forM check = .error error ↔ _
          rw [induction]
          constructor
          · rintro ⟨before, item, after, rfl, passed, raised⟩
            exact ⟨head :: before, item, after, rfl,
              List.forall_mem_cons.mpr ⟨here, passed⟩, raised⟩
          · rintro ⟨before, item, after, same, passed, raised⟩
            cases before with
            | nil =>
                cases same
                rw [here] at raised
                cases raised
            | cons _ before =>
                cases same
                exact ⟨before, item, after, rfl,
                  (List.forall_mem_cons.mp passed).2, raised⟩

theorem mem_filterAuxM {Item : Type} {test : Item → Except Error Bool}
    {items found kept : List Item}
    (filtered : items.filterAuxM test found = .ok kept) (item : Item) :
    item ∈ kept ↔ item ∈ found ∨ (item ∈ items ∧ test item = .ok true) := by
  induction items generalizing found with
  | nil =>
      cases filtered
      simp
  | cons _ _ induction =>
      obtain ⟨fits, tested, rest⟩ := bind_eq_ok.mp filtered
      rw [induction rest]
      cases fits with
      | true =>
          rw [cond_true, List.mem_cons, List.mem_cons]
          constructor
          · rintro ((rfl | old) | ⟨member, holds⟩)
            · exact .inr ⟨.inl rfl, tested⟩
            · exact .inl old
            · exact .inr ⟨.inr member, holds⟩
          · rintro (old | ⟨rfl | member, holds⟩)
            · exact .inl (.inr old)
            · exact .inl (.inl rfl)
            · exact .inr ⟨member, holds⟩
      | false =>
          rw [cond_false, List.mem_cons]
          constructor
          · rintro (old | ⟨member, holds⟩)
            · exact .inl old
            · exact .inr ⟨.inr member, holds⟩
          · rintro (old | ⟨rfl | member, holds⟩)
            · exact .inl old
            · rw [tested] at holds
              cases holds
            · exact .inr ⟨member, holds⟩

theorem mem_filterM {Item : Type} {test : Item → Except Error Bool}
    {items kept : List Item} (filtered : items.filterM test = .ok kept)
    (item : Item) : item ∈ kept ↔ item ∈ items ∧ test item = .ok true := by
  obtain ⟨_, found, same⟩ := bind_eq_ok.mp filtered
  cases same
  rw [List.mem_reverse, mem_filterAuxM found]
  simp

theorem filterAuxM_eq_ok {Item : Type} {test : Item → Except Error Bool}
    {keeps : Item → Bool} {items found : List Item}
    (runs : ∀ item ∈ items, test item = .ok (keeps item)) :
    items.filterAuxM test found =
      .ok ((items.filter keeps).reverse ++ found) := by
  induction items generalizing found with
  | nil => rfl
  | cons item items induction =>
      rw [List.filterAuxM, runs item List.mem_cons_self]
      show items.filterAuxM test (cond (keeps item) (item :: found) found) = _
      rw [induction fun other member => runs other (.tail _ member)]
      cases kept : keeps item <;> simp [kept]

theorem filterM_eq_ok {Item : Type} {test : Item → Except Error Bool}
    {keeps : Item → Bool} {items : List Item}
    (runs : ∀ item ∈ items, test item = .ok (keeps item)) :
    items.filterM test = .ok (items.filter keeps) := by
  rw [List.filterM, filterAuxM_eq_ok runs]
  simp [bind, Except.bind, pure, Except.pure]

end AcpTask.Library

namespace AcpTask.Library

universe u v w

/-! A body in stages: each of them raises, goes on with a result, or returns the
answer of the whole body.  What the two last come to is stated once, and there
is one rule for each way of putting stages together. -/

inductive Ended (Error : Type u) (Answer : Type v) where
  | raised (error : Error)
  | returned (answer : Answer)

abbrev Stage (Error : Type u) (Answer : Type v) := Except (Ended Error Answer)

variable {Error : Type u} {Answer : Type v} {Result Later : Type w}

def raising (outcome : Except Error Result) : Stage Error Answer Result :=
  outcome.mapError .raised

/-- `return` from within a stage. -/
def returning : Except Error Answer → Stage Error Answer Result
  | .ok answer => .error (.returned answer)
  | .error error => .error (.raised error)

def finished : Stage Error Answer Answer → Except Error Answer
  | .ok answer => .ok answer
  | .error (.returned answer) => .ok answer
  | .error (.raised error) => .error error

/-- Unless it raises, the stage goes on as `after` says or returns as `early`
says. -/
def Meets (after : Result → Prop) (early : Answer → Prop) :
    Stage Error Answer Result → Prop
  | .ok result => after result
  | .error (.returned answer) => early answer
  | .error (.raised _) => True

namespace Meets

variable {after : Result → Prop} {early : Answer → Prop}

theorem raising_of {outcome : Except Error Result}
    (holds : ∀ result, outcome = .ok result → after result) :
    Meets after early (raising outcome : Stage Error Answer Result) := by
  cases outcome with
  | ok result => exact holds result rfl
  | error => exact trivial

theorem returning_of {outcome : Except Error Answer}
    (holds : ∀ answer, outcome = .ok answer → early answer) :
    Meets after early (returning outcome : Stage Error Answer Result) := by
  cases outcome with
  | ok answer => exact holds answer rfl
  | error => exact trivial

variable {stage : Stage Error Answer Result}
  {next : Result → Stage Error Answer Later}

theorem seq {earlier : Answer → Prop} {last : Later → Prop}
    (first : Meets after earlier stage)
    (relax : ∀ answer, earlier answer → early answer)
    (rest : ∀ result, after result → Meets last early (next result)) :
    Meets last early (stage >>= next) := by
  cases stage with
  | ok result => exact rest result first
  | error ended =>
      cases ended with
      | raised => exact trivial
      | returned answer => exact relax answer first

theorem bind {last : Later → Prop} (first : Meets after early stage)
    (rest : ∀ result, after result → Meets last early (next result)) :
    Meets last early (stage >>= next) :=
  seq first (fun _ early => early) rest

theorem imp {stronger : Result → Prop} {earlier : Answer → Prop}
    (meets : Meets stronger earlier stage)
    (weaken : ∀ result, stronger result → after result)
    (relax : ∀ answer, earlier answer → early answer) :
    Meets after early stage := by
  cases stage with
  | ok result => exact weaken result meets
  | error ended =>
      cases ended with
      | raised => exact trivial
      | returned answer => exact relax answer meets

theorem of_finished {body : Stage Error Answer Answer}
    (meets : Meets early early body) {answer : Answer}
    (done : finished body = .ok answer) : early answer := by
  cases body with
  | ok =>
      cases done
      exact meets
  | error ended =>
      cases ended with
      | raised => cases done
      | returned =>
          cases done
          exact meets

end Meets

end AcpTask.Library
