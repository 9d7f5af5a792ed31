import Mathlib.Data.List.Basic

namespace AcpTask.Library

universe u

variable {Symbol : Type u} [DecidableEq Symbol] {separator : Symbol}
  {left right whole : List Symbol}

def beforeFirst (separator : Symbol) (whole : List Symbol) : List Symbol :=
  whole.takeWhile fun symbol => symbol != separator

def afterFirst (separator : Symbol) (whole : List Symbol) : List Symbol :=
  (whole.dropWhile fun symbol => symbol != separator).drop 1

def afterLast (separator : Symbol) (whole : List Symbol) : List Symbol :=
  (whole.reverse.takeWhile fun symbol => symbol != separator).reverse

theorem drop_beforeFirst (separator : Symbol) (whole : List Symbol) :
    whole.drop (beforeFirst separator whole).length =
      whole.dropWhile fun symbol => symbol != separator := by
  have cut := @List.takeWhile_append_dropWhile _
    (fun symbol => symbol != separator) whole
  rw [beforeFirst]
  generalize (whole.takeWhile fun symbol => symbol != separator) = before at *
  generalize (whole.dropWhile fun symbol => symbol != separator) = rest at *
  rw [← cut]
  exact List.drop_left

theorem beforeFirst_append_cons (unseparated : separator ∉ left) :
    beforeFirst separator (left ++ separator :: right) = left := by
  rw [beforeFirst, List.takeWhile_append_of_pos, List.takeWhile_cons, if_neg,
    List.append_nil]
  · simp
  · intro symbol member
    exact bne_iff_ne.mpr fun same => unseparated (same ▸ member)

theorem beforeFirst_append (separator : Symbol) (whole : List Symbol) :
    beforeFirst separator whole ++
      whole.drop (beforeFirst separator whole).length = whole := by
  rw [drop_beforeFirst]
  exact List.takeWhile_append_dropWhile

theorem mem_drop_beforeFirst {symbol : Symbol} (apart : symbol ≠ separator) :
    symbol ∈ whole.drop (beforeFirst separator whole).length ↔
      symbol ∈ afterFirst separator whole := by
  rw [drop_beforeFirst, afterFirst]
  generalize same : (whole.dropWhile fun symbol => symbol != separator) = rest
  cases rest with
  | nil => simp
  | cons head =>
      have stopped := @List.head?_dropWhile_not _
        (fun symbol => symbol != separator) whole
      rw [same] at stopped
      have isSeparator : head = separator := by simpa using stopped
      rw [List.mem_cons, List.drop_one, List.tail_cons, isSeparator]
      exact or_iff_right apart

theorem afterLast_append_of_mem (separated : separator ∈ right) :
    afterLast separator (left ++ right) = afterLast separator right := by
  rw [afterLast, List.reverse_append, List.takeWhile_append, if_neg]
  · rfl
  · intro whole
    have all := (List.takeWhile_prefix _).eq_of_length whole
    have passed : (right.reverse.takeWhile
        fun symbol => symbol != separator).all
        (fun symbol => symbol != separator) = true := List.all_takeWhile
    rw [all, List.all_eq_true] at passed
    have refused := passed separator (List.mem_reverse.mpr separated)
    simp at refused

theorem afterLast_append_of_not_mem (unseparated : separator ∉ right) :
    afterLast separator (left ++ right) = afterLast separator left ++ right := by
  rw [afterLast, List.reverse_append, List.takeWhile_append_of_pos]
  · rw [List.reverse_append, List.reverse_reverse, afterLast]
  · intro symbol member
    rw [List.mem_reverse] at member
    exact bne_iff_ne.mpr fun same => unseparated (same ▸ member)

theorem afterLast_suffix (separator : Symbol) (whole : List Symbol) :
    afterLast separator whole <:+ whole := by
  rw [afterLast, ← List.reverse_prefix, List.reverse_reverse]
  exact List.takeWhile_prefix _

theorem afterLast_eq_nil (separated : separator ∈ whole) :
    afterLast separator whole = [] ↔ whole.getLast? = some separator := by
  rw [afterLast, List.reverse_eq_nil_iff, ← List.head?_reverse]
  cases same : whole.reverse with
  | nil =>
      rw [List.reverse_eq_nil_iff.mp same] at separated
      contradiction
  | cons last =>
      rw [List.takeWhile_cons, List.head?_cons, Option.some.injEq]
      by_cases isSeparator : last = separator
      · simp [isSeparator]
      · simp [isSeparator]

/-- Where there is a separator, what follows the last one stays within the
right part just when that part has one, or the left one ends in one. -/
theorem afterLast_suffix_right_iff (separated : separator ∈ left ++ right) :
    afterLast separator (left ++ right) <:+ right ↔
      separator ∈ right ∨ left.getLast? = some separator := by
  by_cases onRight : separator ∈ right
  · rw [afterLast_append_of_mem onRight]
    exact iff_of_true (afterLast_suffix separator right) (.inl onRight)
  · have onLeft := (List.mem_append.mp separated).resolve_right onRight
    rw [afterLast_append_of_not_mem onRight, ← afterLast_eq_nil onLeft,
      or_iff_right onRight]
    constructor
    · intro suffix
      have short := suffix.length_le
      rw [List.length_append] at short
      exact List.length_eq_zero_iff.mp (by omega)
    · intro none
      rw [none]
      exact List.suffix_refl right

end AcpTask.Library

namespace AcpTask.Library

universe u v

variable {Symbol : Type u} {Item : Type v}

def PrefixFree (code : Item → List Symbol) : Prop :=
  ∀ {first second rest other}, code first ++ rest = code second ++ other →
    first = second ∧ rest = other

def Delimited (stops : Symbol → Prop) (rest : List Symbol) : Prop :=
  ∀ symbol, rest.head? = some symbol → stops symbol

theorem Delimited.nil (stops : Symbol → Prop) : Delimited stops [] := by
  intro symbol impossible
  cases impossible

theorem Delimited.cons {stops : Symbol → Prop} {symbol : Symbol}
    (stop : stops symbol) (rest : List Symbol) :
    Delimited stops (symbol :: rest) := by
  intro other same
  cases same
  exact stop

theorem token_append_inj {stops : Symbol → Prop}
    {first second rest other : List Symbol}
    (firstToken : ∀ symbol ∈ first, ¬ stops symbol)
    (secondToken : ∀ symbol ∈ second, ¬ stops symbol)
    (restEnds : Delimited stops rest) (otherEnds : Delimited stops other)
    (same : first ++ rest = second ++ other) :
    first = second ∧ rest = other := by
  induction first generalizing second with
  | nil =>
      cases second with
      | nil => exact ⟨rfl, same⟩
      | cons symbol =>
          rw [List.nil_append] at same
          exact absurd (restEnds symbol (by rw [same]; rfl))
            (secondToken symbol List.mem_cons_self)
  | cons symbol _ induction =>
      cases second with
      | nil =>
          rw [List.nil_append] at same
          exact absurd (otherEnds symbol (by rw [← same]; rfl))
            (firstToken symbol List.mem_cons_self)
      | cons =>
          obtain ⟨rfl, tails⟩ := List.cons_eq_cons.mp same
          obtain ⟨rfl, equal⟩ := induction
            (fun symbol member => firstToken symbol (.tail _ member))
            (fun symbol member => secondToken symbol (.tail _ member)) tails
          exact ⟨rfl, equal⟩

theorem append_delimiter_inj [DecidableEq Symbol] {delimiter : Symbol}
    {first second rest other : List Symbol}
    (counts : first.count delimiter = second.count delimiter)
    (same : first ++ delimiter :: rest = second ++ delimiter :: other) :
    first = second ∧ rest = other := by
  induction first generalizing second with
  | nil =>
      cases second with
      | nil => exact ⟨rfl, (List.cons_eq_cons.mp same).2⟩
      | cons =>
          obtain ⟨rfl, -⟩ := List.cons_eq_cons.mp same
          simp at counts
  | cons _ _ induction =>
      cases second with
      | nil =>
          obtain ⟨rfl, -⟩ := List.cons_eq_cons.mp same
          simp at counts
      | cons =>
          obtain ⟨rfl, tails⟩ := List.cons_eq_cons.mp same
          rw [List.count_cons, List.count_cons, Nat.add_right_cancel_iff]
            at counts
          obtain ⟨rfl, equal⟩ := induction counts tails
          exact ⟨rfl, equal⟩

theorem flatMap_append_inj {code : Item → List Symbol}
    (prefixFree : PrefixFree code) {ends : Symbol}
    (begins : ∀ item, ∃ symbol rest, code item = symbol :: rest ∧ symbol ≠ ends)
    {first second : List Item} {rest other : List Symbol}
    (same : first.flatMap code ++ ends :: rest =
      second.flatMap code ++ ends :: other) :
    first = second ∧ rest = other := by
  induction first generalizing second with
  | nil =>
      cases second with
      | nil => exact ⟨rfl, (List.cons_eq_cons.mp same).2⟩
      | cons item =>
          obtain ⟨_, _, written, other⟩ := begins item
          rw [List.flatMap_cons, written] at same
          exact absurd (List.cons_eq_cons.mp same).1.symm other
  | cons item _ induction =>
      cases second with
      | nil =>
          obtain ⟨_, _, written, other⟩ := begins item
          rw [List.flatMap_cons, written] at same
          exact absurd (List.cons_eq_cons.mp same).1 other
      | cons =>
          rw [List.flatMap_cons, List.flatMap_cons, List.append_assoc,
            List.append_assoc] at same
          obtain ⟨rfl, tails⟩ := prefixFree same
          obtain ⟨rfl, equal⟩ := induction tails
          exact ⟨rfl, equal⟩

end AcpTask.Library
