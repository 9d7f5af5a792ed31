import Mathlib.Order.Lattice
import Mathlib.Data.List.Induction
import AcpTask.Library.Run

namespace AcpTask.Library

universe u v

variable {Row : Type u} {Key : Type v} [LinearOrder Key] (keyOf : Row → Key)

/-- The newest row of an append-only ledger, as the last of the rows sorted by
`keyOf`: of several greatest rows, the one inserted last. -/
def latest (rows : List Row) : Option Row :=
  rows.foldl (fun newest row =>
    match newest with
    | none => some row
    | some best => if keyOf best ≤ keyOf row then some row else some best) none

theorem latest_append_row (rows : List Row) (row : Row) :
    latest keyOf (rows ++ [row]) =
      match latest keyOf rows with
      | none => some row
      | some best =>
          if keyOf best ≤ keyOf row then some row else some best := by
  simp only [latest, List.foldl_append, List.foldl_cons, List.foldl_nil]

theorem latest_append_row_cases (rows : List Row) (row : Row) :
    latest keyOf (rows ++ [row]) = some row ∨
      latest keyOf (rows ++ [row]) = latest keyOf rows := by
  rw [latest_append_row]
  cases latest keyOf rows with
  | none => exact .inl rfl
  | some =>
      dsimp only
      split
      · exact .inl rfl
      · exact .inr rfl

variable {rows : List Row} {row : Row}

theorem latest_mem (newest : latest keyOf rows = some row) : row ∈ rows := by
  induction rows using List.reverseRecOn with
  | nil => cases newest
  | append_singleton rows last induction =>
      rcases latest_append_row_cases keyOf rows last with isLast | unchanged
      · obtain rfl := Option.some.inj (isLast.symm.trans newest)
        exact List.mem_append_right rows List.mem_cons_self
      · exact List.mem_append_left _ (induction (unchanged.symm.trans newest))

theorem latest_ne_none (member : row ∈ rows) :
    latest keyOf rows ≠ none := by
  induction rows using List.reverseRecOn with
  | nil => cases member
  | append_singleton rows last _ =>
      rw [latest_append_row]
      cases latest keyOf rows with
      | none => exact Option.some_ne_none last
      | some =>
          dsimp only
          split <;> exact Option.some_ne_none _

theorem latest_greatest (newest : latest keyOf rows = some row) :
    ∀ other ∈ rows, keyOf other ≤ keyOf row := by
  induction rows using List.reverseRecOn generalizing row with
  | nil => cases newest
  | append_singleton rows _ induction =>
      intro other member
      rw [latest_append_row] at newest
      cases before : latest keyOf rows with
      | none =>
          rw [before] at newest
          cases newest
          rcases List.mem_append.mp member with older | same
          · exact absurd before (latest_ne_none keyOf older)
          · exact le_of_eq (congrArg keyOf (List.mem_singleton.mp same))
      | some =>
          rw [before] at newest
          have older := induction before
          dsimp only at newest
          split at newest
          next exceeds =>
            cases newest
            rcases List.mem_append.mp member with held | same
            · exact (older other held).trans exceeds
            · exact le_of_eq (congrArg keyOf (List.mem_singleton.mp same))
          next exceeds =>
            cases newest
            rcases List.mem_append.mp member with held | same
            · exact older other held
            · rw [List.mem_singleton.mp same]
              exact le_of_not_ge exceeds

theorem latest_append_newest
    (notExceeded : ∀ older ∈ rows, keyOf older ≤ keyOf row) :
    latest keyOf (rows ++ [row]) = some row := by
  rw [latest_append_row]
  cases newest : latest keyOf rows with
  | none => rfl
  | some best => exact if_pos (notExceeded best (latest_mem keyOf newest))

theorem latest_append_same {extra : List Row} {key : Key}
    (keys : ∀ row ∈ extra, keyOf row = key)
    (notExceeded : ∀ older ∈ rows, keyOf older ≤ key) (nonempty : extra ≠ []) :
    ∃ row ∈ extra, latest keyOf (rows ++ extra) = some row := by
  refine ⟨extra.getLast nonempty, List.getLast_mem nonempty, ?_⟩
  have lastKey := keys _ (List.getLast_mem nonempty)
  conv_lhs => rw [← List.dropLast_concat_getLast nonempty, ← List.append_assoc]
  apply latest_append_newest
  intro older member
  rw [lastKey]
  rcases List.mem_append.mp member with held | added
  · exact notExceeded older held
  · exact le_of_eq (keys older ((List.dropLast_subset extra) added))

theorem latest_append_older {extra : List Row}
    (newest : latest keyOf rows = some row)
    (older : ∀ added ∈ extra, keyOf added < keyOf row) :
    latest keyOf (rows ++ extra) = some row := by
  induction extra using List.reverseRecOn with
  | nil => rwa [List.append_nil]
  | append_singleton extra last induction =>
      rw [← List.append_assoc, latest_append_row,
        induction fun added member => older added (List.mem_append_left _ member)]
      have exceeded := older last (List.mem_append_right extra
        List.mem_cons_self)
      exact if_neg (not_le.mpr exceeded)

theorem latest_map (rows : List Row) {rewrite : Row → Row}
    (keepsKey : ∀ row, keyOf (rewrite row) = keyOf row) :
    latest keyOf (rows.map rewrite) = (latest keyOf rows).map rewrite := by
  induction rows using List.reverseRecOn with
  | nil => rfl
  | append_singleton rows _ induction =>
      rw [List.map_append, List.map_singleton, latest_append_row,
        latest_append_row, induction]
      cases latest keyOf rows with
      | none => rfl
      | some =>
          simp only [Option.map_some, keepsKey]
          split <;> rfl

/-! A ledger row with its place, and the order the ledger is read in. -/

section Places

variable {rows : List Row}

def At (rows : List Row) (entry : Nat × Row) : Prop :=
  rows[entry.1]? = some entry.2

instance [DecidableEq Row] (entry : Nat × Row) : Decidable (At rows entry) :=
  inferInstanceAs (Decidable (rows[entry.1]? = some entry.2))

def Earlier (first second : Nat × Row) : Prop :=
  keyOf first.2 < keyOf second.2 ∨
    keyOf first.2 = keyOf second.2 ∧ first.1 < second.1

theorem At.mem {entry : Nat × Row} (placed : At rows entry) :
    entry.2 ∈ rows :=
  List.mem_of_getElem? placed

theorem At.snoc {entry : Nat × Row} {last : Row}
    (placed : At (rows ++ [last]) entry) :
    At rows entry ∨ entry = (rows.length, last) := by
  obtain ⟨place, _⟩ := entry
  rcases Nat.lt_trichotomy place rows.length with inside | same | beyond
  · exact .inl ((List.getElem?_append_left inside).symm.trans placed)
  · subst same
    have equal := placed
    rw [At, List.getElem?_concat_length] at equal
    exact .inr (Prod.ext rfl (Option.some.inj equal).symm)
  · rw [At, List.getElem?_eq_none (by simpa using Nat.succ_le_of_lt beyond)]
      at placed
    cases placed

theorem At.append {entry : Nat × Row} (placed : At rows entry)
    (extra : List Row) : At (rows ++ extra) entry := by
  obtain ⟨inside, -⟩ := List.getElem?_eq_some_iff.mp placed
  exact (List.getElem?_append_left inside).trans placed

theorem At.eq_or_earlier {first second : Nat × Row} (placed : At rows first)
    (other : At rows second) :
    first = second ∨ Earlier keyOf first second ∨
      Earlier keyOf second first := by
  rcases lt_trichotomy (keyOf first.2) (keyOf second.2) with less | same | more
  · exact .inr (.inl (.inl less))
  · rcases Nat.lt_trichotomy first.1 second.1 with before | place | after
    · exact .inr (.inl (.inr ⟨same, before⟩))
    · have rows := placed
      rw [At, place, other] at rows
      exact .inl (Prod.ext place (Option.some.inj rows).symm)
    · exact .inr (.inr (.inr ⟨same.symm, after⟩))
  · exact .inr (.inr (.inl more))

theorem latest_filter_at {keep : Row → Bool} {row : Row}
    (newest : latest keyOf (rows.filter keep) = some row) :
    ∃ place, At rows (place, row) ∧ keep row = true ∧
      ∀ other, At rows other → keep other.2 = true →
        ¬ Earlier keyOf (place, row) other := by
  induction rows using List.reverseRecOn with
  | nil => cases newest
  | append_singleton rows last induction =>
      rw [List.filter_append] at newest
      by_cases kept : keep last = true
      · rw [List.filter_cons_of_pos kept, List.filter_nil] at newest
        by_cases exceeded :
          latest keyOf (rows.filter keep ++ [last]) = some last
        · obtain rfl := Option.some.inj (exceeded.symm.trans newest)
          refine ⟨rows.length, List.getElem?_concat_length, kept, ?_⟩
          intro other placed held earlier
          rcases placed.snoc with older | rfl
          · have least := latest_greatest keyOf exceeded other.2
              (List.mem_append_left _ (List.mem_filter.mpr ⟨older.mem, held⟩))
            obtain ⟨inside, -⟩ := List.getElem?_eq_some_iff.mp older
            rcases earlier with less | ⟨-, after⟩
            · exact absurd least (not_le.mpr less)
            · exact absurd inside (Nat.not_lt.mpr (Nat.le_of_lt after))
          · rcases earlier with less | ⟨-, after⟩
            · exact lt_irrefl _ less
            · exact lt_irrefl _ after
        · have unchanged := (latest_append_row_cases keyOf (rows.filter keep)
            last).resolve_left exceeded
          obtain ⟨place, placed, holds, unsurpassed⟩ :=
            induction (unchanged.symm.trans newest)
          refine ⟨place, placed.append _, holds, ?_⟩
          intro other found held earlier
          rcases found.snoc with older | rfl
          · exact unsurpassed other older held earlier
          · apply exceeded
            rw [latest_append_row, unchanged.symm.trans newest]
            apply if_pos
            rcases earlier with less | ⟨same, -⟩
            · exact le_of_lt less
            · exact le_of_eq same
      · rw [List.filter_cons_of_neg kept, List.filter_nil,
          List.append_nil] at newest
        obtain ⟨place, placed, holds, unsurpassed⟩ := induction newest
        refine ⟨place, placed.append _, holds, ?_⟩
        intro other found held earlier
        rcases found.snoc with older | rfl
        · exact unsurpassed other older held earlier
        · exact kept held

end Places

def Appends (property : Row → Prop) (rows later : List Row) : Prop :=
  ∃ extra, later = rows ++ extra ∧ ∀ row ∈ extra, property row

namespace Appends

variable {property : Row → Prop} {rows later final : List Row}

theorem refl (rows : List Row) : Appends property rows rows :=
  ⟨[], (List.append_nil rows).symm, fun _ member => absurd member
    List.not_mem_nil⟩

theorem single (rows : List Row) {row : Row} (holds : property row) :
    Appends property rows (rows ++ [row]) :=
  ⟨[row], rfl, by simpa using holds⟩

section Appends

variable (appends : Appends property rows later)

include appends

theorem mem {row : Row} (member : row ∈ later) : row ∈ rows ∨ property row := by
  obtain ⟨_, rfl, holds⟩ := appends
  exact (List.mem_append.mp member).imp id (holds row)

theorem trans (further : Appends property later final) :
    Appends property rows final := by
  obtain ⟨first, rfl, firstHolds⟩ := appends
  obtain ⟨second, rfl, secondHolds⟩ := further
  refine ⟨first ++ second, List.append_assoc .., fun row member => ?_⟩
  exact (List.mem_append.mp member).elim (firstHolds row) (secondHolds row)

theorem filter (condition : Row → Bool) :
    Appends (fun row => property row ∧ condition row = true)
      (rows.filter condition) (later.filter condition) := by
  obtain ⟨extra, rfl, holds⟩ := appends
  refine ⟨extra.filter condition, List.filter_append .., ?_⟩
  intro row member
  obtain ⟨old, selected⟩ := List.mem_filter.mp member
  exact ⟨holds row old, selected⟩

theorem latest_holds (reading : Row → Prop)
    (appended : ∀ row, property row → reading row)
    (initial : ∃ row, latest keyOf rows = some row ∧ reading row) :
    ∃ row, latest keyOf later = some row ∧ reading row := by
  obtain ⟨extra, rfl, holds⟩ := appends
  induction extra using List.reverseRecOn with
  | nil => rwa [List.append_nil]
  | append_singleton extra last induction =>
      rw [← List.append_assoc]
      have lastHolds := appended last
        (holds last (List.mem_append_right extra List.mem_cons_self))
      have before := induction fun row member =>
        holds row (List.mem_append_left _ member)
      rcases latest_append_row_cases keyOf (rows ++ extra) last with
        isLast | unchanged
      · exact ⟨last, isLast, lastHolds⟩
      · rwa [unchanged]

theorem latest_unchanged (reading : Row → Prop)
    (excluded : ∀ row, property row → ¬ reading row)
    (reads : ∀ row, latest keyOf later = some row → reading row) :
    latest keyOf later = latest keyOf rows := by
  obtain ⟨extra, rfl, holds⟩ := appends
  induction extra using List.reverseRecOn with
  | nil => rw [List.append_nil]
  | append_singleton extra last induction =>
      rw [← List.append_assoc] at reads ⊢
      have lastExcluded := excluded last
        (holds last (List.mem_append_right extra List.mem_cons_self))
      rcases latest_append_row_cases keyOf (rows ++ extra) last with
        isLast | unchanged
      · exact absurd (reads last isLast) lastExcluded
      · rw [unchanged] at reads ⊢
        exact induction
          (fun row member => holds row (List.mem_append_left _ member)) reads

end Appends

theorem run {State Action : Type*} {step : State → Action → State}
    {ledger : State → List Row} {writes : Action → Row → Prop}
    (appends : ∀ state action,
      Appends (writes action) (ledger state) (ledger (step state action)))
    (start : State) (actions : List Action) :
    Appends (fun row => ∃ action ∈ actions, writes action row)
      (ledger start) (ledger (run step start actions)) := by
  refine run_invariant_of_mem step (fun state => Appends _ _ (ledger state))
    (fun state action member before => before.trans ?_) (.refl _)
  obtain ⟨extra, equal, holds⟩ := appends state action
  exact ⟨extra, equal, fun row added => ⟨action, member, holds row added⟩⟩

end Appends

end AcpTask.Library
