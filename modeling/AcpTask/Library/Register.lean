import Mathlib.Order.Basic

namespace AcpTask.Library

universe u

variable {Report : Type u} (replaces : Report → Report → Bool)

/-! A register holds at most one report.  The first one is taken, and a later
one takes its place when a test of the two says so. -/

def takeReport (held : Option Report) (report : Report) : Option Report :=
  match held with
  | none => some report
  | some current =>
      if replaces current report then some report else some current

def settle (held : Option Report) (reports : List Report) : Option Report :=
  reports.foldl (takeReport replaces) held

@[simp] theorem settle_nil (held : Option Report) :
    settle replaces held [] = held := rfl

@[simp] theorem settle_cons (held : Option Report) (report : Report)
    (rest : List Report) :
    settle replaces held (report :: rest) =
      settle replaces (takeReport replaces held report) rest := rfl

theorem settle_append (held : Option Report) (first second : List Report) :
    settle replaces held (first ++ second) =
      settle replaces (settle replaces held first) second :=
  List.foldl_append

/-- `top` replaces `report`, and is not replaced by it. -/
def Outdoes (top report : Report) : Prop :=
  replaces report top = true ∧ replaces top report = false

variable {replaces}

theorem takeReport_mem {held : Option Report} {report value : Report}
    (taken : takeReport replaces held report = some value) :
    value = report ∨ held = some value := by
  cases held with
  | none =>
      cases taken
      exact .inl rfl
  | some =>
      simp only [takeReport] at taken
      split at taken
      · cases taken
        exact .inl rfl
      · exact .inr taken

variable {reports : List Report}

theorem settle_mem {held : Option Report} {value : Report}
    (settled : settle replaces held reports = some value) :
    value ∈ reports ∨ held = some value := by
  induction reports generalizing held with
  | nil => exact .inr settled
  | cons report _ induction =>
      rcases induction settled with later | taken
      · exact .inl (List.mem_cons_of_mem report later)
      · rcases takeReport_mem taken with rfl | before
        · exact .inl List.mem_cons_self
        · exact .inr before

theorem settle_isSome {held : Report} :
    ∃ value, settle replaces (some held) reports = some value := by
  induction reports generalizing held with
  | nil => exact ⟨held, rfl⟩
  | cons _ _ induction =>
      simp only [settle_cons, takeReport]
      split <;> exact induction

theorem settle_some_of_ne_nil {reports : List Report} (some : reports ≠ []) :
    ∃ value, settle replaces none reports = .some value := by
  cases reports with
  | nil => exact absurd rfl some
  | cons => exact settle_isSome

theorem settle_of_not_replaced {held : Report}
    (kept : ∀ report ∈ reports, report ≠ held → replaces held report = false) :
    settle replaces (some held) reports = some held := by
  induction reports with
  | nil => rfl
  | cons report rest induction =>
      have taken : takeReport replaces (some held) report = some held := by
        simp only [takeReport]
        split
        · rename_i replaced
          by_contra other
          have differ : report ≠ held := fun same => other (same ▸ rfl)
          rw [kept report List.mem_cons_self differ] at replaced
          cases replaced
        · rfl
      rw [settle_cons, taken]
      exact induction fun later member =>
        kept later (List.mem_cons_of_mem report member)

theorem settle_of_outdoes {top : Report} (member : top ∈ reports)
    (outdoes : ∀ report ∈ reports, report ≠ top → Outdoes replaces top report) :
    settle replaces none reports = some top := by
  obtain ⟨before, _, rfl⟩ := List.append_of_mem member
  have arrived : takeReport replaces (settle replaces none before) top =
      some top := by
    cases held : settle replaces none before with
    | none => rfl
    | some current =>
        by_cases same : current = top
        · simp [takeReport, same]
        · have reported : current ∈ before :=
            (settle_mem held).resolve_right (by simp)
          have replaced := outdoes current
            (List.mem_append_left _ reported) same
          simp [takeReport, replaced.1]
  rw [settle_append, settle_cons, arrived]
  exact settle_of_not_replaced fun report later other =>
    (outdoes report
      (List.mem_append_right _ (List.mem_cons_of_mem top later)) other).2

section Orders

universe v

variable [DecidableEq Report] {Event : Type v} {read : Event → Option Report}

/-- Of the events that leave a register with one report in every order, each
that reports another is outdone: it would keep the register if its report came
first, and take it if its report came last. -/
theorem outdoes_of_settled {events : List Event} {top report : Report}
    (settled : ∀ other : List Event, other.Perm events →
      settle replaces none (other.filterMap read) = some top)
    (member : report ∈ events.filterMap read) (other : report ≠ top) :
    Outdoes replaces top report := by
  obtain ⟨event, inside, reports⟩ := List.mem_filterMap.mp member
  obtain ⟨before, after, rfl⟩ := List.append_of_mem inside
  have first : (event :: (before ++ after)).Perm (before ++ event :: after) :=
    List.perm_middle.symm
  constructor
  · by_contra kept
    rw [Bool.not_eq_true] at kept
    let tops := (before ++ after).filter fun event => read event == some top
    let rest := (before ++ after).filter fun event => !(read event == some top)
    have order : (event :: (tops ++ rest)).Perm (before ++ event :: after) :=
      ((List.filter_append_perm (fun event => read event == some top)
        (before ++ after)).cons event).trans first
    have stays : settle replaces (some report) (tops.filterMap read) =
        some report := by
      refine settle_of_not_replaced fun value later _ => ?_
      obtain ⟨source, isTop, reported⟩ := List.mem_filterMap.mp later
      have same := beq_iff_eq.mp (List.mem_filter.mp isTop).2
      rw [reported] at same
      rw [Option.some.inj same]
      exact kept
    have ends := settled _ order
    rw [List.filterMap_cons_some reports, List.filterMap_append, settle_cons,
      settle_append] at ends
    simp only [takeReport, stays] at ends
    rcases settle_mem ends with later | held
    · obtain ⟨source, isRest, reported⟩ := List.mem_filterMap.mp later
      have differs := (List.mem_filter.mp isRest).2
      rw [reported, beq_self_eq_true] at differs
      cases differs
    · exact other (Option.some.inj held)
  · have order : (before ++ after ++ [event]).Perm
        (before ++ event :: after) :=
      (List.perm_append_singleton event (before ++ after)).trans first
    have ends := settled _ order
    rw [List.filterMap_append, settle_append,
      List.filterMap_cons_some reports, List.filterMap_nil] at ends
    cases held : settle replaces none ((before ++ after).filterMap read) with
    | none =>
        rw [held] at ends
        exact absurd (Option.some.inj ends) other
    | some current =>
        rw [held] at ends
        simp only [settle_cons, settle_nil, takeReport] at ends
        split at ends
        · exact absurd (Option.some.inj ends) other
        · rename_i stays
          rw [Option.some.inj ends, Bool.not_eq_true] at stays
          exact stays

theorem settle_perm_iff {events : List Event} :
    (∀ other : List Event, other.Perm events →
        settle replaces none (other.filterMap read) =
          settle replaces none (events.filterMap read)) ↔
      events.filterMap read = [] ∨
      ∃ top ∈ events.filterMap read, ∀ report ∈ events.filterMap read,
        report ≠ top → Outdoes replaces top report := by
  constructor
  · intro same
    by_cases empty : events.filterMap read = []
    · exact .inl empty
    · obtain ⟨top, settled⟩ := @settle_some_of_ne_nil _ replaces _ empty
      have reported : top ∈ events.filterMap read :=
        (settle_mem settled).resolve_right (by simp)
      exact .inr ⟨top, reported, fun report member other =>
        outdoes_of_settled
          (fun order permuted => (same order permuted).trans settled)
          member other⟩
  · intro decided other permuted
    have reports := permuted.filterMap read
    rcases decided with empty | ⟨_, member, outdoes⟩
    · rw [empty] at reports ⊢
      rw [reports.eq_nil]
    · rw [settle_of_outdoes member outdoes]
      exact settle_of_outdoes (reports.mem_iff.mpr member)
        fun report later => outdoes report (reports.mem_iff.mp later)

end Orders

end AcpTask.Library

namespace AcpTask.Library

/-! Optimistic concurrency.  A row carries a version; a writer that has read it
may replace it later if the version is still the one it read.  What makes this
sound is that the version moves whenever the row is written: then an unchanged
version means that nothing was written since. -/

/-- What a reader keeps of the row: its version, and how many writes there had
been. -/
structure Ticket where
  version : Nat
  seen : Nat

namespace Ticket

/-- The version read is not ahead of the row, and level with it only when every
write was seen. -/
structure Fresh (ticket : Ticket) (version writes : Nat) : Prop where
  bounded : ticket.version ≤ version
  current : ticket.version = version → ticket.seen = writes

variable {ticket : Ticket} {version writes : Nat}

theorem Fresh.read (version writes : Nat) :
    Fresh ⟨version, writes⟩ version writes :=
  ⟨Nat.le_refl version, fun _ => rfl⟩

theorem Fresh.written (fresh : Fresh ticket version writes)
    {later : Nat} (moved : version < later) (laterWrites : Nat) :
    Fresh ticket later laterWrites where
  bounded := Nat.le_of_lt (Nat.lt_of_le_of_lt fresh.bounded moved)
  current := by
    intro level
    have outdated := fresh.bounded
    omega

end Ticket

end AcpTask.Library
