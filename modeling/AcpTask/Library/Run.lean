import Mathlib.Data.List.Basic

namespace AcpTask.Library

universe u v

variable {State : Type u} {Action : Type v}

/-! Runs of a step function.  What is not determined by the state (which party
moves next, what the environment answers) is carried by the action, so that a
list of actions is one interleaving. -/

/-- The state reached from `start` by a list of actions, oldest first. -/
def run (step : State → Action → State) (start : State) : List Action → State
  | [] => start
  | action :: rest => run step (step start action) rest

section Step

variable (step : State → Action → State)

include step

@[simp] theorem run_nil (start : State) :
    run step start [] = start := rfl

@[simp] theorem run_cons (start : State) (action : Action) (rest : List Action) :
    run step start (action :: rest) = run step (step start action) rest := rfl

theorem run_append (start : State) (first second : List Action) :
    run step start (first ++ second) =
      run step (run step start first) second := by
  induction first generalizing start with
  | nil => rfl
  | cons action _ induction => exact induction (step start action)

theorem run_invariant (invariant : State → Prop)
    (preserved : ∀ state action, invariant state →
      invariant (step state action)) {start : State} (initial : invariant start)
    (actions : List Action) :
    invariant (run step start actions) := by
  induction actions generalizing start with
  | nil => exact initial
  | cons action _ induction => exact induction (preserved start action initial)

theorem run_invariant_of_mem (invariant : State → Prop) {actions : List Action}
    (preserved : ∀ state, ∀ action ∈ actions, invariant state →
      invariant (step state action)) {start : State} (initial : invariant start) :
    invariant (run step start actions) := by
  induction actions generalizing start with
  | nil => exact initial
  | cons action _ induction =>
      exact induction
        (fun state other member =>
          preserved state other (List.mem_cons_of_mem action member))
        (preserved start action List.mem_cons_self initial)

end Step

/-- Every action of the run is taken in a state that meets `condition`. -/
def Along (step : State → Action → State)
    (condition : State → Action → Prop) : State → List Action → Prop
  | _, [] => True
  | state, action :: rest =>
      condition state action ∧ Along step condition (step state action) rest

namespace Along

variable {step : State → Action → State} {condition : State → Action → Prop}

@[simp] theorem nil (state : State) : Along step condition state [] := trivial

@[simp] theorem cons_iff (state : State) (action : Action)
    (rest : List Action) :
    Along step condition state (action :: rest) ↔
      condition state action ∧
        Along step condition (step state action) rest := Iff.rfl

theorem append_iff (state : State) (earlier later : List Action) :
    Along step condition state (earlier ++ later) ↔
      Along step condition state earlier ∧
        Along step condition (run step state earlier) later := by
  induction earlier generalizing state with
  | nil => simp
  | cons _ _ induction =>
      rw [List.cons_append, cons_iff, cons_iff, induction, run_cons, and_assoc]

variable {other : State → Action → Prop}

theorem and_iff (state : State) (actions : List Action) :
    Along step (fun state action => condition state action ∧
        other state action) state actions ↔
      Along step condition state actions ∧ Along step other state actions := by
  induction actions generalizing state with
  | nil => simp
  | cons _ _ induction =>
      rw [cons_iff, cons_iff, cons_iff, induction]
      exact and_and_and_comm

theorem iff_forall (state : State) (actions : List Action) :
    Along step condition state actions ↔
      ∀ earlier action later, actions = earlier ++ action :: later →
        condition (run step state earlier) action := by
  constructor
  · rintro along earlier action later rfl
    exact ((append_iff state earlier _).mp along).2.1
  · intro everywhere
    induction actions generalizing state with
    | nil => exact nil state
    | cons action rest induction =>
        refine ⟨everywhere [] action rest rfl,
          induction (step state action) fun earlier other later split => ?_⟩
        exact everywhere (action :: earlier) other later (by rw [split]; rfl)

instance decidable [∀ state action, Decidable (condition state action)] :
    ∀ (state : State) (actions : List Action),
      Decidable (Along step condition state actions)
  | _, [] => isTrue trivial
  | state, action :: rest =>
      have := decidable (step state action) rest
      inferInstanceAs (Decidable (_ ∧ _))

variable {start : State} {actions : List Action}

theorem invariant (invariant : State → Prop)
    (preserved : ∀ state action, invariant state →
      condition state action → invariant (step state action))
    (initial : invariant start) (along : Along step condition start actions) :
    invariant (run step start actions) := by
  induction actions generalizing start with
  | nil => exact initial
  | cons action _ induction =>
      obtain ⟨here, later⟩ := along
      exact induction (preserved start action initial here) later

theorem of_invariant (invariant : State → Prop)
    (preserved : ∀ state action, invariant state →
      invariant (step state action))
    (holds : ∀ state action, invariant state → condition state action)
    (initial : invariant start) (actions : List Action) :
    Along step condition start actions := by
  induction actions generalizing start with
  | nil => exact nil start
  | cons action _ induction =>
      exact ⟨holds start action initial,
        induction (preserved start action initial)⟩

theorem imp_of_invariant (invariant : State → Prop)
    (implies : ∀ state action, invariant state → condition state action →
      other state action)
    (preserved : ∀ state action, invariant state → condition state action →
      invariant (step state action)) (initial : invariant start)
    (along : Along step condition start actions) :
    Along step other start actions := by
  induction actions generalizing start with
  | nil => exact nil start
  | cons action _ induction =>
      obtain ⟨here, later⟩ := along
      exact ⟨implies start action initial here,
        induction (preserved start action initial here) later⟩

theorem iff_of_invariant (invariant : State → Prop)
    (agree : ∀ state action, invariant state →
      (condition state action ↔ other state action))
    (preserved : ∀ state action, invariant state →
      other state action → invariant (step state action))
    (initial : invariant start) (actions : List Action) :
    Along step condition start actions ↔ Along step other start actions := by
  induction actions generalizing start with
  | nil => exact Iff.rfl
  | cons action _ induction =>
      rw [cons_iff, cons_iff, agree start action initial]
      exact and_congr_right fun here =>
        induction (preserved start action initial here)

/-- Where a step that meets an assumption keeps a property exactly when it
meets a condition too, the property holds throughout a run of such steps exactly
when all of them meet it. -/
theorem forall_prefix_iff_of_along {assumed : State → Action → Prop}
    (invariant property : State → Prop)
    (preserved : ∀ state action, invariant state →
      invariant (step state action))
    (keeps : ∀ state action, invariant state → assumed state action →
      property state → (property (step state action) ↔ condition state action))
    (initial : invariant start) (holds : property start)
    (assuming : Along step assumed start actions) :
    (∀ earlier later, actions = earlier ++ later →
      property (run step start earlier)) ↔
        Along step condition start actions := by
  induction actions generalizing start with
  | nil =>
      refine iff_of_true ?_ (nil start)
      intro earlier later split
      rw [(List.append_eq_nil_iff.mp split.symm).1]
      exact holds
  | cons action rest induction =>
      obtain ⟨first, others⟩ := assuming
      have next := keeps start action initial first holds
      rw [cons_iff]
      constructor
      · intro throughout
        have here : property (step start action) := throughout [action] rest rfl
        refine ⟨next.mp here, (induction (preserved start action initial)
          here others).mp ?_⟩
        intro earlier later split
        exact throughout (action :: earlier) later (by rw [split]; rfl)
      · rintro ⟨meets, along⟩ earlier later split
        have after := (induction (preserved start action initial)
          (next.mpr meets) others).mpr along
        cases earlier with
        | nil => exact holds
        | cons _ others =>
            obtain ⟨rfl, remaining⟩ := List.cons.inj split
            exact after others later remaining

/-- Where a step keeps a property exactly when it meets a condition, the
property holds throughout a run exactly when all its steps meet it. -/
theorem forall_prefix_iff (invariant property : State → Prop)
    (preserved : ∀ state action, invariant state →
      invariant (step state action))
    (keeps : ∀ state action, invariant state → property state →
      (property (step state action) ↔ condition state action))
    (initial : invariant start) (holds : property start) (actions : List Action) :
    (∀ earlier later, actions = earlier ++ later →
      property (run step start earlier)) ↔
        Along step condition start actions := by
  have assuming : Along step (fun _ _ => True) start actions :=
    of_invariant invariant preserved (fun _ _ _ => trivial) initial actions
  exact forall_prefix_iff_of_along invariant property preserved
    (fun state action holds _ => keeps state action holds) initial holds
    assuming

end Along

section Trace

universe w

variable {Output : Type w}

/-- The answers a machine gives along a list of actions, each beside the action
it answers. -/
def trace (step : State → Action → Output × State) :
    State → List Action → List (Action × Output)
  | _, [] => []
  | state, action :: rest =>
      (action, (step state action).1) :: trace step (step state action).2 rest

variable {step : State → Action → Output × State}

@[simp] theorem trace_nil (state : State) : trace step state [] = [] := rfl

@[simp] theorem trace_cons (state : State) (action : Action)
    (rest : List Action) :
    trace step state (action :: rest) =
      (action, (step state action).1) ::
        trace step (step state action).2 rest := rfl

theorem mem_actions_of_mem_trace {state : State} {actions : List Action}
    {event : Action × Output} (member : event ∈ trace step state actions) :
    event.1 ∈ actions := by
  induction actions generalizing state with
  | nil => cases member
  | cons action _ induction =>
      rcases List.mem_cons.mp member with rfl | later
      · exact List.mem_cons_self
      · exact List.mem_cons_of_mem action (induction later)

end Trace

section Log

universe w

variable {Output : Type w}

structure Logged (State : Type u) (Action : Type v) (Output : Type w) where
  state : State
  log : List (Action × Output)

def logStep (step : State → Action → Output × State)
    (logged : Logged State Action Output) (action : Action) :
    Logged State Action Output where
  state := (step logged.state action).2
  log := (action, (step logged.state action).1) :: logged.log

def Lawful {Event : Type w} (admissible : Event → List Event → Prop) :
    List Event → Prop
  | [] => True
  | event :: older => admissible event older ∧ Lawful admissible older

instance Lawful.decidable {Event : Type w}
    {admissible : Event → List Event → Prop}
    [∀ event older, Decidable (admissible event older)] :
    ∀ log, Decidable (Lawful admissible log)
  | [] => isTrue trivial
  | _ :: older =>
      @instDecidableAnd _ (Lawful admissible older) _ (decidable older)

/-- Of the events in a log that touch something, `event` is the latest. -/
def LatestOf {Event : Type w} (touches : Event → Prop) (event : Event)
    (log : List Event) : Prop :=
  ∃ newer older, log = newer ++ event :: older ∧
    ∀ other ∈ newer, ¬ touches other

variable {Event : Type w} {touches : Event → Prop} {log : List Event}

theorem latestOf_cons_iff {event last : Event} :
    LatestOf touches event (last :: log) ↔
      last = event ∨ (¬ touches last ∧ LatestOf touches event log) := by
  constructor
  · rintro ⟨newer, older, split, none⟩
    cases newer with
    | nil => exact .inl (List.cons.inj split).1
    | cons _ newer =>
        obtain ⟨rfl, rest⟩ := List.cons.inj split
        exact .inr ⟨none last List.mem_cons_self, newer, older, rest,
          fun other member => none other (.tail _ member)⟩
  · rintro (rfl | ⟨apart, newer, older, rfl, none⟩)
    · exact ⟨[], log, rfl, fun _ member => by cases member⟩
    · refine ⟨last :: newer, older, rfl, fun other member => ?_⟩
      rcases List.mem_cons.mp member with rfl | later
      · exact apart
      · exact none other later

theorem latestOf_unique {first second : Event} (one : touches first)
    (two : touches second) (latest : LatestOf touches first log)
    (also : LatestOf touches second log) : first = second := by
  induction log with
  | nil =>
      obtain ⟨newer, _, split, _⟩ := latest
      cases newer <;> cases split
  | cons _ _ induction =>
      rcases latestOf_cons_iff.mp latest with rfl | ⟨apart, rest⟩
      · rcases latestOf_cons_iff.mp also with same | ⟨other, _⟩
        · exact same
        · exact absurd one other
      · rcases latestOf_cons_iff.mp also with rfl | ⟨_, others⟩
        · exact absurd two apart
        · exact induction rest others

theorem LatestOf.imp {fewer : Event → Prop} {event : Event}
    (latest : LatestOf touches event log)
    (narrower : ∀ event, fewer event → touches event) :
    LatestOf fewer event log := by
  obtain ⟨newer, older, split, none⟩ := latest
  exact ⟨newer, older, split, fun other member touched =>
    none other member (narrower other touched)⟩

def InForce {Event : Type w} (orders lifts : Event → Prop)
    (log : List Event) : Prop :=
  ∃ event, orders event ∧
    LatestOf (fun event => orders event ∨ lifts event) event log

theorem not_inForce_nil (orders lifts : Event → Prop) :
    ¬ InForce orders lifts [] := by
  rintro ⟨_, _, newer, _, split, _⟩
  cases newer <;> cases split

theorem inForce_cons_iff {orders lifts : Event → Prop} {last : Event} :
    InForce orders lifts (last :: log) ↔
      orders last ∨ (¬ lifts last ∧ InForce orders lifts log) := by
  constructor
  · rintro ⟨event, ordered, latest⟩
    rcases latestOf_cons_iff.mp latest with rfl | ⟨apart, rest⟩
    · exact .inl ordered
    · exact .inr ⟨fun lifted => apart (.inr lifted), event, ordered, rest⟩
  · rintro (ordered | ⟨unlifted, event, ordered, rest⟩)
    · exact ⟨last, ordered, latestOf_cons_iff.mpr (.inl rfl)⟩
    · by_cases again : orders last
      · exact ⟨last, again, latestOf_cons_iff.mpr (.inl rfl)⟩
      · exact ⟨event, ordered, latestOf_cons_iff.mpr
          (.inr ⟨fun touched => touched.elim again unlifted, rest⟩)⟩

theorem lawful_run (step : State → Action → Output × State)
    (admissible : Action × Output → List (Action × Output) → Prop)
    (invariant : State → List (Action × Output) → Prop)
    (preserved : ∀ {state log} (action : Action), invariant state log →
      invariant (step state action).2 ((action, (step state action).1) :: log))
    (admits : ∀ {state log} (action : Action), invariant state log →
      admissible (action, (step state action).1) log)
    {start : State} (initial : invariant start []) (actions : List Action) :
    Lawful admissible (run (logStep step) ⟨start, []⟩ actions).log := by
  have both : ∀ logged : Logged State Action Output,
      invariant logged.state logged.log ∧ Lawful admissible logged.log →
        Lawful admissible (run (logStep step) logged actions).log := by
    intro logged holds
    exact (run_invariant (logStep step)
      (fun logged => invariant logged.state logged.log ∧
        Lawful admissible logged.log)
      (fun logged action holds => ⟨preserved action holds.1,
        admits action holds.1, holds.2⟩) holds actions).2
  exact both ⟨start, []⟩ ⟨initial, trivial⟩

end Log

end AcpTask.Library
