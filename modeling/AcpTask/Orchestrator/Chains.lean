import Mathlib.Data.List.Induction
import AcpTask.Data.Json
import AcpTask.Library.Items
import AcpTask.Library.Run

namespace AcpTask.Orchestrator

open Data
open Data.Value (get? lookup)
open Library

structure Subtask where
  id : String
  capability : String
  input : Value
  dependsOn : List String
deriving DecidableEq

/-- Why a call stops before its loop; `json.dumps` raises `TypeError`. -/
inductive Refusal
  | invalid (message : String)
  | raised
deriving DecidableEq

def dependencies? (prior : List String) : Value → Option (List String)
  | .list items => (items.mapM Value.asStr?).filter fun names =>
      names.all fun name => decide (name ∈ prior)
  | _ => none

def normalize (prior : List String) :
    Nat → List Value → Except Refusal (List Subtask)
  | _, [] => .ok []
  | index, raw :: rest => do
      let .dict raw := raw | .error (.invalid "each subtask must be an object")
      let .str stepId := (lookup raw "id").orElse
          (.str ("step-" ++ toString (index + 1)))
        | .error (.invalid "subtask ids must be unique")
      if stepId = "" ∨ stepId ∈ prior then
        .error (.invalid "subtask ids must be unique")
      let .str capability := lookup raw "capability"
        | .error (.invalid "capability is required")
      if capability = "" then .error (.invalid "capability is required")
      let .dict input := (get? raw "input").getD (.dict [])
        | .error (.invalid "subtask input must be an object")
      let some dependencies := dependencies? prior
          ((get? raw "depends_on").getD (.list []))
        | .error (.invalid "dependencies must reference earlier subtasks")
      if !(Value.dict input).serializable then .error .raised
      let others ← normalize (prior ++ [stepId]) (index + 1) rest
      .ok (⟨stepId, capability, .dict input, dependencies.eraseDups⟩ :: others)

def planSubtasks (subtasks : Value) (maxSubtasks : Nat) :
    Except Refusal (List Subtask) :=
  let invalid := .error (.invalid
    ("subtasks must contain between 1 and " ++ toString maxSubtasks ++
      " steps"))
  match subtasks with
  | .list items =>
      if items = [] ∨ maxSubtasks < items.length then invalid
      else normalize [] 0 items
  | _ => invalid

structure Completed where
  output : Value
  receipt : Value
deriving DecidableEq

abbrev CompletedSteps := List (String × Completed)

def follow : Value → List String → Option Value
  | value, [] => some value
  | .dict items, piece :: pieces =>
      (get? items piece).bind fun value => follow value pieces
  | _, _ :: _ => none

def Completed.field? (completed : Completed) : String → Option Value
  | "output" => some completed.output
  | "receipt" => some completed.receipt
  | _ => none

/-- `_chain_reference`; nothing where it raises `ChainReferenceError`. -/
def chainReference (path : String) (completed : CompletedSteps) :
    Option Value :=
  match Data.pieces path with
  | stepId :: field :: piece :: pieces => do
      let step ← Items.get? completed stepId
      let value ← step.field? field
      follow value (piece :: pieces)
  | _ => none

mutual
def resolveChainInput (completed : CompletedSteps) : Value → Option Value
  | .dict items =>
      match reference? items with
      | some path => chainReference path completed
      | none => (resolvePairs completed items).map .dict
  | .list items => (resolveItems completed items).map .list
  | value => some value

def resolveItems (completed : CompletedSteps) :
    List Value → Option (List Value)
  | [] => some []
  | item :: items => do
      let item ← resolveChainInput completed item
      let items ← resolveItems completed items
      some (item :: items)

def resolvePairs (completed : CompletedSteps) :
    List (String × Value) → Option (List (String × Value))
  | [] => some []
  | (key, item) :: items => do
      let item ← resolveChainInput completed item
      let items ← resolvePairs completed items
      some ((key, item) :: items)
end

inductive Report
  | returned (value : Value)
  | raised
deriving DecidableEq

def Report.completed? : Report → Option Completed
  | .returned (.dict result) =>
      if lookup result "success" = .bool false ∨
        (lookup result "status").isText "failed" ∨
        (lookup result "status").isText "error" then none
      else some ⟨(get? result "output").getD (.dict []),
        (get? result "receipt").getD (.dict [("status", .str "completed")])⟩
  | _ => none

structure Execution where
  chainId : String
  planned : Subtask
  step : Subtask
  report : Report
deriving DecidableEq

def executionOf (chainId : String) (executor : Subtask → Report)
    (original : Subtask) (taskInput : Value) : Execution :=
  let step := { original with input := taskInput }
  ⟨chainId, original, step, executor step⟩

structure Progress where
  completed : CompletedSteps
  log : List Execution

/-- The loop over the planned steps, with the failed step and its message.  The
log of the executions, newest first, is not part of the code. -/
def runSteps (chainId : String) (executor : Subtask → Report) :
    Progress → List Subtask → Progress × Option (String × String)
  | progress, [] => (progress, none)
  | progress, original :: rest =>
      if original.id ∈ progress.completed.map Prod.fst then
        runSteps chainId executor progress rest
      else if original.dependsOn.any
          fun dep => dep ∉ progress.completed.map Prod.fst then
        (progress, some (original.id, "A dependency was not completed."))
      else
        match resolveChainInput progress.completed original.input with
        | none => (progress,
            some (original.id, "A prior output reference is unavailable."))
        | some taskInput =>
            let execution := executionOf chainId executor original taskInput
            let log := execution :: progress.log
            match execution.report with
            | .raised => (⟨progress.completed, log⟩,
                some (original.id, "The subtask could not be completed."))
            | .returned value =>
                match (Report.returned value).completed? with
                | none => (⟨progress.completed, log⟩,
                    some (original.id, "The subtask reported a failure."))
                | some entry => runSteps chainId executor
                    ⟨progress.completed ++ [(original.id, entry)], log⟩ rest

structure Chain where
  fingerprint : String
  completed : CompletedSteps
deriving DecidableEq

structure ChainExecutor where
  chains : String → Option Chain
  log : List Execution

def escapeAscii (character : Char) : List Char :=
  let unit := fun code : Nat => ['\x5c', 'u', Nat.digitChar (code / 4096),
    Nat.digitChar (code / 256 % 16), Nat.digitChar (code / 16 % 16),
    Nat.digitChar (code % 16)]
  let code := character.toNat
  if code < 127 then [character]
  else if code < 65536 then unit code
  else unit (55296 + (code - 65536) / 1024) ++
    unit (56320 + (code - 65536) % 1024)

def Subtask.asValue (subtask : Subtask) : Value :=
  .dict [("id", .str subtask.id), ("capability", .str subtask.capability),
    ("input", subtask.input),
    ("depends_on", .list (subtask.dependsOn.map .str))]

/-- `json.dumps(subtasks, sort_keys=True, separators=(",", ":"))`. -/
def fingerprint? (subtasks : List Subtask) : Option String :=
  (Value.list (subtasks.map Subtask.asValue)).dumps.map fun text =>
    String.ofList (text.toList.flatMap escapeAscii)

structure ChainResult where
  status : String
  completed : List String
  outputs : List (String × Value)
  receipts : List (String × Value)
  failure : Option (String × String)
deriving DecidableEq

def chainResult (completed : CompletedSteps)
    (failure : Option (String × String)) : ChainResult where
  status := if failure.isSome then "partial_failure" else "complete"
  completed := completed.map Prod.fst
  outputs := completed.map fun item => (item.1, item.2.output)
  receipts := completed.map fun item => (item.1, item.2.receipt)
  failure := failure

/-- One call of `ChainExecutor.execute`: within a call no step is executed
twice, so an executor is what it answers for each step. -/
structure Call where
  chainId : Value
  subtasks : Value
  executor : Subtask → Report

/-- `self._chains.get(chain_id)`, or a new chain. -/
def ChainExecutor.chainOf (state : ChainExecutor) (chainId fingerprint : String) :
    Chain :=
  (state.chains chainId).getD ⟨fingerprint, []⟩

def ChainExecutor.proceed (state : ChainExecutor) (chainId : String)
    (chain : Chain) (subtasks : List Subtask) (executor : Subtask → Report) :
    ChainResult × ChainExecutor :=
  let (progress, failure) :=
    runSteps chainId executor ⟨chain.completed, state.log⟩ subtasks
  (chainResult progress.completed failure,
    ⟨Function.update state.chains chainId
      (some ⟨chain.fingerprint, progress.completed⟩), progress.log⟩)

def ChainExecutor.execute (state : ChainExecutor) (call : Call) :
    Except Refusal ChainResult × ChainExecutor :=
  match planSubtasks call.subtasks 5 with
  | .error refusal => (.error refusal, state)
  | .ok subtasks =>
      match call.chainId.asStr?.filter (· ≠ "") with
      | none => (.error (.invalid "chain_id is required"), state)
      | some chainId =>
          match fingerprint? subtasks with
          | none => (.error .raised, state)
          | some fingerprint =>
              let chain := state.chainOf chainId fingerprint
              if chain.fingerprint ≠ fingerprint then
                (.error (.invalid "an existing chain cannot change its plan"),
                  state)
              else
                let (result, later) :=
                  state.proceed chainId chain subtasks call.executor
                (.ok result, later)

def newExecutor : ChainExecutor := ⟨fun _ => none, []⟩

abbrev afterCalls (calls : List Call) : ChainExecutor :=
  run (fun state call => (state.execute call).2) newExecutor calls

/-! What an execution owes to the ones before it on its chain. -/

def SuppliedBy (older : List Execution) (chainId path : String)
    (value : Value) : Prop :=
  ∃ execution ∈ older, ∃ entry field stored pieces,
    execution.chainId = chainId ∧
      execution.report.completed? = some entry ∧
      Data.pieces path = execution.planned.id :: field :: pieces ∧
      entry.field? field = some stored ∧ follow stored pieces = some value

mutual
inductive Replaced (supplied : String → Value → Prop) : Value → Value → Prop
  | reference {items path value} (refers : reference? items = some path)
      (given : supplied path value) : Replaced supplied (.dict items) value
  | dict {items others} (plain : reference? items = none)
      (each : ReplacedPairs supplied items others) :
      Replaced supplied (.dict items) (.dict others)
  | list {items others} (each : ReplacedItems supplied items others) :
      Replaced supplied (.list items) (.list others)
  | leaf {value} (dict : ∀ items, value ≠ .dict items)
      (list : ∀ items, value ≠ .list items) : Replaced supplied value value

inductive ReplacedItems (supplied : String → Value → Prop) :
    List Value → List Value → Prop
  | nil : ReplacedItems supplied [] []
  | cons {item other items others} (head : Replaced supplied item other)
      (tail : ReplacedItems supplied items others) :
      ReplacedItems supplied (item :: items) (other :: others)

inductive ReplacedPairs (supplied : String → Value → Prop) :
    List (String × Value) → List (String × Value) → Prop
  | nil : ReplacedPairs supplied [] []
  | cons {key item other items others} (head : Replaced supplied item other)
      (tail : ReplacedPairs supplied items others) :
      ReplacedPairs supplied ((key, item) :: items) ((key, other) :: others)
end

structure Admissible (execution : Execution) (older : List Execution) :
    Prop where
  unrepeated : ∀ other ∈ older, other.chainId = execution.chainId →
    other.planned.id = execution.planned.id → other.report.completed? = none
  dependencies : ∀ dep ∈ execution.planned.dependsOn, ∃ other ∈ older,
    other.chainId = execution.chainId ∧ other.planned.id = dep ∧
      other.report.completed? ≠ none
  step : execution.step =
    { execution.planned with input := execution.step.input }
  references : Replaced (SuppliedBy older execution.chainId)
    execution.planned.input execution.step.input

def Grows (earlier later : ChainExecutor) : Prop :=
  ∀ chainId chain, earlier.chains chainId = some chain →
    ∃ grown, later.chains chainId = some grown ∧
      grown.fingerprint = chain.fingerprint ∧
      chain.completed <+: grown.completed

section Resolution

variable {completed : CompletedSteps} {supplied : String → Value → Prop}

mutual
theorem resolveChainInput_replaced
    (given : ∀ path value, chainReference path completed = some value →
      supplied path value) : ∀ {value result : Value},
    resolveChainInput completed value = some result →
      Replaced supplied value result
  | .dict items, result, resolved => by
      rw [resolveChainInput] at resolved
      split at resolved
      · rename_i path refers
        exact .reference refers (given _ _ resolved)
      · rename_i plain
        obtain ⟨others, each, rfl⟩ := Option.map_eq_some_iff.mp resolved
        exact .dict plain (resolvePairs_replaced given each)
  | .list items, result, resolved => by
      rw [resolveChainInput] at resolved
      obtain ⟨others, each, rfl⟩ := Option.map_eq_some_iff.mp resolved
      exact .list (resolveItems_replaced given each)
  | .none, _, rfl | .bool _, _, rfl | .int _, _, rfl | .float _, _, rfl
  | .str _, _, rfl | .object _, _, rfl => .leaf nofun nofun

theorem resolveItems_replaced
    (given : ∀ path value, chainReference path completed = some value →
      supplied path value) : ∀ {items others : List Value},
    resolveItems completed items = some others →
      ReplacedItems supplied items others
  | [], _, rfl => .nil
  | item :: items, others, resolved => by
      simp only [resolveItems, Option.bind_eq_bind, Option.bind_eq_some_iff]
        at resolved
      obtain ⟨_, head, _, tail, same⟩ := resolved
      obtain rfl := Option.some.inj same
      exact .cons (resolveChainInput_replaced given head)
        (resolveItems_replaced given tail)

theorem resolvePairs_replaced
    (given : ∀ path value, chainReference path completed = some value →
      supplied path value) : ∀ {items others : List (String × Value)},
    resolvePairs completed items = some others →
      ReplacedPairs supplied items others
  | [], _, rfl => .nil
  | (key, item) :: items, others, resolved => by
      simp only [resolvePairs, Option.bind_eq_bind, Option.bind_eq_some_iff]
        at resolved
      obtain ⟨_, head, _, tail, same⟩ := resolved
      obtain rfl := Option.some.inj same
      exact .cons (resolveChainInput_replaced given head)
        (resolvePairs_replaced given tail)
end

end Resolution

structure Faithful (chainId : String) (completed : CompletedSteps)
    (log : List Execution) : Prop where
  reported : ∀ item ∈ completed, ∃ execution ∈ log,
    execution.chainId = chainId ∧ execution.planned.id = item.1 ∧
      execution.report.completed? = some item.2
  kept : ∀ execution ∈ log, execution.chainId = chainId →
    execution.report.completed? ≠ none →
      execution.planned.id ∈ completed.map Prod.fst

variable {chainId : String} {completed : CompletedSteps}
  {log : List Execution} {execution : Execution}

theorem Faithful.cons (faithful : Faithful chainId completed log)
    (unchanged : execution.chainId = chainId →
      execution.report.completed? = none) :
    Faithful chainId completed (execution :: log) where
  reported item member := by
    obtain ⟨other, inside, rest⟩ := faithful.reported item member
    exact ⟨other, .tail _ inside, rest⟩
  kept other member own succeeded := by
    rcases List.mem_cons.mp member with rfl | inside
    · exact absurd (unchanged own) succeeded
    · exact faithful.kept other inside own succeeded

theorem Faithful.complete (faithful : Faithful chainId completed log)
    (own : execution.chainId = chainId) {entry : Completed}
    (succeeded : execution.report.completed? = some entry) :
    Faithful chainId (completed ++ [(execution.planned.id, entry)])
      (execution :: log) where
  reported item member := by
    rcases List.mem_append.mp member with old | new
    · obtain ⟨other, inside, rest⟩ := faithful.reported item old
      exact ⟨other, .tail _ inside, rest⟩
    · obtain rfl := List.mem_singleton.mp new
      exact ⟨execution, .head _, own, rfl, succeeded⟩
  kept other member ownToo reported := by
    rw [List.map_append, List.mem_append]
    rcases List.mem_cons.mp member with rfl | inside
    · exact .inr (.head _)
    · exact .inl (faithful.kept other inside ownToo reported)

theorem Faithful.supplies (faithful : Faithful chainId completed log)
    {path : String} {value : Value}
    (found : chainReference path completed = some value) :
    SuppliedBy log chainId path value := by
  unfold chainReference at found
  split at found
  case h_2 => cases found
  rename_i stepId field piece pieces split
  simp only [Option.bind_eq_bind, Option.bind_eq_some_iff] at found
  obtain ⟨entry, stepped, stored, chosen, followed⟩ := found
  obtain ⟨item, first, rfl⟩ := Option.map_eq_some_iff.mp stepped
  obtain ⟨execution, inside, own, named, reported⟩ :=
    faithful.reported item (List.mem_of_find?_eq_some first)
  have same : item.1 = stepId := by simpa using List.find?_some first
  exact ⟨execution, inside, item.2, field, stored, piece :: pieces, own,
    reported, by rw [split, named, same], chosen, followed⟩

theorem Faithful.admissible (faithful : Faithful chainId completed log)
    {original : Subtask} (fresh : original.id ∉ completed.map Prod.fst)
    (ready : (original.dependsOn.any
      fun dep => dep ∉ completed.map Prod.fst) = false)
    {taskInput : Value}
    (resolved : resolveChainInput completed original.input = some taskInput)
    (executor : Subtask → Report) :
    Admissible (executionOf chainId executor original taskInput) log where
  unrepeated other inside own same := by
    by_contra succeeded
    exact fresh (same ▸ faithful.kept other inside own succeeded)
  dependencies dep needed := by
    rw [List.any_eq_false] at ready
    obtain ⟨entry, member⟩ : ∃ entry, (dep, entry) ∈ completed := by
      simpa using ready dep needed
    obtain ⟨other, inside, own, named, reported⟩ := faithful.reported _ member
    exact ⟨other, inside, own, named, by simp [reported]⟩
  step := rfl
  references :=
    resolveChainInput_replaced (fun _ _ => faithful.supplies) resolved

structure Kept (chainId : String) (before after : Progress) : Prop where
  lawful : Lawful Admissible after.log
  faithful : Faithful chainId after.completed after.log
  grows : before.completed <+: after.completed
  others : ∀ other ≠ chainId, ∀ completed,
    Faithful other completed before.log → Faithful other completed after.log

theorem runSteps_kept (executor : Subtask → Report) (steps : List Subtask)
    {progress : Progress} (lawful : Lawful Admissible progress.log)
    (faithful : Faithful chainId progress.completed progress.log) :
    Kept chainId progress (runSteps chainId executor progress steps).1 := by
  have unchanged : Kept chainId progress progress :=
    ⟨lawful, faithful, List.prefix_rfl, fun _ _ _ => id⟩
  induction steps generalizing progress with
  | nil => exact unchanged
  | cons original rest induction =>
      unfold runSteps
      split
      · exact induction lawful faithful unchanged
      rename_i fresh
      split
      · exact unchanged
      rename_i ready
      split
      · exact unchanged
      rename_i taskInput resolved
      dsimp only
      generalize made :
        executionOf chainId executor original taskInput = execution
      have admitted : Admissible execution progress.log := made ▸
        faithful.admissible fresh (by simpa using ready) resolved executor
      have own : execution.chainId = chainId := made ▸ rfl
      have named : execution.planned.id = original.id := made ▸ rfl
      -- A step that failed is logged; nothing is kept of it.
      have failed (none : execution.report.completed? = none) :
          Kept chainId progress
            ⟨progress.completed, execution :: progress.log⟩ :=
        ⟨⟨admitted, lawful⟩, faithful.cons fun _ => none, List.prefix_rfl,
          fun other apart _ others =>
            others.cons fun same => absurd (same.symm.trans own) apart⟩
      split
      · rename_i raised
        exact failed (raised ▸ rfl)
      · rename_i value returned
        split
        · rename_i none
          exact failed (returned ▸ none)
        · rename_i entry succeeded
          rw [← returned] at succeeded
          have kept := faithful.complete own succeeded
          rw [named] at kept
          have later := @induction
            ⟨progress.completed ++ [(original.id, entry)],
              execution :: progress.log⟩ ⟨admitted, lawful⟩ kept
            ⟨⟨admitted, lawful⟩, kept, List.prefix_rfl, fun _ _ _ => id⟩
          exact ⟨later.lawful, later.faithful,
            (List.prefix_append _ _).trans later.grows,
            fun other apart completed others => later.others other apart
              completed (others.cons fun same =>
                absurd (same.symm.trans own) apart)⟩

def ChainExecutor.completedSteps (state : ChainExecutor) (chainId : String) :
    CompletedSteps :=
  ((state.chains chainId).map Chain.completed).getD []

structure ChainExecutor.Sound (state : ChainExecutor) : Prop where
  lawful : Lawful Admissible state.log
  faithful : ∀ chainId,
    Faithful chainId (state.completedSteps chainId) state.log

theorem ChainExecutor.Sound.step {state : ChainExecutor} (sound : state.Sound)
    (call : Call) :
    (state.execute call).2.Sound ∧ Grows state (state.execute call).2 := by
  have unchanged : state.Sound ∧ Grows state state :=
    ⟨sound, fun _ chain found => ⟨chain, found, rfl, List.prefix_rfl⟩⟩
  unfold execute
  split
  · exact unchanged
  rename_i subtasks _
  split
  · exact unchanged
  rename_i chainId _
  split
  · exact unchanged
  rename_i fingerprint _
  dsimp only
  split
  · exact unchanged
  have start : (state.chainOf chainId fingerprint).completed =
      state.completedSteps chainId := by
    unfold chainOf completedSteps
    cases state.chains chainId <;> rfl
  have kept := @runSteps_kept chainId call.executor subtasks
    ⟨(state.chainOf chainId fingerprint).completed, state.log⟩
    sound.lawful (start ▸ sound.faithful chainId)
  refine ⟨⟨kept.lawful, fun other => ?_⟩, fun other chain found => ?_⟩
  · by_cases same : other = chainId
    · subst same
      simpa [completedSteps, proceed] using kept.faithful
    · simpa [completedSteps, proceed, same] using
        kept.others other same _ (sound.faithful other)
  · by_cases same : other = chainId
    · subst same
      refine ⟨_, by simp [proceed]; rfl, ?_, ?_⟩
      · simp [chainOf, found]
      · simpa [chainOf, found] using kept.grows
    · exact ⟨chain, by simpa [proceed, same] using found, rfl, List.prefix_rfl⟩

theorem afterCalls_sound (calls : List Call) : (afterCalls calls).Sound := by
  refine run_invariant _ _ (fun _ call sound => (sound.step call).1)
    ⟨trivial, fun chainId => ⟨nofun, nofun⟩⟩ calls

theorem chains_do_not_repeat (calls : List Call) :
    Lawful Admissible (afterCalls calls).log ∧
      ∀ earlier later, calls = earlier ++ later →
        Grows (afterCalls earlier) (afterCalls calls) := by
  refine ⟨(afterCalls_sound calls).lawful, ?_⟩
  rintro earlier later rfl
  induction later using List.reverseRecOn with
  | nil =>
      rw [List.append_nil]
      exact fun _ chain found => ⟨chain, found, rfl, List.prefix_rfl⟩
  | append_singleton later call induction =>
      intro chainId chain found
      obtain ⟨grown, stored, plan, more⟩ := induction chainId chain found
      rw [← List.append_assoc, afterCalls, run_append]
      obtain ⟨last, storedLast, samePlan, most⟩ :=
        ((afterCalls_sound (earlier ++ later)).step call).2 chainId grown stored
      exact ⟨last, storedLast, samePlan.trans plan, more.trans most⟩

def annotatedReference : List (String × Value) :=
  [("$ref", .str "step-1.output.id"), ("note", .str "the invitation")]

def annotatedPlan : Value :=
  .list [.dict [("id", .str "step-1"), ("capability", .str "calendar.create")],
    .dict [("id", .str "step-2"), ("capability", .str "gmail.send"),
      ("input", .dict [("event", .dict annotatedReference)]),
      ("depends_on", .list [.str "step-1"])]]

/-- An object with a second key is no reference: the executor gets it as it
stands in the plan. -/
theorem annotated_reference_kept :
    ∃ execution ∈ (afterCalls [⟨.str "chain", annotatedPlan, fun _ =>
        .returned (.dict [("output", .dict [("id", .str "event")])])⟩]).log,
      execution.step.input = .dict [("event", .dict annotatedReference)] ∧
        (get? annotatedReference "$ref").isSome := by
  have kept : ((afterCalls [⟨.str "chain", annotatedPlan, fun _ =>
      .returned (.dict [("output", .dict [("id", .str "event")])])⟩]).log.any
    fun execution => decide (execution.step.input =
      .dict [("event", .dict annotatedReference)])) = true := by
    decide +kernel
  obtain ⟨execution, member, same⟩ := List.any_eq_true.mp kept
  exact ⟨execution, member, of_decide_eq_true same, rfl⟩

end AcpTask.Orchestrator
