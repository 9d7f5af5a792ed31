import AcpTask.Workflow.Completed
import AcpTask.Workflow.Template

namespace AcpTask.Workflow

open Data
open Data.Value (get? lookup)
open Library

/-! Where the executor takes a value for a reference, and what `run_next` makes
of an input. -/

mutual
/-- What stands under `$ref` in each reference of a value, in the order in which
the executor comes to them. -/
def referenceNodes : Value → List Value
  | .dict items =>
      if isReference items then [lookup items "$ref"] else nodesInItems items
  | .list items => nodesInList items
  | _ => []

def nodesInItems : List (String × Value) → List Value
  | [] => []
  | (_, item) :: items => referenceNodes item ++ nodesInItems items

def nodesInList : List Value → List Value
  | [] => []
  | item :: items => referenceNodes item ++ nodesInList items
end

inductive Holds : Value → List String → Value → Prop
  | here {value : Value} : Holds value [] value
  | item {items : List (String × Value)} {part : String} {item value : Value}
      {path : List String} : get? items part = some item →
      Holds item path value → Holds (.dict items) (part :: path) value

def Provides (material : Material) (reference value : Value) : Prop :=
  ∃ text stepId field path source, reference = .str text ∧
    (text.toList.splitOn '.').map String.ofList = stepId :: field :: path ∧
    (material.steps.find? fun step => step.stepId == stepId) = some source ∧
    Holds (if field = "output" then source.output.getD (.dict [])
      else (material.receipt source.stepId).getD .none) path value

def Provided (material : Material) (reference : Value) : Prop :=
  ∃ value, Provides material reference value

section References

variable {material : Material}

variable {value : Value}

theorem subscript_eq_ok {item : Value} {part : String} :
    subscript value part = .ok item ↔
      ∃ items, value = .dict items ∧ get? items part = some item := by
  cases value with
  | dict items =>
      unfold subscript
      cases found : get? items part <;> simp [found]
  | _ => simp [subscript]

variable {error : ResolveError}

theorem subscript_caught {part : String}
    (raised : subscript value part = .error error) : error.caught = true := by
  unfold subscript at raised
  split at raised
  · split at raised <;> cases raised
    rfl
  all_goals
    cases raised
    rfl

theorem holds_iff {path : List String} {found : Value} :
    path.foldlM subscript value = .ok found ↔ Holds value path found := by
  induction path generalizing value with
  | nil =>
      constructor
      · intro same
        cases same
        exact .here
      · intro holds
        cases holds
        rfl
  | cons _ _ induction =>
      rw [List.foldlM_cons, bind_eq_ok]
      constructor
      · rintro ⟨item, here, rest⟩
        obtain ⟨_, rfl, present⟩ := subscript_eq_ok.mp here
        exact .item present (induction.mp rest)
      · intro holds
        cases holds with
        | item present holds =>
            exact ⟨_, subscript_eq_ok.mpr ⟨_, rfl, present⟩,
              induction.mpr holds⟩

theorem foldlM_caught {path : List String}
    (raised : path.foldlM subscript value = .error error) :
    error.caught = true := by
  induction path generalizing value with
  | nil => cases raised
  | cons part _ induction =>
      rw [List.foldlM_cons] at raised
      cases here : subscript value part with
      | error =>
          rw [here] at raised
          cases raised
          exact subscript_caught here
      | ok =>
          rw [here] at raised
          exact induction raised

theorem resolveReference_eq_ok {reference : Value} :
    resolveReference material reference = .ok value ↔
      Provides material reference value := by
  unfold Provides
  cases reference with
  | str text =>
      simp only [resolveReference, Value.str.injEq, exists_and_left,
        exists_eq_left']
      generalize (text.toList.splitOn '.').map String.ofList = parts
      rcases parts with _ | ⟨stepId, _ | ⟨field, path⟩⟩
      · cases material.steps.find? _ <;> simp
      · cases material.steps.find? _ <;> simp
      · rw [List.headD_cons]
        cases found : material.steps.find? fun step =>
            step.stepId == stepId with
        | none => simp [found]
        | some => simp [found, holds_iff]
  | _ => simp [resolveReference]

theorem resolveReference_caught {reference : Value}
    (raised : resolveReference material reference = .error error) :
    error.caught = true ↔ Planner.IsText reference := by
  unfold resolveReference at raised
  split at raised
  · rename_i text
    refine ⟨fun _ => ⟨text, rfl⟩, fun _ => ?_⟩
    dsimp only at raised
    split at raised
    · cases raised
      rfl
    · split at raised
      · cases raised
        rfl
      · exact foldlM_caught raised
  · rename_i other
    cases raised
    refine ⟨fun caught => (by cases caught), ?_⟩
    rintro ⟨text, rfl⟩
    exact absurd rfl (other text)

end References

section Inputs

variable {material : Material}

def raises {Result : Type} (outcome : Except ResolveError Result) :
    Except ResolveError Unit :=
  outcome.map fun _ => ()

def checkReference (material : Material) (reference : Value) :
    Except ResolveError Unit :=
  raises (resolveReference material reference)

theorem raises_pair {First Rest Result : Type}
    (first : Except ResolveError First) (rest : Except ResolveError Rest)
    (combine : First → Rest → Result) :
    raises (first >>= fun head => rest >>= fun tail =>
        pure (combine head tail)) =
      raises first >>= fun _ => raises rest := by
  cases first <;> cases rest <;> rfl

theorem raises_map {First Result : Type} (first : Except ResolveError First)
    (wrap : First → Result) :
    raises (first >>= fun head => pure (wrap head)) = raises first := by
  cases first <;> rfl

mutual
theorem resolveInput_raises : ∀ value : Value,
    raises (resolveInput material value) =
      (referenceNodes value).forM (checkReference material)
  | .dict items => by
      rw [resolveInput_dict, referenceNodes]
      split
      · unfold raises
        rw [List.forM_eq_forM, List.forM_cons, checkReference, raises]
        cases resolveReference material (lookup items "$ref") <;> rfl
      · rw [raises_map, resolveItems_raises items]
  | .list items => by
      rw [resolveInput, referenceNodes, raises_map, resolveList_raises items]
  | .none | .bool _ | .int _ | .float _ | .str _ | .object _ => rfl

theorem resolveItems_raises : ∀ items : List (String × Value),
    raises (resolveItems material items) =
      (nodesInItems items).forM (checkReference material)
  | [] => rfl
  | (key, item) :: items => by
      rw [resolveItems, nodesInItems, List.forM_eq_forM, List.forM_append,
        raises_pair, resolveInput_raises item, resolveItems_raises items]
      rfl

theorem resolveList_raises : ∀ items : List Value,
    raises (resolveList material items) =
      (nodesInList items).forM (checkReference material)
  | [] => rfl
  | item :: items => by
      rw [resolveList, nodesInList, List.forM_eq_forM, List.forM_append,
        raises_pair, resolveInput_raises item, resolveList_raises items]
      rfl
end

theorem checkReference_eq_ok {reference : Value} :
    checkReference material reference = .ok () ↔
      Provided material reference := by
  unfold checkReference raises Provided
  cases resolved : resolveReference material reference with
  | ok value =>
      exact ⟨fun _ => ⟨value, resolveReference_eq_ok.mp resolved⟩, fun _ => rfl⟩
  | error =>
      refine ⟨fun raised => (by cases raised), ?_⟩
      rintro ⟨_, provides⟩
      rw [← resolveReference_eq_ok, resolved] at provides
      cases provides

theorem checkReference_eq_error {reference : Value} {error : ResolveError} :
    checkReference material reference = .error error ↔
      resolveReference material reference = .error error := by
  unfold checkReference raises
  cases resolveReference material reference <;> simp [Except.map]

theorem resolveInput_ok {value resolved : Value}
    (done : resolveInput material value = .ok resolved) :
    ∀ reference ∈ referenceNodes value, Provided material reference := by
  have passed := @resolveInput_raises material value
  rw [done] at passed
  intro reference member
  exact checkReference_eq_ok.mp (forM_eq_ok.mp passed.symm reference member)

theorem resolveInput_error {value : Value} {error : ResolveError}
    (raised : resolveInput material value = .error error) :
    ∃ before reference after,
      referenceNodes value = before ++ reference :: after ∧
        (∀ earlier ∈ before, Provided material earlier) ∧
        resolveReference material reference = .error error := by
  have failed := @resolveInput_raises material value
  rw [raised] at failed
  obtain ⟨before, reference, after, same, passed, fails⟩ :=
    forM_eq_error.mp failed.symm
  exact ⟨before, reference, after, same,
    fun earlier member => checkReference_eq_ok.mp (passed earlier member),
    checkReference_eq_error.mp fails⟩

def ProvidesPlain (material : Material) (references : List Value) : Prop :=
  ∀ reference ∈ references, ∀ value,
    Provides material reference value → referenceNodes value = []

theorem providesPlain_append {first second : List Value} :
    ProvidesPlain material (first ++ second) ↔
      ProvidesPlain material first ∧ ProvidesPlain material second :=
  List.forall_mem_append

theorem isReference_eq (items : List (String × Value)) :
    isReference items = (!(items.map Prod.fst).isEmpty &&
      (items.map Prod.fst).all (· == "$ref")) := by
  rw [isReference, List.all_map, List.isEmpty_map]
  rfl

theorem resolveItems_keys : ∀ {items others : List (String × Value)},
    resolveItems material items = .ok others →
      others.map Prod.fst = items.map Prod.fst
  | [], _, done => by
      cases done
      rfl
  | (key, item) :: items, others, done => by
      rw [resolveItems] at done
      obtain ⟨_, _, more⟩ := bind_eq_ok.mp done
      obtain ⟨_, later, same⟩ := bind_eq_ok.mp more
      cases same
      rw [List.map_cons, List.map_cons, resolveItems_keys later]

mutual
theorem resolveInput_plain : ∀ {value resolved : Value},
    resolveInput material value = .ok resolved →
      (referenceNodes resolved = [] ↔
        ProvidesPlain material (referenceNodes value))
  | .dict items, resolved, done => by
      rw [resolveInput_dict] at done
      rw [referenceNodes]
      cases reference : isReference items with
      | true =>
          rw [reference, if_pos rfl] at done
          have provides := resolveReference_eq_ok.mp done
          rw [if_pos rfl]
          constructor
          · intro plain other member value found
            rw [List.mem_singleton.mp member] at found
            cases (resolveReference_eq_ok.mpr found).symm.trans done
            exact plain
          · intro plain
            exact plain _ List.mem_cons_self _ provides
      | false =>
          rw [reference, if_neg Bool.false_ne_true] at done
          obtain ⟨others, each, same⟩ := bind_eq_ok.mp done
          cases same
          have unlike : isReference others = false := by
            rw [isReference_eq, resolveItems_keys each, ← isReference_eq,
              reference]
          rw [referenceNodes, unlike, if_neg Bool.false_ne_true,
            if_neg Bool.false_ne_true]
          exact resolveItems_plain each
  | .list items, resolved, done => by
      rw [resolveInput] at done
      obtain ⟨_, each, same⟩ := bind_eq_ok.mp done
      cases same
      exact resolveList_plain each
  | .none, _, done | .bool _, _, done | .int _, _, done | .float _, _, done
  | .str _, _, done | .object _, _, done =>
      by cases done; simp [referenceNodes, ProvidesPlain]

theorem resolveItems_plain : ∀ {items others : List (String × Value)},
    resolveItems material items = .ok others →
      (nodesInItems others = [] ↔ ProvidesPlain material (nodesInItems items))
  | [], _, done => by
      cases done
      simp [nodesInItems, ProvidesPlain]
  | (key, item) :: items, others, done => by
      rw [resolveItems] at done
      obtain ⟨_, here, more⟩ := bind_eq_ok.mp done
      obtain ⟨_, later, same⟩ := bind_eq_ok.mp more
      cases same
      rw [nodesInItems, nodesInItems, List.append_eq_nil_iff,
        providesPlain_append, resolveInput_plain here,
        resolveItems_plain later]

theorem resolveList_plain : ∀ {items others : List Value},
    resolveList material items = .ok others →
      (nodesInList others = [] ↔ ProvidesPlain material (nodesInList items))
  | [], _, done => by
      cases done
      simp [nodesInList, ProvidesPlain]
  | item :: items, others, done => by
      rw [resolveList] at done
      obtain ⟨_, here, more⟩ := bind_eq_ok.mp done
      obtain ⟨_, later, same⟩ := bind_eq_ok.mp more
      cases same
      rw [nodesInList, nodesInList, List.append_eq_nil_iff,
        providesPlain_append, resolveInput_plain here,
        resolveList_plain later]
end

end Inputs

/-- The input leads on as it should: resolved, with no reference left in it, or
to the pause that records why it could not be. -/
inductive InputSettled (target : Target) (claim : Claim) : Phase → Prop
  | resolved {ready : ReadyStep} (plain : referenceNodes ready.input = []) :
      InputSettled target claim (.deciding target claim ready)
  | paused (reason : String) :
      InputSettled target claim (.writing target claim (.pauseByPolicy reason)
        false (.needsReplan claim.step.2))

/-- The first reference of an input that cannot be resolved is text, and if
all of them can be, what they name holds no reference. -/
structure Resolvable (material : Material) (input : Value) : Prop where
  texts : ∀ before reference after,
    referenceNodes input = before ++ reference :: after →
      (∀ earlier ∈ before, Provided material earlier) →
        ¬ Provided material reference → Planner.IsText reference
  plain : (∀ reference ∈ referenceNodes input, Provided material reference) →
    ProvidesPlain material (referenceNodes input)

theorem first_failing_unique {holds : Value → Prop} {first second : Value}
    {before after earlier later : List Value}
    (same : before ++ first :: after = earlier ++ second :: later)
    (passed : ∀ item ∈ before, holds item) (fails : ¬ holds first)
    (alsoPassed : ∀ item ∈ earlier, holds item) (alsoFails : ¬ holds second) :
    first = second := by
  induction before generalizing earlier with
  | nil =>
      cases earlier with
      | nil => exact (List.cons.inj same).1
      | cons =>
          obtain ⟨rfl, _⟩ := List.cons.inj same
          exact absurd (alsoPassed _ List.mem_cons_self) fails
  | cons _ _ induction =>
      cases earlier with
      | nil =>
          obtain ⟨rfl, _⟩ := List.cons.inj same
          exact absurd (passed _ List.mem_cons_self) alsoFails
      | cons =>
          exact induction (List.cons.inj same).2
            (List.forall_mem_cons.mp passed).2
            (List.forall_mem_cons.mp alsoPassed).2

theorem inputPhase_settled_iff (target : Target) (claim : Claim) (step : Step)
    (material : Material) :
    InputSettled target claim (inputPhase target claim step
        (resolveInput material step.input)) ↔
      Resolvable material step.input := by
  cases resolved : resolveInput material step.input with
  | ok =>
      have provided := resolveInput_ok resolved
      have plain := resolveInput_plain resolved
      constructor
      · intro settled
        cases settled with
        | resolved free =>
            refine ⟨?_, fun _ => plain.mp free⟩
            intro before reference after same _ missing
            refine absurd (provided reference ?_) missing
            rw [same]
            exact List.mem_append_right _ List.mem_cons_self
      · intro resolvable
        exact .resolved (plain.mpr (resolvable.plain provided))
  | error =>
      obtain ⟨before, reference, after, same, passed, raised⟩ :=
        resolveInput_error resolved
      have missing : ¬ Provided material reference := by
        rintro ⟨_, provides⟩
        rw [← resolveReference_eq_ok, raised] at provides
        cases provides
      have caught := resolveReference_caught raised
      constructor
      · intro settled
        have text : Planner.IsText reference := by
          refine caught.mp ?_
          by_contra escapes
          rw [inputPhase, if_neg escapes] at settled
          cases settled
        constructor
        · intro earlier other later split provided fails
          rw [← first_failing_unique (same.symm.trans split) passed missing
            provided fails]
          exact text
        · intro provided
          refine absurd (provided reference ?_) missing
          rw [same]
          exact List.mem_append_right _ List.mem_cons_self
      · intro resolvable
        have text := resolvable.texts before reference after same passed missing
        rw [inputPhase, if_pos (caught.mpr text)]
        exact .paused _

def WorkflowSystem.material (system : WorkflowSystem) (target : Target)
    (steps : List Step) : Material :=
  ⟨steps, fun stepId => getStepReceipt system.store
    (target.workflowRevisionId, stepId) target.tenantId⟩

/-- Whatever the completed steps have put out, the input of a claimed step
settles exactly when the first of its references that cannot be resolved is
text, and, if all can be, what they name holds no reference. -/
theorem claimed_input_settles_iff (config : ExecutorConfig)
    {system : WorkflowSystem} {worker : Nat} {target : Target} {claim : Claim}
    {steps : List Step} {step : Step}
    (loaded : system.workers worker = .loaded target claim steps)
    (found : (steps.find? fun step => step.stepId == claim.step.2) = some step)
    (now : Int) :
    InputSettled target claim
        ((advance config system worker .proceed now).workers worker) ↔
      Resolvable (system.material target steps) step.input := by
  have phase : (advance config system worker .proceed now).workers worker =
      inputPhase target claim step
        (resolveInput (system.material target steps) step.input) := by
    simp only [advance, loaded, found]
    exact Function.update_self ..
  rw [phase, inputPhase_settled_iff]

/-- A step of a compiled plan as `create_revision` is given it. -/
def plannedStep (hash : Value → String) (step : Planner.ValidatedStep) :
    PlannedStep where
  stepId := step.stepId
  capabilityId := step.capabilityId
  capabilityVersion := step.capabilityVersion
  connectionId := step.connectionId
  descriptorSnapshotHash := step.descriptorSnapshotHash
  credentialVersion := some step.credentialVersion
  inputHash := hash step.input
  input := step.input
  dependsOn := step.dependsOn
  effect := match step.effect with
    | .read => .read
    | .write => .write

def compiledSteps (draft : Planner.PlanDraft) : Option (List PlannedStep) :=
  (Planner.notionCompiler.compile Planner.plainRuntime draft).toOption.map
    fun plan => plan.steps.map (plannedStep fun _ => "input")

/-- A worker takes a step of a plan whose effects are these as far as its
input. -/
def loadingBy (effects : List StepEffect) (token : String) (now : Int) :
    List WorkflowAction :=
  .runNext 0 sampleTarget ::
    (effects.map (fun _ => Answer.proceed) ++
      [Answer.proceed, .lease token, .proceed]).map fun answer =>
        .advance 0 answer now

def approvedPlan (draft : Planner.PlanDraft) : List WorkflowAction :=
  [.createRun "run" "tenant" "user" "goal" 0,
    .createRevision sampleTarget "graph" ((compiledSteps draft).getD []) 0 1000,
    .recordApproval sampleTarget "graph" "user" 0 900]

/-- A page is read, and the text that the provider hands back goes into
another. -/
def copyingRun (text : Value) : List WorkflowAction :=
  approvedPlan Planner.copyPage ++ loadingBy [.read, .write] "1" 10 ++
    [Answer.proceed, .decision { allowed := true },
      .dispatched (.returned ⟨.dict [], .none, .dict [("text", text)]⟩),
      .proceed, .proceed].map (fun answer => .advance 0 answer 10) ++
    loadingBy [.read, .write] "2" 20

def filteredRun : List WorkflowAction :=
  approvedPlan Planner.filteredPage ++ loadingBy [.read] "1" 10

def copySteps : List Step :=
  ((compiledSteps Planner.copyPage).getD []).map fun planned =>
    { planned.row "revision" "run" "tenant" 0 1000 with
      output := some (.dict [("text", .str "x")]) }

def copyClaim : Claim := ⟨"2", ("revision", "write"), 1⟩

def copying : WorkflowSystem :=
  { WorkflowSystem.initial with
    workers := fun _ => .loaded sampleTarget copyClaim copySteps }

theorem copied_text_settles : ∃ step,
    (copySteps.find? fun step => step.stepId == copyClaim.step.2) = some step ∧
      Resolvable (copying.material sampleTarget copySteps) step.input := by
  have loaded : copying.workers 0 =
      .loaded sampleTarget copyClaim copySteps := rfl
  refine ⟨_, rfl, (claimed_input_settles_iff sampleConfig loaded rfl 20).mp ?_⟩
  exact .resolved rfl

def Phase.loads : Phase → Bool
  | .loaded .. => true
  | _ => false

/-- The phase of a worker whose call was ended by an exception, or that goes on
with an input that still holds a reference. -/
def Phase.unsettled : Phase → Bool
  | .idle none => true
  | .deciding _ _ ready => !(referenceNodes ready.input).isEmpty
  | _ => false

theorem not_settled {target : Target} {claim : Claim} {phase : Phase}
    (unsettled : phase.unsettled = true) :
    ¬ InputSettled target claim phase := by
  rintro (plain | reason)
  · simp [Phase.unsettled, plain] at unsettled
  · cases unsettled

theorem unsettled_run {actions : List WorkflowAction} {now : Int}
    (loads : ((workflowRun sampleConfig actions).workers 0).loads = true)
    (unsettled : ((advance sampleConfig (workflowRun sampleConfig actions) 0
      .proceed now).workers 0).unsettled = true) :
    ∃ target claim steps,
      (workflowRun sampleConfig actions).workers 0 =
          .loaded target claim steps ∧
        ¬ InputSettled target claim
          ((advance sampleConfig (workflowRun sampleConfig actions) 0
            .proceed now).workers 0) := by
  generalize (workflowRun sampleConfig actions).workers 0 = phase at loads ⊢
  cases phase with
  | loaded target claim steps =>
      exact ⟨target, claim, steps, rfl, not_settled unsettled⟩
  | _ => cases loads

/-- Both plans are accepted.  The number that stands for a reference ends the
call with an exception, and the reference that a provider hands back stays in
the input. -/
theorem accepted_inputs_unsettled :
    ((compiledSteps Planner.filteredPage).isSome = true ∧
      ∃ target claim steps,
        (workflowRun sampleConfig filteredRun).workers 0 =
            .loaded target claim steps ∧
          ¬ InputSettled target claim
            ((advance sampleConfig (workflowRun sampleConfig filteredRun) 0
              .proceed 10).workers 0)) ∧
    (compiledSteps Planner.copyPage).isSome = true ∧
      let actions := copyingRun (.dict [("$ref", .str "x")])
      ∃ target claim steps,
        (workflowRun sampleConfig actions).workers 0 =
            .loaded target claim steps ∧
          ¬ InputSettled target claim
            ((advance sampleConfig (workflowRun sampleConfig actions) 0
              .proceed 20).workers 0) :=
  ⟨⟨by decide +kernel,
      unsettled_run (by decide +kernel) (by decide +kernel)⟩,
    by decide +kernel,
    unsettled_run (by decide +kernel) (by decide +kernel)⟩

end AcpTask.Workflow
