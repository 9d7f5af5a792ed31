import AcpTask.Planner.Compiler

namespace AcpTask.Planner

open Library
open Policy (TrustedCapabilityDefinition)

variable {steps : List ValidatedStep}

def Known (steps : List ValidatedStep) : Prop :=
  ∀ step ∈ steps, ∀ dependency ∈ step.dependsOn,
    dependency ∈ steps.map ValidatedStep.stepId

theorem mem_dependencies {stepId dependency : String} :
    dependency ∈ dependencies steps stepId ↔
      ∃ step ∈ steps, step.stepId = stepId ∧ dependency ∈ step.dependsOn := by
  simp only [dependencies, List.mem_flatMap]
  refine exists_congr fun step => and_congr_right fun _ => ?_
  by_cases same : step.stepId = stepId <;> simp [same]

theorem count_outgoing (stepId dependency : String) :
    (outgoing steps dependency).count stepId =
      (dependencies steps stepId).count dependency := by
  induction steps with
  | nil => rfl
  | cons step _ induction =>
      unfold outgoing dependencies at induction ⊢
      rw [List.flatMap_cons, List.flatMap_cons, List.count_append,
        List.count_append, induction]
      congr 1
      by_cases same : step.stepId = stepId
      · rw [if_pos same, ← same, List.map_const', List.count_replicate_self,
          List.count_eq_length_filter]
        congr 2
      · rw [if_neg same, List.count_nil, List.count_eq_zero]
        intro member
        obtain ⟨_, _, this⟩ := List.mem_map.mp member
        exact same this

def graph (known : Known steps) : Dependencies String where
  nodes := (steps.map ValidatedStep.stepId).dedup
  needs := dependencies steps
  outgoing := outgoing steps
  distinct := List.nodup_dedup _
  closed stepId dependency member := by
    obtain ⟨step, inside, rfl, needed⟩ := mem_dependencies.mp member
    exact ⟨List.mem_dedup.mpr (List.mem_map_of_mem inside),
      List.mem_dedup.mpr (known step inside dependency needed)⟩
  balanced := count_outgoing

theorem checkDependencies_eq_ok :
    checkDependencies steps = .ok () ↔ Known steps ∧
      ∀ step ∈ steps, step.stepId ∉ step.dependsOn := by
  simp only [checkDependencies, forM_eq_ok, demand_eq_ok]
  constructor
  · intro checked
    exact ⟨fun step member dependency needed =>
      (checked step member dependency needed).1, fun step member needed =>
      (checked step member step.stepId needed).2 rfl⟩
  · rintro ⟨known, apart⟩ step member dependency needed
    refine ⟨known step member dependency needed, ?_⟩
    rintro rfl
    exact apart step member needed

variable {order : List String}

theorem topologicalOrder_eq_ok :
    topologicalOrder steps = .ok order ↔ ∃ known : Known steps,
      (∀ step ∈ steps, step.stepId ∉ step.dependsOn) ∧
        (graph known).placed = order ∧ order.length = steps.length := by
  unfold topologicalOrder
  simp only [bind_eq_ok, demand_eq_ok, pure, Except.pure, Except.ok.injEq]
  constructor
  · rintro ⟨_, checked, _, full, rfl⟩
    obtain ⟨known, apart⟩ := checkDependencies_eq_ok.mp checked
    exact ⟨known, apart, rfl, full⟩
  · rintro ⟨known, apart, rfl, full⟩
    exact ⟨(), checkDependencies_eq_ok.mpr ⟨known, apart⟩, (), full, rfl⟩

theorem topologicalOrder_isOk :
    (∃ order, topologicalOrder steps = .ok order) ↔
      (steps.map ValidatedStep.stepId).Nodup ∧ Known steps ∧
        Acyclic (dependencies steps) := by
  simp only [topologicalOrder_eq_ok]
  constructor
  · rintro ⟨_, known, _, rfl, full⟩
    have most := (graph known).placed_subperm.length_le
    have fewer := (List.dedup_sublist
      (steps.map ValidatedStep.stepId)).length_le
    rw [List.length_map] at fewer
    have unique : (steps.map ValidatedStep.stepId).dedup.length =
        (steps.map ValidatedStep.stepId).length := by
      rw [List.length_map]
      exact le_antisymm fewer (full ▸ most)
    refine ⟨?_, known, ?_⟩
    · have same := (List.dedup_sublist
        (steps.map ValidatedStep.stepId)).eq_of_length unique
      exact List.dedup_eq_self.mp same
    · refine Dependencies.length_placed_iff.mp (full.trans ?_)
      rw [← List.length_map (f := ValidatedStep.stepId), ← unique]
      rfl
  · rintro ⟨unique, known, acyclic⟩
    refine ⟨_, known, fun step member needed => ?_, rfl, ?_⟩
    · exact acyclic step.stepId (.single (mem_dependencies.mpr
        ⟨step, member, rfl, needed⟩))
    · rw [(@Dependencies.length_placed_iff _ _ (graph known)).mpr acyclic]
      show (steps.map ValidatedStep.stepId).dedup.length = steps.length
      rw [unique.dedup, List.length_map]

theorem topologicalOrder_perm (placed : topologicalOrder steps = .ok order) :
    order.Perm (steps.map ValidatedStep.stepId) := by
  obtain ⟨unique, _, acyclic⟩ := topologicalOrder_isOk.mp ⟨order, placed⟩
  obtain ⟨_, _, rfl, _⟩ := topologicalOrder_eq_ok.mp placed
  refine (Dependencies.placed_perm_of_length
    (Dependencies.length_placed_iff.mpr acyclic)).trans ?_
  show (steps.map ValidatedStep.stepId).dedup.Perm _
  rw [unique.dedup]

section Permuted

variable {others : List ValidatedStep}

section Perm

variable (perm : steps.Perm others)

include perm

theorem dependencies_perm (stepId : String) :
    (dependencies steps stepId).Perm (dependencies others stepId) :=
  perm.flatMap_right _

theorem outgoing_perm (dependency : String) :
    (outgoing steps dependency).Perm (outgoing others dependency) :=
  perm.flatMap_right _

theorem unplaced_perm :
    unplaced steps = unplaced others := by
  have ids := (perm.map ValidatedStep.stepId).dedup
  have needed : ∀ stepId, (dependencies steps stepId = []) ↔
      dependencies others stepId = [] := by
    intro stepId
    have same := dependencies_perm perm stepId
    constructor
    · intro none
      rw [none] at same
      exact same.symm.eq_nil
    · intro none
      rw [none] at same
      exact same.eq_nil
  unfold unplaced
  congr 1
  · funext stepId
    rw [(dependencies_perm perm stepId).length_eq]
  · simp only [needed]
    exact ascending_eq_of_perm (ids.filter _)

theorem checkDependencies_perm (checked : checkDependencies steps = .ok ()) :
    checkDependencies others = .ok () := by
  obtain ⟨known, apart⟩ := checkDependencies_eq_ok.mp checked
  refine checkDependencies_eq_ok.mpr ⟨fun step member dependency needed => ?_,
    fun step member => apart step (perm.mem_iff.mpr member)⟩
  exact (perm.map _).mem_iff.mp
    (known step (perm.mem_iff.mpr member) dependency needed)

theorem topologicalOrder_of_perm {order : List String}
    (placed : topologicalOrder steps = .ok order) :
    topologicalOrder others = .ok order := by
  unfold topologicalOrder at placed ⊢
  obtain ⟨_, checked, placed⟩ := bind_eq_ok.mp placed
  rw [checkDependencies_perm perm checked, ← unplaced_perm perm,
    ← perm.length_eq, ← (perm.map ValidatedStep.stepId).dedup.length_eq]
  rw [Kahn.drain_congr (outgoing_perm perm)] at placed
  exact placed

theorem find?_perm {stepId : String}
    (unique : (steps.map ValidatedStep.stepId).Nodup) :
    (steps.find? fun step => step.stepId == stepId) =
      others.find? fun step => step.stepId == stepId := by
  induction perm with
  | nil => rfl
  | cons _ _ induction =>
      rw [List.map_cons, List.nodup_cons] at unique
      rw [List.find?_cons, List.find?_cons, induction unique.2]
  | swap first second =>
      simp only [List.map_cons, List.nodup_cons, List.mem_cons,
        not_or] at unique
      rw [List.find?_cons, List.find?_cons, List.find?_cons, List.find?_cons]
      by_cases here : second.stepId = stepId
      · have there : first.stepId ≠ stepId := fun same =>
          unique.1.1 (here.trans same.symm)
        rw [beq_false_of_ne there, here, beq_self_eq_true]
      · rw [beq_false_of_ne here]
  | trans left _ first second =>
      rw [first unique]
      exact second ((left.map _).nodup_iff.mp unique)

end Perm

end Permuted

theorem stepOf_eq_ok (unique : (steps.map ValidatedStep.stepId).Nodup)
    {step : ValidatedStep} (member : step ∈ steps) :
    stepOf steps step.stepId = .ok step := by
  rw [stepOf, orElse_eq_ok]
  have found : (steps.find? fun other => other.stepId == step.stepId) =
      some step := by
    cases first : steps.find? fun other => other.stepId == step.stepId with
    | none =>
        have absent := List.find?_eq_none.mp first step member
        simp at absent
    | some other =>
        have same : other.stepId = step.stepId := by
          simpa using List.find?_some first
        rw [List.inj_on_of_nodup_map unique (List.mem_of_find?_eq_some first)
          member same]
  exact found

theorem ordered_steps (placed : topologicalOrder steps = .ok order) :
    ∃ ordered, order.mapM (stepOf steps) = .ok ordered ∧
      ordered.map ValidatedStep.stepId = order ∧ ordered.Perm steps := by
  have unique := (topologicalOrder_isOk.mp ⟨order, placed⟩).1
  have named : List.Forall₂ (fun stepId step => step.stepId = stepId)
      (steps.map ValidatedStep.stepId) steps := by
    rw [List.forall₂_map_left_iff, List.forall₂_same]
    exact fun _ _ => rfl
  obtain ⟨ordered, each, perm⟩ :=
    List.perm_comp_forall₂ (topologicalOrder_perm placed) named
  have ids : ordered.map ValidatedStep.stepId = order := by
    rw [← List.forall₂_eq_eq_eq]
    exact List.forall₂_map_left_iff.mpr each.flip
  refine ⟨ordered, mapM_eq_ok_iff.mpr ?_, ids, perm⟩
  rw [← ids, List.forall₂_map_left_iff, List.forall₂_same]
  exact fun step member => stepOf_eq_ok unique (perm.mem_iff.mp member)

def PlanDraft.DependsOn (draft : PlanDraft) (dependency stepId : String) :
    Prop :=
  ∃ step ∈ draft.steps, step.stepId = stepId ∧ dependency ∈ step.dependsOn

def PlanDraft.Known (draft : PlanDraft) : Prop :=
  ∀ dependency stepId, draft.DependsOn dependency stepId →
    dependency ∈ draft.steps.map PlanStep.stepId

def PlanDraft.Acyclic (draft : PlanDraft) : Prop :=
  ∀ stepId, ¬ Relation.TransGen draft.DependsOn stepId stepId

section Validated

variable {compiler : PlanCompiler} {runtime : Runtime} {tenantId : String}

def Validates (compiler : PlanCompiler) (runtime : Runtime)
    (tenantId : String) (step : PlanStep) (validated : ValidatedStep) : Prop :=
  ∃ disclosures, compiler.validateStep runtime tenantId step =
    .ok (validated, disclosures)

variable {disclosures : List Disclosure}

variable {seen : List String} {validated : List ValidatedStep}

theorem validateSteps_cons {step : PlanStep} {rest : List PlanStep} :
    compiler.validateSteps runtime tenantId seen (step :: rest) =
        .ok (validated, disclosures) ↔
      step.stepId ∉ seen ∧ ∃ first nested others more,
        compiler.validateStep runtime tenantId step = .ok (first, nested) ∧
        compiler.validateSteps runtime tenantId (step.stepId :: seen) rest =
          .ok (others, more) ∧
        validated = first :: others ∧ disclosures = nested ++ more := by
  simp only [PlanCompiler.validateSteps, bind_eq_ok, demand_eq_ok, pure,
    Except.pure, Except.ok.injEq, Prod.mk.injEq]
  constructor
  · rintro ⟨_, fresh, ⟨first, nested⟩, here, ⟨others, more⟩, later, rfl, rfl⟩
    exact ⟨fresh, first, nested, others, more, here, later, rfl, rfl⟩
  · rintro ⟨fresh, first, nested, others, more, here, later, rfl, rfl⟩
    exact ⟨(), fresh, (first, nested), here, (others, more), later, rfl, rfl⟩

variable {planned : List PlanStep}

theorem validateSteps_spec
    (passed : compiler.validateSteps runtime tenantId seen planned =
      .ok (validated, disclosures)) :
    (planned.map PlanStep.stepId).Nodup ∧
      List.Forall₂ (Validates compiler runtime tenantId) planned validated := by
  have unseen : ∀ {seen planned validated disclosures},
      compiler.validateSteps runtime tenantId seen planned =
        .ok (validated, disclosures) →
          ∀ step ∈ planned, step.stepId ∉ seen := by
    intro seen planned
    induction planned generalizing seen with
    | nil => exact fun _ step member => by cases member
    | cons _ _ induction =>
        intro validated disclosures passed step member
        obtain ⟨fresh, _, _, _, _, _, later, _⟩ := validateSteps_cons.mp passed
        rcases List.mem_cons.mp member with rfl | inside
        · exact fresh
        · exact fun before =>
            induction later step inside (List.mem_cons_of_mem _ before)
  induction planned generalizing seen validated disclosures with
  | nil =>
      cases passed
      exact ⟨List.nodup_nil, .nil⟩
  | cons _ _ induction =>
      obtain ⟨_, _, nested, _, _, here, later, rfl, _⟩ :=
        validateSteps_cons.mp passed
      obtain ⟨unique, each⟩ := induction later
      refine ⟨List.nodup_cons.mpr ⟨fun member => ?_, unique⟩,
        .cons ⟨nested, here⟩ each⟩
      obtain ⟨other, inside, same⟩ := List.mem_map.mp member
      exact unseen later other inside (same ▸ List.mem_cons_self)

theorem validateSteps_congr {others : List String}
    (same : ∀ stepId, stepId ∈ seen ↔ stepId ∈ others) (planned : List PlanStep) :
    compiler.validateSteps runtime tenantId seen planned =
      compiler.validateSteps runtime tenantId others planned := by
  induction planned generalizing seen others with
  | nil => rfl
  | cons step _ induction =>
      have more : ∀ stepId, stepId ∈ step.stepId :: seen ↔
          stepId ∈ step.stepId :: others := by
        simp only [List.mem_cons, same, implies_true]
      rw [PlanCompiler.validateSteps, PlanCompiler.validateSteps,
        induction more]
      simp only [same]

theorem validateSteps_perm {others : List PlanStep} (perm : planned.Perm others)
    (passed : compiler.validateSteps runtime tenantId seen planned =
      .ok (validated, disclosures)) :
    ∃ result more, compiler.validateSteps runtime tenantId seen others =
      .ok (result, more) ∧ validated.Perm result := by
  induction perm generalizing seen validated disclosures with
  | nil => exact ⟨validated, disclosures, passed, .refl _⟩
  | cons _ _ induction =>
      obtain ⟨fresh, first, nested, _, more, here, later, rfl, _⟩ :=
        validateSteps_cons.mp passed
      obtain ⟨result, other, again, same⟩ := induction later
      exact ⟨first :: result, nested ++ other, validateSteps_cons.mpr
        ⟨fresh, first, nested, result, other, here, again, rfl, rfl⟩,
        same.cons first⟩
  | swap left right =>
      obtain ⟨fresh, first, nested, _, _, here, later, rfl, _⟩ :=
        validateSteps_cons.mp passed
      obtain ⟨apart, second, deeper, result, more, there, last, rfl, _⟩ :=
        validateSteps_cons.mp later
      simp only [List.mem_cons, not_or] at apart
      have same : ∀ stepId, stepId ∈ left.stepId :: right.stepId :: seen ↔
          stepId ∈ right.stepId :: left.stepId :: seen := by
        intro stepId
        simp only [List.mem_cons]
        tauto
      rw [validateSteps_congr same] at last
      refine ⟨second :: first :: result, deeper ++ (nested ++ more),
        validateSteps_cons.mpr ⟨apart.2, second, deeper, first :: result,
          nested ++ more, there, validateSteps_cons.mpr ⟨?_, first, nested,
          result, more, here, last, rfl, rfl⟩, rfl, rfl⟩, .swap _ _ _⟩
      simp only [List.mem_cons, not_or]
      exact ⟨Ne.symm apart.1, fresh⟩
  | trans _ _ first second =>
      obtain ⟨_, _, passed, same⟩ := first passed
      obtain ⟨result, other, again, permuted⟩ := second passed
      exact ⟨result, other, again, same.trans permuted⟩

variable {draft : PlanDraft}

section Each

variable (each : List.Forall₂ (Validates compiler runtime tenantId) draft.steps validated)

include each

end Each

end Validated

section Compiled

variable {compiler : PlanCompiler} {runtime : Runtime} {draft : PlanDraft}
  {plan : CompiledPlan}

structure Compiles (compiler : PlanCompiler) (runtime : Runtime)
    (draft : PlanDraft) (ordered : List ValidatedStep) : Prop where
  shaped : draft.shape = .ok ()
  placed : ∃ validated disclosures order,
    compiler.validateSteps runtime draft.tenantId [] draft.steps =
      .ok (validated, disclosures) ∧
    topologicalOrder validated = .ok order ∧
    order.mapM (stepOf validated) = .ok ordered
  referenced : compiler.validateReferences runtime ordered = .ok ()
  disclosed : ∃ crossed, PlanCompiler.referenceDisclosures ordered = .ok crossed

def planHashes (runtime : Runtime) (draft : PlanDraft)
    (ordered : List ValidatedStep) : Except PlanError (String × String) := do
  let graph ←
    runtime.hashed (graphMaterial draft.tenantId draft.goal ordered)
  let capabilities ← runtime.hashed (capabilityMaterial ordered)
  return (graph, capabilities)

theorem compile_ok (compiled : compiler.compile runtime draft = .ok plan) :
    Compiles compiler runtime draft plan.steps ∧
      planHashes runtime draft plan.steps =
        .ok (plan.planGraphHash, plan.capabilitySnapshotHash) := by
  simp only [PlanCompiler.compile, bind_eq_ok, pure_eq_ok] at compiled
  obtain ⟨_, shaped, ⟨validated, disclosures⟩, passed, order, placed, _,
    listed, _, referenced, crossed, disclosed, _, hashed, _,
    signed, rfl⟩ := compiled
  refine ⟨⟨shaped, ⟨validated, disclosures, order, passed, placed, listed⟩,
    referenced, ⟨crossed, disclosed⟩⟩, ?_⟩
  simp only [planHashes, hashed, signed]
  rfl

theorem Compiles.perm {other : PlanDraft} {ordered : List ValidatedStep}
    (compiles : Compiles compiler runtime draft ordered)
    (tenant : other.tenantId = draft.tenantId)
    (perm : draft.steps.Perm other.steps) :
    Compiles compiler runtime other ordered := by
  obtain ⟨shaped, ⟨validated, disclosures, order, passed, placed, listed⟩,
    referenced, disclosed⟩ := compiles
  obtain ⟨result, more, again, same⟩ := validateSteps_perm perm passed
  refine ⟨?_, ⟨result, more, order, tenant ▸ again,
    topologicalOrder_of_perm same placed, ?_⟩, referenced, disclosed⟩
  · unfold PlanDraft.shape at shaped ⊢
    rw [tenant, ← perm.length_eq]
    exact shaped
  · have unique := (topologicalOrder_isOk.mp ⟨order, placed⟩).1
    rw [← listed]
    congr 1
    funext stepId
    rw [stepOf, stepOf, find?_perm same unique]

end Compiled

end AcpTask.Planner
