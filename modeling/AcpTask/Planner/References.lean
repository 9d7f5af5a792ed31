import AcpTask.Planner.Order

namespace AcpTask.Planner

open Data
open Data.JsonSchema (members sizeOf_member)
open Data.Value (get? lookup)
open Library
open Policy (TrustedCapabilityDefinition)

inductive Refers (named : Value) : List String → Value → Prop
  | here : Refers named [] (.dict [("$ref", named)])
  | item {items : List Value} {index : Nat} {item : Value}
      {path : List String} : items[index]? = some item →
      Refers named path item →
      Refers named (toString index :: path) (.list items)
  | entry {items : Items} {key : String} {item : Value}
      {path : List String} : (key, item) ∈ items →
      Refers named path item →
      Refers named (key :: path) (.dict items)

def IsText (named : Value) : Prop := ∃ text, named = .str text

variable {items : Items} {reference : String}

theorem reference?_eq_some :
    reference? items = some reference ↔ items = [("$ref", .str reference)] := by
  constructor
  · intro found
    unfold reference? at found
    split at found
    · cases found
      rfl
    · cases found
  · rintro rfl
    rfl

variable {path : List String}

theorem refers_list {named : Value} {items : List Value} :
    Refers named path (.list items) ↔
      ∃ (index : Nat) (item : Value) (rest : List String),
      items[index]? = some item ∧ path = toString index :: rest ∧
        Refers named rest item := by
  constructor
  · intro refers
    cases refers with
    | item placed refers => exact ⟨_, _, _, placed, rfl, refers⟩
  · rintro ⟨_, _, _, placed, rfl, refers⟩
    exact .item placed refers

theorem refers_dict (plain : reference? items = none) :
    Refers (.str reference) path (.dict items) ↔ ∃ key item rest,
      (key, item) ∈ items ∧ path = key :: rest ∧
        Refers (.str reference) rest item := by
  constructor
  · intro refers
    cases refers with
    | here => cases plain
    | entry member refers => exact ⟨_, _, _, member, rfl, refers⟩
  · rintro ⟨_, _, _, member, rfl, refers⟩
    exact .entry member refers

theorem refers_reference {other : String} :
    Refers (.str reference) path (.dict [("$ref", .str other)]) ↔
      path = [] ∧ reference = other := by
  constructor
  · intro refers
    cases refers with
    | here => exact ⟨rfl, rfl⟩
    | entry member refers =>
        cases List.mem_singleton.mp member
        cases refers
  · rintro ⟨rfl, rfl⟩
    exact .here

mutual
theorem mem_referencesWithPaths : ∀ (value : Value) (base : List String)
    (found : List String × String),
    found ∈ referencesWithPaths base value ↔
      ∃ path, found.1 = base ++ path ∧ Refers (.str found.2) path value
  | .dict items, base, found => by
      rw [referencesWithPaths]
      split
      · rename_i reference named
        rw [reference?_eq_some] at named
        subst named
        simp only [List.mem_singleton, refers_reference, Prod.ext_iff]
        constructor
        · rintro ⟨same, rfl⟩
          exact ⟨[], by simpa using same, rfl, rfl⟩
        · rintro ⟨_, same, rfl, rfl⟩
          exact ⟨by simpa using same, rfl⟩
      · rename_i plain
        rw [mem_referencesInPairs items base found]
        simp only [refers_dict plain]
        constructor
        · rintro ⟨key, item, rest, member, same, refers⟩
          exact ⟨key :: rest, by simpa using same, key, item, rest, member, rfl,
            refers⟩
        · rintro ⟨_, same, key, item, rest, member, rfl, refers⟩
          exact ⟨key, item, rest, member, by simpa using same, refers⟩
  | .list items, base, found => by
      rw [referencesWithPaths, mem_referencesInItems items base 0 found]
      simp only [refers_list, Nat.zero_add]
      constructor
      · rintro ⟨index, item, rest, placed, same, refers⟩
        exact ⟨toString index :: rest, by simpa using same, index, item, rest,
          placed, rfl, refers⟩
      · rintro ⟨_, same, index, item, rest, placed, rfl, refers⟩
        exact ⟨index, item, rest, placed, by simpa using same, refers⟩
  | .none, base, found | .bool _, base, found | .int _, base, found
  | .float _, base, found | .str _, base, found | .object _, base, found => by
      exact ⟨fun member => (by cases member),
        fun ⟨_, _, refers⟩ => by cases refers⟩

theorem mem_referencesInItems : ∀ (items : List Value) (base : List String)
    (start : Nat) (found : List String × String),
    found ∈ referencesInItems base start items ↔
      ∃ (index : Nat) (item : Value) (rest : List String),
        items[index]? = some item ∧
        found.1 = base ++ toString (start + index) :: rest ∧
          Refers (.str found.2) rest item
  | [], base, start, found => by
      simp [referencesInItems]
  | item :: items, base, start, found => by
      rw [referencesInItems, List.mem_append,
        mem_referencesWithPaths item _ found,
        mem_referencesInItems items base (start + 1) found]
      constructor
      · rintro (⟨rest, same, refers⟩ |
          ⟨index, other, rest, placed, same, refers⟩)
        · exact ⟨0, item, rest, rfl, by simpa using same, refers⟩
        · refine ⟨index + 1, other, rest, placed, ?_, refers⟩
          rw [same, Nat.add_right_comm, Nat.add_assoc]
      · rintro ⟨index, other, rest, placed, same, refers⟩
        cases index with
        | zero =>
            cases placed
            exact .inl ⟨rest, by simpa using same, refers⟩
        | succ index =>
            refine .inr ⟨index, other, rest, placed, ?_, refers⟩
            rw [same, Nat.add_right_comm, Nat.add_assoc]

theorem mem_referencesInPairs : ∀ (items : Items) (base : List String)
    (found : List String × String),
    found ∈ referencesInPairs base items ↔
      ∃ key item rest, (key, item) ∈ items ∧
        found.1 = base ++ key :: rest ∧ Refers (.str found.2) rest item
  | [], base, found => by
      simp [referencesInPairs]
  | (key, item) :: items, base, found => by
      rw [referencesInPairs, List.mem_append,
        mem_referencesWithPaths item _ found,
        mem_referencesInPairs items base found]
      constructor
      · rintro (⟨rest, same, refers⟩ |
          ⟨name, other, rest, member, same, refers⟩)
        · exact ⟨key, item, rest, List.mem_cons_self, by simpa using same,
            refers⟩
        · exact ⟨name, other, rest, List.mem_cons_of_mem _ member, same, refers⟩
      · rintro ⟨name, other, rest, member, same, refers⟩
        rcases List.mem_cons.mp member with this | member
        · cases this
          exact .inl ⟨rest, by simpa using same, refers⟩
        · exact .inr ⟨name, other, rest, member, same, refers⟩
end

/-- A property of the schema or of an alternative of it, and so on down the
path. -/
inductive Declares : List String → Value → Prop
  | here {items : Items} : Declares [] (.dict items)
  | property {items properties : Items} {part : String} {child : Value}
      {path : List String} :
      get? items "properties" = some (.dict properties) →
      get? properties part = some child → Declares path child →
      Declares (part :: path) (.dict items)
  | alternative {items : Items} {keyword : String} {member : Value}
      {path : List String} : keyword ∈ ["oneOf", "anyOf", "allOf"] →
      member ∈ members items keyword → Declares path member →
      Declares path (.dict items)

variable {isDigit : Char → Bool}

theorem mem_schemaPart {part : String} {candidate : Value} :
    candidate ∈ schemaPart isDigit false part (.dict items) ↔
      ∃ properties child, get? items "properties" = some (.dict properties) ∧
        get? properties part = some child ∧
          candidate ∈ schemaAlternatives child := by
  rw [schemaPart]
  constructor
  · intro member
    split at member
    · rename_i properties found
      split at member
      · rename_i child named
        exact ⟨properties, child, found, named, member⟩
      · cases member
    · cases member
  · rintro ⟨properties, child, found, named, member⟩
    rw [found]
    dsimp only
    rw [named]
    exact member

theorem foldl_schemaPart (path : List String) (candidates : List Value) :
    path.foldl (fun candidates part =>
        candidates.flatMap (schemaPart isDigit false part)) candidates ≠ [] ↔
      ∃ candidate ∈ candidates, path.foldl (fun candidates part =>
        candidates.flatMap (schemaPart isDigit false part)) [candidate] ≠
          [] := by
  induction path generalizing candidates with
  | nil =>
      simp only [List.foldl_nil]
      exact ⟨fun some => (List.exists_mem_of_ne_nil _ some).imp
        fun candidate member => ⟨member, List.cons_ne_nil _ _⟩,
        fun ⟨_, member, _⟩ => List.ne_nil_of_mem member⟩
  | cons _ _ induction =>
      simp only [List.foldl_cons, List.flatMap_singleton]
      rw [induction]
      simp only [List.mem_flatMap]
      constructor
      · rintro ⟨next, ⟨candidate, member, inside⟩, rest⟩
        exact ⟨candidate, member, (induction _).mpr ⟨next, inside, rest⟩⟩
      · rintro ⟨candidate, member, rest⟩
        obtain ⟨next, inside, rest⟩ := (induction _).mp rest
        exact ⟨next, ⟨candidate, member, inside⟩, rest⟩

theorem schemasAtPath_ne_nil {schema : Value} :
    schemasAtPath isDigit false schema path ≠ [] ↔
      ∃ candidate ∈ schemaAlternatives schema,
        path.foldl (fun candidates part =>
          candidates.flatMap (schemaPart isDigit false part)) [candidate] ≠
            [] :=
  foldl_schemaPart path (schemaAlternatives schema)

theorem foldl_schemaPart_cons {part : String} :
    (part :: path).foldl (fun candidates part =>
        candidates.flatMap (schemaPart isDigit false part)) [.dict items] ≠ [] ↔
      ∃ properties child, get? items "properties" = some (.dict properties) ∧
        get? properties part = some child ∧
          schemasAtPath isDigit false child path ≠ [] := by
  rw [List.foldl_cons, List.flatMap_singleton, foldl_schemaPart]
  simp only [mem_schemaPart, schemasAtPath_ne_nil]
  constructor
  · rintro ⟨candidate, ⟨properties, child, found, named, member⟩, rest⟩
    exact ⟨properties, child, found, named, candidate, member, rest⟩
  · rintro ⟨properties, child, found, named, candidate, member, rest⟩
    exact ⟨candidate, ⟨properties, child, found, named, member⟩, rest⟩

theorem declares_of_alternative {path : List String} {candidate : Value} :
    ∀ {schema : Value}, candidate ∈ schemaAlternatives schema →
      (∃ items, candidate = .dict items) ∧
        (Declares path candidate → Declares path schema)
  | .dict items, member => by
      rcases mem_schemaAlternatives_dict.mp member with
        rfl | ⟨keyword, listed, inner, inside, deeper⟩
      · exact ⟨⟨items, rfl⟩, fun declares => declares⟩
      · obtain ⟨dict, rest⟩ := declares_of_alternative deeper
        exact ⟨dict, fun declares => .alternative listed inside (rest declares)⟩
  | .none, member | .bool _, member | .int _, member | .float _, member
  | .str _, member | .list _, member | .object _, member => by cases member
termination_by schema => sizeOf schema
decreasing_by exact sizeOf_member inside

theorem schemasAtPath_iff {schema : Value} :
    schemasAtPath isDigit false schema path ≠ [] ↔ Declares path schema := by
  constructor
  · intro found
    induction path generalizing schema with
    | nil =>
        obtain ⟨candidate, member, _⟩ := schemasAtPath_ne_nil.mp found
        obtain ⟨⟨items, rfl⟩, declares⟩ :=
          @declares_of_alternative [] candidate schema member
        exact declares .here
    | cons part path induction =>
        obtain ⟨candidate, member, rest⟩ := schemasAtPath_ne_nil.mp found
        obtain ⟨⟨items, rfl⟩, declares⟩ :=
          @declares_of_alternative (part :: path) candidate schema member
        obtain ⟨properties, child, listed, named, deeper⟩ :=
          foldl_schemaPart_cons.mp rest
        exact declares (.property listed named (induction deeper))
  · intro declares
    induction declares with
    | @here items =>
        refine schemasAtPath_ne_nil.mpr ⟨.dict items, ?_, List.cons_ne_nil _ _⟩
        exact mem_schemaAlternatives_dict.mpr (.inl rfl)
    | @property items properties part child path listed named _ induction =>
        refine schemasAtPath_ne_nil.mpr ⟨.dict items,
          mem_schemaAlternatives_dict.mpr (.inl rfl), ?_⟩
        exact foldl_schemaPart_cons.mpr
          ⟨properties, child, listed, named, induction⟩
    | alternative listed inside _ induction =>
        obtain ⟨candidate, deeper, rest⟩ := schemasAtPath_ne_nil.mp induction
        exact schemasAtPath_ne_nil.mpr
          ⟨candidate, alternatives_of_member listed inside deeper, rest⟩

section Ancestors

variable {steps : List ValidatedStep}

variable {step : ValidatedStep}

section Unique

variable (unique : (steps.map ValidatedStep.stepId).Nodup)

include unique

theorem byId_eq_ok {stepId : String} :
    byId steps stepId = .ok step ↔ step ∈ steps ∧ step.stepId = stepId := by
  rw [byId, orElse_eq_ok, ← find?_perm (List.reverse_perm steps).symm unique]
  constructor
  · intro found
    exact ⟨List.mem_of_find?_eq_some found, by simpa using List.find?_some found⟩
  · rintro ⟨member, rfl⟩
    have passed := stepOf_eq_ok unique member
    rwa [stepOf, orElse_eq_ok] at passed

theorem dependencies_of_mem (member : step ∈ steps) {dependency : String} :
    dependency ∈ dependencies steps step.stepId ↔
      dependency ∈ step.dependsOn := by
  rw [mem_dependencies]
  constructor
  · rintro ⟨_, inside, same, needed⟩
    rw [List.inj_on_of_nodup_map unique inside member same] at needed
    exact needed
  · exact fun needed => ⟨step, member, rfl, needed⟩

theorem dependsOn_eq_ok {stepId : String} {more : List String} :
    ValidatedStep.dependsOn <$> byId steps stepId = .ok more ↔
      ∃ step ∈ steps, step.stepId = stepId ∧ step.dependsOn = more := by
  constructor
  · intro read
    cases found : byId steps stepId with
    | error =>
        rw [found] at read
        cases read
    | ok step =>
        rw [found] at read
        cases read
        obtain ⟨member, same⟩ := (byId_eq_ok unique).mp found
        exact ⟨step, member, same, rfl⟩
  · rintro ⟨_, member, same, rfl⟩
    rw [(byId_eq_ok unique).mpr ⟨member, same⟩]
    rfl

theorem unlisted_steps :
    unlisted (fun stepId => ValidatedStep.dependsOn <$> byId steps stepId)
      (steps.map ValidatedStep.stepId) [] =
        (steps.map fun step => step.dependsOn.length).sum := by
  unfold unlisted
  rw [List.filter_eq_self.mpr (by simp), List.map_map]
  congr 1
  refine List.map_congr_left fun step member => ?_
  dsimp only [Function.comp_apply]
  rw [(dependsOn_eq_ok unique).mpr ⟨step, member, rfl, rfl⟩]

theorem ancestors_exact (known : Known steps) (member : step ∈ steps) :
    ∃ found, ancestors steps step = .ok found ∧ ∀ stepId,
      stepId ∈ found ↔ Relation.TransGen (NeededFor (dependencies steps))
        stepId step.stepId := by
  obtain ⟨found, done⟩ := @gather_finishes _ _ _
    (fun stepId => ValidatedStep.dependsOn <$> byId steps stepId)
    PlanError.running (steps.map ValidatedStep.stepId) unique (by
      intro stepId listed
      obtain ⟨other, inside, rfl⟩ := List.mem_map.mp listed
      exact ⟨other.dependsOn, (dependsOn_eq_ok unique).mpr
        ⟨other, inside, rfl, rfl⟩, known other inside⟩)
    (step.dependsOn.length +
      (steps.map fun step => step.dependsOn.length).sum) [] step.dependsOn
    (known step member) (unlisted_steps unique ▸ le_refl _)
  obtain ⟨listed, saturated, least⟩ := gathered done
    fun _ _ taken => by cases taken
  refine ⟨found, done, fun stepId => ⟨?_, fun path => ?_⟩⟩
  · refine least (fun stepId => Relation.TransGen
      (NeededFor (dependencies steps)) stepId step.stepId) ?_ ?_ stepId
    · intro node more path read other inside
      obtain ⟨owner, ours, rfl, rfl⟩ := (dependsOn_eq_ok unique).mp read
      exact .head ((dependencies_of_mem unique ours).mpr inside) path
    · exact fun other needed =>
        .single ((dependencies_of_mem unique member).mpr needed)
  · induction path using Relation.TransGen.head_induction_on with
    | single needed =>
        exact listed _ ((dependencies_of_mem unique member).mp needed)
    | head needed _ induction =>
        obtain ⟨owner, ours, same, inside⟩ := mem_dependencies.mp needed
        exact saturated _ owner.dependsOn induction
          ((dependsOn_eq_ok unique).mpr ⟨owner, ours, same, rfl⟩) _ inside

end Unique

end Ancestors

section Accepted

variable {compiler : PlanCompiler} {runtime : Runtime} {draft : PlanDraft}
  {plan : CompiledPlan}

def Ancestor (steps : List ValidatedStep) (stepId dependant : String) : Prop :=
  Relation.TransGen (NeededFor (dependencies steps)) stepId dependant

theorem neededFor_perm {steps others : List ValidatedStep}
    (perm : steps.Perm others) :
    NeededFor (dependencies steps) = NeededFor (dependencies others) := by
  funext dependency stepId
  exact propext (dependencies_perm perm stepId).mem_iff

structure Sorted (steps : List ValidatedStep) : Prop where
  unique : (steps.map ValidatedStep.stepId).Nodup
  known : Known steps
  acyclic : Acyclic (dependencies steps)

theorem Compiles.sorted {ordered : List ValidatedStep}
    (compiles : Compiles compiler runtime draft ordered) : Sorted ordered := by
  obtain ⟨_, _, order, _, placed, listed⟩ := compiles.placed
  obtain ⟨unique, known, acyclic⟩ := topologicalOrder_isOk.mp ⟨order, placed⟩
  obtain ⟨_, again, _, perm⟩ := ordered_steps placed
  cases listed.symm.trans again
  refine ⟨(perm.map _).nodup_iff.mpr unique, ?_, ?_⟩
  · intro step member dependency needed
    exact (perm.map _).mem_iff.mpr
      (known step (perm.mem_iff.mp member) dependency needed)
  · unfold Acyclic
    rw [neededFor_perm perm]
    exact acyclic

theorem validateReference_ok {steps : List ValidatedStep}
    {step : ValidatedStep} {known path : List String} {reference : String}
    (passed : compiler.validateReference runtime steps step known path
      reference = .ok ()) :
    (pieces reference).headD "" ∈ known ∧ ∃ source definition,
      byId steps ((pieces reference).headD "") = .ok source ∧
      compiler.definition? source.capabilityId source.capabilityVersion =
        some definition ∧
      Declares ((pieces reference).drop 2) definition.outputSchema := by
  simp only [PlanCompiler.validateReference, PlanCompiler.definition,
    bind_eq_ok, orElse_eq_ok, demand_eq_ok] at passed
  obtain ⟨_, ⟨_, member, _⟩, source, found, _, _, definition, defined, _, _, _,
    declared, _⟩ := passed
  exact ⟨member, source, definition, found, defined,
    schemasAtPath_iff.mp declared⟩

/-- The reference of a step names an ancestor of it and a path that the output
schema of that ancestor declares. -/
def PlanCompiler.NamesAncestor (compiler : PlanCompiler)
    (steps : List ValidatedStep) (step : ValidatedStep) (named : Value) :
    Prop :=
  ∃ reference, named = .str reference ∧ ∃ source ∈ steps,
    source.stepId = (pieces reference).headD "" ∧
    Ancestor steps source.stepId step.stepId ∧
    source.stepId ≠ step.stepId ∧
    ∃ definition, compiler.definition? source.capabilityId
        source.capabilityVersion = some definition ∧
      Declares ((pieces reference).drop 2) definition.outputSchema

theorem namesAncestor_of_text
    (compiled : compiler.compile runtime draft = .ok plan)
    {step : ValidatedStep} (member : step ∈ plan.steps)
    {path : List String} {reference : String}
    (refers : Refers (.str reference) path step.input) :
    compiler.NamesAncestor plan.steps step (.str reference) := by
  obtain ⟨compiles, _⟩ := compile_ok compiled
  obtain ⟨unique, known, acyclic⟩ := compiles.sorted
  have passed := forM_eq_ok.mp compiles.referenced step member
  obtain ⟨_, gathered, each⟩ := bind_eq_ok.mp passed
  obtain ⟨exact, same, every⟩ := ancestors_exact unique known member
  cases gathered.symm.trans same
  have listed : (path, reference) ∈ referencesWithPaths [] step.input :=
    (mem_referencesWithPaths step.input [] _).mpr ⟨path, rfl, refers⟩
  obtain ⟨inside, source, definition, named, defined, declared⟩ :=
    validateReference_ok (forM_eq_ok.mp each (path, reference) listed)
  obtain ⟨ours, identity⟩ := (byId_eq_ok unique).mp named
  rw [every, ← identity] at inside
  refine ⟨reference, rfl, source, ours, identity, inside, fun this => ?_,
    definition, defined, declared⟩
  rw [this] at inside
  exact acyclic step.stepId inside

/-- The input that is left of a step with its wrappers taken off. -/
def PlanCompiler.Unwraps (compiler : PlanCompiler) (step : PlanStep)
    (input : Value) : Prop :=
  ∃ definition disclosures,
    compiler.definition? step.capabilityId step.capabilityVersion =
      some definition ∧
    authorizeDataFlow definition.provider step.stepId (.dict step.input) =
      .ok (input, disclosures)

theorem Validates.unwraps {tenantId : String} {step : PlanStep}
    {validated : ValidatedStep}
    (validates : Validates compiler runtime tenantId step validated)
    {input : Value} : compiler.Unwraps step input ↔ validated.input = input := by
  obtain ⟨_, passed⟩ := validates
  simp only [PlanCompiler.validateStep, bind_eq_ok, orElse_eq_ok, demand_eq_ok,
    pure_eq_ok, Prod.mk.injEq] at passed
  obtain ⟨definition, found, _, _, _, _, _, _, ⟨safe, disclosures⟩, walked, _,
    _, _, _, rfl, _⟩ := passed
  constructor
  · rintro ⟨_, _, other, again⟩
    cases found.symm.trans other
    cases walked.symm.trans again
    rfl
  · rintro rfl
    exact ⟨definition, disclosures, found, walked⟩

theorem exists_related {First Second : Type} {related : First → Second → Prop}
    {first : List First} {second : List Second}
    (each : List.Forall₂ related first second) {item : First}
    (member : item ∈ first) : ∃ other ∈ second, related item other := by
  induction each with
  | nil => cases member
  | cons here _ induction =>
      rcases List.mem_cons.mp member with rfl | later
      · exact ⟨_, List.mem_cons_self, here⟩
      · obtain ⟨other, inside, same⟩ := induction later
        exact ⟨other, List.mem_cons_of_mem _ inside, same⟩

/-- The inputs of a compiled plan are those of its draft, unwrapped. -/
theorem compiled_input (compiled : compiler.compile runtime draft = .ok plan)
    {input : Value} :
    (∃ step ∈ plan.steps, step.input = input) ↔
      ∃ step ∈ draft.steps, compiler.Unwraps step input := by
  obtain ⟨compiles, _⟩ := compile_ok compiled
  obtain ⟨_, _, order, passed, placed, listed⟩ := compiles.placed
  obtain ⟨_, again, _, perm⟩ := ordered_steps placed
  cases listed.symm.trans again
  have each := (validateSteps_spec passed).2
  constructor
  · rintro ⟨step, member, same⟩
    obtain ⟨origin, inside, validates⟩ :=
      exists_related each.flip (perm.mem_iff.mp member)
    exact ⟨origin, inside, (Validates.unwraps validates).mpr same⟩
  · rintro ⟨step, member, unwraps⟩
    obtain ⟨validated, inside, validates⟩ := exists_related each member
    exact ⟨validated, perm.mem_iff.mpr inside, validates.unwraps.mp unwraps⟩

/-- Each reference in an accepted plan names an ancestor of its step and a path
that the output schema of that ancestor declares, exactly when each one that
the draft holds is text; and the loop that gathers the ancestors ends, with
those there are. -/
theorem references_ancestral_iff
    (compiled : compiler.compile runtime draft = .ok plan) :
    ((∀ step ∈ plan.steps, ∀ path named, Refers named path step.input →
        compiler.NamesAncestor plan.steps step named) ↔
      ∀ step ∈ draft.steps, ∀ input, compiler.Unwraps step input →
        ∀ path named, Refers named path input → IsText named) ∧
    ∀ step ∈ plan.steps, ∃ found, ancestors plan.steps step = .ok found ∧
      ∀ stepId, stepId ∈ found ↔ Ancestor plan.steps stepId step.stepId := by
  refine ⟨⟨fun ancestral step member input unwraps path named refers => ?_,
    fun texts step member path named refers => ?_⟩, fun step member => ?_⟩
  · obtain ⟨planned, inside, rfl⟩ :=
      (compiled_input compiled).mpr ⟨step, member, unwraps⟩
    obtain ⟨reference, same, _⟩ := ancestral planned inside path named refers
    exact ⟨reference, same⟩
  · obtain ⟨origin, inside, unwraps⟩ :=
      (compiled_input compiled).mp ⟨step, member, rfl⟩
    obtain ⟨_, rfl⟩ := texts origin inside step.input unwraps path named refers
    exact namesAncestor_of_text compiled member refers
  · obtain ⟨unique, known, _⟩ := (compile_ok compiled).1.sorted
    exact ancestors_exact unique known member

end Accepted

def plainRuntime : Runtime where
  sha256 := fun _ => "sha256"
  int := fun _ => none
  float := fun _ => none
  lower := id
  isDigit := Char.isDigit
  validates := fun _ _ => some true

def textField (field : String) : Value :=
  .dict [("type", .str "object"),
    ("properties", .dict [(field, .dict [("type", .str "string")])])]

def readPage : TrustedCapabilityDefinition where
  capabilityId := "notion.page.read"
  version := "1"
  provider := "notion"
  inputSchema := textField "page"
  outputSchema := textField "text"
  requiredScopes := []
  effect := .read
  risk := "low"
  retryPolicy := "safe"
  previewFields := []
  verifier := none

def createPage : TrustedCapabilityDefinition :=
  { readPage with
    capabilityId := "notion.page.create"
    inputSchema := textField "body"
    effect := .write
    previewFields := ["body"] }

def healthy (capabilityId : String) : ConnectionCapabilitySnapshot where
  connectionId := "c1"
  tenantId := "t1"
  capabilityId := capabilityId
  capabilityVersion := "1"
  credentialVersion := 1
  effectiveScopes := []
  health := "healthy"
  rolloutVersion := "r1"

def notionCompiler : PlanCompiler where
  definitions := [readPage, createPage]
  snapshots := [healthy "notion.page.read", healthy "notion.page.create"]
  rolloutVersion := "r1"

def notionStep (stepId capabilityId : String) (input : Items)
    (dependsOn : List String) : PlanStep where
  stepId := stepId
  capabilityId := capabilityId
  capabilityVersion := "1"
  connectionId := some "c1"
  descriptorSnapshotHash := "sha256"
  input := input
  dependsOn := dependsOn

def copyPage : PlanDraft where
  tenantId := "t1"
  goal := "copy"
  steps := [
    notionStep "write" "notion.page.create"
      [("body", .dict [("$ref", .str "read.output.text")])] ["read"],
    notionStep "read" "notion.page.read" [("page", .str "p1")] []]

theorem references_ancestral_iff_copyPage :
    ∃ plan, notionCompiler.compile plainRuntime copyPage = .ok plan ∧
      ((∀ step ∈ plan.steps, ∀ path named, Refers named path step.input →
          notionCompiler.NamesAncestor plan.steps step named) ↔
        ∀ step ∈ copyPage.steps, ∀ input, notionCompiler.Unwraps step input →
          ∀ path named, Refers named path input → IsText named) ∧
      ∀ step ∈ plan.steps, ∃ found, ancestors plan.steps step = .ok found ∧
        ∀ stepId, stepId ∈ found ↔ Ancestor plan.steps stepId step.stepId := by
  have accepted :
      (notionCompiler.compile plainRuntime copyPage).isOk = true := by
    decide +kernel
  cases compiled : notionCompiler.compile plainRuntime copyPage with
  | error =>
      rw [compiled] at accepted
      cases accepted
  | ok plan => exact ⟨plan, rfl, references_ancestral_iff compiled⟩

def filteredPage : PlanDraft where
  tenantId := "t1"
  goal := "read"
  steps := [notionStep "read" "notion.page.read"
    [("filter", .dict [("$ref", .int 5)]), ("page", .str "p1")] []]

/-- The plan is accepted, and its reference is a number. -/
theorem number_refers :
    ∃ plan, notionCompiler.compile plainRuntime filteredPage = .ok plan ∧
      ∃ step ∈ plan.steps, Refers (.int 5) ["filter"] step.input ∧
        ¬ notionCompiler.NamesAncestor plan.steps step (.int 5) := by
  have accepted :
      (notionCompiler.compile plainRuntime filteredPage).toOption.any
        (fun plan => plan.steps.any fun step => step.input ==
          .dict [("filter", .dict [("$ref", .int 5)]), ("page", .str "p1")]) =
        true := by
    decide +kernel
  cases compiled : notionCompiler.compile plainRuntime filteredPage with
  | error =>
      rw [compiled] at accepted
      cases accepted
  | ok plan =>
      rw [compiled] at accepted
      obtain ⟨step, member, same⟩ := List.any_eq_true.mp accepted
      refine ⟨plan, rfl, step, member, ?_, fun ⟨_, other, _⟩ => by cases other⟩
      rw [beq_iff_eq.mp same]
      exact .entry List.mem_cons_self .here

end AcpTask.Planner
