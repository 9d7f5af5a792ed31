import Mathlib.Data.Prod.Lex
import AcpTask.Library.Items
import AcpTask.Library.TopRanked
import AcpTask.Policy.Evaluator
import AcpTask.Slack.Visibility

namespace AcpTask.Slack

open Data Library
open Policy (TrustedCapabilityDefinition)

/-! The operations a provider's manifest offers, and the words they go by. -/

structure CapabilityRecipeStep where
  stepId : String
  capabilityId : String
  capabilityVersion : String
  inputBindings : List (String × String)
  dependsOn : List String
  deriving DecidableEq

structure OperationDescriptor where
  operationId : String
  operationKind : String
  aliases : List String
  slots : List String
  capabilityRecipe : List CapabilityRecipeStep
  authorityProfile : String
  deriving DecidableEq

abbrev AliasIndex := List (String × OperationDescriptor)

structure Wording where
  library : StandardLibrary
  casefold : String → String

namespace Wording

variable (wording : Wording)

/-- `" ".join(text.split())`. -/
def joined (text : String) : String :=
  String.intercalate " " (wording.library.words text)

def normalizeAlias (text : String) : String :=
  wording.joined (wording.casefold (String.ofList
    ((wording.library.nfkd text).toList.filter fun character =>
      !wording.library.combining character)))

end Wording

def trustedDefinitionIndex (definitions : List TrustedCapabilityDefinition) :
    Except String (List TrustedCapabilityDefinition) :=
  definitions.foldlM (fun index definition => do
    let others := index.filter fun other =>
      other.capabilityId == definition.capabilityId
    require (others.all fun other => other.version != definition.version)
      "trusted capability version is duplicated"
    require others.isEmpty
      "multiple trusted capability versions require an explicit rollout"
    pure (index ++ [definition])) []

def validateStep (provider : String)
    (definitions : List TrustedCapabilityDefinition)
    (operation : OperationDescriptor) (step : CapabilityRecipeStep) :
    Except String Unit := do
  let stepIds := operation.capabilityRecipe.map CapabilityRecipeStep.stepId
  match definitions.find? fun definition =>
      definition.capabilityId == step.capabilityId &&
        definition.version == step.capabilityVersion with
  | none => .error "operation capability version is not trusted"
  | some definition =>
    require (definition.provider == provider)
      "operation capability provider is incompatible"
    let schema := match definition.inputSchema with
      | .dict items => items
      | _ => []
    match Value.get? schema "type", Value.get? schema "properties" with
    | some (.str "object"), some (.dict properties) =>
      let bound := step.inputBindings.map Prod.fst
      require (bound.all (properties.map Prod.fst).contains)
        "recipe input is absent from trusted capability schema"
      let required ← match Value.get? schema "required" with
        | none => pure []
        | some (.list names) => pure names
        | some (.str text) => pure (text.toList.map fun letter =>
            Value.str (String.singleton letter))
        | some (.dict items) => pure (items.map fun item => .str item.1)
        | some _ => .error "TypeError"
      require (required.all (bound.map Value.str).contains)
        "recipe omits a trusted required input"
      require (step.inputBindings.all fun binding => operation.slots.contains
          (String.ofList (binding.2.toList.takeWhile fun character =>
            character != '.')))
        "recipe input references an undeclared slot"
      require (step.dependsOn.all fun other =>
          stepIds.contains other && other != step.stepId)
        "recipe dependency references an unknown step"
    | _, _ => .error "trusted capability input schema is incompatible"

def validateTrustedJoin (provider : String)
    (definitions : List TrustedCapabilityDefinition)
    (operation : OperationDescriptor) : Except String Unit :=
  if operation.operationKind = "local" then
    require (operation.capabilityRecipe.isEmpty &&
        operation.authorityProfile == "none")
      "local operations may not declare executable authority"
  else do
    require (!operation.capabilityRecipe.isEmpty)
      "capability operations require a runtime recipe"
    require (operation.authorityProfile != "none")
      "capability operations require an authority profile"
    operation.capabilityRecipe.forM
      (validateStep provider definitions operation)

structure OperationRegistry where
  operations : List OperationDescriptor := []
  /-- The aliases as the duplicates are found. -/
  aliases : List String := []
  aliasIndex : AliasIndex := []
  deriving DecidableEq

namespace OperationRegistry

variable (wording : Wording)

def addAlias (operation : OperationDescriptor) (registry : OperationRegistry)
    (text : String) : Except String OperationRegistry := do
  let normalized := wording.joined (wording.casefold text)
  require (!registry.aliases.contains normalized) "duplicate operation alias"
  pure { registry with
    aliases := registry.aliases ++ [normalized]
    aliasIndex := Items.assign (wording.normalizeAlias text) operation
      registry.aliasIndex }

def addOperation (provider : String)
    (definitions : List TrustedCapabilityDefinition)
    (registry : OperationRegistry) (operation : OperationDescriptor) :
    Except String OperationRegistry := do
  require (registry.operations.all fun other =>
    other.operationId != operation.operationId) "duplicate operation_id"
  let added ← operation.aliases.foldlM (addAlias wording operation)
    { registry with operations := registry.operations ++ [operation] }
  validateTrustedJoin provider definitions operation
  pure added

def build (provider manifestVersion : String)
    (operations : List OperationDescriptor)
    (definitions : List TrustedCapabilityDefinition) :
    Except String OperationRegistry := do
  require (wording.library.strip provider != "")
    "manifest provider is required"
  require ((provider ++ ".").toList.isPrefixOf manifestVersion.toList)
    "unsupported operation manifest version"
  let trusted ← trustedDefinitionIndex definitions
  operations.foldlM (addOperation wording provider trusted) {}

/-- Longer aliases come first, and then the lesser identifiers. -/
def rank (entry : String × OperationDescriptor) : Nat ×ₗ Stringᵒᵈ :=
  toLex (entry.1.length, OrderDual.toDual entry.2.operationId)

def matching (registry : OperationRegistry) (text : String) : AliasIndex :=
  let normalized := wording.normalizeAlias text
  registry.aliasIndex.filter fun entry => entry.1 != "" &&
    decide (entry.1.toList <:+: normalized.toList)

def lookupAlias (registry : OperationRegistry) (text : String) :
    Option OperationDescriptor :=
  (topRanked rank (registry.matching wording text)).map Prod.snd

def Resolves (registry : OperationRegistry) : Prop :=
  ∀ operation ∈ registry.operations, ∀ declared ∈ operation.aliases,
    ∀ text, wording.normalizeAlias text = wording.normalizeAlias declared →
      registry.lookupAlias wording text = some operation

/-- As the aliases are looked up, none is empty and no two operations share
one. -/
structure Distinct (operations : List OperationDescriptor) : Prop where
  nonempty : ∀ operation ∈ operations, ∀ declared ∈ operation.aliases,
    wording.normalizeAlias declared ≠ ""
  apart : ∀ operation ∈ operations, ∀ other ∈ operations,
    ∀ declared ∈ operation.aliases, ∀ same ∈ other.aliases,
      wording.normalizeAlias declared = wording.normalizeAlias same →
        operation = other

variable {wording : Wording} {operation : OperationDescriptor}
  {registry later : OperationRegistry} {key : String}

/-- The entries are declared, and the aliases of each operation are among
them. -/
structure Indexed (wording : Wording) (registry : OperationRegistry) : Prop where
  declared : ∀ entry ∈ registry.aliasIndex, entry.2 ∈ registry.operations ∧
    ∃ declared ∈ entry.2.aliases, wording.normalizeAlias declared = entry.1
  complete : ∀ operation ∈ registry.operations,
    ∀ declared ∈ operation.aliases,
      wording.normalizeAlias declared ∈ registry.aliasIndex.map Prod.fst

theorem addAliases_ok {aliases : List String}
    (added : aliases.foldlM (addAlias wording operation) registry =
      .ok later) :
    later.operations = registry.operations ∧
    (∀ entry ∈ later.aliasIndex, entry ∈ registry.aliasIndex ∨
      entry.2 = operation ∧ ∃ declared ∈ aliases,
        wording.normalizeAlias declared = entry.1) ∧
    ∀ key, key ∈ registry.aliasIndex.map Prod.fst ∨
        (∃ declared ∈ aliases, wording.normalizeAlias declared = key) →
      key ∈ later.aliasIndex.map Prod.fst := by
  induction aliases generalizing registry with
  | nil =>
      cases added
      exact ⟨rfl, fun _ => .inl, fun _ either => either.resolve_right nofun⟩
  | cons declared rest induction =>
      rw [List.foldlM_cons] at added
      obtain ⟨_, first, others⟩ := bind_eq_ok.mp added
      obtain ⟨_, _, same⟩ := bind_eq_ok.mp first
      cases same
      obtain ⟨operations, entries, keys⟩ := induction others
      refine ⟨operations, fun entry member => ?_, fun key either => ?_⟩
      · rcases entries entry member with old | ⟨named, text, listed, here⟩
        · rcases Items.of_mem_assign old with rfl | old
          · exact .inr ⟨rfl, declared, .head _, rfl⟩
          · exact .inl old
        · exact .inr ⟨named, text, .tail _ listed, here⟩
      · refine keys key ?_
        rw [Items.mem_keys_assign]
        rcases either with old | ⟨text, listed, rfl⟩
        · exact .inl (.inr old)
        · rcases List.mem_cons.mp listed with rfl | listed
          · exact .inl (.inl rfl)
          · exact .inr ⟨text, listed, rfl⟩

variable {definitions : List TrustedCapabilityDefinition}

theorem Indexed.addOperation {provider : String}
    (indexed : Indexed wording registry) (added : addOperation wording provider
      definitions registry operation = .ok later) :
    later.operations = registry.operations ++ [operation] ∧
      Indexed wording later := by
  obtain ⟨_, _, added⟩ := bind_eq_ok.mp added
  obtain ⟨_, aliases, added⟩ := bind_eq_ok.mp added
  obtain ⟨_, _, same⟩ := bind_eq_ok.mp added
  cases same
  obtain ⟨operations, entries, keys⟩ := addAliases_ok aliases
  refine ⟨operations, fun entry member => ?_, fun other listed text named => ?_⟩
  · rw [operations]
    rcases entries entry member with old | ⟨rfl, declared⟩
    · obtain ⟨listed, declared⟩ := indexed.declared entry old
      exact ⟨List.mem_append_left _ listed, declared⟩
    · exact ⟨List.mem_append_right _ (.head _), declared⟩
  · rw [operations] at listed
    refine keys _ ?_
    rcases List.mem_append.mp listed with old | new
    · exact .inl (indexed.complete other old text named)
    · obtain rfl := List.mem_singleton.mp new
      exact .inr ⟨text, named, rfl⟩

theorem Indexed.addOperations {provider : String}
    {operations : List OperationDescriptor} (indexed : Indexed wording registry)
    (added : operations.foldlM (OperationRegistry.addOperation wording provider
      definitions) registry = .ok later) :
    later.operations = registry.operations ++ operations ∧
      Indexed wording later := by
  induction operations generalizing registry with
  | nil =>
      cases added
      exact ⟨(List.append_nil _).symm, indexed⟩
  | cons operation rest induction =>
      rw [List.foldlM_cons] at added
      obtain ⟨_, first, others⟩ := bind_eq_ok.mp added
      obtain ⟨here, indexed⟩ := indexed.addOperation first
      obtain ⟨operations, indexed⟩ := induction indexed others
      exact ⟨by simp [operations, here], indexed⟩

theorem indexed_build {provider manifestVersion : String}
    {operations : List OperationDescriptor}
    (accepted : build wording provider manifestVersion operations definitions =
      .ok registry) :
    registry.operations = operations ∧ Indexed wording registry := by
  obtain ⟨_, _, accepted⟩ := bind_eq_ok.mp accepted
  obtain ⟨_, _, accepted⟩ := bind_eq_ok.mp accepted
  obtain ⟨_, _, added⟩ := bind_eq_ok.mp accepted
  have empty : Indexed wording {} := ⟨nofun, nofun⟩
  exact empty.addOperations added

theorem mem_matches {text : String} {entry : String × OperationDescriptor}
    (found : entry ∈ registry.matching wording text) :
    entry ∈ registry.aliasIndex ∧ entry.1 ≠ "" ∧
      entry.1.toList <:+: (wording.normalizeAlias text).toList := by
  simpa [matching, and_assoc] using found

/-- The text, as it is looked up, holds an alias. -/
def Within (wording : Wording) (declared text : String) : Prop :=
  wording.normalizeAlias declared ≠ "" ∧
    (wording.normalizeAlias declared).toList <:+:
      (wording.normalizeAlias text).toList

theorem Indexed.mem_matching (indexed : Indexed wording registry)
    (listed : operation ∈ registry.operations) {declared text : String}
    (named : declared ∈ operation.aliases)
    (within : Within wording declared text) :
    ∃ entry ∈ registry.matching wording text,
      entry.1 = wording.normalizeAlias declared := by
  obtain ⟨entry, member, key⟩ :=
    List.mem_map.mp (indexed.complete operation listed declared named)
  exact ⟨entry, by simp [matching, member, key, within.1, within.2], key⟩

section Indexed

variable (indexed : Indexed wording registry)
  (distinct : Distinct wording registry.operations)
  (listed : operation ∈ registry.operations)

include indexed distinct listed

theorem Indexed.owner {declared : String} (named : declared ∈ operation.aliases)
    {entry : String × OperationDescriptor}
    (member : entry ∈ registry.aliasIndex)
    (same : entry.1 = wording.normalizeAlias declared) :
    entry.2 = operation := by
  obtain ⟨other, text, also, here⟩ := indexed.declared entry member
  exact distinct.apart _ other _ listed text also declared named
    (here.trans same)

/-- The longest alias in a text that is an alias is the text. -/
theorem lookupAlias_eq {declared text : String}
    (named : declared ∈ operation.aliases)
    (same : wording.normalizeAlias text = wording.normalizeAlias declared) :
    registry.lookupAlias wording text = some operation := by
  obtain ⟨entry, found, key⟩ := indexed.mem_matching listed named
    ⟨distinct.nonempty operation listed declared named, by rw [same]⟩
  rw [lookupAlias]
  cases top : topRanked rank (registry.matching wording text) with
  | none =>
      rw [topRanked_eq_none_iff.mp top] at found
      cases found
  | some first =>
      have highest := topRanked_highest top
      obtain ⟨indexedFirst, _, inside⟩ := mem_matches highest.1
      have longest : entry.1.length ≤ first.1.length :=
        Prod.Lex.monotone_fst _ _ (highest.2 entry found)
      have shorter := inside.length_le
      rw [key, ← same] at longest
      rw [String.length_toList, String.length_toList] at shorter
      refine congrArg some (indexed.owner distinct listed named indexedFirst ?_)
      rw [← same, ← String.toList_inj]
      refine inside.eq_of_length ?_
      rw [String.length_toList, String.length_toList]
      omega

end Indexed

theorem resolves_iff {provider manifestVersion : String}
    {operations : List OperationDescriptor}
    {definitions : List TrustedCapabilityDefinition}
    (accepted : build wording provider manifestVersion operations definitions =
      .ok registry) :
    Resolves wording registry ↔ Distinct wording operations := by
  obtain ⟨rfl, indexed⟩ := indexed_build accepted
  constructor
  · intro resolves
    constructor
    · intro operation listed declared named empty
      have found := resolves operation listed declared named declared rfl
      rw [lookupAlias, Option.map_eq_some_iff] at found
      obtain ⟨_, first, _⟩ := found
      obtain ⟨_, some, inside⟩ := mem_matches (topRanked_highest first).1
      rw [empty, String.toList_empty, List.infix_nil] at inside
      exact some (String.toList_eq_nil_iff.mp inside)
    · intro operation listed other also declared named text second same
      have first := resolves operation listed declared named declared rfl
      have later := resolves other also text second declared same
      exact Option.some.inj (first.symm.trans later)
  · intro distinct operation listed declared named text same
    exact lookupAlias_eq indexed distinct listed named same

/-- A text is resolved if it holds an alias, to an operation that declares one
of the longest it holds. -/
theorem lookupAlias_longest {provider manifestVersion : String}
    {operations : List OperationDescriptor}
    {definitions : List TrustedCapabilityDefinition}
    (accepted : build wording provider manifestVersion operations definitions =
      .ok registry) (text : String) :
    match registry.lookupAlias wording text with
    | none => ∀ operation ∈ operations, ∀ declared ∈ operation.aliases,
        ¬ Within wording declared text
    | some found => found ∈ operations ∧
        ∃ declared ∈ found.aliases, Within wording declared text ∧
          ∀ operation ∈ operations, ∀ other ∈ operation.aliases,
            Within wording other text →
              (wording.normalizeAlias other).length ≤
                (wording.normalizeAlias declared).length := by
  obtain ⟨rfl, indexed⟩ := indexed_build accepted
  rw [lookupAlias]
  cases top : topRanked rank (registry.matching wording text) with
  | none =>
      intro operation listed declared named within
      obtain ⟨entry, member, _⟩ := indexed.mem_matching listed named within
      rw [topRanked_eq_none_iff.mp top] at member
      cases member
  | some first =>
      obtain ⟨member, highest⟩ := topRanked_highest top
      obtain ⟨here, nonempty, inside⟩ := mem_matches member
      obtain ⟨listed, declared, named, key⟩ := indexed.declared first here
      rw [← key] at nonempty inside
      refine ⟨listed, declared, named, ⟨nonempty, inside⟩, ?_⟩
      intro operation also other stated within
      obtain ⟨entry, found, same⟩ := indexed.mem_matching also stated within
      rw [← same, key]
      exact Prod.Lex.monotone_fst _ _ (highest entry found)

def accented : Wording where
  library := { slackService.library with
    nfkd := fun text => String.ofList (text.toList.flatMap fun character =>
      if character = 'é' then ['e', '\u0301'] else [character])
    combining := fun character => character == '\u0301' }
  casefold := id

def localOperation (operationId : String) (aliases : List String) :
    OperationDescriptor where
  operationId := operationId
  operationKind := "local"
  aliases := aliases
  slots := []
  capabilityRecipe := []
  authorityProfile := "none"

def built (operations : List OperationDescriptor) : OperationRegistry :=
  (build accented "slack" "slack.1" operations []).toOption.getD {}

def coffee : OperationDescriptor := localOperation "slack.coffee" ["café", "tea"]

def bistro : OperationDescriptor := localOperation "slack.bistro" ["cafe"]

def house : OperationDescriptor := localOperation "slack.house" ["tea house"]

theorem resolves_iff_coffee :
    Resolves accented (built [coffee, house]) ↔
      Distinct accented [coffee, house] :=
  @resolves_iff accented (built [coffee, house]) "slack" "slack.1"
    [coffee, house] [] (by decide +kernel)

theorem lookupAlias_longest_coffee :
    (built [coffee, house]).lookupAlias accented "stealth" = some coffee ∧
      ∃ declared ∈ coffee.aliases, Within accented declared "stealth" ∧
        ∀ operation ∈ [coffee, house], ∀ other ∈ operation.aliases,
          Within accented other "stealth" →
            (accented.normalizeAlias other).length ≤
              (accented.normalizeAlias declared).length := by
  have longest := @lookupAlias_longest accented (built [coffee, house]) "slack"
    "slack.1" [coffee, house] [] (by decide +kernel) "stealth"
  have found : (built [coffee, house]).lookupAlias accented "stealth" =
      some coffee := by decide +kernel
  rw [found] at longest
  exact ⟨found, longest.2⟩

/-- The duplicates are looked for before the accents are taken off. -/
theorem accented_alias_hidden :
    build accented "slack" "slack.1" [coffee, bistro] [] =
        .ok (built [coffee, bistro]) ∧
      ¬ Resolves accented (built [coffee, bistro]) := by
  refine ⟨by decide +kernel, fun resolves => ?_⟩
  have first := resolves coffee (by decide +kernel) "café" (.head _) "café" rfl
  have second := resolves bistro (by decide +kernel) "cafe" (.head _) "café"
    (by decide +kernel)
  exact absurd (first.symm.trans second) (by decide +kernel)

end OperationRegistry

end AcpTask.Slack
