import AcpTask.ControlPlane.Plane
import AcpTask.Library.Delimited
import AcpTask.Library.Transaction
import Mathlib.Data.List.Dedup
import Mathlib.Data.List.TakeWhile

namespace AcpTask.ControlPlane

open Library

/-! What a verified provider account grants, in the shape of scopes. -/

inductive AccountError where
  | valueError (message : String)
  | connectionConflict (message : String)
  | integrityError
  deriving DecidableEq

inductive AccountStatus where
  | verified
  | unverified
  | suspended
  | unavailable
  deriving DecidableEq

def senderDimension : String := "sender"
def geoDimension : String := "geo"
def templateDimension : String := "template"

/-- `text.partition(":")`, without the separator. -/
def partition (text : String) : String × String :=
  let name := text.toList.takeWhile (· ≠ ':')
  (String.ofList name, String.ofList (text.toList.drop (name.length + 1)))

/-- The part of a `family:action` before its separator. -/
abbrev FamilyName := {name : String // name ≠ "" ∧ ':' ∉ name.toList}

structure VerifiedSender where
  senderId : String
  family : String
  countries : List String
  enabled : Bool

structure VerifiedAccountState where
  provider : String
  accountId : String
  status : AccountStatus
  families : List String
  senders : List VerifiedSender
  templates : List String
  identified : provider ≠ "" ∧ accountId ≠ ""
  named : ∀ family ∈ families,
    (partition family).1 ≠ "" ∧ (partition family).2 ≠ ""

theorem partition_plain (text : String) :
    ':' ∉ (partition text).1.toList := by
  intro member
  simp only [partition, String.toList_ofList] at member
  have kept := List.mem_takeWhile_imp member
  simp at kept

theorem partition_append {name : String} (plain : ':' ∉ name.toList)
    (action : String) : partition (name ++ ":" ++ action) = (name, action) := by
  have separator : (":" : String).toList = [':'] := rfl
  have letters : (name ++ ":" ++ action).toList =
      name.toList ++ ':' :: action.toList := by
    rw [String.toList_append, String.toList_append, separator,
      List.append_assoc]
    rfl
  have front : (name.toList ++ ':' :: action.toList).takeWhile
      (· ≠ ':') = name.toList := by
    rw [List.takeWhile_append_of_pos]
    · simp
    · intro letter member
      rw [decide_eq_true_eq]
      rintro rfl
      exact plain member
  simp only [partition, letters, front]
  simp

/-- `sorted(set(names))`. -/
def sortedSet (names : List String) : List String := sorted names.dedup

@[simp] theorem mem_sortedSet {names : List String} {name : String} :
    name ∈ sortedSet names ↔ name ∈ names := by
  rw [sortedSet, sorted, List.mem_insertionSort, List.mem_dedup]

def scopeText (provider dimension value : String) : String :=
  provider ++ ":" ++ dimension ++ ":" ++ value

def syntheticScope (provider dimension value : String) :
    Except AccountError String := do
  require (provider != "" && dimension != "" && value != "")
    (.valueError "a synthetic scope needs provider, dimension and value")
  require (!provider.toList.contains ':' && !dimension.toList.contains ':')
    (.valueError "provider and dimension must not contain a separator")
  pure (scopeText provider dimension value)

namespace VerifiedAccountState

variable (state : VerifiedAccountState)

def familyName (family : {family // family ∈ state.families}) : FamilyName :=
  ⟨(partition family.1).1, (state.named family.1 family.2).1,
    partition_plain family.1⟩

/-- `sorted({family.partition(":")[0] for family in state.families})`. -/
def familyNames : List FamilyName :=
  (state.families.attach.map state.familyName).dedup.insertionSort
    fun first second => ¬ second.1 < first.1

def isLive (family : String) : Bool :=
  state.families.any fun live => (partition live).1 == family

theorem isLive_iff {family : String} :
    state.isLive family = true ↔
      ∃ live ∈ state.families, (partition live).1 = family := by
  simp [isLive]

end VerifiedAccountState

def familyScope (provider family : String) : Except AccountError String :=
  syntheticScope provider (partition family).1 (partition family).2

def senderScopes (provider : String) (sender : VerifiedSender) :
    Except AccountError (List String) := do
  let own ← syntheticScope provider senderDimension sender.senderId
  let countries ← sender.countries.mapM (syntheticScope provider geoDimension)
  pure (own :: countries)

def deriveSyntheticScopes (state : VerifiedAccountState) :
    Except AccountError (List String) :=
  if state.status = .verified then do
    let families ← state.families.mapM (familyScope state.provider)
    let senders ← (state.senders.filter fun sender =>
      sender.enabled && state.isLive sender.family).mapM
        (senderScopes state.provider)
    let templates ← state.templates.mapM
      (syntheticScope state.provider templateDimension)
    pure (families ++ senders.flatten ++ templates)
  else .ok []

inductive Grants (state : VerifiedAccountState) : String → String → Prop where
  | family {family : String} (member : family ∈ state.families) :
      Grants state (partition family).1 (partition family).2
  | sender {sender : VerifiedSender} (member : sender ∈ state.senders)
      (enabled : sender.enabled = true)
      (live : state.isLive sender.family = true) :
      Grants state senderDimension sender.senderId
  | geo {sender : VerifiedSender} (member : sender ∈ state.senders)
      (enabled : sender.enabled = true)
      (live : state.isLive sender.family = true)
      {country : String} (reached : country ∈ sender.countries) :
      Grants state geoDimension country
  | template {template : String} (member : template ∈ state.templates) :
      Grants state templateDimension template

variable {provider dimension : String}

theorem syntheticScope_eq_ok {value scope : String}
    (named : syntheticScope provider dimension value = .ok scope) :
    (':' ∉ provider.toList ∧ ':' ∉ dimension.toList) ∧
      scope = scopeText provider dimension value := by
  unfold syntheticScope at named
  obtain ⟨_, _, named⟩ := bind_eq_ok.mp named
  obtain ⟨_, plain, named⟩ := bind_eq_ok.mp named
  cases named
  have plain := require_eq_ok.mp plain
  simp only [Bool.and_eq_true, Bool.not_eq_true',
    List.contains_eq_mem, decide_eq_false_iff_not] at plain
  exact ⟨plain, rfl⟩

theorem scopeText_inj {value other otherDimension otherValue : String}
    (plain : ':' ∉ provider.toList ∧ ':' ∉ dimension.toList)
    (otherPlain : ':' ∉ other.toList ∧ ':' ∉ otherDimension.toList)
    (same : scopeText provider dimension value =
      scopeText other otherDimension otherValue) :
    provider = other ∧ dimension = otherDimension ∧ value = otherValue := by
  have token : ∀ {letters : List Char}, ':' ∉ letters →
      ∀ letter ∈ letters, ¬ letter = ':' := by
    intro letters absent letter member equal
    exact absent (equal ▸ member)
  have ends : ∀ rest, Delimited (· = ':') (':' :: rest) :=
    fun rest => @Delimited.cons _ (· = ':') ':' rfl rest
  have letters := congrArg String.toList same
  simp only [scopeText, String.toList_append, List.append_assoc] at letters
  obtain ⟨first, letters⟩ := token_append_inj (token plain.1)
    (token otherPlain.1) (ends _) (ends _) letters
  have letters := (List.cons.inj letters).2
  obtain ⟨second, letters⟩ := token_append_inj (token plain.2)
    (token otherPlain.2) (ends _) (ends _) letters
  exact ⟨String.toList_inj.mp first, String.toList_inj.mp second,
    String.toList_inj.mp (List.cons.inj letters).2⟩

def Scoped (state : VerifiedAccountState) (scope : String) : Prop :=
  ∃ dimension value, Grants state dimension value ∧
    syntheticScope state.provider dimension value = .ok scope

variable {sender : VerifiedSender} {scopes : List String}

theorem mem_senderScopes_iff
    (derived : senderScopes provider sender = .ok scopes) {scope : String} :
    scope ∈ scopes ↔
      syntheticScope provider senderDimension sender.senderId = .ok scope ∨
        ∃ country ∈ sender.countries,
          syntheticScope provider geoDimension country = .ok scope := by
  unfold senderScopes at derived
  obtain ⟨_, here, derived⟩ := bind_eq_ok.mp derived
  obtain ⟨_, reached, derived⟩ := bind_eq_ok.mp derived
  cases derived
  rw [List.mem_cons, mem_mapM_iff reached, here, Except.ok.injEq, eq_comm]

theorem named_of_senderScopes
    (derived : senderScopes provider sender = .ok scopes) :
    (∃ scope, syntheticScope provider senderDimension sender.senderId =
      .ok scope) ∧
      ∀ country ∈ sender.countries,
        ∃ scope, syntheticScope provider geoDimension country = .ok scope := by
  unfold senderScopes at derived
  obtain ⟨own, here, derived⟩ := bind_eq_ok.mp derived
  obtain ⟨_, reached, _⟩ := bind_eq_ok.mp derived
  refine ⟨⟨own, here⟩, fun country member => ?_⟩
  obtain ⟨scope, _, named⟩ := (mapM_spec reached).2 country member
  exact ⟨scope, named⟩

structure Collected (state : VerifiedAccountState)
    (families : List String) (senders : List (List String))
    (templates : List String) : Prop where
  families : state.families.mapM (familyScope state.provider) = .ok families
  senders : (state.senders.filter fun sender =>
    sender.enabled && state.isLive sender.family).mapM
      (senderScopes state.provider) = .ok senders
  templates : state.templates.mapM
    (syntheticScope state.provider templateDimension) = .ok templates

variable {state : VerifiedAccountState}

theorem collected_of_derived
    (derived : deriveSyntheticScopes state = .ok scopes)
    (verified : state.status = .verified) :
    ∃ families senders templates,
      Collected state families senders templates ∧
        scopes = families ++ senders.flatten ++ templates := by
  unfold deriveSyntheticScopes at derived
  rw [if_pos verified] at derived
  obtain ⟨families, named, derived⟩ := bind_eq_ok.mp derived
  obtain ⟨senders, sent, derived⟩ := bind_eq_ok.mp derived
  obtain ⟨templates, approved, derived⟩ := bind_eq_ok.mp derived
  cases derived
  exact ⟨families, senders, templates, ⟨named, sent, approved⟩, rfl⟩

theorem Collected.group {families : List String} {senders : List (List String)}
    {templates : List String}
    (collected : Collected state families senders templates)
    (member : sender ∈ state.senders) (enabled : sender.enabled = true)
    (live : state.isLive sender.family = true) :
    ∃ group ∈ senders, senderScopes state.provider sender = .ok group := by
  refine (mapM_spec collected.senders).2 sender
    (List.mem_filter.mpr ⟨member, ?_⟩)
  rw [enabled, live]
  rfl

theorem mem_derive_iff (derived : deriveSyntheticScopes state = .ok scopes)
    {scope : String} :
    scope ∈ scopes ↔ state.status = .verified ∧ Scoped state scope := by
  by_cases verified : state.status = .verified
  · obtain ⟨_, _, _, collected, rfl⟩ := collected_of_derived derived verified
    rw [and_iff_right verified, List.mem_append, List.mem_append,
      mem_mapM_iff collected.families, mem_mapM_iff collected.templates,
      List.mem_flatten]
    constructor
    · rintro ((⟨family, member, here⟩ | ⟨group, listed, inside⟩) |
        ⟨template, member, here⟩)
      · exact ⟨_, _, .family member, here⟩
      · obtain ⟨sender, member, here⟩ :=
          (mem_mapM_iff collected.senders).mp listed
        obtain ⟨member, fits⟩ := List.mem_filter.mp member
        rw [Bool.and_eq_true] at fits
        rcases (mem_senderScopes_iff here).mp inside with own |
          ⟨country, reached, geo⟩
        · exact ⟨_, _, .sender member fits.1 fits.2, own⟩
        · exact ⟨_, _, .geo member fits.1 fits.2 reached, geo⟩
      · exact ⟨_, _, .template member, here⟩
    · rintro ⟨_, _, grants, here⟩
      cases grants with
      | family member => exact .inl (.inl ⟨_, member, here⟩)
      | sender member enabled live =>
          obtain ⟨group, listed, all⟩ := collected.group member enabled live
          exact .inl (.inr ⟨group, listed,
            (mem_senderScopes_iff all).mpr (.inl here)⟩)
      | geo member enabled live reached =>
          obtain ⟨group, listed, all⟩ := collected.group member enabled live
          exact .inl (.inr ⟨group, listed,
            (mem_senderScopes_iff all).mpr (.inr ⟨_, reached, here⟩)⟩)
      | template member => exact .inr ⟨_, member, here⟩
  · unfold deriveSyntheticScopes at derived
    rw [if_neg verified] at derived
    cases derived
    exact iff_of_false List.not_mem_nil fun both => verified both.1

theorem named_of_grants (derived : deriveSyntheticScopes state = .ok scopes)
    (verified : state.status = .verified) {value : String}
    (grants : Grants state dimension value) :
    ∃ scope, syntheticScope state.provider dimension value = .ok scope := by
  obtain ⟨_, _, _, collected, rfl⟩ := collected_of_derived derived verified
  cases grants with
  | family member =>
      obtain ⟨scope, _, named⟩ := (mapM_spec collected.families).2 _ member
      exact ⟨scope, named⟩
  | sender member enabled live =>
      obtain ⟨_, _, all⟩ := collected.group member enabled live
      exact (named_of_senderScopes all).1
  | geo member enabled live reached =>
      obtain ⟨_, _, all⟩ := collected.group member enabled live
      exact (named_of_senderScopes all).2 _ reached
  | template member =>
      obtain ⟨scope, _, named⟩ := (mapM_spec collected.templates).2 _ member
      exact ⟨scope, named⟩

theorem derived_subset_iff {other : VerifiedAccountState}
    {allowed : List String} (derived : deriveSyntheticScopes state = .ok scopes)
    (otherDerived : deriveSyntheticScopes other = .ok allowed)
    (verified : state.status = .verified) :
    scopes ⊆ allowed ↔ ∀ dimension value, Grants state dimension value →
      other.status = .verified ∧ state.provider = other.provider ∧
        Grants other dimension value := by
  constructor
  · intro subset dimension value grants
    obtain ⟨scope, here⟩ := named_of_grants derived verified grants
    have member := subset ((mem_derive_iff derived).mpr
      ⟨verified, dimension, value, grants, here⟩)
    obtain ⟨otherVerified, _, _, given, there⟩ :=
      (mem_derive_iff otherDerived).mp member
    obtain ⟨plain, named⟩ := syntheticScope_eq_ok here
    obtain ⟨otherPlain, otherNamed⟩ := syntheticScope_eq_ok there
    obtain ⟨provider, rfl, rfl⟩ :=
      scopeText_inj plain otherPlain (named.symm.trans otherNamed)
    exact ⟨otherVerified, provider, given⟩
  · intro covered scope member
    obtain ⟨_, dimension, value, grants, here⟩ :=
      (mem_derive_iff derived).mp member
    obtain ⟨otherVerified, provider, given⟩ := covered dimension value grants
    rw [provider] at here
    exact (mem_derive_iff otherDerived).mpr
      ⟨otherVerified, dimension, value, given, here⟩

structure Lessens (state later : VerifiedAccountState) : Prop where
  provider : later.provider = state.provider
  status : later.status = .verified → state.status = .verified
  families : later.families ⊆ state.families
  senders : ∀ sender ∈ later.senders, sender.enabled = true →
    sender ∈ state.senders
  templates : later.templates ⊆ state.templates

def VerifiedAccountState.disable (state : VerifiedAccountState)
    (senderId : String) : VerifiedAccountState :=
  { state with
    senders := state.senders.map fun sender =>
      if sender.senderId = senderId then { sender with enabled := false }
      else sender }

def Lost (state : VerifiedAccountState) (entry : VerifiedSender)
    (dimension value : String) : Prop :=
  dimension = senderDimension ∧ value = entry.senderId ∨
  dimension = geoDimension ∧ value ∈ entry.countries ∧
    ∀ other ∈ state.senders, other.enabled = true →
      state.isLive other.family = true → value ∈ other.countries →
        other.senderId = entry.senderId

structure DisablesExactly (state : VerifiedAccountState)
    (entry : VerifiedSender) (scopes : List String) : Prop where
  monotone : ∀ later, Lessens state later →
    ∃ fewer, deriveSyntheticScopes later = .ok fewer ∧ fewer ⊆ scopes
  removes : ∃ fewer,
    deriveSyntheticScopes (state.disable entry.senderId) = .ok fewer ∧
    (∀ scope, scope ∈ fewer ↔ scope ∈ scopes ∧ ¬ ∃ dimension value,
      Lost state entry dimension value ∧
        scope = scopeText state.provider dimension value) ∧
    (state.status = .verified → ∀ other ∈ state.senders,
      other.senderId ≠ entry.senderId → other.enabled = true →
      state.isLive other.family = true →
        scopeText state.provider senderDimension other.senderId ∈ fewer ∧
        ∀ country ∈ other.countries,
          scopeText state.provider geoDimension country ∈ fewer)

variable {later : VerifiedAccountState} {value : String}

theorem Lessens.grants (lessens : Lessens state later)
    (grants : Grants later dimension value) : Grants state dimension value := by
  have live : ∀ {family}, later.isLive family = true →
      state.isLive family = true := by
    intro family live
    obtain ⟨other, member, same⟩ := later.isLive_iff.mp live
    exact state.isLive_iff.mpr ⟨other, lessens.families member, same⟩
  cases grants with
  | family member => exact .family (lessens.families member)
  | sender member enabled alive =>
      exact .sender (lessens.senders _ member enabled) enabled (live alive)
  | geo member enabled alive reached =>
      exact .geo (lessens.senders _ member enabled) enabled (live alive) reached
  | template member => exact .template (lessens.templates member)

theorem derived_of_named (named : state.status = .verified →
      ∀ dimension value, Grants state dimension value →
        ∃ scope, syntheticScope state.provider dimension value = .ok scope) :
    ∃ scopes, deriveSyntheticScopes state = .ok scopes := by
  unfold deriveSyntheticScopes
  split
  · rename_i verified
    have named := named verified
    obtain ⟨families, collected⟩ := exists_mapM fun family member =>
      named _ _ (@Grants.family state family member)
    obtain ⟨templates, approved⟩ := exists_mapM fun template member =>
      named _ _ (@Grants.template state template member)
    obtain ⟨senders, sent⟩ : ∃ senders, (state.senders.filter fun sender =>
        sender.enabled && state.isLive sender.family).mapM
          (senderScopes state.provider) = .ok senders := by
      refine exists_mapM fun sender member => ?_
      obtain ⟨member, fits⟩ := List.mem_filter.mp member
      rw [Bool.and_eq_true] at fits
      obtain ⟨own, here⟩ := named _ _ (.sender member fits.1 fits.2)
      obtain ⟨countries, reached⟩ := exists_mapM fun country reached =>
        named _ _ (@Grants.geo state _ member fits.1 fits.2 country reached)
      exact ⟨own :: countries, by simp [senderScopes, here, reached]; rfl⟩
    exact ⟨_, bind_eq_ok.mpr ⟨families, collected, bind_eq_ok.mpr
      ⟨senders, sent, bind_eq_ok.mpr ⟨templates, approved, rfl⟩⟩⟩⟩
  · exact ⟨[], rfl⟩

theorem Lessens.derived (lessens : Lessens state later)
    (derived : deriveSyntheticScopes state = .ok scopes) :
    ∃ fewer, deriveSyntheticScopes later = .ok fewer ∧ fewer ⊆ scopes := by
  obtain ⟨fewer, derivedLater⟩ := @derived_of_named later
    fun verified dimension value grants => by
      rw [lessens.provider]
      exact named_of_grants derived (lessens.status verified)
        (lessens.grants grants)
  refine ⟨fewer, derivedLater, fun scope member => ?_⟩
  obtain ⟨verified, dimension, value, grants, here⟩ :=
    (mem_derive_iff derivedLater).mp member
  rw [lessens.provider] at here
  exact (mem_derive_iff derived).mpr ⟨lessens.status verified, dimension,
    value, lessens.grants grants, here⟩

variable {entry : VerifiedSender}

theorem mem_disable {senderId : String} (enabled : sender.enabled = true) :
    sender ∈ (state.disable senderId).senders ↔
      sender ∈ state.senders ∧ sender.senderId ≠ senderId := by
  simp only [VerifiedAccountState.disable, List.mem_map]
  constructor
  · rintro ⟨other, member, rfl⟩
    split at enabled
    · cases enabled
    · rename_i apart
      rw [if_neg apart]
      exact ⟨member, apart⟩
  · rintro ⟨member, apart⟩
    exact ⟨sender, member, if_neg apart⟩

theorem lessens_disable (state : VerifiedAccountState) (senderId : String) :
    Lessens state (state.disable senderId) where
  provider := rfl
  status := id
  families := List.Subset.refl _
  senders := fun _ member enabled => ((mem_disable enabled).mp member).1
  templates := List.Subset.refl _

theorem grants_disable_iff (member : entry ∈ state.senders)
    (only : ∀ other ∈ state.senders, other.senderId = entry.senderId →
      other = entry) :
    Grants (state.disable entry.senderId) dimension value ↔
      Grants state dimension value ∧ (Lost state entry dimension value →
        ∃ family ∈ state.families, partition family = (dimension, value)) := by
  constructor
  · intro grants
    refine ⟨(lessens_disable state entry.senderId).grants grants, ?_⟩
    cases grants with
    | family listed => exact fun _ => ⟨_, listed, rfl⟩
    | sender listed enabled =>
        rintro (⟨_, same⟩ | ⟨geo, _⟩)
        · exact absurd same ((mem_disable enabled).mp listed).2
        · exact absurd geo (by decide)
    | geo listed enabled live reached =>
        obtain ⟨before, apart⟩ := (mem_disable enabled).mp listed
        rintro (⟨sender, _⟩ | ⟨_, _, alone⟩)
        · exact absurd sender (by decide)
        · exact absurd (alone _ before enabled live reached) apart
    | template =>
        rintro (⟨sender, _⟩ | ⟨geo, _⟩)
        · exact absurd sender (by decide)
        · exact absurd geo (by decide)
  · rintro ⟨grants, kept⟩
    by_cases lost : Lost state entry dimension value
    · obtain ⟨family, listed, named⟩ := kept lost
      have granted := @Grants.family (state.disable entry.senderId) family listed
      rwa [named] at granted
    cases grants with
    | family listed => exact .family listed
    | @sender sender listed enabled live =>
        refine .sender ((mem_disable enabled).mpr ⟨listed, fun same => ?_⟩)
          enabled live
        exact lost (.inl ⟨rfl, same⟩)
    | @geo sender listed enabled live country reached =>
        by_cases same : sender.senderId = entry.senderId
        · obtain rfl := only sender listed same
          by_contra none
          refine lost (.inr ⟨rfl, reached, fun other there on alive also => ?_⟩)
          by_contra apart
          exact none (.geo ((mem_disable on).mpr ⟨there, apart⟩) on alive also)
        · exact .geo ((mem_disable enabled).mpr ⟨listed, same⟩) enabled live
            reached
    | template listed => exact .template listed

/-- Disabling a sender takes its own scope and the geographies that it alone
justifies, as long as no family is named like one of them. -/
theorem disablesExactly_iff (derived : deriveSyntheticScopes state = .ok scopes)
    (member : entry ∈ state.senders)
    (only : ∀ other ∈ state.senders, other.senderId = entry.senderId →
      other = entry) :
    DisablesExactly state entry scopes ↔ (state.status = .verified →
      ∀ family ∈ state.families,
        ¬ Lost state entry (partition family).1 (partition family).2) := by
  constructor
  · rintro ⟨_, fewer, derivedFewer, removes, _⟩ verified family listed lost
    obtain ⟨scope, here⟩ := named_of_grants derived verified (.family listed)
    have kept : scope ∈ fewer := (mem_derive_iff derivedFewer).mpr
      ⟨verified, _, _, .family listed, here⟩
    exact ((removes scope).mp kept).2
      ⟨_, _, lost, (syntheticScope_eq_ok here).2⟩
  · intro unnamed
    obtain ⟨fewer, derivedFewer, _⟩ :=
      (lessens_disable state entry.senderId).derived derived
    refine ⟨fun _ lessens => lessens.derived derived, fewer, derivedFewer,
      fun scope => ?_, ?_⟩
    · rw [mem_derive_iff derivedFewer, mem_derive_iff derived]
      constructor
      · rintro ⟨verified, dimension, value, grants, here⟩
        obtain ⟨before, kept⟩ := (grants_disable_iff member only).mp grants
        refine ⟨⟨verified, dimension, value, before, here⟩, ?_⟩
        rintro ⟨lostDimension, _, lost, named⟩
        obtain ⟨plain, text⟩ := syntheticScope_eq_ok here
        have lostPlain : ':' ∉ lostDimension.toList := by
          rcases lost with ⟨rfl, _⟩ | ⟨rfl, _⟩ <;> decide
        obtain ⟨_, rfl, rfl⟩ := scopeText_inj plain ⟨plain.1, lostPlain⟩
          (text.symm.trans named)
        obtain ⟨family, listed, named⟩ := kept lost
        exact unnamed verified family listed (by rwa [named])
      · rintro ⟨⟨verified, dimension, value, grants, here⟩, kept⟩
        refine ⟨verified, dimension, value,
          (grants_disable_iff member only).mpr ⟨grants, fun lost => ?_⟩, here⟩
        exact absurd ⟨_, _, lost, (syntheticScope_eq_ok here).2⟩ kept
    · intro verified other listed apart enabled live
      have there := (mem_disable enabled).mpr ⟨listed, apart⟩
      have kept : ∀ {dimension value : String},
          Grants (state.disable entry.senderId) dimension value →
            scopeText state.provider dimension value ∈ fewer := by
        intro dimension value grants
        obtain ⟨scope, here⟩ := named_of_grants derivedFewer verified grants
        have text : scope = scopeText state.provider dimension value :=
          (syntheticScope_eq_ok here).2
        rw [← text]
        exact (mem_derive_iff derivedFewer).mpr
          ⟨verified, dimension, value, grants, here⟩
      exact ⟨kept (.sender there enabled live),
        fun _ reached => kept (.geo there enabled live reached)⟩

def mobile : VerifiedSender := ⟨"+18095550100", "sms", ["DO"], true⟩

def texting (families : List String)
    (named : ∀ family ∈ families,
      (partition family).1 ≠ "" ∧ (partition family).2 ≠ "") :
    VerifiedAccountState where
  provider := "twilio"
  accountId := "AC2"
  status := .verified
  families := families
  senders := [mobile]
  templates := []
  identified := by decide
  named := named

theorem disablesExactly_iff_sample :
    let state := texting ["sms:send"] (by decide +kernel)
    DisablesExactly state mobile
        ["twilio:sms:send", "twilio:sender:+18095550100", "twilio:geo:DO"] ↔
      (state.status = .verified → ∀ family ∈ state.families,
        ¬ Lost state mobile (partition family).1 (partition family).2) :=
  disablesExactly_iff (by decide +kernel) (.head _)
    fun _ member _ => List.mem_singleton.mp member

/-- A family may be named like the scope of a sender. -/
theorem disabled_sender_kept :
    ¬ ∀ (state : VerifiedAccountState) (entry : VerifiedSender)
      (scopes : List String), deriveSyntheticScopes state = .ok scopes →
      entry ∈ state.senders → (∀ other ∈ state.senders,
        other.senderId = entry.senderId → other = entry) →
      DisablesExactly state entry scopes := by
  intro all
  let state := texting ["sms:send", "sender:+18095550100"] (by decide +kernel)
  obtain ⟨_, _, derived, removes, _⟩ := all state mobile
    ["twilio:sms:send", "twilio:sender:+18095550100",
      "twilio:sender:+18095550100", "twilio:geo:DO"] (by decide +kernel)
    (.head _) fun _ member _ => List.mem_singleton.mp member
  have left : deriveSyntheticScopes (state.disable mobile.senderId) =
      .ok ["twilio:sms:send", "twilio:sender:+18095550100"] := by
    decide +kernel
  cases left.symm.trans derived
  exact ((removes "twilio:sender:+18095550100").mp (.tail _ (.head _))).2
    ⟨senderDimension, mobile.senderId, .inl ⟨rfl, rfl⟩, by decide +kernel⟩

end AcpTask.ControlPlane
