import AcpTask.Data.Value
import AcpTask.Library.Table
import AcpTask.Library.TopRanked

namespace AcpTask.Eligibility

open Data Library

/-! The communication rules: what the table admits, what `active_rows` hands
out of it, and the rule that `JurisdictionRuleTable.resolve` picks. -/

/-- A row of `compliance.jurisdiction_rules`, with the table's checks. -/
structure StoredRule where
  ruleId : String
  tenantId : String
  jurisdiction : String
  channel : String
  purpose : String
  priority : Int := 0
  contactHourStart : Nat
  contactHourEnd : Nat
  registryMaxAgeSeconds : Option Int
  enabled : Bool := false
  verifiedAt : Option Int
  sourceUri : Option String
  startBound : contactHourStart ≤ 23
  endBound : 1 ≤ contactHourEnd ∧ contactHourEnd ≤ 24
  sourced : enabled = true → verifiedAt.isSome = true ∧ sourceUri.isSome = true

def StoredRule.key (rule : StoredRule) : String × String :=
  (rule.ruleId, rule.tenantId)

abbrev RuleStore := Table StoredRule StoredRule.key

/-- A row as `resolve` and the quiet hours read it. -/
structure RuleRow where
  ruleId : String
  jurisdiction : String
  channel : String
  purpose : String
  priority : Int
  contactHourStart : Nat
  contactHourEnd : Nat
  registryMaxAgeSeconds : Option Int
  enabled : Bool
  deriving DecidableEq

def StoredRule.row (rule : StoredRule) : RuleRow where
  ruleId := rule.ruleId
  jurisdiction := rule.jurisdiction
  channel := rule.channel
  purpose := rule.purpose
  priority := rule.priority
  contactHourStart := rule.contactHourStart
  contactHourEnd := rule.contactHourEnd
  registryMaxAgeSeconds := rule.registryMaxAgeSeconds
  enabled := true

def activeRows (store : RuleStore) (tenantId : String) : List RuleRow :=
  (store.rows.filter fun rule =>
    rule.tenantId == tenantId && rule.enabled &&
      rule.verifiedAt.isSome).map StoredRule.row

abbrev Effect := List (String × Value)

/-- The test of `resolve` on one row: `None` is no text, so an effect without
a market meets no rule. -/
def RuleRow.applies (effect : Effect) (row : RuleRow) : Bool :=
  row.enabled && (Value.lookup effect "market").isText row.jurisdiction &&
    ((Value.lookup effect "channel").isText row.channel ||
      row.channel == "all") &&
    ((Value.lookup effect "purpose").isText row.purpose || row.purpose == "all")

def resolve (rows : List RuleRow) (effect : Effect) : Option RuleRow :=
  topRanked RuleRow.priority (rows.filter (RuleRow.applies effect))

theorem mem_activeRows {store : RuleStore} {tenantId : String} {row : RuleRow} :
    row ∈ activeRows store tenantId ↔
      ∃ rule ∈ store, rule.tenantId = tenantId ∧ rule.enabled = true ∧
        rule.row = row := by
  have verified : ∀ rule : StoredRule, rule.enabled = true →
      rule.verifiedAt.isSome = true :=
    fun rule enabled => (rule.sourced enabled).1
  simp only [activeRows, List.mem_map, List.mem_filter, Bool.and_eq_true,
    beq_iff_eq, Table.mem_def]
  constructor
  · rintro ⟨rule, ⟨member, ⟨tenant, enabled⟩, -⟩, same⟩
    exact ⟨rule, member, tenant, enabled, same⟩
  · rintro ⟨rule, member, tenant, enabled, same⟩
    exact ⟨rule, ⟨member, ⟨tenant, enabled⟩, verified rule enabled⟩, same⟩

theorem activeRows_inj {store : RuleStore} {tenantId : String}
    {first second : RuleRow} (firstMember : first ∈ activeRows store tenantId)
    (secondMember : second ∈ activeRows store tenantId)
    (sameId : first.ruleId = second.ruleId) : first = second := by
  obtain ⟨rule, held, tenant, -, rfl⟩ := mem_activeRows.mp firstMember
  obtain ⟨other, otherHeld, otherTenant, -, rfl⟩ :=
    mem_activeRows.mp secondMember
  have sameKey : rule.key = other.key :=
    Prod.ext sameId (tenant.trans otherTenant.symm)
  rw [store.eq_of_key held otherHeld sameKey]

def Undisputed (rows : List RuleRow) (effect : Effect) : Prop :=
  ∀ first ∈ rows, ∀ second ∈ rows,
    first.applies effect = true → second.applies effect = true →
      first.priority = second.priority → first.ruleId ≠ second.ruleId →
        ∃ third ∈ rows, third.applies effect = true ∧
          first.priority < third.priority

theorem undisputed_iff {rows : List RuleRow} {effect : Effect}
    (distinct : ∀ first ∈ rows, ∀ second ∈ rows,
      first.ruleId = second.ruleId → first = second) :
    Undisputed rows effect ↔
      ∀ first second,
        Highest RuleRow.priority (rows.filter (RuleRow.applies effect)) first →
        Highest RuleRow.priority (rows.filter (RuleRow.applies effect)) second →
          first = second := by
  constructor
  · intro undisputed first second highest other
    obtain ⟨firstMember, firstApplies⟩ := List.mem_filter.mp highest.1
    obtain ⟨secondMember, secondApplies⟩ := List.mem_filter.mp other.1
    apply distinct first firstMember second secondMember
    by_contra differ
    obtain ⟨third, member, applies, above⟩ := undisputed first firstMember
      second secondMember firstApplies secondApplies (highest.rank_eq other)
      differ
    have below := highest.2 third (List.mem_filter.mpr ⟨member, applies⟩)
    omega
  · intro single first firstMember second secondMember firstApplies
      secondApplies tie differ
    by_contra unbeaten
    have least : ∀ other ∈ rows.filter (RuleRow.applies effect),
        other.priority ≤ first.priority := by
      intro other member
      obtain ⟨held, applies⟩ := List.mem_filter.mp member
      by_contra above
      exact unbeaten ⟨other, held, applies, by omega⟩
    have firstHighest : Highest RuleRow.priority
        (rows.filter (RuleRow.applies effect)) first :=
      ⟨List.mem_filter.mpr ⟨firstMember, firstApplies⟩, least⟩
    have secondHighest : Highest RuleRow.priority
        (rows.filter (RuleRow.applies effect)) second :=
      ⟨List.mem_filter.mpr ⟨secondMember, secondApplies⟩, tie ▸ least⟩
    exact differ (congrArg RuleRow.ruleId
      (single first second firstHighest secondHighest))

/-- The query of `active_rows` fixes no order, and the sort keeps the one it
is given. -/
theorem resolve_order_iff (store : RuleStore) (tenantId : String)
    (effect : Effect) :
    (∀ rows : List RuleRow, rows.Perm (activeRows store tenantId) →
        resolve rows effect = resolve (activeRows store tenantId) effect) ↔
      Undisputed (activeRows store tenantId) effect := by
  rw [undisputed_iff fun _ firstMember _ secondMember =>
    activeRows_inj firstMember secondMember]
  exact topRanked_filter_perm_iff (RuleRow.applies effect)
    (activeRows store tenantId)

def anyChannelRule : StoredRule where
  ruleId := "us-any"
  tenantId := "tenant"
  jurisdiction := "US"
  channel := "all"
  purpose := "marketing"
  contactHourStart := 8
  contactHourEnd := 21
  registryMaxAgeSeconds := none
  enabled := true
  verifiedAt := some 1
  sourceUri := some "rule:us"
  startBound := by decide
  endBound := by decide
  sourced := by decide

def smsRule : StoredRule where
  ruleId := "us-sms"
  tenantId := "tenant"
  jurisdiction := "US"
  channel := "sms"
  purpose := "marketing"
  contactHourStart := 11
  contactHourEnd := 20
  registryMaxAgeSeconds := none
  enabled := true
  verifiedAt := some 1
  sourceUri := some "rule:us-sms"
  startBound := by decide
  endBound := by decide
  sourced := by decide

def twoRules : RuleStore := ⟨[anyChannelRule, smsRule], by decide⟩

def smsEffect : Effect :=
  [("market", .str "US"), ("channel", .str "sms"),
    ("purpose", .str "marketing")]

theorem twoRules_disordered :
    ¬ ∀ rows : List RuleRow, rows.Perm (activeRows twoRules "tenant") →
      resolve rows smsEffect =
        resolve (activeRows twoRules "tenant") smsEffect := by
  intro steady
  have active : activeRows twoRules "tenant" =
      [anyChannelRule.row, smsRule.row] := by decide
  have both : ∀ row, row ∈ [anyChannelRule.row, smsRule.row] →
      row.applies smsEffect = true := by
    intro row member
    rcases List.mem_pair.mp member with rfl | rfl <;> decide
  have first : resolve [anyChannelRule.row, smsRule.row] smsEffect =
      some anyChannelRule.row := by
    rw [resolve, List.filter_eq_self.mpr both]
    exact topRanked_cons (by decide)
  have second : resolve [smsRule.row, anyChannelRule.row] smsEffect =
      some smsRule.row := by
    rw [resolve, List.filter_eq_self.mpr fun row member =>
      both row ((List.Perm.swap _ _ _).mem_iff.mp member)]
    exact topRanked_cons (by decide)
  have same := steady [smsRule.row, anyChannelRule.row]
    (active ▸ List.Perm.swap _ _ _)
  rw [active, first, second] at same
  exact absurd same (by decide)

end AcpTask.Eligibility
