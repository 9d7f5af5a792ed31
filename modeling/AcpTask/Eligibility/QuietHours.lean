import Mathlib.Algebra.Order.Archimedean.Real.Basic
import AcpTask.Eligibility.Jurisdiction

namespace AcpTask.Eligibility

/-! The contact hours of a rule, read in every zone the contact may be in.
Instants are whole seconds since the epoch, as the clock is truncated. -/

structure Zone where
  name : String
  offset : Int

structure LocalTime where
  day : Int
  hour : Int
  minute : Int
  second : Int
  offset : Int

namespace LocalTime

def fromTimestamp (timestamp offset : Int) : LocalTime where
  day := (timestamp + offset) / 86400
  hour := (timestamp + offset) % 86400 / 3600
  minute := (timestamp + offset) % 3600 / 60
  second := (timestamp + offset) % 60
  offset := offset

def timestamp (time : LocalTime) : Int :=
  time.day * 86400 + time.hour * 3600 + time.minute * 60 + time.second -
    time.offset

end LocalTime

structure EligibilityDecision where
  allowed : Bool
  reason : String
  deferredUntil : Option Int := none
  appliedRuleId : Option String := none
  resolvedTimezones : List String := []

def Zone.local (zone : Zone) (now : Int) : LocalTime :=
  LocalTime.fromTimestamp now zone.offset

theorem local_hour (zone : Zone) (now : Int) :
    (zone.local now).hour = (now + zone.offset) % 86400 / 3600 := rfl

def RuleRow.allowsIn (rule : RuleRow) (now : Int) (zone : Zone) : Bool :=
  decide ((rule.contactHourStart : Int) ≤ (zone.local now).hour ∧
    (zone.local now).hour < rule.contactHourEnd)

def RuleRow.nextStart (rule : RuleRow) (now : Int) (zone : Zone) : Int :=
  let here := zone.local now
  let target := { here with
    hour := rule.contactHourStart, minute := 0, second := 0 }
  if here.hour < rule.contactHourStart then target.timestamp
  else { target with day := target.day + 1 }.timestamp

def nextCandidates (zones : List Zone) (rule : RuleRow) (now : Int) :
    List Int :=
  (zones.filter fun zone => !rule.allowsIn now zone).map (rule.nextStart now)

/-- `_quiet_hours_decision`: no decision where every zone permits. -/
def quietHoursDecision (zones : List Zone) (rule : RuleRow) (now : Int) :
    Option EligibilityDecision :=
  if zones.isEmpty then
    some ⟨false, "contact_location_uncertain", none, none, []⟩
  else if zones.all (rule.allowsIn now) then none
  else some {
    allowed := false
    reason := "quiet_hours"
    deferredUntil :=
      some ((nextCandidates zones rule now).max?.getD (now + 3600))
    appliedRuleId := some rule.ruleId
    resolvedTimezones := (zones.map Zone.name).mergeSort }

noncomputable def Zone.hourAt (zone : Zone) (instant : ℝ) : Int :=
  ⌊(instant + zone.offset) / 3600⌋ % 24

def Permits (rule : RuleRow) (zone : Zone) (instant : ℝ) : Prop :=
  (rule.contactHourStart : Int) ≤ zone.hourAt instant ∧
    zone.hourAt instant < rule.contactHourEnd

theorem hourAt_eq (zone : Zone) (instant : ℝ) :
    zone.hourAt instant = (zone.local ⌊instant⌋).hour := by
  have hours : ⌊(instant + zone.offset) / 3600⌋ =
      (⌊instant⌋ + zone.offset) / 3600 := by
    have divided := Int.floor_div_natCast (instant + (zone.offset : ℝ)) 3600
    rw [Int.floor_add_intCast] at divided
    exact_mod_cast divided
  rw [Zone.hourAt, hours, local_hour]
  omega

section Window

variable {rule : RuleRow} {zone : Zone} {now : Int}

theorem nextStart_today
    (early : (zone.local now).hour < rule.contactHourStart) :
    rule.nextStart now zone = (now + zone.offset) / 86400 * 86400 +
      rule.contactHourStart * 3600 - zone.offset := by
  rw [RuleRow.nextStart, if_pos early]
  simp [LocalTime.timestamp, Zone.local, LocalTime.fromTimestamp]

theorem nextStart_tomorrow
    (late : ¬ (zone.local now).hour < rule.contactHourStart) :
    rule.nextStart now zone = ((now + zone.offset) / 86400 + 1) * 86400 +
      rule.contactHourStart * 3600 - zone.offset := by
  rw [RuleRow.nextStart, if_neg late]
  simp [LocalTime.timestamp, Zone.local, LocalTime.fromTimestamp]

theorem now_lt_nextStart (rule : RuleRow) (zone : Zone) (now : Int) :
    now < rule.nextStart now zone := by
  by_cases early : (zone.local now).hour < rule.contactHourStart
  · rw [nextStart_today early]
    rw [local_hour] at early
    omega
  · rw [nextStart_tomorrow early]
    omega

section Refused

variable (refused : rule.allowsIn now zone = false)
  (proper : rule.contactHourStart < rule.contactHourEnd)
  (withinDay : rule.contactHourEnd ≤ 24)

include refused proper withinDay

theorem hour_outside {instant : Int} (after : now ≤ instant)
    (before : instant < rule.nextStart now zone) :
    rule.allowsIn instant zone = false := by
  rw [RuleRow.allowsIn, decide_eq_false_iff_not, local_hour] at refused ⊢
  by_cases early : (zone.local now).hour < rule.contactHourStart
  · rw [nextStart_today early] at before
    rw [local_hour] at early
    omega
  · rw [nextStart_tomorrow early] at before
    rw [local_hour] at early
    omega

theorem not_permits_before {instant : ℝ} (after : (now : ℝ) ≤ instant)
    (before : instant < (rule.nextStart now zone : ℝ)) :
    ¬ Permits rule zone instant := by
  have second := hour_outside refused proper withinDay (Int.le_floor.mpr after)
    (Int.floor_lt.mpr before)
  rw [Permits, hourAt_eq]
  rw [RuleRow.allowsIn, decide_eq_false_iff_not] at second
  exact second

end Refused

end Window

theorem latest_opening {zones : List Zone} {rule : RuleRow} {now : Int}
    (refused : zones.all (rule.allowsIn now) = false) :
    ∃ zone ∈ zones, rule.allowsIn now zone = false ∧
      (nextCandidates zones rule now).max?.getD (now + 3600) =
        rule.nextStart now zone := by
  cases latest : (nextCandidates zones rule now).max? with
  | none =>
      rw [List.max?_eq_none_iff, nextCandidates, List.map_eq_nil_iff,
        List.filter_eq_nil_iff] at latest
      rw [List.all_eq_true.mpr fun zone member => by
        simpa using latest zone member] at refused
      cases refused
  | some =>
      have member := List.max?_mem latest
      rw [nextCandidates, List.mem_map] at member
      obtain ⟨zone, kept, same⟩ := member
      obtain ⟨held, outside⟩ := List.mem_filter.mp kept
      exact ⟨zone, held, by simpa using outside, same.symm⟩

/-- A contact with a known location is let through exactly inside the hours of
every zone, and otherwise put off to an instant before which no instant suits
all of them. -/
theorem quietHours_deferred (zones : List Zone) (rule : RuleRow) (now : Int)
    (located : zones ≠ [])
    (proper : rule.contactHourStart < rule.contactHourEnd)
    (withinDay : rule.contactHourEnd ≤ 24) :
    (quietHoursDecision zones rule now = none ↔
      ∀ zone ∈ zones, (rule.contactHourStart : Int) ≤ (zone.local now).hour ∧
        (zone.local now).hour < rule.contactHourEnd) ∧
    ∀ decision, quietHoursDecision zones rule now = some decision →
      decision.allowed = false ∧
      ∃ deferredUntil, decision.deferredUntil = some deferredUntil ∧
        now < deferredUntil ∧
        ∀ instant : ℝ, (now : ℝ) ≤ instant → instant < (deferredUntil : ℝ) →
          ¬ ∀ zone ∈ zones, Permits rule zone instant := by
  have known : zones.isEmpty = false := List.isEmpty_eq_false_iff.mpr located
  constructor
  · rw [quietHoursDecision, known]
    simp [RuleRow.allowsIn]
  · intro decision decided
    simp only [quietHoursDecision, known, Bool.false_eq_true, if_false]
      at decided
    split at decided
    next => cases decided
    next refused =>
      cases decided
      obtain ⟨zone, member, outside, latest⟩ :=
        latest_opening (Bool.not_eq_true _ ▸ refused)
      refine ⟨rfl, _, rfl, ?_, ?_⟩
      · rw [latest]
        exact now_lt_nextStart rule zone now
      · intro instant after before permitted
        rw [latest] at before
        exact not_permits_before outside proper withinDay after before
          (permitted zone member)

def daytimeRule : RuleRow where
  ruleId := "day"
  jurisdiction := "EC"
  channel := "all"
  purpose := "all"
  priority := 0
  contactHourStart := 8
  contactHourEnd := 21
  registryMaxAgeSeconds := none
  enabled := true

def guayaquil : Zone := ⟨"America/Guayaquil", -18000⟩

def kolkata : Zone := ⟨"Asia/Kolkata", 19800⟩

theorem quietHours_twoZones :
    quietHoursDecision [guayaquil, kolkata] daytimeRule 43200 ≠ none ∧
      ∀ decision,
        quietHoursDecision [guayaquil, kolkata] daytimeRule 43200 =
          some decision →
        decision.allowed = false ∧
        ∃ deferredUntil, decision.deferredUntil = some deferredUntil ∧
          43200 < deferredUntil ∧
          ∀ instant : ℝ, ((43200 : Int) : ℝ) ≤ instant →
            instant < (deferredUntil : ℝ) →
            ¬ ∀ zone ∈ [guayaquil, kolkata],
              Permits daytimeRule zone instant := by
  have law := quietHours_deferred [guayaquil, kolkata] daytimeRule 43200
    (by decide) (by decide) (by decide)
  exact ⟨fun allowed => absurd (law.1.mp allowed) (by decide), law.2⟩

/-- Without a location nothing is allowed, although no zone objects. -/
theorem quietHours_uncertain :
    (∀ zone ∈ ([] : List Zone),
        (daytimeRule.contactHourStart : Int) ≤ (zone.local 43200).hour ∧
          (zone.local 43200).hour < daytimeRule.contactHourEnd) ∧
      quietHoursDecision [] daytimeRule 43200 ≠ none := by
  exact ⟨fun zone member => absurd member List.not_mem_nil, by decide⟩

end AcpTask.Eligibility
