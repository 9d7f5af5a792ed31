import Mathlib.Data.Int.ConditionallyCompleteOrder
import Mathlib.Data.List.Induction
import Mathlib.Data.Rat.Floor
import AcpTask.Library.FixedWindow
import AcpTask.Library.Run
import AcpTask.Library.Table
import AcpTask.Library.Transaction

namespace AcpTask.Broker

open Library

/-! The distributed throughput limit: a fixed-window budget that every broker
process shares through one database. -/

/-- `int(clock())`. -/
def wholeSeconds (clock : ℚ) : Int := clock.num.tdiv clock.den

theorem wholeSeconds_of_nonneg {clock : ℚ} (sign : 0 ≤ clock) :
    wholeSeconds clock = ⌊clock⌋ := by
  rw [wholeSeconds, Rat.floor_def',
    Int.tdiv_eq_ediv_of_nonneg (Rat.num_nonneg.mpr sign)]

theorem wholeSeconds_of_nonpos {clock : ℚ} (sign : clock ≤ 0) :
    wholeSeconds clock = ⌈clock⌉ := by
  have negated := @wholeSeconds_of_nonneg (-clock) (neg_nonneg.mpr sign)
  rw [wholeSeconds, Rat.neg_num, Rat.neg_den, Int.neg_tdiv, Int.floor_neg,
    neg_inj] at negated
  exact negated

theorem wholeSeconds_mono {first second : ℚ} (order : first ≤ second) :
    wholeSeconds first ≤ wholeSeconds second := by
  rcases le_total 0 first with sign | sign
  · rw [wholeSeconds_of_nonneg sign, wholeSeconds_of_nonneg (sign.trans order)]
    exact Int.floor_mono order
  · rw [wholeSeconds_of_nonpos sign]
    have negative : ⌈first⌉ ≤ 0 := Int.ceil_le.mpr (by simpa using sign)
    rcases le_total 0 second with other | other
    · rw [wholeSeconds_of_nonneg other]
      exact negative.trans (Int.floor_nonneg.mpr other)
    · rw [wholeSeconds_of_nonpos other]
      exact Int.ceil_mono order

theorem wholeSeconds_add_le (clock : ℚ) {seconds : Int} (sign : 0 ≤ seconds) :
    wholeSeconds (clock + seconds) ≤ wholeSeconds clock + seconds := by
  rcases le_total 0 clock with early | early
  · have later : (0 : ℚ) ≤ clock + seconds :=
      add_nonneg early (by exact_mod_cast sign)
    rw [wholeSeconds_of_nonneg early, wholeSeconds_of_nonneg later,
      Int.floor_add_intCast]
  · rw [wholeSeconds_of_nonpos early]
    rcases le_total 0 (clock + seconds) with later | later
    · rw [wholeSeconds_of_nonneg later, Int.floor_add_intCast]
      exact add_le_add_left (Int.floor_le_ceil clock) seconds
    · rw [wholeSeconds_of_nonpos later, Int.ceil_add_intCast]

/-- A row of `throughput_limits`. -/
structure ThroughputLimit where
  tenantId : String
  capabilityId : String
  limitCount : Int
  windowSeconds : Int
  positive : 0 < limitCount ∧ 0 < windowSeconds

abbrev ThroughputLimit.key (row : ThroughputLimit) : String × String :=
  (row.tenantId, row.capabilityId)

/-- A row of `throughput_windows`. -/
structure ThroughputWindow where
  tenantId : String
  capabilityId : String
  windowStarted : Int
  used : Int

abbrev ThroughputWindow.key (row : ThroughputWindow) : String × String :=
  (row.tenantId, row.capabilityId)

structure ThroughputStore where
  limits : Table ThroughputLimit ThroughputLimit.key
  windows : Table ThroughputWindow ThroughputWindow.key

inductive ThroughputError where
  | valueError (message : String)
  | lookupError (message : String)
  | throughputExceeded (retryAt : Int)

def configure (store : ThroughputStore) (tenantId capabilityId : String)
    (limit windowSeconds : Int) :
    Except ThroughputError Unit × ThroughputStore :=
  if positive : 0 < limit ∧ 0 < windowSeconds then
    (.ok (), { store with
      limits := store.limits.upsert
        ⟨tenantId, capabilityId, limit, windowSeconds, positive⟩
        (fun row => { row with limitCount := limit, windowSeconds, positive })
        (fun _ => rfl) })
  else
    (.error (.valueError "throughput limit and window must be positive"), store)

def openWindow (limit : ThroughputLimit) (window : Option ThroughputWindow)
    (now : Int) : Int × Int :=
  match window with
  | none => (now, 0)
  | some window =>
      if window.windowStarted + limit.windowSeconds ≤ now then (now, 0)
      else (window.windowStarted, window.used)

def acquire (store : ThroughputStore) (tenantId capabilityId : String)
    (units : Int) (clock : ℚ) : Except ThroughputError Int × ThroughputStore :=
  let now := wholeSeconds clock
  transaction store fun store =>
    match store.limits.find? (tenantId, capabilityId) with
    | none => throw (.lookupError "throughput limit is not configured")
    | some limit =>
        let window := openWindow limit
          (store.windows.find? (tenantId, capabilityId)) now
        if limit.limitCount < window.2 + units then
          throw (.throughputExceeded (window.1 + limit.windowSeconds))
        else
          pure (window.2 + units, { store with
            windows := store.windows.upsert
              ⟨tenantId, capabilityId, window.1, window.2 + units⟩
              (fun row => { row with
                windowStarted := window.1, used := window.2 + units })
              (fun _ => rfl) })

inductive ThroughputAction where
  | configure (tenantId capabilityId : String) (limit windowSeconds : Int)
  | acquire (tenantId capabilityId : String) (units : Int) (clock : ℚ)

structure Acquired where
  key : String × String
  clock : ℚ
  grant : Grant Int Int

structure ThroughputSystem where
  store : ThroughputStore
  acquired : List Acquired

def ThroughputSystem.initial : ThroughputSystem :=
  ⟨⟨Table.empty, Table.empty⟩, []⟩

def ThroughputStore.opened (store : ThroughputStore) (key : String × String) :
    Int :=
  ((store.windows.find? key).map ThroughputWindow.windowStarted).getD 0

def throughputStep (system : ThroughputSystem) :
    ThroughputAction → ThroughputSystem
  | .configure tenantId capabilityId limit windowSeconds =>
      { system with
        store := (configure system.store tenantId capabilityId limit
          windowSeconds).2 }
  | .acquire tenantId capabilityId units clock =>
      let result := acquire system.store tenantId capabilityId units clock
      { store := result.2
        acquired := if result.1.isOk then
            ⟨(tenantId, capabilityId), clock, wholeSeconds clock,
              result.2.opened (tenantId, capabilityId), units⟩ ::
              system.acquired
          else system.acquired }

def throughputRun (actions : List ThroughputAction) : ThroughputSystem :=
  run throughputStep ThroughputSystem.initial actions

def ThroughputSystem.taken (system : ThroughputSystem)
    (test : Acquired → Bool) : Int :=
  ((system.acquired.filter test).map fun call => call.grant.units).sum

def clocks (key : String × String) (actions : List ThroughputAction) :
    List ℚ :=
  actions.filterMap fun action =>
    match action with
    | .acquire tenantId capabilityId _ clock =>
        if (tenantId, capabilityId) = key then some clock else none
    | .configure .. => none

/-- One limit and one window for a key, and no call for it that asks for
nothing. -/
def Fixed (limit : ThroughputLimit) (actions : List ThroughputAction) : Prop :=
  (∀ count windowSeconds,
    .configure limit.tenantId limit.capabilityId count windowSeconds ∈ actions →
      count = limit.limitCount ∧ windowSeconds = limit.windowSeconds) ∧
  ∀ units clock,
    .acquire limit.tenantId limit.capabilityId units clock ∈ actions → 0 < units

theorem acquire_cases (store : ThroughputStore) (tenantId capabilityId : String)
    (units : Int) (clock : ℚ) :
    (∃ error, acquire store tenantId capabilityId units clock =
      (.error error, store)) ∨
    ∃ limit opened used later,
      store.limits.find? (tenantId, capabilityId) = some limit ∧
      openWindow limit (store.windows.find? (tenantId, capabilityId))
        (wholeSeconds clock) = (opened, used) ∧
      used + units ≤ limit.limitCount ∧ later.limits = store.limits ∧
      (∀ key, later.windows.find? key = if (tenantId, capabilityId) = key then
          some ⟨tenantId, capabilityId, opened, used + units⟩
        else store.windows.find? key) ∧
      acquire store tenantId capabilityId units clock =
        (.ok (used + units), later) := by
  unfold acquire transaction
  dsimp only
  cases found : store.limits.find? (tenantId, capabilityId) with
  | none => exact .inl ⟨_, rfl⟩
  | some limit =>
      dsimp only
      obtain ⟨⟨opened, used⟩, opens⟩ : ∃ window, openWindow limit
          (store.windows.find? (tenantId, capabilityId))
          (wholeSeconds clock) = window := ⟨_, rfl⟩
      rw [opens]
      dsimp only
      by_cases exceeds : limit.limitCount < used + units
      · rw [if_pos exceeds]
        exact .inl ⟨_, rfl⟩
      · rw [if_neg exceeds]
        refine .inr ⟨limit, opened, used, { store with
          windows := store.windows.upsert
            ⟨tenantId, capabilityId, opened, used + units⟩
            (fun row => { row with
              windowStarted := opened, used := used + units })
            (fun _ => rfl) }, rfl, opens, Int.not_lt.mp exceeds, rfl,
          fun key => ?_, rfl⟩
        rw [Table.find?_upsert]
        split
        · rename_i same
          cases present : store.windows.find? key with
          | none => rfl
          | some =>
              have named := (Table.find?_eq_some_iff.mp present).2
              rw [← same] at named
              cases named
              rfl
        · rfl

theorem acquire_atomic (store : ThroughputStore)
    (tenantId capabilityId : String) (units : Int) (clock : ℚ) :
    Atomic store (acquire store tenantId capabilityId units clock) :=
  transaction_atomic store _

section Kept

variable {limit : ThroughputLimit} {system : ThroughputSystem}

def ThroughputSystem.grants (system : ThroughputSystem)
    (key : String × String) : List (Grant Int Int) :=
  (system.acquired.filter fun call => decide (call.key = key)).map
    Acquired.grant

/-- The counters of a key are what it was granted in its current window, the
last one that opened. -/
structure Metered (limit : ThroughputLimit) (system : ThroughputSystem) :
    Prop where
  configured : ∀ row, system.store.limits.find? limit.key = some row →
    row.limitCount = limit.limitCount ∧ row.windowSeconds = limit.windowSeconds
  timed : ∀ call ∈ system.acquired, call.grant.instant = wholeSeconds call.clock
  windowed : Windowed limit.windowSeconds limit.limitCount
    (system.grants limit.key)
  unopened : system.store.windows.find? limit.key = none →
    system.grants limit.key = []
  current : ∀ window, system.store.windows.find? limit.key = some window →
    window.used = granted
        (fun grant => decide (grant.opened = window.windowStarted))
        (system.grants limit.key) ∧
      (∃ grant ∈ system.grants limit.key, grant.opened = window.windowStarted) ∧
      ∀ grant ∈ system.grants limit.key,
        grant.opened ≤ window.windowStarted ∧
          (grant.opened < window.windowStarted →
            grant.opened + limit.windowSeconds ≤ window.windowStarted)

theorem Metered.initial (limit : ThroughputLimit) :
    Metered limit .initial where
  configured _ found := by cases found
  timed _ member := by cases member
  windowed := ⟨fun _ member => (by cases member),
    fun _ member => (by cases member), fun _ member => (by cases member),
    fun _ => limit.positive.1.le⟩
  unopened _ := rfl
  current _ found := by cases found

theorem Metered.openWindow (metered : Metered limit system)
    {row : ThroughputLimit}
    (found : system.store.limits.find? limit.key = some row) {now : Int}
    (nondecreasing : ∀ window,
      system.store.windows.find? limit.key = some window →
        window.windowStarted ≤ now) {opened used : Int}
    (finds : openWindow row (system.store.windows.find? limit.key) now =
      (opened, used)) :
    used = granted (fun grant => decide (grant.opened = opened))
        (system.grants limit.key) ∧
      (opened ≤ now ∧ now < opened + limit.windowSeconds) ∧
      ∀ grant ∈ system.grants limit.key, grant.opened ≤ opened ∧
        (grant.opened < opened →
          grant.opened + limit.windowSeconds ≤ opened) := by
  obtain ⟨-, seconds⟩ := metered.configured row found
  have positive := limit.positive.2
  cases window? : system.store.windows.find? limit.key with
  | none =>
      rw [window?] at finds
      cases finds
      rw [metered.unopened window?]
      refine ⟨rfl, ⟨le_rfl, by omega⟩, fun grant member => ?_⟩
      cases member
  | some window =>
      obtain ⟨used', -, latest⟩ := metered.current window window?
      have started := nondecreasing window window?
      rw [window?, Broker.openWindow, seconds] at finds
      split at finds
      · rename_i ended
        cases finds
        refine ⟨?_, ⟨le_rfl, by omega⟩, fun grant member => ?_⟩
        · rw [granted_eq_zero]
          intro grant member
          have before := (latest grant member).1
          exact decide_eq_false (by omega)
        · have before := (latest grant member).1
          omega
      · rename_i running
        cases finds
        exact ⟨used', ⟨started, by omega⟩, latest⟩

theorem Metered.configure (metered : Metered limit system)
    {tenantId capabilityId : String} {count windowSeconds : Int}
    (fixed : (tenantId, capabilityId) = limit.key →
      count = limit.limitCount ∧ windowSeconds = limit.windowSeconds) :
    Metered limit (throughputStep system
      (.configure tenantId capabilityId count windowSeconds)) := by
  refine ⟨fun row found => ?_, metered.timed, metered.windowed, ?_, ?_⟩
  · simp only [throughputStep, Broker.configure] at found
    split at found
    · rename_i positive
      rw [Table.find?_upsert] at found
      split at found
      · rename_i same
        cases Option.some.inj found
        have fits := fixed same
        cases system.store.limits.find? limit.key <;> exact fits
      · exact metered.configured row found
    · exact metered.configured row found
  · simp only [throughputStep, Broker.configure]
    split <;> exact metered.unopened
  · simp only [throughputStep, Broker.configure]
    split <;> exact metered.current

theorem grants_cons (system : ThroughputSystem) (store : ThroughputStore)
    (call : Acquired) (key : String × String) :
    ThroughputSystem.grants ⟨store, call :: system.acquired⟩ key =
      if call.key = key then call.grant :: system.grants key
      else system.grants key := by
  unfold ThroughputSystem.grants
  rw [List.filter_cons]
  by_cases same : call.key = key
  · rw [if_pos (decide_eq_true same), if_pos same, List.map_cons]
  · rw [if_neg (by simpa using same), if_neg same]

theorem Metered.acquire (metered : Metered limit system)
    {tenantId capabilityId : String} {units : Int} {clock : ℚ}
    (positive : (tenantId, capabilityId) = limit.key → 0 < units)
    (nondecreasing : (tenantId, capabilityId) = limit.key → ∀ window,
      system.store.windows.find? limit.key = some window →
        window.windowStarted ≤ wholeSeconds clock) :
    Metered limit (throughputStep system
      (.acquire tenantId capabilityId units clock)) := by
  simp only [throughputStep]
  rcases acquire_cases system.store tenantId capabilityId units clock with
    ⟨_, refused⟩ |
      ⟨row, opened, used, later, found, finds, room, limits, windows, done⟩
  · rw [refused]
    exact metered
  · rw [done, show (Except.ok (used + units) :
        Except ThroughputError Int).isOk = true from rfl, if_pos rfl]
    have started : later.opened (tenantId, capabilityId) = opened := by
      rw [ThroughputStore.opened, windows, if_pos rfl]
      rfl
    rw [started]
    have timed : ∀ call ∈ (⟨(tenantId, capabilityId), clock,
        wholeSeconds clock, opened, units⟩ : Acquired) :: system.acquired,
        call.grant.instant = wholeSeconds call.clock :=
      List.forall_mem_cons.mpr ⟨rfl, metered.timed⟩
    by_cases same : (tenantId, capabilityId) = limit.key
    · rw [same] at found finds
      obtain ⟨counted, inside, latest⟩ :=
        metered.openWindow found (nondecreasing same) finds
      have grants : ThroughputSystem.grants ⟨later, ⟨(tenantId, capabilityId),
          clock, wholeSeconds clock, opened, units⟩ :: system.acquired⟩
          limit.key = ⟨wholeSeconds clock, opened, units⟩ ::
            system.grants limit.key := by
        rw [grants_cons, if_pos same]
      have within : units + granted
          (fun grant => decide (grant.opened = opened))
          (system.grants limit.key) ≤ limit.limitCount := by
        rw [← counted, ← (metered.configured row found).1, add_comm]
        exact room
      refine ⟨limits ▸ metered.configured, timed, ?_, fun absent => ?_,
        fun window present => ?_⟩
      · rw [grants]
        exact metered.windowed.cons (positive same).le inside
          (fun grant member => (latest grant member).1)
          (fun grant member => (latest grant member).2) within
      · rw [windows, if_pos same] at absent
        cases absent
      · rw [windows, if_pos same] at present
        cases present
        rw [grants]
        refine ⟨?_, ⟨_, List.mem_cons_self, rfl⟩,
          List.forall_mem_cons.mpr ⟨⟨le_rfl, fun less =>
            absurd less (lt_irrefl _)⟩, latest⟩⟩
        rw [granted_cons, if_pos (decide_eq_true rfl), ← counted, add_comm]
    · have grants : ThroughputSystem.grants ⟨later, ⟨(tenantId, capabilityId),
          clock, wholeSeconds clock, opened, units⟩ :: system.acquired⟩
          limit.key = system.grants limit.key := by
        rw [grants_cons, if_neg same]
      refine ⟨limits ▸ metered.configured, timed, ?_, ?_, ?_⟩
      · rw [grants]
        exact metered.windowed
      · rw [grants, windows, if_neg same]
        exact metered.unopened
      · rw [grants, windows, if_neg same]
        exact metered.current

end Kept

theorem clock_mem_clocks {tenantId capabilityId : String} (units : Int)
    (clock : ℚ) : clock ∈ clocks (tenantId, capabilityId)
      [.acquire tenantId capabilityId units clock] := by
  simp [clocks]

theorem acquired_step (system : ThroughputSystem) (action : ThroughputAction) :
    (throughputStep system action).acquired = system.acquired ∨
      ∃ call, call.clock ∈ clocks call.key [action] ∧
        (throughputStep system action).acquired = call :: system.acquired := by
  cases action with
  | configure => exact .inl rfl
  | acquire _ _ units clock =>
      dsimp only [throughputStep]
      split
      · exact .inr ⟨_, clock_mem_clocks units clock, rfl⟩
      · exact .inl rfl

theorem acquired_suffix (system : ThroughputSystem)
    (actions : List ThroughputAction) :
    system.acquired <:+ (run throughputStep system actions).acquired := by
  induction actions generalizing system with
  | nil => exact List.suffix_rfl
  | cons action _ induction =>
      refine List.IsSuffix.trans ?_ (induction (throughputStep system action))
      rcases acquired_step system action with same | ⟨call, -, more⟩
      · exact same ▸ List.suffix_rfl
      · rw [more]
        exact List.suffix_cons call system.acquired

theorem clocks_append (key : String × String)
    (earlier later : List ThroughputAction) :
    clocks key (earlier ++ later) = clocks key earlier ++ clocks key later :=
  List.filterMap_append

theorem throughputRun_concat (actions : List ThroughputAction)
    (action : ThroughputAction) :
    throughputRun (actions ++ [action]) =
      throughputStep (throughputRun actions) action := by
  rw [throughputRun, run_append]
  rfl

theorem clock_mem (actions : List ThroughputAction) :
    ∀ call ∈ (throughputRun actions).acquired,
      call.clock ∈ clocks call.key actions := by
  induction actions using List.reverseRecOn with
  | nil =>
      intro call member
      cases member
  | append_singleton actions action induction =>
      intro call member
      rw [clocks_append, List.mem_append]
      rw [throughputRun_concat] at member
      rcases acquired_step (throughputRun actions) action with
        same | ⟨other, asked, more⟩
      · rw [same] at member
        exact .inl (induction call member)
      · rw [more] at member
        rcases List.mem_cons.mp member with rfl | old
        · exact .inr asked
        · exact .inl (induction call old)

section Bounds

variable {limit : ThroughputLimit} {system : ThroughputSystem}
  {actions : List ThroughputAction}

theorem mem_grants {key : String × String} {grant : Grant Int Int} :
    grant ∈ system.grants key ↔
      ∃ call ∈ system.acquired, call.key = key ∧ call.grant = grant := by
  simp only [ThroughputSystem.grants, List.mem_map, List.mem_filter,
    decide_eq_true_eq, and_assoc]

theorem Metered.run
    (ordered : (clocks limit.key actions).Pairwise (· ≤ ·))
    (fixed : Fixed limit actions) : Metered limit (throughputRun actions) := by
  induction actions using List.reverseRecOn with
  | nil => exact Metered.initial limit
  | append_singleton actions action induction =>
      rw [clocks_append, List.pairwise_append] at ordered
      have metered := induction ordered.1
        ⟨fun count seconds member =>
            fixed.1 count seconds (List.mem_append_left _ member),
          fun units clock member =>
            fixed.2 units clock (List.mem_append_left _ member)⟩
      rw [throughputRun_concat]
      cases action with
      | configure _ _ count windowSeconds =>
          refine metered.configure fun same => ?_
          obtain ⟨rfl, rfl⟩ := Prod.mk.inj same
          exact fixed.1 count windowSeconds (by simp)
      | acquire _ _ units clock =>
          refine metered.acquire (fun same => ?_) fun same window found => ?_
          · obtain ⟨rfl, rfl⟩ := Prod.mk.inj same
            exact fixed.2 units clock (by simp)
          · obtain ⟨-, ⟨_, member, opened⟩, -⟩ := metered.current window found
            obtain ⟨call, listed, named, rfl⟩ := mem_grants.mp member
            have asked := clock_mem actions call listed
            rw [named] at asked
            have before := ordered.2.2 call.clock asked clock
              (same ▸ clock_mem_clocks units clock)
            rw [← opened]
            exact (metered.windowed.inside _ member).1.trans
              (metered.timed call listed ▸ wholeSeconds_mono before)

theorem taken_le_granted {key : String × String} {passes : Acquired → Bool}
    {test : Grant Int Int → Bool}
    (nonnegative : ∀ grant ∈ system.grants key, 0 ≤ grant.units)
    (weaker : ∀ call ∈ system.acquired, passes call = true →
      test call.grant = true) :
    system.taken (fun call => decide (call.key = key) && passes call) ≤
      granted test (system.grants key) := by
  obtain ⟨store, acquired⟩ := system
  induction acquired with
  | nil => exact le_rfl
  | cons call acquired induction =>
      have cons := grants_cons ⟨store, acquired⟩ store call key
      dsimp only at cons
      rw [cons] at nonnegative ⊢
      rw [ThroughputSystem.taken, List.filter_cons]
      by_cases same : call.key = key
      · rw [if_pos same] at nonnegative ⊢
        obtain ⟨sign, signs⟩ := List.forall_mem_cons.mp nonnegative
        have rest := induction signs
          fun other member => weaker other (List.mem_cons_of_mem _ member)
        rw [granted_cons]
        cases counts : passes call with
        | false =>
            rw [if_neg (by simp)]
            refine rest.trans (le_add_of_nonneg_left ?_)
            split
            · exact sign
            · exact le_rfl
        | true =>
            rw [if_pos (by simp [same]), List.map_cons, List.sum_cons,
              if_pos (weaker call List.mem_cons_self counts)]
            exact add_le_add_right rest _
      · rw [if_neg same] at nonnegative ⊢
        rw [if_neg (by simp [same])]
        exact induction nonnegative
          fun other member => weaker other (List.mem_cons_of_mem _ member)

end Bounds

/-- With one limit and one window, and times that do not go back, no window of a
key is granted more than the limit, no interval of its length more than twice
the limit, and a call that is refused leaves the counters as they were. -/
theorem throughput_bounded (limit : ThroughputLimit)
    (actions : List ThroughputAction)
    (ordered : (clocks limit.key actions).Pairwise (· ≤ ·))
    (fixed : Fixed limit actions) :
    (∀ earlier later window, actions = earlier ++ later →
      (throughputRun earlier).store.windows.find? limit.key = some window →
        (throughputRun actions).taken (fun call =>
          decide (call.key = limit.key) &&
            (decide (window.windowStarted ≤ wholeSeconds call.clock) &&
              decide (wholeSeconds call.clock <
                window.windowStarted + limit.windowSeconds))) ≤
          limit.limitCount) ∧
      (∀ start : ℚ, (throughputRun actions).taken (fun call =>
        decide (call.key = limit.key) &&
          (decide (start ≤ call.clock) &&
            decide (call.clock ≤ start + limit.windowSeconds))) ≤
          2 * limit.limitCount) ∧
      ∀ tenantId capabilityId units clock, Atomic (throughputRun actions).store
        (acquire (throughputRun actions).store tenantId capabilityId units
          clock) := by
  have metered := Metered.run ordered fixed
  refine ⟨fun earlier later window split found => ?_, fun start => ?_,
    fun tenantId capabilityId units clock => acquire_atomic _ _ _ _ _⟩
  · have before : Metered limit (throughputRun earlier) := by
      rw [split, clocks_append] at ordered
      refine Metered.run (List.pairwise_append.mp ordered).1 ?_
      subst split
      exact ⟨fun count seconds member =>
          fixed.1 count seconds (List.mem_append_left _ member),
        fun units clock member =>
          fixed.2 units clock (List.mem_append_left _ member)⟩
    obtain ⟨-, ⟨_, member, opened⟩, -⟩ := before.current window found
    obtain ⟨call, listed, named, rfl⟩ := mem_grants.mp member
    have kept : call ∈ (throughputRun actions).acquired := by
      rw [split, throughputRun, run_append]
      exact (acquired_suffix _ later).subset listed
    rw [← opened]
    refine (taken_le_granted metered.windowed.nonnegative ?_).trans
      (metered.windowed.window (mem_grants.mpr ⟨call, kept, named, rfl⟩))
    intro other there passes
    rw [metered.timed other there]
    exact passes
  · rw [two_mul]
    refine (taken_le_granted metered.windowed.nonnegative ?_).trans
      (metered.windowed.interval (wholeSeconds start))
    intro call listed passes
    simp only [Bool.and_eq_true, decide_eq_true_eq] at passes
    rw [during_iff, metered.timed call listed]
    exact ⟨wholeSeconds_mono passes.1, (wholeSeconds_mono passes.2).trans
      (wholeSeconds_add_le start limit.positive.2.le)⟩

theorem throughput_bounded_two_calls :
    (throughputRun [.configure "acme" "send" 5 60, .acquire "acme" "send" 3 10,
      .acquire "acme" "send" 4 20, .acquire "acme" "send" 4 75]).taken
        (fun call => decide (call.key = ("acme", "send")) &&
          (decide ((10 : ℚ) ≤ call.clock) &&
            decide (call.clock ≤ 10 + (60 : Int)))) ≤ 2 * 5 :=
  (throughput_bounded ⟨"acme", "send", 5, 60, by decide⟩ _
    (by decide +kernel) (by
      constructor
      · intro count seconds member
        simp at member
        exact member
      · intro units clock member
        simp at member
        omega)).2.1 10

end AcpTask.Broker
