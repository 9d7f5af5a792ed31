import AcpTask.Library.Table
import AcpTask.Library.Run
import Mathlib.Order.Interval.Set.OrdConnectedLinear

namespace AcpTask.Common

open Library

/-! A fixed-window limiter that forgets elapsed windows when it holds many. -/

structure Clock (Time Span : Type) [Preorder Time] [Preorder Span]
    [Zero Span] where
  since : Time → Time → Span
  since_le : ∀ {start now later}, now ≤ later →
    since now start ≤ since later start
  since_self : ∀ now, since now now = 0

structure Bucket (Key Time : Type) where
  key : Key
  windowStart : Time
  count : Int

structure RateLimiter (Time Span : Type) [Preorder Time] [Preorder Span]
    [Zero Span] extends Clock Time Span where
  maxRequests : Int
  windowSeconds : Span
  enabled : Bool
  pruneThreshold : Int
  allowsOne : 1 ≤ maxRequests
  lasts : 0 < windowSeconds

variable {Key Time Span : Type} [DecidableEq Key] [LinearOrder Time]
  [LinearOrder Span] [Zero Span]

abbrev Buckets (Key Time : Type) := Table (Bucket Key Time) Bucket.key

section Limiter

variable (limiter : RateLimiter Time Span)

/-- The window of a call, and what it has counted: a new one where the bucket
is missing or has elapsed. -/
def currentWindow (bucket : Option (Bucket Key Time)) (now : Time) :
    Time × Int :=
  let (windowStart, count) := match bucket with
    | none => (now, 0)
    | some bucket => (bucket.windowStart, bucket.count)
  if limiter.windowSeconds ≤ limiter.since now windowStart then (now, 0)
  else (windowStart, count)

def countRequest (buckets : Buckets Key Time) (key : Key) (now : Time) :
    Bool × Buckets Key Time :=
  let (windowStart, count) := currentWindow limiter (buckets.find? key) now
  let allowed := decide (count < limiter.maxRequests)
  let count := if allowed then count + 1 else count
  (allowed, buckets.upsert ⟨key, windowStart, count⟩
    (fun bucket => { bucket with windowStart, count }) (fun _ => rfl))

def prune (buckets : Buckets Key Time) (now : Time) : Buckets Key Time :=
  buckets.deleteWhere fun bucket =>
    decide (limiter.windowSeconds ≤ limiter.since now bucket.windowStart)

def allow (buckets : Buckets Key Time) (key : Key) (now : Time) :
    Bool × Buckets Key Time :=
  if limiter.enabled then
    let (allowed, buckets) := countRequest limiter buckets key now
    (allowed, if limiter.pruneThreshold < buckets.rows.length then
      prune limiter buckets now else buckets)
  else (true, buckets)

def allowUnpruned (buckets : Buckets Key Time) (key : Key) (now : Time) :
    Bool × Buckets Key Time :=
  if limiter.enabled then countRequest limiter buckets key now
  else (true, buckets)

end Limiter

structure Answered (Key Time : Type) where
  key : Key
  instant : Time
  allowed : Bool

structure Limited (Key Time : Type) where
  buckets : Buckets Key Time
  history : List (Answered Key Time)

def answer (allow : Buckets Key Time → Key → Time → Bool × Buckets Key Time)
    (limited : Limited Key Time) (call : Key × Time) : Limited Key Time :=
  let (allowed, buckets) := allow limited.buckets call.1 call.2
  ⟨buckets, ⟨call.1, call.2, allowed⟩ :: limited.history⟩

section Windows

variable (limiter : RateLimiter Time Span) (key : Key)

/-- The calls of a key alone say when its windows start: its first call starts
one, and so does each call that finds the last one elapsed. -/
def lastWindow : List (Answered Key Time) → Option Time
  | [] => none
  | call :: earlier =>
      if call.key = key then
        some (match lastWindow earlier with
          | none => call.instant
          | some start =>
              if limiter.windowSeconds ≤ limiter.since call.instant start then
                call.instant
              else start)
      else lastWindow earlier

def allowedWithin (start : Time) : List (Answered Key Time) → Nat
  | [] => 0
  | call :: earlier =>
      allowedWithin start earlier +
        if call.key = key ∧ call.allowed = true ∧
          lastWindow limiter key (call :: earlier) = some start then 1
        else 0

end Windows

section Answers

variable {limiter : RateLimiter Time Span}
  {buckets : Buckets Key Time} {key other : Key} {now later : Time}

omit [DecidableEq Key] in
theorem currentWindow_none (now : Time) :
    currentWindow limiter (none : Option (Bucket Key Time)) now =
      (now, 0) := ite_self _

omit [DecidableEq Key] in
theorem currentWindow_of_elapsed {bucket : Bucket Key Time}
    (elapsed : limiter.windowSeconds ≤ limiter.since now bucket.windowStart)
    (after : now ≤ later) :
    currentWindow limiter (some bucket) later = (later, 0) :=
  if_pos (elapsed.trans (limiter.since_le after))

def Bucket.counted (limiter : RateLimiter Time Span) (key : Key)
    (window : Time × Int) : Bucket Key Time where
  key := key
  windowStart := window.1
  count := if window.2 < limiter.maxRequests then window.2 + 1 else window.2

theorem find?_countRequest :
    (countRequest limiter buckets key now).2.find? other =
      if key = other then some (.counted limiter key
        (currentWindow limiter (buckets.find? key) now))
      else buckets.find? other := by
  simp only [countRequest, Table.find?_upsert, decide_eq_true_eq]
  split
  · rename_i same
    subst same
    cases found : buckets.find? key with
    | none => rfl
    | some bucket =>
        rw [Option.elim_some, (Table.find?_eq_some_iff.mp found).2]
        rfl
  · rfl

theorem currentWindow_prune (after : now ≤ later) :
    currentWindow limiter
        ((prune limiter buckets now).find? key) later =
      currentWindow limiter (buckets.find? key) later := by
  cases kept : (prune limiter buckets now).find? key with
  | some bucket =>
      obtain ⟨member, sameKey⟩ := Table.find?_eq_some_iff.mp kept
      rw [Table.find?_eq_some_iff.mpr
        ⟨(Table.mem_deleteWhere.mp member).1, sameKey⟩]
  | none =>
      cases found : buckets.find? key with
      | none => rfl
      | some bucket =>
          obtain ⟨member, sameKey⟩ := Table.find?_eq_some_iff.mp found
          have elapsed : limiter.windowSeconds ≤
              limiter.since now bucket.windowStart := by
            by_contra fresh
            exact Table.find?_eq_none_iff.mp kept bucket
              (Table.mem_deleteWhere.mpr ⟨member, by simpa using fresh⟩)
              sameKey
          rw [currentWindow_none, currentWindow_of_elapsed elapsed after]

def Interchangeable (limiter : RateLimiter Time Span)
    (times : List Time) (left right : Buckets Key Time) : Prop :=
  ∀ key, ∀ now ∈ times, currentWindow limiter (left.find? key) now =
    currentWindow limiter (right.find? key) now

theorem allow_interchangeable {times : List Time}
    {pruned unpruned : Buckets Key Time} (after : ∀ later ∈ times, now ≤ later)
    (alike : Interchangeable limiter (now :: times) pruned unpruned) :
    (allow limiter pruned key now).1 =
        (allowUnpruned limiter unpruned key now).1 ∧
      Interchangeable limiter times
        (allow limiter pruned key now).2
        (allowUnpruned limiter unpruned key now).2 := by
  unfold allow allowUnpruned
  split
  · have window := alike key now List.mem_cons_self
    refine ⟨by simp only [countRequest, window], ?_⟩
    intro other later member
    have recorded : currentWindow limiter
        ((countRequest limiter pruned key now).2.find? other) later =
          currentWindow limiter
            ((countRequest limiter unpruned key now).2.find? other)
            later := by
      rw [find?_countRequest, find?_countRequest, window]
      split
      · rfl
      · exact alike other later (List.mem_cons_of_mem now member)
    rw [← recorded]
    dsimp only
    split
    · exact currentWindow_prune (after later member)
    · rfl
  · exact ⟨rfl, fun key later member =>
      alike key later (List.mem_cons_of_mem now member)⟩

theorem history_eq (calls : List (Key × Time))
    (sorted : (calls.map Prod.snd).Pairwise (· ≤ ·))
    {pruned unpruned : Limited Key Time}
    (alike : Interchangeable limiter (calls.map Prod.snd) pruned.buckets
      unpruned.buckets)
    (same : pruned.history = unpruned.history) :
    (run (answer (allow limiter)) pruned calls).history =
      (run (answer (allowUnpruned limiter)) unpruned calls).history := by
  induction calls generalizing pruned unpruned with
  | nil => exact same
  | cons call calls induction =>
      rw [List.map_cons, List.pairwise_cons] at sorted
      obtain ⟨answers, buckets⟩ := allow_interchangeable sorted.1 alike
      refine induction sorted.2 buckets ?_
      simp only [answer, answers, same]

end Answers

section Bound

variable {limiter : RateLimiter Time Span} {key : Key}
  {times : List Time} {now : Time} {history : List (Answered Key Time)}

/-- What a bucket says of the calls of its key, before the calls at `times`. -/
structure Counted (limiter : RateLimiter Time Span)
    (key : Key) (times : List Time) (history : List (Answered Key Time))
    (bucket : Option (Bucket Key Time)) : Prop where
  window : bucket.map Bucket.windowStart = lastWindow limiter key history
  started : ∀ opened ∈ bucket, ∀ later ∈ times, opened.windowStart ≤ later
  count : ∀ opened ∈ bucket, opened.count =
    allowedWithin limiter key opened.windowStart history
  latest : ∀ start, allowedWithin limiter key start history ≠ 0 →
    ∃ opened ∈ bucket, start ≤ opened.windowStart
  bounded : ∀ start, (allowedWithin limiter key start history : Int) ≤
    limiter.maxRequests

variable {bucket : Option (Bucket Key Time)}

section Counted

variable (counted : Counted limiter key (now :: times) history bucket)

include counted

theorem Counted.current :
    (∀ allowed, lastWindow limiter key (⟨key, now, allowed⟩ :: history) =
        some (currentWindow limiter bucket now).1) ∧
      (currentWindow limiter bucket now).2 =
        allowedWithin limiter key (currentWindow limiter bucket now).1 history ∧
      (∀ opened ∈ bucket, opened.windowStart ≤
        (currentWindow limiter bucket now).1) ∧
      (currentWindow limiter bucket now).1 ≤ now := by
  have window := counted.window
  cases bucket with
  | none =>
      rw [currentWindow_none]
      refine ⟨fun allowed => ?_, ?_, by simp, le_rfl⟩
      · simp [lastWindow, ← window]
      · have none : allowedWithin limiter key now history = 0 := by
          by_contra some
          obtain ⟨_, absent, _⟩ := counted.latest now some
          cases absent
        simp [none]
  | some opened =>
      have before := counted.started opened rfl now List.mem_cons_self
      have shown : ∀ allowed, lastWindow limiter key
          (⟨key, now, allowed⟩ :: history) =
            some (currentWindow limiter (some opened) now).1 := by
        intro allowed
        simp only [lastWindow, ← window, Option.map_some, currentWindow, if_true]
        split <;> rfl
      refine ⟨shown, ?_⟩
      unfold currentWindow
      dsimp only
      split
      · rename_i elapsed
        have none : allowedWithin limiter key now history = 0 := by
          by_contra some
          obtain ⟨_, ⟨⟩, after⟩ := counted.latest now some
          rw [le_antisymm before after, limiter.since_self] at elapsed
          exact absurd limiter.lasts elapsed.not_gt
        exact ⟨by simp [none], by simpa using before, le_rfl⟩
      · exact ⟨counted.count opened rfl, by simp, before⟩

theorem Counted.answered {window : Time × Int}
    (current : currentWindow limiter bucket now = window)
    (after : ∀ later ∈ times, now ≤ later) :
    Counted limiter key times
      (⟨key, now, decide (window.2 < limiter.maxRequests)⟩ :: history)
      (some (.counted limiter key window)) := by
  obtain ⟨shown, count, starts, before⟩ := counted.current
  rw [current] at shown count starts before
  have within : ∀ start, allowedWithin limiter key start
      (⟨key, now, decide (window.2 < limiter.maxRequests)⟩ :: history) =
        allowedWithin limiter key start history +
          if window.2 < limiter.maxRequests ∧ window.1 = start then 1
          else 0 := by
    intro start
    rw [allowedWithin, shown]
    simp
  refine ⟨(shown _).symm, ?_, ?_, ?_, ?_⟩
  · rintro _ ⟨⟩ later member
    exact before.trans (after later member)
  · rintro _ ⟨⟩
    simp only [Bucket.counted, within, and_true]
    split <;> omega
  · intro start some
    refine ⟨_, rfl, ?_⟩
    by_cases same : window.1 = start
    · exact same.ge
    · rw [within, if_neg fun both => same both.2] at some
      obtain ⟨opened, found, le⟩ := counted.latest start some
      exact le.trans (starts opened found)
  · intro start
    have bounded := counted.bounded start
    rw [within]
    split
    · rename_i room
      obtain ⟨room, rfl⟩ := room
      omega
    · exact bounded

theorem Counted.other {call : Answered Key Time} (apart : call.key ≠ key) :
    Counted limiter key times (call :: history) bucket := by
  have within : ∀ start, allowedWithin limiter key start
      (call :: history) = allowedWithin limiter key start history := by
    intro start
    simp [allowedWithin, apart]
  refine ⟨by simpa [lastWindow, apart] using counted.window, ?_, ?_, ?_, ?_⟩
  · exact fun opened found later member =>
      counted.started opened found later (List.mem_cons_of_mem now member)
  · simpa only [within] using counted.count
  · simpa only [within] using counted.latest
  · simpa only [within] using counted.bounded

end Counted

theorem allowedWithin_le (enabled : limiter.enabled = true)
    (calls : List (Key × Time))
    (sorted : (calls.map Prod.snd).Pairwise (· ≤ ·)) {limited : Limited Key Time}
    (counted : ∀ key, Counted limiter key (calls.map Prod.snd)
      limited.history (limited.buckets.find? key)) (key : Key) (start : Time) :
    (allowedWithin limiter key start
      (run (answer (allowUnpruned limiter)) limited calls).history : Int) ≤
        limiter.maxRequests := by
  induction calls generalizing limited with
  | nil => exact (counted key).bounded start
  | cons call calls induction =>
      rw [List.map_cons, List.pairwise_cons] at sorted
      refine induction sorted.2 fun other => ?_
      simp only [answer, allowUnpruned, enabled, if_true, find?_countRequest]
      split
      · rename_i same
        subst same
        exact (counted call.1).answered rfl sorted.1
      · rename_i apart
        exact (counted other).other apart

end Bound

/-- Pruning does not change an answer, and an enabled limiter allows a key at
most its limit within each of the windows its calls start. -/
theorem pruning_keeps_answers (limiter : RateLimiter Time Span) (calls : List (Key × Time))
    (sorted : (calls.map Prod.snd).Pairwise (· ≤ ·)) :
    let history := (run (answer (allow limiter)) ⟨.empty, []⟩ calls).history
    history = (run (answer (allowUnpruned limiter)) ⟨.empty, []⟩
        calls).history ∧
      (limiter.enabled = true → ∀ key start,
        (allowedWithin limiter key start history : Int) ≤
          limiter.maxRequests) := by
  have same := @history_eq _ _ _ _ _ _ _ limiter calls sorted
    ⟨.empty, []⟩ ⟨.empty, []⟩ (fun _ _ _ => rfl) rfl
  refine ⟨same, fun enabled key start => ?_⟩
  rw [same]
  refine allowedWithin_le enabled calls sorted (fun key => ?_) key start
  have none : (Table.empty : Buckets Key Time).find? key = none := rfl
  rw [none]
  exact ⟨rfl, by simp, by simp, by simp [allowedWithin],
    fun _ => zero_le_one.trans limiter.allowsOne⟩

def oneAMinute : RateLimiter Int Int where
  since := (· - ·)
  since_le := fun before => Int.sub_le_sub_right before _
  since_self := Int.sub_self
  maxRequests := 1
  windowSeconds := 60
  enabled := true
  pruneThreshold := 1
  allowsOne := le_rfl
  lasts := by decide

theorem pruning_keeps_answers_sample :
    let calls := [("a", 0), ("b", 30), ("a", 30), ("c", 90), ("a", 91)]
    (run (answer (allow oneAMinute)) ⟨.empty, []⟩ calls).history =
      (run (answer (allowUnpruned oneAMinute)) ⟨.empty, []⟩ calls).history :=
  (pruning_keeps_answers oneAMinute _ (by decide)).1

/-- A disabled limiter allows everything. -/
theorem disabled_allows_more :
    ¬ ∀ (limiter : RateLimiter Int Int) (calls : List (String × Int)),
      (calls.map Prod.snd).Pairwise (· ≤ ·) → ∀ key start,
        (allowedWithin limiter key start
          (run (answer (allow limiter)) ⟨.empty, []⟩ calls).history : Int) ≤
            limiter.maxRequests := by
  intro bounded
  exact absurd (bounded { oneAMinute with enabled := false }
    [("a", 0), ("a", 0)] (by decide) "a" 0) (by decide +kernel)

end AcpTask.Common
