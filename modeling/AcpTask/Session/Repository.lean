import AcpTask.Library.Run
import AcpTask.Library.Table
import AcpTask.Library.Transaction

namespace AcpTask.Session

open Library

structure WebSession where
  sessionHash : String
  principalId : String
  csrfHash : String
  createdAt : Int
  lastSeenAt : Int
  absoluteExpiresAt : Int
  revokedAt : Option Int
  authenticatedAt : Int
deriving DecidableEq

structure ConsumedIdentityProof where
  proofHash : String
  consumedAt : Int
deriving DecidableEq

structure Store where
  webSessions : Table WebSession WebSession.sessionHash
  consumedIdentityProofs :
    Table ConsumedIdentityProof ConsumedIdentityProof.proofHash

structure SessionRepository where
  idleTtlSeconds : Int
  absoluteTtlSeconds : Int
  hash : String → String

structure Created where
  sessionId : String
  principalId : String
  csrfToken : String
  createdAt : Int
  expiresAt : Int
  idleTtlSeconds : Int
deriving DecidableEq

structure Resolved where
  principalId : String
  createdAt : Int
  expiresAt : Int
  idleTtlSeconds : Int
deriving DecidableEq

/-- What `create` is called with, and the two tokens it draws. -/
structure Login where
  principalId : String
  proofFingerprint : String
  previousSessionId : Option String
  sessionId : String
  csrfToken : String

inductive Refusal
  | identityProofConsumed
deriving DecidableEq

namespace SessionRepository

variable (repository : SessionRepository)

/-- `UPDATE web_sessions SET … WHERE session_hash = ? AND revoked_at IS
NULL`. -/
def updateLive (sessions : Table WebSession WebSession.sessionHash)
    (sessionId : String) (assign : WebSession → WebSession)
    (keepsKey : ∀ row, (assign row).sessionHash = row.sessionHash) :=
  sessions.updateWhere (fun row =>
    decide (row.sessionHash = repository.hash sessionId) &&
      row.revokedAt.isNone) assign keepsKey

def updateSession (sessions : Table WebSession WebSession.sessionHash)
    (sessionId : String) (assign : WebSession → WebSession)
    (keepsKey : ∀ row, (assign row).sessionHash = row.sessionHash) :=
  sessions.updateWhere (fun row =>
    decide (row.sessionHash = repository.hash sessionId)) assign keepsKey

def isLive (store : Store) (sessionId : String) : Bool :=
  (store.webSessions.find? (repository.hash sessionId)).any
    fun row => row.revokedAt.isNone

def revokeLive (sessions : Table WebSession WebSession.sessionHash)
    (sessionId : String) (now : Int) :=
  repository.updateLive sessions sessionId
    (fun row => { row with revokedAt := some now }) fun _ => rfl

def attestAuthentication (store : Store) (sessionId : String) (now : Int) :
    Bool × Store :=
  (repository.isLive store sessionId, { store with
    webSessions := repository.updateLive store.webSessions sessionId
      (fun row => { row with authenticatedAt := now, lastSeenAt := now })
      fun _ => rfl })

def create (store : Store) (login : Login) (now : Int) :
    Except Refusal Created × Store :=
  transaction store fun store => do
    let some proofs := store.consumedIdentityProofs.insert?
      ⟨repository.hash login.proofFingerprint, now⟩
      | .error .identityProofConsumed
    let sessions := match login.previousSessionId with
      | some previous =>
          if previous = "" then store.webSessions
          else repository.revokeLive store.webSessions previous now
      | none => store.webSessions
    let some sessions := sessions.insert? {
        sessionHash := repository.hash login.sessionId
        principalId := login.principalId
        csrfHash := repository.hash login.csrfToken
        createdAt := now
        lastSeenAt := now
        absoluteExpiresAt := now + repository.absoluteTtlSeconds
        revokedAt := none
        authenticatedAt := now }
      | .error .identityProofConsumed
    .ok (⟨login.sessionId, login.principalId, login.csrfToken, now,
      now + repository.absoluteTtlSeconds, repository.idleTtlSeconds⟩,
      ⟨sessions, proofs⟩)

def expired (row : WebSession) (now : Int) : Bool :=
  decide (now > row.absoluteExpiresAt ∨
    now - row.lastSeenAt > repository.idleTtlSeconds)

def resolve (store : Store) (sessionId : String) (now : Int) (touch : Bool) :
    Option Resolved × Store :=
  if sessionId = "" then (none, store) else
  match store.webSessions.find? (repository.hash sessionId) with
  | none => (none, store)
  | some row =>
      if row.revokedAt.isSome then (none, store)
      else if repository.expired row now then
        (none, { store with
          webSessions := repository.updateSession store.webSessions sessionId
            (fun row => { row with revokedAt := some now }) fun _ => rfl })
      else
        (some ⟨row.principalId, row.createdAt, row.absoluteExpiresAt,
            repository.idleTtlSeconds⟩,
          if touch && decide (now ≠ row.lastSeenAt) then
            { store with
              webSessions := repository.updateSession store.webSessions
                sessionId (fun row => { row with lastSeenAt := now })
                fun _ => rfl }
          else store)

def revoke (store : Store) (sessionId : String) (now : Int) : Bool × Store :=
  if sessionId = "" then (false, store)
  else (repository.isLive store sessionId, { store with
    webSessions := repository.revokeLive store.webSessions sessionId now })

end SessionRepository

inductive Operation
  | create (login : Login)
  | resolve (sessionId : String) (touch : Bool)
  | attestAuthentication (sessionId : String)
  | revoke (sessionId : String)

structure Call where
  operation : Operation
  now : Int

namespace SessionRepository

variable (repository : SessionRepository)

def step (store : Store) (call : Call) : Store :=
  match call.operation with
  | .create login => (repository.create store login call.now).2
  | .resolve sessionId touch =>
      (repository.resolve store sessionId call.now touch).2
  | .attestAuthentication sessionId =>
      (repository.attestAuthentication store sessionId call.now).2
  | .revoke sessionId => (repository.revoke store sessionId call.now).2

def Dead (store : Store) (sessionId : String) (now : Int) : Prop :=
  ∃ row, store.webSessions.find? (repository.hash sessionId) = some row ∧
    (row.revokedAt.isSome ∨ repository.expired row now)

def Clocked (calls : List Call) : Prop := (calls.map Call.now).Pairwise (· ≤ ·)

def StaysDead (start : Store) (calls : List Call) : Prop :=
  ∀ before later after moment sessionId, calls = before ++ later ++ after →
    (∀ call ∈ later, moment ≤ call.now) →
    repository.Dead (run repository.step start before) sessionId moment →
    ∀ now, moment ≤ now → (∀ call ∈ later, call.now ≤ now) → ∀ touch,
      (repository.resolve (run repository.step start (before ++ later))
        sessionId now touch).1 = none

def ConsumesOnce (start : Store) (calls : List Call) : Prop :=
  ∀ before first now between second later after,
    calls = before ++ ⟨.create first, now⟩ :: between ++
      ⟨.create second, later⟩ :: after →
    first.proofFingerprint = second.proofFingerprint →
    ∀ created,
      (repository.create (run repository.step start before) first now).1 =
        .ok created →
      (repository.create (run repository.step start
        (before ++ ⟨.create first, now⟩ :: between)) second later).1 =
          .error .identityProofConsumed

/-- An authentication is attested for a session whose idle limit has not
passed, or that is dead for another reason. -/
def AttestsLive (store : Store) (call : Call) : Prop :=
  ∀ sessionId, call.operation = .attestAuthentication sessionId →
    ∀ row, store.webSessions.find? (repository.hash sessionId) = some row →
      row.revokedAt = none → call.now ≤ row.absoluteExpiresAt →
      call.now - row.lastSeenAt ≤ repository.idleTtlSeconds

variable {repository} {store : Store} {sessionId : String} {now later : Int}

section Dead

variable (dead : repository.Dead store sessionId now)

include dead

theorem Dead.mono (after : now ≤ later) :
    repository.Dead store sessionId later := by
  obtain ⟨row, found, gone | gone⟩ := dead
  · exact ⟨row, found, .inl gone⟩
  · refine ⟨row, found, .inr ?_⟩
    simp only [expired, decide_eq_true_eq] at gone ⊢
    omega

theorem Dead.unresolved (touch : Bool) :
    (repository.resolve store sessionId now touch).1 = none := by
  obtain ⟨_, found, gone⟩ := dead
  unfold resolve
  rw [found]
  rcases gone with gone | gone <;> simp only [gone, if_true]
  · split <;> rfl
  · repeat' split
    all_goals rfl

theorem Dead.update {condition : WebSession → Bool}
    {assign : WebSession → WebSession}
    (keepsKey : ∀ row, (assign row).sessionHash = row.sessionHash)
    (keeps : ∀ row, store.webSessions.find? (repository.hash sessionId) =
        some row → condition row = true →
      row.revokedAt.isSome ∨ repository.expired row now →
      (assign row).revokedAt.isSome ∨ repository.expired (assign row) now) :
    repository.Dead { store with
      webSessions := store.webSessions.updateWhere condition assign keepsKey }
      sessionId now := by
  obtain ⟨row, found, gone⟩ := dead
  refine ⟨if condition row then assign row else row, by simp [found], ?_⟩
  split
  · rename_i chosen
    exact keeps row found chosen gone
  · exact gone

theorem Dead.revokeLive (other : String) (moment : Int) :
    repository.Dead { store with
      webSessions := repository.revokeLive store.webSessions other moment }
      sessionId now := by
  refine dead.update ?_ fun _ _ _ _ => .inl rfl
  exact fun _ => rfl

theorem Dead.create (login : Login) (moment : Int) :
    repository.Dead (repository.create store login moment).2 sessionId now := by
  unfold SessionRepository.create
  refine transaction_preserves (motive := fun store =>
    repository.Dead store sessionId now) dead fun created stored success => ?_
  dsimp only at success
  split at success
  case h_2 => cases success
  rename_i proofs consumed
  split at success
  case h_2 => cases success
  rename_i sessions inserted
  obtain ⟨-, rfl⟩ := Prod.mk.inj (Except.ok.inj success)
  -- Neither way of revoking the previous session revives this one.
  have revoked : repository.Dead ⟨match login.previousSessionId with
      | some previous =>
          if previous = "" then store.webSessions
          else repository.revokeLive store.webSessions previous moment
      | none => store.webSessions, store.consumedIdentityProofs⟩
      sessionId now := by
    repeat' split
    · exact dead
    · exact dead.revokeLive _ _
    · exact dead
  obtain ⟨row, found, gone⟩ := revoked
  exact ⟨row, Table.insert?_keeps inserted found, gone⟩

theorem Dead.resolve (other : String) (touch : Bool) :
    repository.Dead (repository.resolve store other now touch).2
      sessionId now := by
  unfold SessionRepository.resolve
  split
  · exact dead
  split
  · exact dead
  rename_i row found
  split
  · exact dead
  rename_i live
  split
  · exact dead.update _ fun _ _ _ _ => .inl rfl
  rename_i fresh
  dsimp only
  split
  · refine dead.update _ fun own ownFound chosen gone => absurd gone ?_
    have named := (Table.find?_eq_some_iff.mp ownFound).2
    have chosen : own.sessionHash = repository.hash other :=
      of_decide_eq_true chosen
    rw [← named, chosen, found] at ownFound
    obtain rfl := Option.some.inj ownFound
    simp [live, fresh]
  · exact dead

theorem Dead.step {call : Call} (clock : now ≤ call.now)
    (attested : repository.AttestsLive store call) :
    repository.Dead (repository.step store call) sessionId call.now := by
  have later := dead.mono clock
  obtain ⟨operation, moment⟩ := call
  cases operation with
  | create login => exact later.create login moment
  | resolve other touch => exact later.resolve other touch
  | attestAuthentication other =>
      refine later.update _ fun row found chosen gone => ?_
      simp only [Bool.and_eq_true, decide_eq_true_eq, Option.isNone_iff_eq_none]
        at chosen
      obtain ⟨named, unrevoked⟩ := chosen
      have own := (Table.find?_eq_some_iff.mp found).2
      rw [← own, named] at found
      have limits := attested other rfl row found unrevoked
      simp only [unrevoked, Option.isSome_none, Bool.false_eq_true, false_or,
        expired, decide_eq_true_eq] at gone ⊢
      left
      by_contra within
      have idle := limits (by simpa using within)
      rcases gone with gone | gone <;> dsimp only at gone within idle <;> omega
  | revoke other =>
      change repository.Dead (repository.revoke store other moment).2 _ _
      unfold SessionRepository.revoke
      split
      · exact later
      · exact later.revokeLive other moment

theorem Dead.run {calls : List Call} (clocked : Clocked calls)
    (after : ∀ call ∈ calls, now ≤ call.now)
    (attested : Along repository.step repository.AttestsLive store calls)
    (before : ∀ call ∈ calls, call.now ≤ later) (ends : now ≤ later) :
    repository.Dead (Library.run repository.step store calls) sessionId
      later := by
  induction calls generalizing store now with
  | nil => exact dead.mono ends
  | cons call _ induction =>
      obtain ⟨first, rest⟩ := List.pairwise_cons.mp clocked
      refine induction (dead.step (after call List.mem_cons_self) attested.1)
        rest (fun other member => ?_) attested.2 (fun other member =>
          before other (List.mem_cons_of_mem _ member))
        (before call List.mem_cons_self)
      exact first _ (List.mem_map_of_mem member)

end Dead

def Consumed (repository : SessionRepository) (fingerprint : String)
    (store : Store) : Prop :=
  store.consumedIdentityProofs.find? (repository.hash fingerprint) ≠ none

variable {login : Login}

theorem create_cases (repository : SessionRepository) (store : Store) (login : Login) (now : Int) :
    (repository.create store login now).2 = store ∧
        (repository.create store login now).1 = .error .identityProofConsumed ∨
      store.consumedIdentityProofs.insert?
          ⟨repository.hash login.proofFingerprint, now⟩ =
        some (repository.create store login now).2.consumedIdentityProofs := by
  cases outcome : repository.create store login now with
  | mk result stored =>
      unfold SessionRepository.create transaction at outcome
      dsimp only at outcome
      split at outcome
      · rename_i created later success
        obtain ⟨rfl, rfl⟩ := Prod.mk.inj outcome
        right
        split at success
        case h_2 => cases success
        rename_i proofs consumed
        split at success
        case h_2 => cases success
        obtain ⟨-, rfl⟩ := Prod.mk.inj (Except.ok.inj success)
        exact consumed
      · rename_i refusal failed
        obtain ⟨rfl, rfl⟩ := Prod.mk.inj outcome
        cases refusal
        exact .inl ⟨rfl, rfl⟩

theorem Consumed.step {fingerprint : String}
    (consumed : Consumed repository fingerprint store) (call : Call) :
    Consumed repository fingerprint (repository.step store call) := by
  obtain ⟨operation, moment⟩ := call
  cases operation with
  | create login =>
      rcases create_cases repository store login moment with
        ⟨same, -⟩ | inserted
      · change Consumed _ _ (repository.create store login moment).2
        exact same.symm ▸ consumed
      · change Table.find? _ _ ≠ none
        rw [SessionRepository.step, Table.find?_of_insert? inserted]
        split
        · exact Option.some_ne_none _
        · exact consumed
  | resolve other touch =>
      change Consumed _ _ (repository.resolve store other moment touch).2
      unfold SessionRepository.resolve
      repeat' split
      all_goals exact consumed
  | attestAuthentication => exact consumed
  | revoke other =>
      change Consumed _ _ (repository.revoke store other moment).2
      unfold SessionRepository.revoke
      split <;> exact consumed

theorem Consumed.refused
    (consumed : Consumed repository login.proofFingerprint store) (now : Int) :
    (repository.create store login now).1 = .error .identityProofConsumed := by
  rcases create_cases repository store login now with
    ⟨-, refused⟩ | inserted
  · exact refused
  · exact absurd (Table.insert?_eq_some_iff.mp inserted).1 consumed

theorem consumed_of_created {created : Created}
    (success : (repository.create store login now).1 = .ok created) :
    Consumed repository login.proofFingerprint
      (repository.create store login now).2 := by
  rcases create_cases repository store login now with
    ⟨-, refused⟩ | inserted
  · rw [refused] at success
    cases success
  · unfold Consumed
    rw [Table.find?_of_insert? inserted, if_pos rfl]
    exact Option.some_ne_none _

theorem sessions_stay_dead (repository : SessionRepository) (start : Store)
    {calls : List Call} (clocked : Clocked calls)
    (attested : Along repository.step repository.AttestsLive start calls) :
    repository.StaysDead start calls ∧ repository.ConsumesOnce start calls := by
  constructor
  · rintro before later after moment sessionId rfl since dead now ends until_
      touch
    have along := ((Along.append_iff ..).mp ((Along.append_iff ..).mp
      attested).1).2
    rw [Clocked, List.map_append, List.map_append, List.pairwise_append,
      List.pairwise_append] at clocked
    rw [run_append]
    exact (dead.run clocked.1.2.1 since along until_ ends).unresolved touch
  · rintro before first now between second later after rfl same created success
    rw [run_append, run_cons]
    have consumed := run_invariant repository.step
      (Consumed repository first.proofFingerprint)
      (fun _ call consumed => consumed.step call)
      (consumed_of_created success) between
    rw [same] at consumed
    exact consumed.refused later

def configured : SessionRepository := ⟨1800, 43200, id⟩

def signedOut : Store := ⟨Table.empty, Table.empty⟩

def loginAt (now : Int) : Call :=
  ⟨.create ⟨"principal", "proof", none, "session", "csrf"⟩, now⟩

theorem sessions_stay_dead_used :
    let calls := [loginAt 0, ⟨.resolve "session" true, 900⟩,
      ⟨.attestAuthentication "session", 2600⟩, ⟨.revoke "session", 2700⟩]
    configured.StaysDead signedOut calls ∧
      configured.ConsumesOnce signedOut calls := by
  refine sessions_stay_dead configured signedOut (by simp [Clocked, loginAt])
    ⟨?_, ?_, ?_, ?_, trivial⟩
  · exact fun _ same => by cases same
  · exact fun _ same => by cases same
  · rintro sessionId ⟨⟩ row found
    have stored : (run configured.step signedOut [loginAt 0,
        ⟨.resolve "session" true, 900⟩]).webSessions.find? "session" =
      some ⟨"session", "principal", "csrf", 0, 900, 43200, none, 0⟩ := by
        decide +kernel
    obtain rfl := Option.some.inj (stored.symm.trans found)
    decide
  · exact fun _ same => by cases same

/-- Half an hour and more after its last use the session is gone; attesting an
authentication for it then brings it back. -/
theorem idle_session_revived :
    let calls := [loginAt 0, ⟨.attestAuthentication "session", 2000⟩]
    Clocked calls ∧ ¬ configured.StaysDead signedOut calls := by
  refine ⟨by simp [Clocked, loginAt], fun stays => ?_⟩
  have stored : (run configured.step signedOut
      [loginAt 0]).webSessions.find? "session" =
    some ⟨"session", "principal", "csrf", 0, 0, 43200, none, 0⟩ := by
      decide +kernel
  have gone := stays [loginAt 0] [⟨.attestAuthentication "session", 2000⟩] []
    2000 "session" rfl (by simp) ⟨_, stored, by decide⟩ 2000 (Int.le_refl _) (by simp)
    false
  revert gone
  decide +kernel

end SessionRepository

end AcpTask.Session
