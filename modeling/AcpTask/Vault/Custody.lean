import AcpTask.Data.Value
import AcpTask.Library.RowLocks
import AcpTask.Library.Run

namespace AcpTask.Vault

open Data Library

inductive ManagedStatus where
  | active
  | pendingRevocation
  deriving DecidableEq

/-- What `json.loads` makes of `encrypted_data`; a key that is not there is
`none`. -/
structure ManagedPayload where
  custodyMode : Option String
  provider : String
  grantedScopes : Option (List String)
  status : Option ManagedStatus
  credentialVersion : Option Int
  envelope : Value

namespace ManagedPayload

/-- `payload.get("credential_version", 1)`. -/
def version (payload : ManagedPayload) : Int := payload.credentialVersion.getD 1

end ManagedPayload

/-- A row of `vault.credentials`; what is stored may be no payload at all. -/
structure Credential where
  userPrincipalId : String
  credentialType : String
  encryptedData : Option ManagedPayload

def managedOauthPayload (provider : String) (grantedScopes : List String)
    (status : ManagedStatus) (envelope : Value) (credentialVersion : Int) :
    ManagedPayload where
  custodyMode := some "managed_oauth"
  provider
  grantedScopes := some (grantedScopes.dedup.mergeSort fun left right =>
    !decide (right < left))
  status := some status
  credentialVersion := some credentialVersion
  envelope

def isDict : Value → Bool
  | .dict _ => true
  | _ => false

/-- `get_managed_oauth_credential`, of the row that was found. -/
def managedOauthCredential (row : Credential) : Option ManagedPayload :=
  if row.credentialType == "managed_oauth" then
    row.encryptedData.filter fun payload =>
      payload.custodyMode == some "managed_oauth" && isDict payload.envelope
  else none

inductive VaultCall where
  | markPendingRevocation (userPrincipalId : String)
  | updateEnvelope (envelope : Value)
  | compareAndSwapEnvelope (expectedVersion : Int) (envelope : Value)
      (grantedScopes : List String)

inductive Write where
  | mark (userPrincipalId : String) (read : ManagedPayload)
  | update (read : ManagedPayload) (envelope : Value)
  | swap (read : ManagedPayload) (expectedVersion : Int) (envelope : Value)
      (grantedScopes : List String)

namespace Write

def payload : Write → ManagedPayload
  | .mark _ read => managedOauthPayload read.provider
      (read.grantedScopes.getD []) .pendingRevocation read.envelope
      read.version
  | .update read envelope => managedOauthPayload read.provider
      (read.grantedScopes.getD []) (read.status.getD .active) envelope
      read.version
  | .swap read expectedVersion envelope grantedScopes =>
      managedOauthPayload read.provider grantedScopes .active envelope
        (expectedVersion + 1)

def assign (write : Write) (row : Credential) : Credential :=
  { row with encryptedData := some write.payload }

/-- The `WHERE` of the write's `UPDATE`. -/
def selects (write : Write) (row : Credential) : Bool :=
  match write with
  | .mark userPrincipalId _ => row.userPrincipalId == userPrincipalId &&
      row.credentialType == "managed_oauth"
  | .update _ _ => row.credentialType == "managed_oauth"
  | .swap _ _ _ _ => true

end Write

/-- What `mark_…` and `update_…` make of the credential they read. -/
def prepared (row : Credential) : VaultCall → Option Write
  | .markPendingRevocation userPrincipalId =>
      if row.userPrincipalId == userPrincipalId then
        (managedOauthCredential row).map (.mark userPrincipalId)
      else none
  | .updateEnvelope envelope =>
      (managedOauthCredential row).map fun read => .update read envelope
  | .compareAndSwapEnvelope _ _ _ => none

/-- What `compare_and_swap_…` makes of the row it has locked. -/
def swapped (row : Credential) (expectedVersion : Int) (envelope : Value)
    (grantedScopes : List String) : Option Write :=
  if row.credentialType == "managed_oauth" then
    (row.encryptedData.filter fun current =>
      current.status == some .active &&
        current.version == expectedVersion).map fun current =>
          .swap current expectedVersion envelope grantedScopes
  else none

inductive VaultPhase where
  | idle
  | read (call : VaultCall)
  | write (write : Write)
  | commit (write : Write)

structure Custody where
  rows : RowLocks Unit Credential Nat
  phases : Nat → VaultPhase

namespace Custody

def start (row : Option Credential) : Custody where
  rows := .ofCommitted fun _ => row
  phases := fun _ => .idle

def move (custody : Custody) (process : Nat) (phase : VaultPhase) :
    Custody :=
  { custody with phases := Function.update custody.phases process phase }

def rollback (custody : Custody) (process : Nat) : Custody :=
  { custody.move process .idle with rows := custody.rows.release process }

def advance (custody : Custody) (process : Nat) : Custody :=
  match custody.phases process with
  | .idle => custody
  | .read (.compareAndSwapEnvelope expectedVersion envelope grantedScopes) =>
      match custody.rows.lock? process () with
      | none => custody
      | some rows =>
          match (rows.visible process ()).bind fun row =>
              swapped row expectedVersion envelope grantedScopes with
          | some write => { custody.move process (.write write) with rows }
          | none => custody.rollback process
  | .read call =>
      match (custody.rows.visible process ()).bind fun row =>
          prepared row call with
      | some write => custody.move process (.write write)
      | none => custody.move process .idle
  | .write write =>
      if (custody.rows.visible process ()).any write.selects then
        match custody.rows.update? process () write.assign with
        | some rows => { custody.move process (.commit write) with rows }
        | none => custody
      else custody.rollback process
  | .commit _ => { custody.move process .idle with
      rows := custody.rows.commit process }

end Custody

inductive VaultAction where
  | call (process : Nat) (call : VaultCall)
  | advance (process : Nat)
  | crash (process : Nat)

def vaultStep (custody : Custody) : VaultAction → Custody
  | .call process call =>
      match custody.phases process with
      | .idle => custody.move process (.read call)
      | _ => custody
  | .advance process => custody.advance process
  | .crash process => custody.rollback process

/-! Which writes lose a rotation or bring a revoked credential back. -/

namespace Write

def read : Write → ManagedPayload
  | .mark _ read => read
  | .update read _ => read
  | .swap read _ _ _ => read

/-- The payload that is there is of the version that was read; and an update
has seen a revocation. -/
def Current (write : Write) (old : ManagedPayload) : Prop :=
  match write with
  | .mark _ read => old.version ≤ read.version
  | .update read _ => old.version ≤ read.version ∧
      (old.status = some .pendingRevocation →
        read.status = some .pendingRevocation)
  | .swap _ _ _ _ => True

end Write

namespace Custody

def stored (custody : Custody) : Option ManagedPayload :=
  (custody.rows.committed ()).bind Credential.encryptedData

def commits? (custody : Custody) : VaultAction → Option Write
  | .advance process =>
      match custody.phases process with
      | .commit write => some write
      | _ => none
  | _ => none

def Current (custody : Custody) (action : VaultAction) : Prop :=
  ∀ write ∈ custody.commits? action, ∀ old ∈ custody.stored, write.Current old

structure Lawful (custody : Custody) (action : VaultAction) : Prop where
  version : ∀ old ∈ custody.stored, ∀ new ∈ (vaultStep custody action).stored,
    old.version ≤ new.version
  rotation : ∀ write ∈ custody.commits? action, ∀ old ∈ custody.stored,
    old.version ≤ write.read.version
  status : ∀ old ∈ custody.stored, ∀ new ∈ (vaultStep custody action).stored,
    old.status = some .pendingRevocation → new.status ≠ some .active

def Locked (custody : Custody) (process : Nat) : Write → Prop
  | .swap read expectedVersion _ _ =>
      custody.rows.holder () = some process ∧ custody.stored = some read ∧
        read.version = expectedVersion ∧ read.status = some .active
  | _ => True

def Holds (custody : Custody) (process : Nat) : VaultPhase → Prop
  | .write write => custody.rows.Owes process (fun _ => none) ∧
      custody.Locked process write
  | .commit write => custody.rows.Owes process (fun _ => some write.assign) ∧
      custody.Locked process write
  | _ => custody.rows.Owes process fun _ => none

structure Safe (custody : Custody) : Prop where
  clean : custody.rows.Clean
  holds : ∀ process, custody.Holds process (custody.phases process)

variable {custody later : Custody} {process : Nat}

theorem holds_frame {other : Nat} (apart : other ≠ process)
    (rows : RowLocks.Steady custody.rows later.rows process)
    {phase : VaultPhase} (holds : custody.Holds other phase) :
    later.Holds other phase := by
  have locked {write : Write} (locked : custody.Locked other write) :
      later.Locked other write := by
    cases write with
    | swap =>
        obtain ⟨held, same, rest⟩ := locked
        refine ⟨(rows.holder other apart ()).mpr held, ?_, rest⟩
        rw [stored, rows.committed other apart () held]
        exact same
    | mark _ _ | update _ _ => trivial
  cases phase with
  | idle | read _ => exact rows.owes other apart holds
  | write | commit => exact ⟨rows.owes other apart holds.1, locked holds.2⟩

variable {write : Write}

theorem swapped_some {row : Credential} {expectedVersion : Int}
    {envelope : Data.Value} {grantedScopes : List String}
    (swaps : swapped row expectedVersion envelope grantedScopes = some write) :
    ∃ read, row.encryptedData = some read ∧ read.version = expectedVersion ∧
      read.status = some .active ∧
      write = .swap read expectedVersion envelope grantedScopes := by
  unfold swapped at swaps
  split at swaps
  · obtain ⟨read, current, rfl⟩ := Option.map_eq_some_iff.mp swaps
    obtain ⟨present, fits⟩ := Option.filter_eq_some_iff.mp current
    simp only [Bool.and_eq_true, beq_iff_eq] at fits
    exact ⟨read, present, fits.2, fits.1, rfl⟩
  · cases swaps

theorem locked_of_prepared {row : Credential} {call : VaultCall}
    (prepares : prepared row call = some write) :
    custody.Locked process write := by
  cases call with
  | markPendingRevocation =>
      simp only [prepared] at prepares
      split at prepares
      · obtain ⟨_, _, rfl⟩ := Option.map_eq_some_iff.mp prepares
        trivial
      · cases prepares
  | updateEnvelope =>
      obtain ⟨_, _, rfl⟩ := Option.map_eq_some_iff.mp prepares
      trivial
  | compareAndSwapEnvelope => cases prepares

theorem locked_update {rows : RowLocks Unit Credential Nat}
    (locked : custody.Locked process write)
    (updated : custody.rows.update? process () write.assign = some rows)
    (phases : Nat → VaultPhase) :
    (Custody.mk rows phases).Locked process write := by
  cases write with
  | swap =>
      obtain ⟨held, same, rest⟩ := locked
      refine ⟨RowLocks.holder_update? held updated, ?_, rest⟩
      rw [stored, RowLocks.committed_update? updated]
      exact same
  | mark _ _ | update _ _ => trivial

namespace Safe

theorem step (safe : custody.Safe) {phase : VaultPhase}
    (phases : later.phases = Function.update custody.phases process phase)
    (rows : RowLocks.Steady custody.rows later.rows process)
    (clean : later.rows.Clean) (mine : later.Holds process phase) :
    later.Safe where
  clean := clean
  holds := by
    rw [phases]
    exact (Function.forall_update_iff _ later.Holds).mpr
      ⟨mine, fun other same => holds_frame same rows (safe.holds other)⟩

theorem move (safe : custody.Safe) {phase : VaultPhase}
    (mine : custody.Holds process phase) :
    (custody.move process phase).Safe :=
  safe.step rfl (.refl _ process) safe.clean (by cases phase <;> exact mine)

theorem rollback (safe : custody.Safe) (process : Nat) :
    (custody.rollback process).Safe :=
  safe.step rfl ((RowLocks.Frame.release _ process).steady rfl)
    (safe.clean.release process) (RowLocks.Owes.release _ process)

theorem advance (safe : custody.Safe) (process : Nat) :
    (custody.advance process).Safe := by
  have mine := safe.holds process
  unfold Custody.advance
  split
  · exact safe
  · rename_i here
    rw [here] at mine
    split
    · exact safe
    · rename_i rows locked
      split
      · rename_i write swaps
        have owes := RowLocks.Owes.lock? mine safe.clean rfl locked
        refine safe.step rfl (.lock? locked) (safe.clean.lock? locked)
          ⟨owes, ?_⟩
        obtain ⟨row, found, swaps⟩ := Option.bind_eq_some_iff.mp swaps
        obtain ⟨read, present, version, active, rfl⟩ := swapped_some swaps
        refine ⟨RowLocks.holder_lock? locked found, ?_, version, active⟩
        rw [owes.visible rfl] at found
        exact Option.bind_eq_some_iff.mpr ⟨row, found, present⟩
      · exact safe.rollback process
  · rename_i call _ here
    rw [here] at mine
    split
    · rename_i write prepares
      obtain ⟨row, _, prepares⟩ := Option.bind_eq_some_iff.mp prepares
      exact safe.move ⟨mine, locked_of_prepared prepares⟩
    · exact safe.move mine
  · rename_i write here
    rw [here] at mine
    split
    · split
      · rename_i rows updated
        have owes := RowLocks.Owes.update? mine.1 rfl updated
        rw [show Function.update (fun _ => none) () (some write.assign) =
          fun _ => some write.assign from funext fun _ => rfl] at owes
        exact safe.step rfl (.update? updated) (safe.clean.update? updated)
          ⟨owes, locked_update mine.2 updated _⟩
      · exact safe
    · exact safe.rollback process
  · rename_i write here
    rw [here] at mine
    exact safe.step rfl mine.1.steady (safe.clean.release process)
      (RowLocks.Owes.commit _ process)

theorem action (safe : custody.Safe) (action : VaultAction) :
    (vaultStep custody action).Safe := by
  cases action with
  | call process call =>
      simp only [vaultStep]
      split
      · rename_i here
        have mine := safe.holds process
        rw [here] at mine
        exact safe.move mine
      · exact safe
  | advance process => exact safe.advance process
  | crash process => exact safe.rollback process

theorem initial (row : Option Credential) : (Custody.start row).Safe where
  clean := RowLocks.clean_ofCommitted _
  holds process := RowLocks.owes_ofCommitted _ process

end Safe

theorem committed_of_quiet (action : VaultAction)
    (quiet : custody.commits? action = none) :
    (vaultStep custody action).stored = custody.stored := by
  cases action with
  | call =>
      simp only [vaultStep]
      split <;> rfl
  | crash => rfl
  | advance process =>
      simp only [vaultStep, Custody.advance]
      split
      · rfl
      · split
        · rfl
        · rename_i rows locked
          split
          · simp only [stored, RowLocks.committed_lock? locked]
          · rfl
      · split <;> rfl
      · split
        · split
          · rename_i rows updated
            simp only [stored, RowLocks.committed_update? updated]
          · rfl
        · rfl
      · rename_i write here
        simp only [commits?, here] at quiet
        cases quiet

variable {action : VaultAction}

theorem commits_inv (commits : custody.commits? action = some write) :
    ∃ process, action = .advance process ∧
      custody.phases process = .commit write := by
  unfold commits? at commits
  split at commits
  · rename_i process
    split at commits
    · rename_i here
      cases commits
      exact ⟨process, rfl, here⟩
    · cases commits
  · cases commits

theorem stored_of_commits (safe : custody.Safe)
    (commits : custody.commits? action = some write) :
    (vaultStep custody action).stored =
      (custody.rows.committed ()).map fun _ => write.payload := by
  obtain ⟨process, rfl, here⟩ := commits_inv commits
  have mine := safe.holds process
  rw [here] at mine
  simp only [vaultStep, Custody.advance, here, stored]
  rw [mine.1.committed_commit ()]
  cases custody.rows.committed () <;> rfl

theorem locked_of_commits (safe : custody.Safe)
    (commits : custody.commits? action = some write) :
    ∃ process, custody.Locked process write := by
  obtain ⟨process, rfl, here⟩ := commits_inv commits
  have mine := safe.holds process
  rw [here] at mine
  exact ⟨process, mine.2⟩

structure Keeps (old : ManagedPayload) (write : Write) : Prop where
  version : old.version ≤ write.payload.version
  rotation : old.version ≤ write.read.version
  status : old.status = some .pendingRevocation →
    write.payload.status ≠ some .active

theorem keeps_iff_current (safe : custody.Safe)
    (commits : custody.commits? action = some write) {old : ManagedPayload}
    (found : custody.stored = some old) :
    Keeps old write ↔ write.Current old := by
  cases write with
  | mark =>
      refine ⟨fun keeps => keeps.rotation, fun current => ?_⟩
      exact ⟨current, current, fun _ active => by cases active⟩
  | update read =>
      refine ⟨fun keeps => ⟨keeps.rotation, fun revoked => ?_⟩, ?_⟩
      · have kept := keeps.status revoked
        simp only [Write.payload, managedOauthPayload, ne_eq,
          Option.some.injEq] at kept
        cases status : read.status with
        | none => simp [status] at kept
        | some status' =>
            cases status' with
            | active => simp [status] at kept
            | pendingRevocation => rfl
      · rintro ⟨version, seen⟩
        refine ⟨version, version, fun revoked active => ?_⟩
        simp [Write.payload, managedOauthPayload, seen revoked] at active
  | swap =>
      refine iff_of_true ?_ trivial
      obtain ⟨_, _, same, rfl, active⟩ := locked_of_commits safe commits
      rw [found, Option.some.injEq] at same
      subst same
      refine ⟨?_, Int.le_refl _, fun revoked => ?_⟩
      · exact Int.le_of_lt (Int.lt_succ old.version)
      · rw [active] at revoked
        cases revoked

theorem lawful_iff_current (safe : custody.Safe) (action : VaultAction) :
    custody.Lawful action ↔ custody.Current action := by
  cases commits : custody.commits? action with
  | none =>
      have same := committed_of_quiet action commits
      refine iff_of_true ⟨?_, ?_, ?_⟩ ?_
      · rintro old found new later
        rw [same, found] at later
        cases later
        exact Int.le_refl _
      · rintro write member
        rw [commits] at member
        cases member
      · rintro old found new later revoked active
        rw [same, found] at later
        cases later
        rw [revoked] at active
        cases active
      · rintro write member
        rw [commits] at member
        cases member
  | some write =>
      have later := stored_of_commits safe commits
      have next : ∀ old, custody.stored = some old →
          (vaultStep custody action).stored = some write.payload := by
        intro old found
        obtain ⟨_, present, _⟩ := Option.bind_eq_some_iff.mp found
        rw [later, present]
        rfl
      constructor
      · rintro lawful other member old found
        rw [commits] at member
        cases member
        refine (keeps_iff_current safe commits found).mp ⟨?_, ?_, ?_⟩
        · exact lawful.version old found write.payload (next old found)
        · exact lawful.rotation write commits old found
        · exact lawful.status old found write.payload (next old found)
      · intro current
        have keeps : ∀ old ∈ custody.stored, Keeps old write :=
          fun old found => (keeps_iff_current safe commits found).mpr
            (current write commits old found)
        refine ⟨?_, ?_, ?_⟩
        · rintro old found new replaced
          rw [next old found] at replaced
          cases replaced
          exact (keeps old found).version
        · rintro other member old found
          rw [commits] at member
          cases member
          exact (keeps old found).rotation
        · rintro old found new replaced
          rw [next old found] at replaced
          cases replaced
          exact (keeps old found).status

end Custody

/-- Along a run nothing is lost exactly when every write is current. -/
theorem rotations_kept_iff (row : Option Credential)
    (actions : List VaultAction) :
    Along vaultStep Custody.Lawful (Custody.start row) actions ↔
      Along vaultStep Custody.Current (Custody.start row) actions :=
  Along.iff_of_invariant Custody.Safe
    (fun _ action safe => Custody.lawful_iff_current safe action)
    (fun _ action safe _ => safe.action action) (Custody.Safe.initial row)
    actions

def heldCredential : Credential where
  userPrincipalId := "user"
  credentialType := "managed_oauth"
  encryptedData := some (managedOauthPayload "slack" ["chat:write"] .active
    (.dict [("ciphertext", .str "first")]) 1)

def updateInFlight : List VaultAction :=
  [.call 0 (.updateEnvelope (.dict [("ciphertext", .str "late")])),
    .advance 0,
    .call 1 (.compareAndSwapEnvelope 1
      (.dict [("ciphertext", .str "second")]) ["chat:write"]),
    .advance 1, .advance 1, .advance 1,
    .call 1 (.markPendingRevocation "user"),
    .advance 1, .advance 1, .advance 1,
    .advance 0]

/-- The update brings version 1 back, and an active credential. -/
theorem revoked_credential_returns :
    ¬ ∀ (row : Option Credential) (actions : List VaultAction),
      Along vaultStep Custody.Lawful (Custody.start row) actions := by
  intro lawful
  have along := lawful (some heldCredential) (updateInFlight ++ [.advance 0])
  obtain ⟨_, last, _⟩ := (Along.append_iff _ _ _).mp along
  have old : (run vaultStep (Custody.start (some heldCredential))
      updateInFlight).stored.map (fun old => (old.version, old.status)) =
        some (2, some .pendingRevocation) := by decide +kernel
  have new : (run vaultStep (Custody.start (some heldCredential))
      (updateInFlight ++ [.advance 0])).stored.map
        (fun new => (new.version, new.status)) =
          some (1, some .active) := by decide +kernel
  rw [run_append] at new
  obtain ⟨before, found, facts⟩ := Option.map_eq_some_iff.mp old
  obtain ⟨after, left, returned⟩ := Option.map_eq_some_iff.mp new
  exact last.status before found after left (congrArg Prod.snd facts)
    (congrArg Prod.snd returned)

end AcpTask.Vault
