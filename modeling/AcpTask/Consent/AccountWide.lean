import AcpTask.Consent.Eligibility

namespace AcpTask.Consent

open Library

/-! An account-wide suppression among the rows of single senders.  A ledger row
is meant with its place, as two rows may say the same. -/

def Suppression.concerns (row : Suppression) (query : Query) : Prop :=
  row.tenantId = query.tenantId ∧ row.addressId = query.addressId ∧
    row.channel = query.channel

theorem readsSuppression_iff {query : Query} {row : Suppression} :
    query.readsSuppression row = true ↔
      row.concerns query ∧
        (row.senderId = none ∨ row.senderId = query.senderId) := by
  simp only [Query.readsSuppression, Suppression.concerns, inScope,
    Bool.and_eq_true, Bool.or_eq_true, beq_iff_eq, and_assoc]

def Later (first second : Nat × Suppression) : Prop :=
  Earlier Suppression.recordedAt first second

def Reinstated (store : ConsentStore) (query : Query)
    (lift : Nat × Suppression) : Prop :=
  ∃ block, At store.suppressions block ∧ block.2.concerns query ∧
    (block.2.senderId = none ∨ block.2.senderId = query.senderId) ∧
    block.2.state ≠ .none ∧ Later lift block

section Reading

variable {store : ConsentStore} {query : Query}

theorem suppressionState_at {entry : Nat × Suppression}
    (placed : At store.suppressions entry)
    (reads : query.readsSuppression entry.2 = true) :
    ∃ newest : Nat × Suppression, At store.suppressions newest ∧
      query.readsSuppression newest.2 = true ∧
      suppressionState store query = newest.2.state ∧
      ∀ other, At store.suppressions other →
        query.readsSuppression other.2 = true → ¬ Later newest other := by
  cases found : latestSuppression store query with
  | none =>
      exact absurd found (latest_ne_none Suppression.recordedAt
        (List.mem_filter.mpr ⟨placed.mem, reads⟩))
  | some row =>
      obtain ⟨place, held, kept, unsurpassed⟩ :=
        latest_filter_at Suppression.recordedAt found
      refine ⟨(place, row), held, kept, ?_, unsurpassed⟩
      rw [suppressionState, found]

theorem lifted {lift : Nat × Suppression}
    (placed : At store.suppressions lift)
    (reads : query.readsSuppression lift.2 = true)
    (lifts : lift.2.state = .none) (stands : ¬ Reinstated store query lift) :
    suppressionState store query = .none := by
  obtain ⟨newest, held, kept, state, unsurpassed⟩ :=
    suppressionState_at placed reads
  rw [state]
  by_contra blocks
  obtain ⟨concerns, scope⟩ := readsSuppression_iff.mp kept
  rcases held.eq_or_earlier Suppression.recordedAt placed with
    same | before | after
  · exact blocks (same ▸ lifts)
  · exact unsurpassed lift placed reads before
  · exact stands ⟨newest, held, concerns, scope, blocks, after⟩

/-- With the last account-wide word a suppression, a sender is free of it only
through a lift of its own that nothing in its scope follows. -/
theorem accountWide_in_force_iff (store : ConsentStore) (query : Query)
    (suppression : Nat × Suppression)
    (recorded : At store.suppressions suppression)
    (concerns : suppression.2.concerns query)
    (accountWide : suppression.2.senderId = none)
    (blocks : suppression.2.state ≠ .none)
    (unlifted : ∀ lift, At store.suppressions lift →
      lift.2.concerns query → lift.2.senderId = none →
      lift.2.state = .none → ¬ Later suppression lift) :
    suppressionState store query ≠ .none ↔
      ∀ lift, At store.suppressions lift → lift.2.concerns query →
        lift.2.senderId = query.senderId → lift.2.state = .none →
        Later suppression lift → Reinstated store query lift := by
  constructor
  · intro inForce lift placed about ownSender lifts later
    by_contra stands
    have reads := readsSuppression_iff.mpr ⟨about, .inr ownSender⟩
    exact inForce (lifted placed reads lifts stands)
  · intro answered free
    have reads := readsSuppression_iff.mpr ⟨concerns, .inl accountWide⟩
    obtain ⟨newest, held, kept, state, unsurpassed⟩ :=
      suppressionState_at recorded reads
    obtain ⟨about, scope⟩ := readsSuppression_iff.mp kept
    have lifts : newest.2.state = .none := state.symm.trans free
    have after : Later suppression newest := by
      rcases held.eq_or_earlier Suppression.recordedAt recorded with
        same | before | after
      · exact absurd (same ▸ lifts) blocks
      · exact absurd before (unsurpassed suppression recorded reads)
      · exact after
    rcases scope with wide | own
    · exact unlifted newest held about wide lifts after
    · obtain ⟨block, placed, blockAbout, blockScope, -, follows⟩ :=
        answered newest held about own lifts after
      exact unsurpassed block placed
        (readsSuppression_iff.mpr ⟨blockAbout, blockScope⟩) follows

end Reading

def sampleAdministrator : Actor where
  kind := .human
  principalId := some "admin"
  authorities := [administer]

def sampleBlocked : ConsentStore :=
  consentRun none [.setAddresses sampleAddresses 0,
    .suppress "tenant" "mobile" .suppressedByAdmin none "console" none none 1,
    .liftSuppression "tenant" "mobile" sampleAdministrator none
      (some "promo") "operator" 2,
    .suppress "tenant" "mobile" .suppressedByOptout none "console" none
      (some "support") 3]

def sampleBlock : Nat × Suppression :=
  (0, { tenantId := "tenant", addressId := "mobile", channel := .sms
        senderId := none, state := .suppressedByAdmin
        transitionKind := .restrictive, reasonCode := none
        source := "console", actor := { kind := .system }, recordedAt := 1 })

theorem sampleBlocked_unlifted (query : Query) :
    ∀ lift, At sampleBlocked.suppressions lift → lift.2.concerns query →
      lift.2.senderId = none → lift.2.state = .none →
        ¬ Later sampleBlock lift := by
  intro lift placed _ wide lifts _
  have never : sampleBlocked.suppressions.all (fun row =>
      !(row.senderId == none && row.state == .none)) = true := by decide
  have refused := List.all_eq_true.mp never lift.2 placed.mem
  simp [wide, lifts] at refused

theorem accountWide_in_force_support :
    suppressionState sampleBlocked (sampleQuery (some "support")) ≠ .none ↔
      ∀ lift, At sampleBlocked.suppressions lift →
        lift.2.concerns (sampleQuery (some "support")) →
        lift.2.senderId = (sampleQuery (some "support")).senderId →
        lift.2.state = .none → Later sampleBlock lift →
          Reinstated sampleBlocked (sampleQuery (some "support")) lift :=
  accountWide_in_force_iff sampleBlocked (sampleQuery (some "support"))
    sampleBlock (by decide) ⟨by decide, by decide, by decide⟩ rfl (by decide)
    (sampleBlocked_unlifted _)

/-- The promotional sender is free again, with no account-wide lift. -/
theorem promo_lifted :
    At sampleBlocked.suppressions sampleBlock ∧
      sampleBlock.2.concerns (sampleQuery (some "promo")) ∧
      sampleBlock.2.senderId = none ∧ sampleBlock.2.state ≠ .none ∧
      (∀ lift, At sampleBlocked.suppressions lift →
        lift.2.concerns (sampleQuery (some "promo")) →
        lift.2.senderId = none → lift.2.state = .none →
          ¬ Later sampleBlock lift) ∧
      suppressionState sampleBlocked (sampleQuery (some "promo")) = .none :=
  ⟨by decide, ⟨by decide, by decide, by decide⟩, rfl, by decide,
    sampleBlocked_unlifted _, by decide⟩

end AcpTask.Consent
