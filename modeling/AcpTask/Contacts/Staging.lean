import AcpTask.Consent.Approval
import AcpTask.Contacts.Delegation
import AcpTask.Contacts.Editing
import AcpTask.Contacts.Masking
import AcpTask.Library.FirstOfKey

namespace AcpTask.Contacts

open Consent (Actor ActorKind Channel ConsentEvidence ConsentRecord
  ReachabilityEvent RevocationScope Suppression UsabilityDecision)
open Data Library

/-! A file of contacts, scanned against the directory and held in staging. -/

inductive Classification where
  | new
  | duplicate
  | collision
  deriving DecidableEq

inductive ImportState where
  | staged
  | applied
  | rejected

def minNationalDigits : Nat := 7

inductive ImportError where
  | contacts (error : ContactsError)
  | permission (error : PermissionError)
  | consent (error : Consent.ConsentError)
  | approval (error : Consent.ApprovalError)
  /-- `ImportRowInvalid`, with the message that names the row. -/
  | importRowInvalid (rowNumber : Nat) (message : String)
  | importBatchNotFound
  | importAlreadyDecided (message : String)
  /-- The database refuses the statement. -/
  | refused
  deriving DecidableEq

def rowInvalid (rowNumber : Nat) (message : String) : ImportError :=
  .importRowInvalid rowNumber ("row " ++ toString rowNumber ++ ": " ++ message)

structure ConsentClaim where
  purposes : List String
  evidence : ConsentEvidence

structure FileRow where
  identity : EditableField → Option String
  channel : Option String
  address : Option String
  consent : Option ConsentClaim := none

structure ImportRow where
  importRowId : String
  tenantId : String
  batchId : String
  rowNumber : Nat
  identity : EditableField → Option String
  channel : Channel
  address : String
  addressCanonical : String
  classification : Classification
  matchedContactId : Option String
  matchedBranchId : Option String
  duplicateOfRowId : Option String
  assertsConsent : Bool
  consentPurposes : List String
  /-- The columns of the evidence, all of them null where there is none. -/
  evidence : Option ConsentEvidence
  disclosureHash : Option String
  state : ImportState
  appliedContactId : Option String := none
  appliedAddressId : Option String := none
  decidedByPrincipalId : Option String := none
  decidedByAuthority : Option String := none
  decidedByActorKind : Option ActorKind := none
  decidedAt : Option Int := none
  reason : Option String := none

structure ImportBatch where
  batchId : String
  tenantId : String
  targetBranchId : String
  sourceName : Option String
  defaultCallingCode : Option String
  state : ImportState
  rowCount : Nat
  newCount : Nat
  duplicateCount : Nat
  collisionCount : Nat
  stagedByPrincipalId : Option String
  stagedByActorKind : ActorKind
  decidedByPrincipalId : Option String := none
  decidedByAuthority : Option String := none
  decidedByActorKind : Option ActorKind := none
  decidedAt : Option Int := none
  reason : Option String := none

structure Ledgers where
  consents : List ConsentRecord := []
  suppressions : List Suppression := []
  usability : List UsabilityDecision := []
  reachability : List ReachabilityEvent := []

/-- What an import reads and writes.  Identifiers are drawn in the order of the
commits, so that what differs by their names alone is the same. -/
@[ext] structure Intake where
  contacts : Table ContactRecord fun contact => contact.contactId
  addresses : Table Address Address.addressId
  ledgers : Ledgers
  batches : Table ImportBatch ImportBatch.batchId
  rows : Table ImportRow ImportRow.importRowId
  drawn : Nat

structure ImportSetting where
  library : StandardLibrary
  /-- `repr(text)`. -/
  repr : Option String → String
  sha256 : String → String
  ulid : Nat → String
  branches : Branches
  permissions : Permissions
  configured : Option RevocationScope

namespace ImportSetting

variable (setting : ImportSetting)

def toE164 (raw defaultCallingCode : Option String) (rowNumber : Nat) :
    Except ImportError String :=
  let text := strip isSpace (raw.getD "").toList
  let digits := text.filter isDigit
  if digits = [] then .ok ""
  else if '+' ∈ text then .ok (String.ofList ('+' :: digits))
  else if ['0', '0'].isPrefixOf digits then
    .ok (String.ofList ('+' :: digits.drop 2))
  else
    let code := numberOf (defaultCallingCode.getD "").toList
    if code = [] then
      .error (rowInvalid rowNumber
        ("a number written without '+' needs the batch's calling code: " ++
          setting.repr (some (String.ofList text))))
    else if code.isPrefixOf digits &&
        decide (minNationalDigits ≤ digits.length - code.length) then
      .ok (String.ofList ('+' :: digits))
    else .ok (String.ofList
      ('+' :: code ++ digits.dropWhile fun digit => digit == '0'))

def channelOf? (text : Option String) : Option Channel :=
  [Channel.sms, .whatsapp, .voice, .email].find? fun channel =>
    text == some (channelText channel)

def canonicalAddress (channel raw defaultCallingCode : Option String)
    (rowNumber : Nat) : Except ImportError (Channel × String) :=
  match channelOf? channel with
  | none => .error (rowInvalid rowNumber
      ("unsupported channel: " ++ setting.repr channel))
  | some .email => .ok (.email,
      normalizeChannelAddress setting.library "email" raw)
  | some channel => do
      let canonical ← setting.toE164 raw defaultCallingCode rowNumber
      pure (channel, canonical)

def consentClaim (claim : Option ConsentClaim) (rowNumber : Nat) :
    Except ImportError (Option ConsentEvidence × List String) :=
  match claim with
  | none => .ok (none, [])
  | some claim =>
      let unknown := (claim.purposes.filter fun name =>
        (Consent.purposeOf? name).isNone).dedup.mergeSort
          fun first second => decide (first ≤ second)
      if unknown ≠ [] then
        .error (rowInvalid rowNumber ("unsupported consent purpose: " ++
          String.intercalate ", " unknown))
      else if claim.purposes = [] then
        .error (rowInvalid rowNumber
          "a consent claim names the purposes it covers")
      else
        let missing := claim.evidence.missingFields
        if missing ≠ [] then
          .error (.consent (.consentEvidenceRequired (missing.map fun name =>
            "row " ++ toString rowNumber ++ ": " ++ name)))
        else .ok (some claim.evidence, claim.purposes)

end ImportSetting

structure PreparedRow where
  importRowId : String
  rowNumber : Nat
  identity : EditableField → Option String
  channel : Channel
  address : String
  addressCanonical : String
  evidence : Option ConsentEvidence
  purposes : List String

def PreparedRow.key (row : PreparedRow) : Channel × String :=
  (row.channel, row.addressCanonical)

structure ClassifiedRow extends PreparedRow where
  classification : Classification
  matchedContactId : Option String := none
  matchedBranchId : Option String := none
  duplicateOfRowId : Option String := none

structure StageCall where
  tenantId : String
  actor : Actor
  targetBranchId : String
  rows : List FileRow
  sourceName : Option String := none
  defaultCallingCode : Option String := none
  batchId : Option String := none

namespace ImportSetting

variable (setting : ImportSetting) (call : StageCall)

def prepareRow (drawn index : Nat) (raw : FileRow) :
    Except ImportError PreparedRow := do
  let rowNumber := index + 1
  let displayName := String.ofList
    (strip isSpace ((raw.identity .displayName).getD "").toList)
  require (displayName != "")
    (rowInvalid rowNumber "a contact needs a display name")
  let (channel, canonical) ← setting.canonicalAddress raw.channel raw.address
    call.defaultCallingCode rowNumber
  require (canonical != "") (rowInvalid rowNumber "a contact needs an address")
  let (evidence, purposes) ← consentClaim raw.consent rowNumber
  pure { importRowId := "importrow:" ++ setting.ulid (drawn + index)
         rowNumber, channel, evidence, purposes
         identity := fun field =>
           if field = .displayName then some displayName
           else raw.identity field
         address := String.ofList (strip isSpace (raw.address.getD "").toList)
         addressCanonical := canonical }

/-- `_prepare`, from a row on. -/
def prepareFrom (drawn : Nat) :
    Nat → List FileRow → Except ImportError (List PreparedRow)
  | _, [] => .ok []
  | index, raw :: rows => do
      let row ← setting.prepareRow call drawn index raw
      let later ← prepareFrom drawn (index + 1) rows
      pure (row :: later)

def contactByAddress (store : Intake) (tenantId : String) (channel : Channel)
    (address : String) : Option ContactRecord :=
  let normalized := normalizeChannelAddress setting.library
    (channelText channel) (some address)
  if normalized = "" then none
  else
    (store.addresses.rows.find? fun row => row.tenantId == tenantId &&
      row.channel == channel && row.addressNormalized == normalized).bind
      fun found => store.contacts.rows.find? fun contact =>
        contact.tenantId == tenantId && contact.contactId == found.contactId

def scope : List String :=
  match setting.branches.subtree call.tenantId call.targetBranchId with
  | .ok branches => branches.map Branch.branchId
  | .error _ => []

def classifyFirst (store : Intake) (row : PreparedRow) : ClassifiedRow :=
  match setting.contactByAddress store call.tenantId row.channel
      row.addressCanonical with
  | none => { row with classification := .new }
  | some existing => { row with
      matchedContactId := some existing.contactId
      matchedBranchId := some existing.primaryBranchId
      classification :=
        if existing.primaryBranchId ∈ setting.scope call then .duplicate
        else .collision }

def classifyAgain (first : ClassifiedRow) (row : PreparedRow) :
    ClassifiedRow :=
  { row with
    classification := .duplicate
    duplicateOfRowId := some first.importRowId
    matchedContactId := first.matchedContactId
    matchedBranchId := first.matchedBranchId }

def classify (store : Intake) (prepared : List PreparedRow) :
    List ClassifiedRow :=
  linkFirsts PreparedRow.key (setting.classifyFirst call store) classifyAgain
    [] prepared

def requireDimension (tenantId : String) (principalId : Option String)
    (branchId : String) (dimension : Dimension) : Except ImportError Unit := do
  let held ← (setting.permissions.holds setting.branches tenantId
    (principalId.getD "") branchId dimension).mapError .contacts
  require held (.contacts (.permissionDenied dimension.name))

/-- What `stage` does before it writes. -/
def scan (store : Intake) : Except ImportError (List ClassifiedRow) := do
  (requireTenant call.tenantId).mapError .contacts
  setting.requireDimension call.tenantId call.actor.principalId
    call.targetBranchId .edit
  let prepared ← setting.prepareFrom call store.drawn 0 call.rows
  pure (setting.classify call store prepared)

def stagedRow (batchId : String) (row : ClassifiedRow) : ImportRow where
  importRowId := row.importRowId
  tenantId := call.tenantId
  batchId := batchId
  rowNumber := row.rowNumber
  identity := row.identity
  channel := row.channel
  address := row.address
  addressCanonical := row.addressCanonical
  classification := row.classification
  matchedContactId := row.matchedContactId
  matchedBranchId := row.matchedBranchId
  duplicateOfRowId := row.duplicateOfRowId
  assertsConsent := row.evidence.isSome
  consentPurposes := row.purposes
  evidence := row.evidence
  disclosureHash := row.evidence.map fun evidence =>
    setting.sha256 (evidence.disclosureText.getD "")
  state := .staged

/-- `unique (tenant_id, batch_id, row_number)`. -/
def insertRow (table : Table ImportRow ImportRow.importRowId)
    (row : ImportRow) :
    Except ImportError (Table ImportRow ImportRow.importRowId) :=
  if table.rows.any fun other => other.tenantId == row.tenantId &&
      other.batchId == row.batchId && other.rowNumber == row.rowNumber then
    .error .refused
  else (table.insert? row).elim (.error .refused) .ok

def countOf (rows : List ClassifiedRow) (classification : Classification) :
    Nat :=
  rows.countP fun row => row.classification == classification

def stagedBatch (store : Intake) (rows : List ClassifiedRow) :
    ImportBatch where
  batchId := (call.batchId.filter (· ≠ "")).getD
    ("import:" ++ setting.ulid (store.drawn + call.rows.length))
  tenantId := call.tenantId
  targetBranchId := call.targetBranchId
  sourceName := call.sourceName
  defaultCallingCode := call.defaultCallingCode
  state := .staged
  rowCount := rows.length
  newCount := countOf rows .new
  duplicateCount := countOf rows .duplicate
  collisionCount := countOf rows .collision
  stagedByPrincipalId := call.actor.principalId
  stagedByActorKind := call.actor.kind

/-- The one transaction of `stage`. -/
def insertStaged (rows : List ClassifiedRow) (store : Intake) :
    Except ImportError (ImportBatch × Intake) := do
  let batch := setting.stagedBatch call store rows
  require ((setting.branches.fetchBranch call.tenantId
    call.targetBranchId).isSome && call.actor.principalId.isSome) .refused
  let batches ← (store.batches.insert? batch).elim (.error .refused) .ok
  let inserted ← (rows.map (setting.stagedRow call batch.batchId)).foldlM
    insertRow store.rows
  pure (batch, { store with
    batches
    rows := inserted
    drawn := store.drawn + call.rows.length + 1 })

def stage : Committing Intake ImportError ImportBatch := do
  let rows ← Committing.query (setting.scan call)
  Committing.commit (setting.insertStaged call rows)

end ImportSetting

def ImportRow.key (row : ImportRow) : Channel × String :=
  (row.channel, row.addressCanonical)

namespace ImportSetting

variable {setting : ImportSetting} {call : StageCall} {store later : Intake}
  {batch : ImportBatch} {prepared : List PreparedRow}

variable (setting call store) in
def holder (key : Channel × String) : Option ContactRecord :=
  setting.contactByAddress store call.tenantId key.1 key.2

variable (setting call store) in
structure ByDirectory (row : ImportRow) : Prop where
  unlinked : row.duplicateOfRowId = none
  unheld : setting.holder call store row.key = none →
    row.classification = .new ∧ row.matchedContactId = none
  within : ∀ contact ∈ setting.holder call store row.key,
    contact.primaryBranchId ∈ setting.scope call →
      row.classification = .duplicate ∧
        row.matchedContactId = some contact.contactId
  outside : ∀ contact ∈ setting.holder call store row.key,
    contact.primaryBranchId ∉ setting.scope call →
      row.classification = .collision ∧
        row.matchedContactId = some contact.contactId

variable (setting call store) in
def HeldWithin (key : Channel × String) : Prop :=
  ∃ contact ∈ setting.holder call store key,
    contact.primaryBranchId ∈ setting.scope call

variable (setting call store) in
structure StagesFile (batch : ImportBatch) (rows : List ImportRow) : Prop where
  everyRow : rows.length = call.rows.length
  source : ∀ (place : Nat) (raw : FileRow), call.rows[place]? = some raw →
    ∃ row, rows[place]? = some row ∧ row.rowNumber = place + 1 ∧
      setting.canonicalAddress raw.channel raw.address call.defaultCallingCode
        (place + 1) = .ok row.key
  first : ∀ (place : Nat) (row : ImportRow), rows[place]? = some row →
    firstWith ImportRow.key (rows.take place) row.key = none →
      setting.ByDirectory call store row
  again : ∀ (place : Nat) (row earlier : ImportRow), rows[place]? = some row →
    firstWith ImportRow.key (rows.take place) row.key = some earlier →
      row.classification = .duplicate ∧
        row.duplicateOfRowId = some earlier.importRowId
  kept : ∀ row ∈ rows, ¬ setting.HeldWithin call store row.key →
    (rows.countP fun other => decide (other.key = row.key) &&
      other.classification != .duplicate) = 1
  dropped : ∀ row ∈ rows, setting.HeldWithin call store row.key →
    (rows.countP fun other => decide (other.key = row.key) &&
      other.classification != .duplicate) = 0
  counted : batch.rowCount = rows.length ∧
    batch.newCount = rows.countP (·.classification == .new) ∧
    batch.duplicateCount = rows.countP (·.classification == .duplicate) ∧
    batch.collisionCount = rows.countP (·.classification == .collision) ∧
    batch.newCount + batch.duplicateCount + batch.collisionCount =
      batch.rowCount

theorem prepareRow_ok {drawn index : Nat} {raw : FileRow} {row : PreparedRow}
    (outcome : setting.prepareRow call drawn index raw = .ok row) :
    row.rowNumber = index + 1 ∧
      setting.canonicalAddress raw.channel raw.address call.defaultCallingCode
        (index + 1) = .ok row.key := by
  obtain ⟨_, _, outcome⟩ := bind_eq_ok.mp outcome
  obtain ⟨⟨_, _⟩, address, outcome⟩ := bind_eq_ok.mp outcome
  obtain ⟨_, _, outcome⟩ := bind_eq_ok.mp outcome
  obtain ⟨⟨_, _⟩, _, outcome⟩ := bind_eq_ok.mp outcome
  cases outcome
  exact ⟨rfl, address⟩

theorem prepareFrom_ok {drawn index : Nat} {rows : List FileRow}
    (outcome : setting.prepareFrom call drawn index rows = .ok prepared) :
    prepared.length = rows.length ∧
      ∀ (place : Nat) (raw : FileRow), rows[place]? = some raw →
        ∃ row, prepared[place]? = some row ∧
          setting.prepareRow call drawn (index + place) raw = .ok row := by
  induction rows generalizing index prepared with
  | nil =>
      cases outcome
      exact ⟨rfl, fun place raw here => by simp at here⟩
  | cons _ _ induction =>
      obtain ⟨row, here, outcome⟩ := bind_eq_ok.mp outcome
      obtain ⟨_, later, outcome⟩ := bind_eq_ok.mp outcome
      cases outcome
      obtain ⟨lengths, sources⟩ := induction later
      refine ⟨congrArg (· + 1) lengths, fun place other there => ?_⟩
      cases place with
      | zero =>
          cases there
          exact ⟨row, rfl, here⟩
      | succ place =>
          obtain ⟨found, isThere, prepares⟩ := sources place other there
          refine ⟨found, isThere, ?_⟩
          rw [← prepares]
          congr 1
          omega

theorem prepareFrom_error {drawn index : Nat} {rows : List FileRow}
    {place : Nat} {raw : FileRow} (here : rows[place]? = some raw)
    {error : ImportError}
    (invalid : setting.prepareRow call drawn (index + place) raw =
      .error error) :
    ∃ error, setting.prepareFrom call drawn index rows = .error error := by
  cases outcome : setting.prepareFrom call drawn index rows with
  | error other => exact ⟨other, rfl⟩
  | ok =>
      obtain ⟨_, _, prepares⟩ := (prepareFrom_ok outcome).2 place raw here
      rw [invalid] at prepares
      cases prepares

theorem insertRows_ok {rows : List ImportRow}
    {table inserted : Table ImportRow ImportRow.importRowId}
    (outcome : rows.foldlM insertRow table = .ok inserted) :
    inserted.rows = table.rows ++ rows := by
  induction rows generalizing table with
  | nil =>
      cases outcome
      rw [List.append_nil]
  | cons row _ induction =>
      rw [List.foldlM_cons] at outcome
      obtain ⟨_, here, rest⟩ := bind_eq_ok.mp outcome
      unfold insertRow at here
      split at here
      · cases here
      · cases fresh : table.insert? row with
        | none =>
            rw [fresh] at here
            cases here
        | some =>
            rw [fresh] at here
            cases here
            rw [induction rest, (Table.insert?_eq_some_iff.mp fresh).2,
              List.append_assoc]
            rfl

theorem classifyFirst_prepared (row : PreparedRow) :
    (setting.classifyFirst call store row).toPreparedRow = row := by
  unfold classifyFirst
  split <;> rfl

theorem linked_prepared (before : List PreparedRow) (row : PreparedRow) :
    (linked PreparedRow.key (setting.classifyFirst call store) classifyAgain
      before row).toPreparedRow = row := by
  unfold linked
  split
  · rfl
  · exact classifyFirst_prepared row

variable (setting call store) in
def stagedRows (batchId : String) (prepared : List PreparedRow) :
    List ImportRow :=
  (setting.classify call store prepared).map (setting.stagedRow call batchId)

variable {batchId : String}

theorem getElem?_stagedRows (place : Nat) :
    (setting.stagedRows call store batchId prepared)[place]? =
      prepared[place]?.map fun row => setting.stagedRow call batchId
        (linked PreparedRow.key (setting.classifyFirst call store) classifyAgain
          (prepared.take place) row) := by
  rw [stagedRows, List.getElem?_map, classify, getElem?_linkFirsts_nil,
    Option.map_map]
  rfl

theorem key_stagedRow (before : List PreparedRow) (row : PreparedRow) :
    (setting.stagedRow call batchId (linked PreparedRow.key
      (setting.classifyFirst call store) classifyAgain before row)).key =
        row.key := by
  have same := @linked_prepared setting call store before row
  exact congrArg PreparedRow.key same

theorem map_key_stagedRows :
    (setting.stagedRows call store batchId prepared).map ImportRow.key =
      prepared.map PreparedRow.key := by
  apply List.ext_getElem?
  intro place
  rw [List.getElem?_map, List.getElem?_map, getElem?_stagedRows, Option.map_map]
  congr 1
  funext row
  exact key_stagedRow _ row

theorem stagedRows_source {place : Nat} {row : ImportRow}
    (here : (setting.stagedRows call store batchId prepared)[place]? =
      some row) :
    ∃ source, prepared[place]? = some source ∧
      row = setting.stagedRow call batchId (linked PreparedRow.key
        (setting.classifyFirst call store) classifyAgain
          (prepared.take place) source) ∧ source.key = row.key := by
  rw [getElem?_stagedRows] at here
  obtain ⟨source, there, rfl⟩ := Option.map_eq_some_iff.mp here
  exact ⟨source, there, rfl, (key_stagedRow _ source).symm⟩

theorem take_map_key_stagedRows (place : Nat) :
    ((setting.stagedRows call store batchId prepared).take place).map
        ImportRow.key = (prepared.take place).map PreparedRow.key := by
  rw [List.map_take, map_key_stagedRows, List.map_take]

theorem byDirectory_classifyFirst (source : PreparedRow) :
    setting.ByDirectory call store (setting.stagedRow call batchId
      (setting.classifyFirst call store source)) := by
  have key : (setting.stagedRow call batchId
      (setting.classifyFirst call store source)).key = source.key :=
    congrArg PreparedRow.key (classifyFirst_prepared source)
  have found : setting.holder call store source.key =
      setting.contactByAddress store call.tenantId source.channel
        source.addressCanonical := rfl
  cases held : setting.contactByAddress store call.tenantId source.channel
      source.addressCanonical with
  | none =>
      have made : setting.classifyFirst call store source =
          { source with classification := .new } := by
        rw [classifyFirst, held]
      constructor
      · rw [made]
        rfl
      · intro _
        rw [made]
        exact ⟨rfl, rfl⟩
      · intro contact member
        rw [key, found, held] at member
        cases member
      · intro contact member
        rw [key, found, held] at member
        cases member
  | some existing =>
      have made : setting.classifyFirst call store source = { source with
          matchedContactId := some existing.contactId
          matchedBranchId := some existing.primaryBranchId
          classification :=
            if existing.primaryBranchId ∈ setting.scope call then .duplicate
            else .collision } := by
        rw [classifyFirst, held]
      constructor
      · rw [made]
        rfl
      · intro none
        rw [key, found, held] at none
        cases none
      · intro contact member inside
        rw [key, found, held] at member
        obtain rfl := Option.mem_some_iff.mp member
        rw [made]
        exact ⟨if_pos inside, rfl⟩
      · intro contact member outside
        rw [key, found, held] at member
        obtain rfl := Option.mem_some_iff.mp member
        rw [made]
        exact ⟨if_neg outside, rfl⟩

theorem byDirectory_of_first {place : Nat} {row : ImportRow}
    (here : (setting.stagedRows call store batchId prepared)[place]? = some row)
    (first : firstWith ImportRow.key ((setting.stagedRows call store batchId
      prepared).take place) row.key = none) :
    setting.ByDirectory call store row := by
  obtain ⟨source, _, same, sourceKey⟩ := stagedRows_source here
  rw [firstWith_eq_none_iff_map, take_map_key_stagedRows,
    ← firstWith_eq_none_iff_map, ← sourceKey] at first
  rw [same, linked, first]
  exact byDirectory_classifyFirst source

theorem duplicate_of_again {place : Nat} {row earlier : ImportRow}
    (here : (setting.stagedRows call store batchId prepared)[place]? = some row)
    (again : firstWith ImportRow.key ((setting.stagedRows call store batchId
      prepared).take place) row.key = some earlier) :
    row.classification = .duplicate ∧
      row.duplicateOfRowId = some earlier.importRowId := by
  obtain ⟨_, _, same, sourceKey⟩ := stagedRows_source here
  obtain ⟨before, other, earlierHere, otherHere, found, unseen⟩ :=
    firstWith_place_of_map (take_map_key_stagedRows place) again
  have inside : before < place := by
    have bound := (List.getElem?_eq_some_iff.mp earlierHere).1
    rw [List.length_take] at bound
    omega
  rw [List.getElem?_take_of_lt inside] at earlierHere otherHere
  obtain ⟨_, originHere, earlierSame, originKey⟩ :=
    stagedRows_source earlierHere
  obtain rfl := Option.some.inj (otherHere.symm.trans originHere)
  rw [List.take_take, Nat.min_eq_left (Nat.le_of_lt inside),
    ← firstWith_eq_none_iff_map, ← (firstWith_eq_some again).2, ← originKey]
    at unseen
  rw [linked, unseen] at earlierSame
  rw [linked, sourceKey, found] at same
  have named : earlier.importRowId = other.importRowId := by
    rw [earlierSame]
    exact congrArg PreparedRow.importRowId (classifyFirst_prepared other)
  rw [same, named]
  exact ⟨rfl, congrArg some
    (congrArg PreparedRow.importRowId (classifyFirst_prepared other))⟩

theorem countP_classifications (rows : List ClassifiedRow) :
    countOf rows .new + countOf rows .duplicate + countOf rows .collision =
      rows.length := by
  unfold countOf
  induction rows with
  | nil => rfl
  | cons row _ induction =>
      rw [List.length_cons, ← induction]
      cases kind : row.classification <;> simp [kind] <;> omega

theorem countP_stagedRows (classification : Classification) :
    countOf (setting.classify call store prepared) classification =
      (setting.stagedRows call store batchId prepared).countP fun row =>
        row.classification == classification := by
  rw [stagedRows, List.countP_map]
  rfl

theorem scan_ok {rows : List ClassifiedRow}
    (outcome : setting.scan call store = .ok rows) :
    ∃ prepared, setting.prepareFrom call store.drawn 0 call.rows =
      .ok prepared ∧ rows = setting.classify call store prepared := by
  obtain ⟨_, _, outcome⟩ := bind_eq_ok.mp outcome
  obtain ⟨_, _, outcome⟩ := bind_eq_ok.mp outcome
  obtain ⟨prepared, prepares, outcome⟩ := bind_eq_ok.mp outcome
  cases outcome
  exact ⟨prepared, prepares, rfl⟩

theorem insertStaged_ok {rows : List ClassifiedRow}
    (outcome : setting.insertStaged call rows store = .ok (batch, later)) :
    batch = setting.stagedBatch call store rows ∧
      later.rows.rows = store.rows.rows ++
        rows.map (setting.stagedRow call batch.batchId) := by
  obtain ⟨_, _, outcome⟩ := bind_eq_ok.mp outcome
  obtain ⟨_, _, outcome⟩ := bind_eq_ok.mp outcome
  obtain ⟨_, inserts, outcome⟩ := bind_eq_ok.mp outcome
  cases outcome
  exact ⟨rfl, insertRows_ok inserts⟩

theorem not_duplicate_iff {place : Nat} {row : ImportRow}
    (here : (setting.stagedRows call store batchId prepared)[place]? =
      some row) :
    row.classification ≠ .duplicate ↔
      firstWith ImportRow.key ((setting.stagedRows call store batchId
        prepared).take place) row.key = none ∧
          ¬ setting.HeldWithin call store row.key := by
  cases first : firstWith ImportRow.key ((setting.stagedRows call store batchId
      prepared).take place) row.key with
  | some =>
      have again := (duplicate_of_again here first).1
      exact iff_of_false (not_not.mpr again) fun both => (by cases both.1)
  | none =>
      have directory := byDirectory_of_first here first
      rw [and_iff_right rfl]
      cases held : setting.holder call store row.key with
      | none =>
          apply iff_of_true
          · rw [(directory.unheld held).1]
            decide
          · rintro ⟨contact, member, _⟩
            rw [held] at member
            cases member
      | some contact =>
          by_cases inside : contact.primaryBranchId ∈ setting.scope call
          · apply iff_of_false
            · rw [not_not]
              exact (directory.within contact held inside).1
            · exact not_not.mpr ⟨contact, held, inside⟩
          · apply iff_of_true
            · rw [(directory.outside contact held inside).1]
              decide
            · rintro ⟨_, member, within⟩
              obtain rfl := Option.some.inj (held.symm.trans member)
              exact inside within

theorem stagesFile
    (prepares : setting.prepareFrom call store.drawn 0 call.rows =
      .ok prepared) :
    setting.StagesFile call store
      (setting.stagedBatch call store (setting.classify call store prepared))
      (setting.stagedRows call store batchId prepared) := by
  obtain ⟨lengths, sources⟩ := prepareFrom_ok prepares
  have everyRow : (setting.stagedRows call store batchId prepared).length =
      prepared.length := by
    rw [← List.length_map ImportRow.key, map_key_stagedRows, List.length_map]
  constructor
  case everyRow => exact everyRow.trans lengths
  case source =>
    intro place raw here
    obtain ⟨source, there, prepared⟩ := sources place raw here
    rw [Nat.zero_add] at prepared
    obtain ⟨number, address⟩ := prepareRow_ok prepared
    refine ⟨_, by rw [getElem?_stagedRows, there]; rfl, ?_, ?_⟩
    · rw [← number]
      exact congrArg PreparedRow.rowNumber (linked_prepared _ source)
    · rw [address, key_stagedRow]
  case first => exact fun place row here first => byDirectory_of_first here first
  case again =>
    exact fun place row earlier here again => duplicate_of_again here again
  case kept =>
    intro row member outside
    have counted : (setting.stagedRows call store batchId prepared).countP
        (fun other => decide (other.key = row.key) &&
          other.classification != .duplicate) =
            if firstWith ImportRow.key (setting.stagedRows call store batchId
              prepared) row.key = none then 0 else 1 := by
      apply countP_firsts
      intro place other here
      rw [Bool.and_eq_true, decide_eq_true_iff, bne_iff_ne,
        not_duplicate_iff here]
      refine and_congr_right fun same => ?_
      rw [same]
      exact and_iff_left outside
    rw [counted, if_neg]
    intro none
    exact firstWith_eq_none_iff.mp none row member rfl
  case dropped =>
    intro row member within
    rw [List.countP_eq_zero]
    intro other listed
    rw [Bool.and_eq_true, decide_eq_true_iff, bne_iff_ne, not_and]
    intro same kept
    obtain ⟨_, here⟩ := List.getElem?_of_mem listed
    exact ((not_duplicate_iff here).mp kept).2 (same ▸ within)
  case counted =>
    refine ⟨?_, countP_stagedRows .new, countP_stagedRows .duplicate,
      countP_stagedRows .collision, countP_classifications _⟩
    rw [stagedRows, List.length_map]
    rfl

end ImportSetting

open ImportSetting

/-- Staging writes nothing when it raises, as it does on a row that cannot be
staged; else it classifies every row. -/
theorem stage_classifies (setting : ImportSetting) (call : StageCall)
    (store : Intake) :
    (∀ error, (setting.stage call store).result = .error error →
      (setting.stage call).ending store = store) ∧
    (∀ (place : Nat) (raw : FileRow), call.rows[place]? = some raw →
      (∃ error, setting.prepareRow call store.drawn place raw = .error error) →
        ∃ error, (setting.stage call store).result = .error error) ∧
    ∀ batch, (setting.stage call store).result = .ok batch →
      ∃ rows, ((setting.stage call).ending store).rows.rows =
          store.rows.rows ++ rows ∧
        setting.StagesFile call store batch rows := by
  cases scanned : setting.scan call store with
  | error error =>
      have raised : setting.stage call store = ⟨[], .error error⟩ :=
        Committing.query_bind_error scanned
      rw [Committing.ending, raised]
      exact ⟨fun _ _ => rfl, fun _ _ _ _ => ⟨error, rfl⟩,
        fun _ returned => (by cases returned)⟩
  | ok rows =>
      obtain ⟨prepared, prepares, rfl⟩ := scan_ok scanned
      have run : setting.stage call store = Committing.commit
          (setting.insertStaged call (setting.classify call store prepared))
            store := Committing.query_bind_ok scanned
      have valid : ∀ (place : Nat) (raw : FileRow),
          call.rows[place]? = some raw →
            ¬ ∃ error, setting.prepareRow call store.drawn place raw =
              .error error := by
        rintro place raw here ⟨error, invalid⟩
        obtain ⟨_, raised⟩ := @prepareFrom_error setting call store.drawn 0
          call.rows place raw here error (by rwa [Nat.zero_add])
        rw [prepares] at raised
        cases raised
      rw [Committing.ending, run]
      cases inserted : setting.insertStaged call
          (setting.classify call store prepared) store with
      | error =>
          rw [Committing.commit_error inserted]
          exact ⟨fun _ _ => rfl, fun place raw here invalid =>
            absurd invalid (valid place raw here),
            fun _ returned => (by cases returned)⟩
      | ok pair =>
          obtain ⟨batch, later⟩ := pair
          rw [Committing.commit_ok inserted]
          refine ⟨fun _ raised => (by cases raised),
            fun place raw here invalid =>
              absurd invalid (valid place raw here), ?_⟩
          intro _ returned
          cases returned
          obtain ⟨rfl, rows⟩ := insertStaged_ok inserted
          exact ⟨_, rows, stagesFile prepares⟩

def importing : ImportSetting where
  library := asciiLibrary
  repr text := text.getD "None"
  sha256 := id
  ulid := fun drawn => toString drawn
  branches := PermissionTable.finance
  permissions := ⟨[⟨"perm:2", "org:acme", "branch:1", "principal:ann", .edit,
    .grant⟩], by decide⟩
  configured := none

def anaFields (field : EditableField) : Option String :=
  if field = .displayName then some "Ana" else none

def anaPresent : Intake where
  contacts := ⟨[{
    contactId := "contact:1"
    tenantId := "org:acme"
    primaryBranchId := "branch:2"
    identity := anaFields
    status := .active
    mergedIntoContactId := none
    source := "manual" }], by decide⟩
  addresses := ⟨[⟨"address:1", "org:acme", "contact:1", .sms, "+34600111222",
    "+34600111222", true, none⟩], by decide⟩
  ledgers := {}
  batches := Table.empty
  rows := Table.empty
  drawn := 0

def anaRow : FileRow where
  identity := anaFields
  channel := some "sms"
  address := some "+34 600 111 222"

def anaFile (rows : List FileRow) : StageCall where
  tenantId := "org:acme"
  actor := PermissionTable.ann
  targetBranchId := "branch:1"
  rows := rows

/-- Each key has exactly one row that does not duplicate, and each duplicate
points to another row with its key. -/
def EveryKeyOnce (rows : List ImportRow) : Prop :=
  (∀ row ∈ rows, (rows.countP fun other => decide (other.key = row.key) &&
    other.classification != .duplicate) = 1) ∧
  ∀ row ∈ rows, row.classification = .duplicate → ∃ earlier ∈ rows,
    earlier.key = row.key ∧ row.duplicateOfRowId = some earlier.importRowId

instance (rows : List ImportRow) : Decidable (EveryKeyOnce rows) := by
  unfold EveryKeyOnce
  infer_instance

/-- The only row with its key is a duplicate, and points to no row. -/
theorem duplicate_of_no_row :
    (importing.stage (anaFile [anaRow]) anaPresent).result.toOption.isSome =
        true ∧
      ¬ EveryKeyOnce
        ((importing.stage (anaFile [anaRow])).ending anaPresent).rows.rows := by
  decide +kernel

end AcpTask.Contacts
