import Mathlib.Data.Fintype.Pi
import AcpTask.Contacts.Directory

namespace AcpTask.Contacts

open Consent (Actor Channel)
open Data Library

/-! The edit of a contact against the version that was read, statement by
statement. -/

/-- `EDITABLE_CONTACT_FIELDS`. -/
inductive EditableField where
  | displayName
  | givenName
  | familyName
  | locale
  | timezone
  | companyName
  | jobTitle
  | externalReference
  deriving DecidableEq

def EditableField.name : EditableField → String
  | .displayName => "display_name"
  | .givenName => "given_name"
  | .familyName => "family_name"
  | .locale => "locale"
  | .timezone => "timezone"
  | .companyName => "company_name"
  | .jobTitle => "job_title"
  | .externalReference => "external_reference"

def editableFields : List EditableField :=
  [.displayName, .givenName, .familyName, .locale, .timezone, .companyName,
    .jobTitle, .externalReference]

instance : Fintype EditableField :=
  Fintype.ofList editableFields fun field => by cases field <;> decide

structure ContactFields where
  contactId : String
  primaryBranchId : String
  identity : EditableField → Option String
  status : ContactStatus
  mergedIntoContactId : Option String
  source : String
  deriving DecidableEq

structure ContactRecord extends ContactFields where
  tenantId : String
  deriving DecidableEq

structure AddressFields where
  addressId : String
  channel : Channel
  addressNormalized : String
  label : Option String
  isPrimary : Bool
  deriving DecidableEq

structure VersionPayload where
  contact : ContactFields
  addresses : List AddressFields
  deriving DecidableEq

abbrev Changes := List (String × Option String)

def ContactRecord.edited (record : ContactRecord) (changes : Changes) :
    ContactRecord :=
  { record with identity := fun field =>
      (Items.get? changes field.name).getD (record.identity field) }

inductive EditError where
  | contacts (error : ContactsError)
  | humanDecisionRequired
  | staleContactRecord
  | contactNotFound

structure EditCall (Version : Type) where
  actor : Actor
  recordVersion : Version
  changes : Changes

structure EditSetting (Version : Type) where
  library : StandardLibrary
  tenantId : String
  branches : Branches
  permissions : Permissions
  /-- The addresses of the contact. -/
  addresses : List AddressFields
  /-- The hash of the canonical text of a payload. -/
  hash : VersionPayload → Version
  /-- The database stores the text. -/
  storesText : String → Bool

inductive EditProgress (Version : Type) where
  | called
  | read (contact : ContactRecord)
  | checked
  | written (contact : ContactRecord)
  | failed (error : EditError)
  /-- `return None`. -/
  | absent
  | returned (recordVersion : Version)

section Calls

variable {Version : Type} (setting : EditSetting Version)

def recordVersion (contact : ContactFields) : Version :=
  setting.hash ⟨contact, setting.addresses.mergeSort fun first second =>
    decide (first.addressId ≤ second.addressId)⟩

def readContact (call : EditCall Version) (row : Option ContactRecord) :
    EditProgress Version :=
  if setting.tenantId = "" then .failed (.contacts .tenantScopeRequired)
  else if call.actor.mayGrant = false then .failed .humanDecisionRequired
  else match row with
  | none => .absent
  | some contact =>
      match setting.permissions.holds setting.branches setting.tenantId
          (call.actor.principalId.getD "") contact.primaryBranchId .edit with
      | .error error => .failed (.contacts error)
      | .ok false => .failed (.contacts (.permissionDenied "edit"))
      | .ok true => .read contact

def blanksName (changes : Changes) : Bool :=
  (Items.get? changes "display_name").any fun name =>
    (strip setting.library.isSpace (name.getD "").toList).isEmpty

def unknownFields (changes : Changes) : List String :=
  ((changes.map Prod.fst).filter fun name =>
    !(editableFields.map EditableField.name).contains name).mergeSort
      fun first second => decide (first ≤ second)

def checkContact [DecidableEq Version] (call : EditCall Version)
    (contact : ContactRecord) : EditProgress Version :=
  let invalid message := .failed (.contacts (.valueError message))
  if recordVersion setting contact.toContactFields ≠ call.recordVersion then
    .failed .staleContactRecord
  else if blanksName setting call.changes then
    invalid "a contact needs a display name"
  else if unknownFields call.changes ≠ [] then
    invalid ("not an editable contact field: " ++
      String.intercalate ", " (unknownFields call.changes))
  else if call.changes = [] then
    invalid "an edit needs at least one field"
  else .checked

def takesChanges (changes : Changes) : Bool :=
  changes.all fun change => change.2.all setting.storesText

/-- `UPDATE contacts.contacts SET … RETURNING …`. -/
def writeContact (call : EditCall Version) (row : Option ContactRecord) :
    EditProgress Version × Option ContactRecord :=
  if takesChanges setting call.changes then
    match row with
    | none => (.failed .contactNotFound, none)
    | some contact =>
        let updated := contact.edited call.changes
        (.written updated, some updated)
  else (.failed (.contacts .refused), row)

end Calls

inductive Editor where
  | first
  | second
  deriving DecidableEq

structure Editing (Version : Type) where
  row : Option ContactRecord
  progress : Editor → EditProgress Version

namespace Editing

variable {Version : Type}

def start (row : Option ContactRecord) : Editing Version where
  row := row
  progress := fun _ => .called

def move (editing : Editing Version) (editor : Editor)
    (progress : EditProgress Version) : Editing Version :=
  { editing with
    progress := Function.update editing.progress editor progress }

end Editing

section Steps

variable {Version : Type} [DecidableEq Version] (setting : EditSetting Version)
  (calls : Editor → EditCall Version)

def editStep (editing : Editing Version) (editor : Editor) :
    Editing Version :=
  match editing.progress editor with
  | .called =>
      editing.move editor (readContact setting (calls editor) editing.row)
  | .read contact =>
      editing.move editor (checkContact setting (calls editor) contact)
  | .checked =>
      let outcome := writeContact setting (calls editor) editing.row
      { editing.move editor outcome.1 with row := outcome.2 }
  | .written contact =>
      editing.move editor
        (.returned (recordVersion setting contact.toContactFields))
  | .failed _ | .absent | .returned _ => editing

end Steps

end AcpTask.Contacts
