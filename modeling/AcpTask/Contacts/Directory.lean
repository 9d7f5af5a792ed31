import AcpTask.Consent.Ledger
import AcpTask.Contacts.Ownership
import AcpTask.Contacts.Permissions

namespace AcpTask.Contacts

open Consent (Channel)
open Data Library

inductive ContactStatus where
  | active
  | archived
  | merged
  deriving DecidableEq

def ContactStatus.text : ContactStatus → String
  | .active => "active"
  | .archived => "archived"
  | .merged => "merged"

def channelText : Channel → String
  | .sms => "sms"
  | .whatsapp => "whatsapp"
  | .voice => "voice"
  | .email => "email"

structure Contact where
  contactId : String
  tenantId : String
  primaryBranchId : String
  displayName : String
  locale : Option String
  status : ContactStatus
  deriving DecidableEq

structure Address where
  addressId : String
  tenantId : String
  contactId : String
  channel : Channel
  address : String
  addressNormalized : String
  isPrimary : Bool
  lastContactedAt : Option Int

structure ContactList where
  listId : String
  tenantId : String

structure ListMember where
  tenantId : String
  listId : String
  contactId : String

structure Tag where
  tagId : String
  tenantId : String
  slug : Slug

structure TagAssignment where
  tenantId : String
  tagId : String
  contactId : String

structure SegmentRule where
  branchId : Option String := none
  includeSubtree : Bool := true
  nameContains : Option String := none
  status : Option String := some "active"
  locale : Option String := none
  hasChannel : Option String := none
  tagSlugs : List String := []
  deriving DecidableEq

structure Segment where
  segmentId : String
  tenantId : String
  scopeBranchId : String
  definition : SegmentRule
  deriving DecidableEq

structure Collation where
  lower : String → String
  /-- The order of `order by`. -/
  before : String → String → Bool

structure Directory where
  branches : Branches
  placed : branches.Placed
  permissions : Permissions
  contacts : Table Contact Contact.contactId
  addresses : Table Address Address.addressId
  lists : Table ContactList ContactList.listId
  members : List ListMember
  tags : Table Tag Tag.tagId
  assignments : List TagAssignment
  segments : Table Segment Segment.segmentId

namespace Directory

variable (library : StandardLibrary) (collation : Collation)
  (directory : Directory)

def byName (contacts : List Contact) : List Contact :=
  contacts.mergeSort fun first second =>
    collation.before first.displayName second.displayName

def expandBranches (tenantId : String) (branchIds : List String)
    (expand : Bool) : List String :=
  ((branchIds.flatMap fun branchId =>
    match directory.branches.fetchBranch tenantId branchId with
    | none => []
    | some branch => branch.branchId ::
        if expand then (directory.branches.fetchDescendants tenantId
          branch.path).map Branch.branchId
        else []).dedup).mergeSort fun first second => decide (first ≤ second)

/-- `"%%%s%%" % (query or "").strip().lower()`. -/
def namePattern (query : String) : List Char :=
  '%' :: (library.lower (String.ofList
    (strip library.isSpace query.toList))).toList ++ ['%']

def searchContacts (tenantId query : String)
    (branchIds : Option (List String)) (status : Option String)
    (limit : Nat) (expandSubtrees : Bool) :
    Except ContactsError (List Contact) := do
  requireTenant tenantId
  let inScope := branchIds.map fun ids =>
    directory.expandBranches tenantId ids expandSubtrees
  if inScope = some [] then pure []
  else
    let rows := directory.contacts.rows.filter fun contact =>
      contact.tenantId == tenantId && some contact.status.text == status &&
        like (collation.lower contact.displayName).toList
          (namePattern library query) &&
        inScope.all fun ids => ids.contains contact.primaryBranchId
    pure ((byName collation rows).take limit)

def addressesOf (tenantId contactId : String) :
    Except ContactsError (List Address) := do
  requireTenant tenantId
  let rows := directory.addresses.rows.filter fun address =>
    address.tenantId == tenantId && address.contactId == contactId
  pure (rows.mergeSort fun first second =>
    if first.channel = second.channel then
      collation.before first.addressNormalized second.addressNormalized
    else collation.before (channelText first.channel)
      (channelText second.channel))

def tagSlugsForContact (tenantId contactId : String) :
    Except ContactsError (List Slug) := do
  requireTenant tenantId
  let assigned := directory.assignments.filter fun assignment =>
    assignment.tenantId == tenantId && assignment.contactId == contactId
  let rows := directory.tags.rows.filter fun tag =>
    tag.tenantId == tenantId &&
      (assigned.map TagAssignment.tagId).contains tag.tagId
  pure ((rows.map Tag.slug).mergeSort fun first second =>
    collation.before (String.ofList first.text) (String.ofList second.text))

def contactsById (tenantId : String) (contactIds visibleBranchIds :
    List String) : List Contact :=
  if contactIds.isEmpty then []
  else byName collation (directory.contacts.rows.filter fun contact =>
    contact.tenantId == tenantId && contactIds.contains contact.contactId &&
      visibleBranchIds.contains contact.primaryBranchId)

def listMembers (tenantId listId : String) (visibleBranchIds : List String) :
    Except ContactsError (List Contact) := do
  requireTenant tenantId
  if (directory.lists.rows.find? fun row =>
      row.tenantId == tenantId && row.listId == listId) = none then
    .error .groupingNotFound
  else
    let members := directory.members.filter fun row =>
      row.tenantId == tenantId && row.listId == listId
    pure (directory.contactsById collation tenantId
      (members.map ListMember.contactId) visibleBranchIds)

def segmentScope (tenantId : String) (segment : Segment) :
    Except ContactsError (List String) :=
  let root := (segment.definition.branchId.filter (· ≠ "")).getD
    segment.scopeBranchId
  match directory.branches.fetchBranch tenantId root,
      directory.branches.fetchBranch tenantId segment.scopeBranchId with
  | some branch, some scopeBranch =>
      if branch.path ≠ scopeBranch.path ∧
          within branch.path scopeBranch.path = false then
        .error (.segmentRuleInvalid
          "a segment rule cannot reach outside its scope branch")
      else .ok (branch.branchId ::
        if segment.definition.includeSubtree then
          (directory.branches.fetchDescendants tenantId branch.path).map
            Branch.branchId
        else [])
  | _, _ => .ok []

def matchesRule (tenantId : String) (contact : Contact)
    (definition : SegmentRule) : Except ContactsError Bool := do
  let addresses ← directory.addressesOf collation tenantId contact.contactId
  let held ← directory.tagSlugsForContact collation tenantId contact.contactId
  pure ((definition.locale.all fun locale => contact.locale == some locale) &&
    (definition.hasChannel.all fun channel => addresses.any fun address =>
      channelText address.channel == channel) &&
    definition.tagSlugs.all fun slug => (held.map Slug.text).contains
      slug.toList)

def segmentLimit : Nat := 200

def resolveSegment (tenantId segmentId : String)
    (visibleBranchIds : List String) : Except ContactsError (List Contact) :=
  do
  requireTenant tenantId
  let segment ← (directory.segments.rows.find? fun row =>
    row.tenantId == tenantId && row.segmentId == segmentId).elim
      (.error .groupingNotFound) .ok
  let scope ← directory.segmentScope tenantId segment
  let inScope := scope.filter fun branchId => visibleBranchIds.contains branchId
  if inScope = [] then pure []
  else do
    let rows ← directory.searchContacts library collation tenantId
      (segment.definition.nameContains.getD "") (some inScope)
      segment.definition.status segmentLimit false
    rows.filterM fun row =>
      directory.matchesRule collation tenantId row segment.definition

end Directory

end AcpTask.Contacts
