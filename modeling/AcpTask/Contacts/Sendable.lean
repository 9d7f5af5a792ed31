import Mathlib.Data.List.Dedup
import AcpTask.Contacts.Authorized
import AcpTask.Contacts.Directory

namespace AcpTask.Contacts

open Consent (Channel Purpose)
open Data Library

structure AudienceEntry (Destination : Type) where
  contactId : String
  branchPath : Option Text
  excludedReason : Option String
  destination : Option Destination
  /-- Absent where it is withheld. -/
  displayName : Option String
  deriving DecidableEq

structure AudiencePreview (Destination : Type) where
  total : Nat
  eligible : Nat
  excluded : Nat
  exclusionReasons : List (String × Nat)
  entries : List (AudienceEntry Destination)
  channel : Channel
  purpose : Purpose
  redacted : Bool
  deriving DecidableEq

/-- What the preview is given: `mask_destination` for the tenant, the address
and the path of its branch, and the reason that the consent ledger has against
an address, if there is a ledger. -/
structure Access (Destination : Type) where
  mask : String → Address → Option Text → Destination
  consent : Option (String → String → Channel → Purpose → Option String)

namespace Directory

variable {Destination : Type} (library : StandardLibrary)
  (collation : Collation) (access : Access Destination)
  (directory : Directory)

def audienceMembers (tenantId : String) (targetable : List String)
    (branchId listId segmentId : Option String) (limit : Nat) :
    Except ContactsError (List Contact) :=
  if ([branchId, listId, segmentId].filter Option.isSome).length ≠ 1 then
    .error (.valueError
      "an audience is exactly one of a branch, a list, or a segment")
  else match listId, segmentId, branchId with
  | some listId, _, _ =>
      directory.listMembers collation tenantId listId targetable
  | _, some segmentId, _ =>
      directory.resolveSegment library collation tenantId segmentId targetable
  | _, _, branchId =>
      match directory.branches.subtree tenantId (branchId.getD "") with
      | .error _ => .ok []
      | .ok subtree =>
          let inScope := (subtree.map Branch.branchId).filter fun id =>
            targetable.contains id
          if inScope = [] then .ok []
          else directory.searchContacts library collation tenantId ""
            (some inScope) (some "active") limit false

def destination (tenantId : String) (contact : Contact) (channel : Channel) :
    Except ContactsError (Option Address) := do
  let addresses ← directory.addressesOf collation tenantId contact.contactId
  let reached := addresses.filter fun address => address.channel == channel
  pure ((reached.find? Address.isPrimary).or reached.head?)

def exclusionReason (tenantId : String) (address : Option Address)
    (channel : Channel) (purpose : Purpose) : Option String :=
  match address with
  | none => some "no_address"
  | some address => access.consent.bind fun reason =>
      reason tenantId address.addressId channel purpose

def audienceEntry (tenantId : String) (viewable : List String)
    (channel : Channel) (purpose : Purpose) (contact : Contact) :
    Except ContactsError (AudienceEntry Destination) := do
  let branchPath := (directory.branches.fetchBranch tenantId
    contact.primaryBranchId).map Branch.path
  let address ← directory.destination collation tenantId contact channel
  pure {
    contactId := contact.contactId
    branchPath
    excludedReason := exclusionReason access tenantId address channel purpose
    destination := address.map fun address =>
      access.mask tenantId address branchPath
    displayName := if viewable.contains contact.primaryBranchId then
      some contact.displayName else none }

def countReasons (entries : List (AudienceEntry Destination)) :
    List (String × Nat) :=
  (entries.filterMap AudienceEntry.excludedReason).foldl (fun reasons reason =>
    Items.assign reason ((Items.get? reasons reason).getD 0 + 1) reasons) []

def audiencePreview (tenantId principalId : String) (channel : Channel)
    (purpose : Purpose) (branchId listId segmentId : Option String)
    (limit : Nat) : Except ContactsError (AudiencePreview Destination) := do
  let targetable ← directory.permissions.authorizedBranches directory.branches
    tenantId principalId .campaignUse
  if branchId.any (fun id => !targetable.contains id) ∨ targetable = [] then
    .error (.permissionDenied "campaign_use")
  else do
    let viewable ← directory.permissions.authorizedBranches directory.branches
      tenantId principalId .view
    let members ← directory.audienceMembers library collation tenantId
      targetable branchId listId segmentId limit
    let entries ← members.mapM (directory.audienceEntry collation access
      tenantId viewable channel purpose)
    let eligible := entries.countP fun entry => entry.excludedReason.isNone
    pure {
      total := entries.length
      eligible
      excluded := entries.length - eligible
      exclusionReasons := countReasons entries
      entries
      channel
      purpose
      redacted := entries.any fun entry => entry.displayName.isNone }

end Directory

namespace Directory

variable {Destination : Type} {library : StandardLibrary}
  {collation : Collation} {access : Access Destination}
  {directory : Directory} {tenantId principalId : String}

theorem mem_expandBranches {ids : List String} {id : String} :
    id ∈ directory.expandBranches tenantId ids false ↔
      id ∈ ids ∧ ∃ branch,
        directory.branches.fetchBranch tenantId id = some branch := by
  rw [expandBranches, List.mem_mergeSort, List.mem_dedup, List.mem_flatMap]
  constructor
  · rintro ⟨asked, inside, found⟩
    split at found
    · cases found
    · rename_i branch fetched
      rw [if_neg Bool.false_ne_true, List.mem_singleton] at found
      rw [found, (Branches.fetchBranch_eq_some.mp fetched).2.2]
      exact ⟨inside, branch, fetched⟩
  · rintro ⟨inside, branch, fetched⟩
    refine ⟨id, inside, ?_⟩
    rw [fetched]
    exact List.mem_cons.mpr
      (.inl (Branches.fetchBranch_eq_some.mp fetched).2.2.symm)

structure Found (directory : Directory) (tenantId : String)
    (ids : List String) (contact : Contact) : Prop where
  stored : contact ∈ directory.contacts
  tenant : contact.tenantId = tenantId
  branch : contact.primaryBranchId ∈ ids

variable {rows : List Contact} {contact : Contact}

theorem found_searchContacts {query : String} {ids : List String}
    {status : Option String} {limit : Nat}
    (searched : directory.searchContacts library collation tenantId query
      (some ids) status limit false = .ok rows) (member : contact ∈ rows) :
    directory.Found tenantId ids contact ∧
      some contact.status.text = status := by
  obtain ⟨_, _, rest⟩ := bind_eq_ok.mp searched
  dsimp only [Option.map_some] at rest
  split at rest
  · cases rest
    cases member
  · cases rest
    have sorted := List.mem_of_mem_take member
    rw [byName, List.mem_mergeSort, List.mem_filter] at sorted
    obtain ⟨stored, fits⟩ := sorted
    simp only [Bool.and_eq_true, beq_iff_eq, Option.all_some,
      List.contains_iff_mem] at fits
    obtain ⟨⟨⟨tenant, status⟩, _⟩, branch⟩ := fits
    exact ⟨⟨stored, tenant, (mem_expandBranches.mp branch).1⟩, status⟩

def OnList (directory : Directory) (tenantId listId : String)
    (contact : Contact) : Prop :=
  (⟨tenantId, listId, contact.contactId⟩ : ListMember) ∈ directory.members

theorem mem_listMembers {listId : String} {visible : List String}
    (listed : directory.listMembers collation tenantId listId visible =
      .ok rows) (contact : Contact) :
    contact ∈ rows ↔ directory.Found tenantId visible contact ∧
      directory.OnList tenantId listId contact := by
  obtain ⟨_, _, rest⟩ := bind_eq_ok.mp listed
  split at rest
  · cases rest
  · cases rest
    have onList : contact.contactId ∈ (directory.members.filter fun row =>
        row.tenantId == tenantId && row.listId == listId).map
          ListMember.contactId ↔ directory.OnList tenantId listId contact := by
      rw [List.mem_map]
      constructor
      · rintro ⟨row, inside, same⟩
        rw [List.mem_filter, Bool.and_eq_true, beq_iff_eq, beq_iff_eq] at inside
        obtain ⟨member, rfl, rfl⟩ := inside
        rw [OnList, ← same]
        exact member
      · intro member
        exact ⟨_, List.mem_filter.mpr ⟨member, by simp⟩, rfl⟩
    unfold contactsById
    split
    · rename_i nobody
      rw [List.isEmpty_iff.mp nobody] at onList
      refine iff_of_false List.not_mem_nil fun both => ?_
      exact absurd (onList.mpr both.2) List.not_mem_nil
    · rw [byName, List.mem_mergeSort, List.mem_filter]
      simp only [Bool.and_eq_true, beq_iff_eq, List.contains_iff_mem, onList]
      constructor
      · rintro ⟨stored, ⟨tenant, on⟩, branch⟩
        exact ⟨⟨stored, tenant, branch⟩, on⟩
      · rintro ⟨⟨stored, tenant, branch⟩, on⟩
        exact ⟨stored, ⟨tenant, on⟩, branch⟩

def InScope (directory : Directory) (tenantId : String) (segment : Segment)
    (branchId : String) : Prop :=
  ∃ root ∈ directory.branches.rows, root.tenantId = tenantId ∧
    root.branchId = (segment.definition.branchId.filter (· ≠ "")).getD
      segment.scopeBranchId ∧
    (∃ own ∈ directory.branches.rows, own.tenantId = tenantId ∧
      own.branchId = segment.scopeBranchId) ∧
    ∃ branch ∈ directory.branches.rows, branch.branchId = branchId ∧
      (branch = root ∨ segment.definition.includeSubtree = true ∧
        directory.branches.Below root branch)

structure Satisfies (directory : Directory) (tenantId : String)
    (definition : SegmentRule) (contact : Contact) : Prop where
  locale : ∀ locale ∈ definition.locale, contact.locale = some locale
  channel : ∀ channel ∈ definition.hasChannel, ∃ address ∈ directory.addresses,
    address.tenantId = tenantId ∧ address.contactId = contact.contactId ∧
      channelText address.channel = channel
  tags : ∀ slug ∈ definition.tagSlugs, ∃ tag ∈ directory.tags,
    tag.tenantId = tenantId ∧ tag.slug.text = slug.toList ∧
      ⟨tenantId, tag.tagId, contact.contactId⟩ ∈ directory.assignments

theorem addressesOf_run (named : requireTenant tenantId = .ok ())
    (contactId : String) : ∃ addresses,
      directory.addressesOf collation tenantId contactId = .ok addresses ∧
        ∀ address, address ∈ addresses ↔ address ∈ directory.addresses ∧
          address.tenantId = tenantId ∧ address.contactId = contactId := by
  refine ⟨_, by rw [addressesOf, named]; rfl, fun address => ?_⟩
  rw [List.mem_mergeSort, List.mem_filter]
  simp [Table.mem_def]

theorem tagSlugsForContact_run (named : requireTenant tenantId = .ok ())
    (contactId : String) : ∃ slugs,
      directory.tagSlugsForContact collation tenantId contactId = .ok slugs ∧
        ∀ slug, slug ∈ slugs ↔ ∃ tag ∈ directory.tags,
          tag.tenantId = tenantId ∧ tag.slug = slug ∧
            ⟨tenantId, tag.tagId, contactId⟩ ∈ directory.assignments := by
  refine ⟨_, by rw [tagSlugsForContact, named]; rfl, fun slug => ?_⟩
  simp only [List.mem_mergeSort, List.mem_map, List.mem_filter,
    Bool.and_eq_true, beq_iff_eq, List.contains_iff_mem]
  constructor
  · rintro ⟨tag, ⟨stored, tenant, _, ⟨assigned, mine, held⟩, same⟩,
      rfl⟩
    refine ⟨tag, stored, tenant, rfl, ?_⟩
    rw [← mine, ← held, ← same]
    exact assigned
  · rintro ⟨tag, stored, tenant, rfl, assigned⟩
    exact ⟨tag, ⟨stored, tenant, _, ⟨assigned, rfl, rfl⟩, rfl⟩, rfl⟩

theorem matchesRule_run (named : requireTenant tenantId = .ok ())
    (definition : SegmentRule) (contact : Contact) : ∃ fits,
      directory.matchesRule collation tenantId contact definition = .ok fits ∧
        (fits = true ↔ directory.Satisfies tenantId definition contact) := by
  obtain ⟨addresses, addressed, mem_addresses⟩ :=
    @addressesOf_run collation directory tenantId named contact.contactId
  obtain ⟨slugs, tagged, mem_slugs⟩ :=
    @tagSlugsForContact_run collation directory tenantId named contact.contactId
  refine ⟨_, by rw [matchesRule, addressed, tagged]; rfl, ?_⟩
  rw [Bool.and_eq_true, Bool.and_eq_true]
  have locale : (definition.locale.all fun locale =>
      contact.locale == some locale) = true ↔
        ∀ locale ∈ definition.locale, contact.locale = some locale := by
    cases definition.locale <;> simp
  have channel : (definition.hasChannel.all fun channel =>
      addresses.any fun address => channelText address.channel == channel) =
        true ↔ ∀ channel ∈ definition.hasChannel,
          ∃ address ∈ directory.addresses, address.tenantId = tenantId ∧
            address.contactId = contact.contactId ∧
              channelText address.channel = channel := by
    cases definition.hasChannel <;> simp [mem_addresses, and_assoc]
  have tags : (definition.tagSlugs.all fun slug =>
      (slugs.map Slug.text).contains slug.toList) = true ↔
        ∀ slug ∈ definition.tagSlugs, ∃ tag ∈ directory.tags,
          tag.tenantId = tenantId ∧ tag.slug.text = slug.toList ∧
            ⟨tenantId, tag.tagId, contact.contactId⟩ ∈
              directory.assignments := by
    simp only [List.all_eq_true, List.contains_iff_mem, List.mem_map, mem_slugs]
    refine forall₂_congr fun slug _ => ⟨?_, ?_⟩
    · rintro ⟨_, ⟨tag, stored, tenant, rfl, assigned⟩, same⟩
      exact ⟨tag, stored, tenant, same, assigned⟩
    · rintro ⟨tag, stored, tenant, same, assigned⟩
      exact ⟨_, ⟨tag, stored, tenant, rfl, assigned⟩, same⟩
  rw [locale, channel, tags]
  exact ⟨fun both => ⟨both.1.1, both.1.2, both.2⟩,
    fun all => ⟨⟨all.locale, all.channel⟩, all.tags⟩⟩

theorem mem_segmentScope {segment : Segment} {scope : List String}
    (resolved : directory.segmentScope tenantId segment = .ok scope)
    (branchId : String) :
    branchId ∈ scope ↔ directory.InScope tenantId segment branchId := by
  unfold segmentScope at resolved
  dsimp only at resolved
  split at resolved
  next root own found known =>
    obtain ⟨member, tenant, same⟩ := Branches.fetchBranch_eq_some.mp found
    split at resolved
    next => cases resolved
    next =>
      cases resolved
      have below := fun other => @Branches.Placed.mem_fetchDescendants
        directory.branches directory.placed root other member tenantId tenant
      rw [List.mem_cons]
      constructor
      · rintro (rfl | deeper)
        · exact ⟨root, member, tenant, same,
            ⟨own, Branches.fetchBranch_eq_some.mp known⟩, root, member, rfl,
            .inl rfl⟩
        · split at deeper
          next subtree =>
            obtain ⟨branch, descendant, id⟩ := List.mem_map.mp deeper
            have stored := (List.mem_filter.mp descendant).1
            exact ⟨root, member, tenant, same,
              ⟨own, Branches.fetchBranch_eq_some.mp known⟩, branch, stored, id,
              .inr ⟨subtree, (below branch).mp descendant⟩⟩
          next => cases deeper
      · rintro ⟨other, inside, owner, asked, _, branch, stored, rfl, reached⟩
        have equal : other = root := Branches.eq_of_branchId inside member
          (asked.trans same.symm)
        subst equal
        rcases reached with rfl | ⟨subtree, descends⟩
        · exact .inl rfl
        · rw [if_pos subtree]
          exact .inr (List.mem_map_of_mem ((below branch).mpr descends))
  next absent =>
    cases resolved
    refine iff_of_false List.not_mem_nil ?_
    rintro ⟨root, member, tenant, same, ⟨own, inside, owner, owned⟩, _⟩
    exact absent root own
      (Branches.fetchBranch_eq_some.mpr ⟨member, tenant, same⟩)
      (Branches.fetchBranch_eq_some.mpr ⟨inside, owner, owned⟩)

theorem exists_of_mem_segmentScope {segment : Segment} {scope : List String}
    (resolved : directory.segmentScope tenantId segment = .ok scope)
    {branchId : String} (member : branchId ∈ scope) :
    ∃ branch, directory.branches.fetchBranch tenantId branchId =
      some branch := by
  obtain ⟨_, _, tenant, _, _, branch, stored, id, reached⟩ :=
    (mem_segmentScope resolved branchId).mp member
  refine ⟨branch, Branches.fetchBranch_eq_some.mpr ⟨stored, ?_, id⟩⟩
  rcases reached with rfl | ⟨_, descends⟩
  · exact tenant
  · exact (directory.placed.tree.related_of_transGen descends).symm.trans tenant

def searched (library : StandardLibrary) (collation : Collation)
    (directory : Directory) (tenantId query : String) (ids : List String)
    (status : Option String) : List Contact :=
  byName collation (directory.contacts.rows.filter fun contact =>
    contact.tenantId == tenantId && some contact.status.text == status &&
      like (collation.lower contact.displayName).toList
        (namePattern library query) &&
      ids.contains contact.primaryBranchId)

theorem searched_nil {query : String} {status : Option String} :
    searched library collation directory tenantId query [] status = [] := by
  rw [searched, byName, List.filter_eq_nil_iff.mpr (by simp),
    List.mergeSort_nil]

theorem searchContacts_run (named : requireTenant tenantId = .ok ())
    {ids : List String} (known : ∀ id ∈ ids, ∃ branch,
      directory.branches.fetchBranch tenantId id = some branch)
    (query : String) (status : Option String) (limit : Nat) :
    directory.searchContacts library collation tenantId query (some ids)
      status limit false =
        .ok ((searched library collation directory tenantId query ids
          status).take limit) := by
  have same : ∀ id, (directory.expandBranches tenantId ids false).contains
      id = ids.contains id := by
    intro id
    rw [Bool.eq_iff_iff, List.contains_iff_mem, List.contains_iff_mem,
      mem_expandBranches]
    exact ⟨And.left, fun member => ⟨member, known id member⟩⟩
  unfold searchContacts
  rw [named]
  simp only [bind, Except.bind, Option.map_some, Option.some.injEq]
  split
  next empty =>
    have nobody : ids = [] := by
      refine List.eq_nil_iff_forall_not_mem.mpr fun id member => ?_
      have expanded := mem_expandBranches.mpr ⟨member, known id member⟩
      rw [empty] at expanded
      cases expanded
    subst nobody
    rw [searched_nil, List.take_nil]
    rfl
  next => simp only [Option.all_some, same, searched, pure, Except.pure]

theorem resolveSegment_run {segment : Segment} {segmentId : String}
    {scope visible : List String} (named : requireTenant tenantId = .ok ())
    (known : (directory.segments.rows.find? fun row =>
      row.tenantId == tenantId && row.segmentId == segmentId) = some segment)
    (resolved : directory.segmentScope tenantId segment = .ok scope) :
    ∃ keeps : Contact → Bool,
      directory.resolveSegment library collation tenantId segmentId visible =
        .ok (((searched library collation directory tenantId
          (segment.definition.nameContains.getD "")
          (scope.filter visible.contains)
          segment.definition.status).take segmentLimit).filter keeps) ∧
      ∀ contact, keeps contact = true ↔
        directory.Satisfies tenantId segment.definition contact := by
  obtain ⟨keeps, runs⟩ := Classical.axiom_of_choice fun contact =>
    @matchesRule_run collation directory tenantId named segment.definition
      contact
  refine ⟨keeps, ?_, fun contact => (runs contact).2⟩
  have found := @searchContacts_run library collation directory tenantId named
    (scope.filter visible.contains) (fun id member =>
      exists_of_mem_segmentScope resolved (List.mem_filter.mp member).1)
    (segment.definition.nameContains.getD "") segment.definition.status
    segmentLimit
  unfold resolveSegment
  simp only [named, known, resolved, Option.elim_some, bind, Except.bind]
  split
  next empty =>
    rw [empty, searched_nil, List.take_nil]
    rfl
  next =>
    rw [found]
    exact filterM_eq_ok fun contact _ => (runs contact).1

open Classical in
/-- The contacts in the scope of a segment that its search takes where the
principal may target them: as many as the limit allows, by name. -/
noncomputable def taken (library : StandardLibrary) (collation : Collation)
    (directory : Directory) (tenantId principalId : String)
    (segment : Segment) : List Contact :=
  (byName collation (directory.contacts.rows.filter fun contact => decide (
    contact.tenantId = tenantId ∧
    some contact.status.text = segment.definition.status ∧
    like (collation.lower contact.displayName).toList (namePattern library
      (segment.definition.nameContains.getD "")) = true ∧
    directory.InScope tenantId segment contact.primaryBranchId ∧
    directory.permissions.holds directory.branches tenantId principalId
      contact.primaryBranchId .campaignUse = .ok true))).take segmentLimit

/-- The sources name nobody to whom nothing may be sent: on the list, and among
those that the rule of the segment means, there is no such contact where the
principal may target it. -/
structure NamesActive (library : StandardLibrary) (collation : Collation)
    (directory : Directory) (tenantId principalId : String)
    (listId segmentId : Option String) : Prop where
  list : ∀ id ∈ listId, ∀ contact ∈ directory.contacts,
    contact.tenantId = tenantId → directory.OnList tenantId id contact →
    directory.permissions.holds directory.branches tenantId principalId
      contact.primaryBranchId .campaignUse = .ok true →
    contact.status = .active
  segment : ∀ id ∈ segmentId, ∀ segment,
    (directory.segments.rows.find? fun row =>
      row.tenantId == tenantId && row.segmentId == id) = some segment →
    ∀ contact ∈ taken library collation directory tenantId principalId segment,
      directory.Satisfies tenantId segment.definition contact →
      contact.status = .active

theorem resolveSegment_ok {segmentId : String} {visible : List String}
    (resolved : directory.resolveSegment library collation tenantId segmentId
      visible = .ok rows) :
    ∃ segment scope, requireTenant tenantId = .ok () ∧
      (directory.segments.rows.find? fun row =>
        row.tenantId == tenantId && row.segmentId == segmentId) =
          some segment ∧
      directory.segmentScope tenantId segment = .ok scope := by
  obtain ⟨_, named, rest⟩ := bind_eq_ok.mp resolved
  obtain ⟨segment, located, rest⟩ := bind_eq_ok.mp rest
  obtain ⟨scope, inScope, _⟩ := bind_eq_ok.mp rest
  refine ⟨segment, scope, named, ?_, inScope⟩
  cases search : directory.segments.rows.find? fun row =>
      row.tenantId == tenantId && row.segmentId == segmentId with
  | none =>
      rw [search] at located
      cases located
  | some =>
      rw [search] at located
      cases located
      rfl

theorem found_resolveSegment {segmentId : String} {visible : List String}
    (resolved : directory.resolveSegment library collation tenantId segmentId
      visible = .ok rows) (member : contact ∈ rows) :
    directory.Found tenantId visible contact := by
  obtain ⟨segment, scope, named, known, inScope⟩ := resolveSegment_ok resolved
  obtain ⟨keeps, run, _⟩ := @resolveSegment_run library collation directory
    tenantId segment segmentId scope visible named known inScope
  rw [run] at resolved
  cases resolved
  have sorted := List.mem_of_mem_take (List.mem_filter.mp member).1
  rw [searched, byName, List.mem_mergeSort, List.mem_filter] at sorted
  obtain ⟨stored, fits⟩ := sorted
  simp only [Bool.and_eq_true, beq_iff_eq, List.contains_iff_mem,
    List.mem_filter] at fits
  exact ⟨stored, fits.1.1.1, fits.2.2⟩

/-- What the search takes in the branches that the principal may target. -/
theorem searched_eq_taken {segment : Segment} {scope targetable : List String}
    (inScope : directory.segmentScope tenantId segment = .ok scope)
    (listed : directory.permissions.authorizedBranches directory.branches
      tenantId principalId .campaignUse = .ok targetable) :
    (searched library collation directory tenantId
      (segment.definition.nameContains.getD "")
      (scope.filter targetable.contains) segment.definition.status).take
        segmentLimit =
      taken library collation directory tenantId principalId segment := by
  unfold searched taken
  congr 2
  refine List.filter_congr fun contact _ => ?_
  rw [Bool.eq_iff_iff]
  simp only [decide_eq_true_eq, Bool.and_eq_true, beq_iff_eq,
    List.contains_iff_mem, List.mem_filter, mem_segmentScope inScope,
    Permissions.mem_ids_iff directory.placed listed, and_assoc]

theorem text_eq_active {status : ContactStatus} :
    status.text = "active" ↔ status = .active := by
  cases status <;> simp [ContactStatus.text]

variable {branchId listId segmentId : Option String}

theorem found_audienceMembers {targetable : List String} {limit : Nat}
    {members : List Contact}
    (resolved : directory.audienceMembers library collation tenantId
      targetable branchId listId segmentId limit = .ok members)
    (member : contact ∈ members) :
    directory.Found tenantId targetable contact := by
  unfold audienceMembers at resolved
  split at resolved
  · cases resolved
  · split at resolved
    · exact ((mem_listMembers resolved contact).mp member).1
    · exact found_resolveSegment resolved member
    · split at resolved
      · cases resolved
        cases member
      · dsimp only at resolved
        split at resolved
        · cases resolved
          cases member
        · have found := (found_searchContacts resolved member).1
          refine ⟨found.stored, found.tenant, ?_⟩
          exact List.contains_iff_mem.mp (List.mem_filter.mp found.branch).2

theorem audienceMembers_active_iff {targetable : List String}
    (listed : directory.permissions.authorizedBranches directory.branches
      tenantId principalId .campaignUse = .ok targetable) {limit : Nat}
    {members : List Contact}
    (resolved : directory.audienceMembers library collation tenantId
      targetable branchId listId segmentId limit = .ok members) :
    (∀ contact ∈ members, contact.status = .active) ↔
      NamesActive library collation directory tenantId principalId listId
        segmentId := by
  unfold audienceMembers at resolved
  split at resolved
  · cases resolved
  rename_i one
  cases listId with
  | some listId =>
      have alone : segmentId = none := by
        cases segmentId with
        | none => rfl
        | some => cases branchId <;> simp at one
      subst alone
      have member := mem_listMembers resolved
      constructor
      · intro active
        refine ⟨?_, fun id named => (by cases named)⟩
        rintro id same contact stored tenant onList held
        cases same
        have branch := (Permissions.mem_ids_iff directory.placed listed
          contact.primaryBranchId).mpr held
        exact active contact
          ((member contact).mpr ⟨⟨stored, tenant, branch⟩, onList⟩)
      · intro names contact inside
        obtain ⟨found, onList⟩ := (member contact).mp inside
        exact names.list listId rfl contact found.stored found.tenant onList
          ((Permissions.mem_ids_iff directory.placed listed
            contact.primaryBranchId).mp found.branch)
  | none =>
      cases segmentId with
      | some segmentId =>
          obtain ⟨segment, scope, named, known, inScope⟩ :=
            resolveSegment_ok resolved
          obtain ⟨keeps, run, satisfies⟩ := @resolveSegment_run library
            collation directory tenantId segment segmentId scope targetable
            named known inScope
          rw [searched_eq_taken inScope listed] at run
          rw [show directory.resolveSegment library collation tenantId segmentId
            targetable = .ok members from resolved, Except.ok.injEq] at run
          subst run
          constructor
          · intro active
            refine ⟨fun id named => (by cases named), ?_⟩
            rintro id same other again contact takes terms
            cases same
            cases known.symm.trans again
            exact active contact
              (List.mem_filter.mpr ⟨takes, (satisfies contact).mpr terms⟩)
          · intro names contact inside
            obtain ⟨takes, kept⟩ := List.mem_filter.mp inside
            exact names.segment segmentId rfl segment known contact takes
              ((satisfies contact).mp kept)
      | none =>
          refine iff_of_true ?_ ⟨fun id named => (by cases named),
            fun id named => (by cases named)⟩
          intro contact inside
          dsimp only at resolved
          split at resolved
          · cases resolved
            cases inside
          · split at resolved
            · cases resolved
              cases inside
            · have status := (found_searchContacts resolved inside).2
              rw [Option.some.injEq] at status
              exact text_eq_active.mp status

/-- An entry is about a contact that may be sent to, and names it only to who
may see it. -/
structure Sendable (directory : Directory) (tenantId principalId : String)
    (entry : AudienceEntry Destination) (contact : Contact) : Prop where
  stored : contact ∈ directory.contacts
  same : contact.contactId = entry.contactId
  tenant : contact.tenantId = tenantId
  active : contact.status = .active
  targetable : directory.permissions.holds directory.branches tenantId
    principalId contact.primaryBranchId .campaignUse = .ok true
  named : ∀ name ∈ entry.displayName, name = contact.displayName ∧
    directory.permissions.holds directory.branches tenantId principalId
      contact.primaryBranchId .view = .ok true

theorem audienceEntry_ok {viewable : List String} {channel : Channel}
    {purpose : Purpose} {entry : AudienceEntry Destination}
    (made : directory.audienceEntry collation access tenantId viewable channel
      purpose contact = .ok entry) :
    entry.contactId = contact.contactId ∧
      entry.displayName = if viewable.contains contact.primaryBranchId then
        some contact.displayName else none := by
  obtain ⟨_, _, rest⟩ := bind_eq_ok.mp made
  cases rest
  exact ⟨rfl, rfl⟩

theorem audiencePreview_ok {channel : Channel} {purpose : Purpose} {limit : Nat}
    {preview : AudiencePreview Destination}
    (previewed : directory.audiencePreview library collation access tenantId
      principalId channel purpose branchId listId segmentId limit =
        .ok preview) :
    ∃ targetable viewable members,
      directory.permissions.authorizedBranches directory.branches tenantId
        principalId .campaignUse = .ok targetable ∧
      directory.permissions.authorizedBranches directory.branches tenantId
        principalId .view = .ok viewable ∧
      directory.audienceMembers library collation tenantId targetable branchId
        listId segmentId limit = .ok members ∧
      members.mapM (directory.audienceEntry collation access tenantId viewable
        channel purpose) = .ok preview.entries := by
  obtain ⟨targetable, listed, rest⟩ := bind_eq_ok.mp previewed
  split at rest
  · cases rest
  · obtain ⟨viewable, visible, rest⟩ := bind_eq_ok.mp rest
    obtain ⟨members, resolved, rest⟩ := bind_eq_ok.mp rest
    obtain ⟨_, made, rest⟩ := bind_eq_ok.mp rest
    cases rest
    exact ⟨targetable, viewable, members, listed, visible, resolved, made⟩

/-- Every entry of a preview is about a contact that may be sent to exactly
when its source names active contacts. -/
theorem audience_sendable_iff {channel : Channel} {purpose : Purpose}
    {branchId listId segmentId : Option String} {limit : Nat}
    {preview : AudiencePreview Destination}
    (previewed : directory.audiencePreview library collation access tenantId
      principalId channel purpose branchId listId segmentId limit =
        .ok preview) :
    (∀ entry ∈ preview.entries, ∃ contact,
        directory.Sendable tenantId principalId entry contact) ↔
      NamesActive library collation directory tenantId principalId listId
        segmentId := by
  obtain ⟨targetable, viewable, members, listed, visible, resolved, made⟩ :=
    audiencePreview_ok previewed
  obtain ⟨sound, complete⟩ := mapM_spec made
  rw [← audienceMembers_active_iff listed resolved]
  constructor
  · intro sendable contact member
    obtain ⟨entry, inside, makes⟩ := complete contact member
    obtain ⟨other, sends⟩ := sendable entry inside
    have same : other = contact := Table.eq_of_key sends.stored
      (found_audienceMembers resolved member).stored
      (sends.same.trans (audienceEntry_ok makes).1)
    rw [← same]
    exact sends.active
  · intro active entry inside
    obtain ⟨contact, member, makes⟩ := sound entry inside
    obtain ⟨id, name⟩ := audienceEntry_ok makes
    have found := found_audienceMembers resolved member
    refine ⟨contact, found.stored, id.symm, found.tenant,
      active contact member, ?_, ?_⟩
    · exact (Permissions.mem_ids_iff directory.placed listed
        contact.primaryBranchId).mp found.branch
    · intro shown present
      rw [name, Option.mem_def] at present
      split at present
      · rename_i seen
        cases present
        exact ⟨rfl, (Permissions.mem_ids_iff directory.placed visible
          contact.primaryBranchId).mp (List.contains_iff_mem.mp seen)⟩
      · cases present

def acmeCalls : List BranchCall :=
  [.createBranch "org:acme" "acme" .organization none none "branch:1"
    (some "principal:ann")]

def acme : Directory where
  branches := run (branchStep asciiLibrary) Branches.empty acmeCalls
  placed := Branches.placed_run asciiLibrary acmeCalls
  permissions := {
    rows := [⟨"perm:1", "org:acme", "branch:1", "principal:ann", .campaignUse,
      .grant⟩]
    unique := by decide }
  contacts := ⟨[⟨"contact:1", "org:acme", "branch:1", "Ana", none, .active⟩,
    ⟨"contact:2", "org:acme", "branch:1", "Ben", none, .archived⟩], by decide⟩
  addresses := ⟨[], by decide⟩
  lists := ⟨[⟨"list:1", "org:acme"⟩, ⟨"list:2", "org:acme"⟩], by decide⟩
  members := [⟨"org:acme", "list:1", "contact:1"⟩,
    ⟨"org:acme", "list:2", "contact:2"⟩]
  tags := ⟨[], by decide⟩
  assignments := []
  segments := ⟨[], by decide⟩

def plainCollation : Collation where
  lower := id
  before first second := decide (first ≤ second)

def blind : Access Unit := ⟨fun _ _ _ => (), none⟩

def acmePreview (listId : String) :
    Except ContactsError (AudiencePreview Unit) :=
  acme.audiencePreview asciiLibrary plainCollation blind "org:acme"
    "principal:ann" .sms .marketing none (some listId) none 500

def firstPreview : AudiencePreview Unit where
  total := 1
  eligible := 0
  excluded := 1
  exclusionReasons := [("no_address", 1)]
  entries := [⟨"contact:1", some "/acme".toList, some "no_address", none, none⟩]
  channel := .sms
  purpose := .marketing
  redacted := true

theorem audience_sendable_iff_first :
    (∀ entry ∈ firstPreview.entries, ∃ contact,
        acme.Sendable "org:acme" "principal:ann" entry contact) ↔
      NamesActive asciiLibrary plainCollation acme "org:acme" "principal:ann"
        (some "list:1") none := by
  have previewed : acmePreview "list:1" = .ok firstPreview := by
    decide +kernel
  exact audience_sendable_iff previewed

/-- The archived contact is an entry of the audience. -/
theorem archived_contact_targeted :
    ¬ ∀ (preview : AudiencePreview Unit) (listId : String),
      acmePreview listId = .ok preview →
        ∀ entry ∈ preview.entries, ∃ contact,
          acme.Sendable "org:acme" "principal:ann" entry contact := by
  intro sendable
  have second : (acmePreview "list:2").toOption.map (fun preview =>
      preview.entries.map AudienceEntry.contactId) = some ["contact:2"] := by
    decide +kernel
  obtain ⟨preview, previewed, entries⟩ := Option.map_eq_some_iff.mp second
  cases outcome : acmePreview "list:2" with
  | error =>
      rw [outcome] at previewed
      cases previewed
  | ok =>
      rw [outcome] at previewed
      cases previewed
      obtain ⟨entry, member, id⟩ := List.mem_map.mp
        (show "contact:2" ∈ preview.entries.map AudienceEntry.contactId by
          rw [entries]; exact List.mem_cons_self)
      obtain ⟨contact, sends⟩ := sendable preview "list:2" outcome entry member
      have stored : contact ∈ [
          (⟨"contact:1", "org:acme", "branch:1", "Ana", none, .active⟩ :
            Contact),
          ⟨"contact:2", "org:acme", "branch:1", "Ben", none, .archived⟩] :=
        sends.stored
      have same := sends.same.trans id
      have active := sends.active
      simp only [List.mem_cons, List.not_mem_nil, or_false] at stored
      rcases stored with rfl | rfl
      · exact absurd same (by decide)
      · cases active

end Directory

end AcpTask.Contacts
