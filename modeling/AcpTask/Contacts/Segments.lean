import AcpTask.Contacts.Sendable

namespace AcpTask.Contacts

open Data Library

namespace Directory

variable {library : StandardLibrary} {collation : Collation}
  {directory : Directory} {tenantId : String}

/-! A segment names the contacts that its rule means, as far as the search
behind it reads the name as it is and is not cut off. -/

def sought (library : StandardLibrary) (definition : SegmentRule) : Text :=
  (library.lower (String.ofList (strip library.isSpace
    (definition.nameContains.getD "").toList))).toList

structure Visible (directory : Directory) (tenantId : String)
    (segment : Segment) (visible : List String) (contact : Contact) :
    Prop where
  found : directory.Found tenantId visible contact
  scope : directory.InScope tenantId segment contact.primaryBranchId
  status : some contact.status.text = segment.definition.status

structure Selected (library : StandardLibrary) (collation : Collation)
    (directory : Directory) (tenantId : String) (segment : Segment)
    (visible : List String) (contact : Contact) : Prop where
  reachable : directory.Visible tenantId segment visible contact
  terms : directory.Satisfies tenantId segment.definition contact
  name : sought library segment.definition <:+:
    (collation.lower contact.displayName).toList

section Exact

variable (library : StandardLibrary) (collation : Collation)
  (directory : Directory) (tenantId : String)

open Classical in
/-- The visible contacts whose names hold the text, by name. -/
noncomputable def matching (segment : Segment) (visible : List String) :
    List Contact :=
  byName collation (directory.contacts.rows.filter fun contact =>
    decide (directory.Visible tenantId segment visible contact ∧
      sought library segment.definition <:+:
        (collation.lower contact.displayName).toList))

def Exact (segmentId : String) (segment : Segment) (visible : List String) :
    Prop :=
  ∃ rows, directory.resolveSegment library collation tenantId segmentId
      visible = .ok rows ∧ rows.Nodup ∧
    ∀ contact, contact ∈ rows ↔
      Selected library collation directory tenantId segment visible contact

variable {library collation directory tenantId} {segment : Segment}
  {scope visible : List String}

theorem mem_matching {contact : Contact} :
    contact ∈ matching library collation directory tenantId segment visible ↔
      directory.Visible tenantId segment visible contact ∧
        sought library segment.definition <:+:
          (collation.lower contact.displayName).toList := by
  simp only [matching, byName, List.mem_mergeSort, List.mem_filter,
    decide_eq_true_eq]
  exact and_iff_right_of_imp fun both => both.1.found.1

end Exact

end Directory

end AcpTask.Contacts
