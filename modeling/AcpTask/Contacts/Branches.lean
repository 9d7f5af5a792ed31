import Mathlib.Data.List.DropRight
import Mathlib.Data.List.Nodup
import AcpTask.Data.Value
import AcpTask.Library.Like
import AcpTask.Library.Run
import AcpTask.Library.Transaction

namespace AcpTask.Contacts

open Data Library

abbrev Text := List Char

/-- `[a-z0-9-]`. -/
def isSlugCharacter (character : Char) : Bool :=
  ('a' ≤ character && character ≤ 'z') ||
    ('0' ≤ character && character ≤ '9') || character == '-'

structure Slug where
  text : Text
  plain : ∀ character ∈ text, isSlugCharacter character = true
  deriving DecidableEq

/-- `re.sub(r"[^a-z0-9]+", "-", text)`; `gap` says that a hyphen was just
written for the characters before. -/
def hyphenate (gap : Bool) : Text → Text
  | [] => []
  | character :: rest =>
      if isSlugCharacter character && character != '-' then
        character :: hyphenate false rest
      else if gap then hyphenate true rest
      else '-' :: hyphenate true rest

theorem hyphenate_plain (gap : Bool) (text : Text) :
    ∀ character ∈ hyphenate gap text, isSlugCharacter character = true := by
  induction text generalizing gap with
  | nil => simp [hyphenate]
  | cons head rest induction =>
      unfold hyphenate
      split
      · rename_i kept
        rw [Bool.and_eq_true] at kept
        exact List.forall_mem_cons.mpr ⟨kept.1, induction false⟩
      · split
        · exact induction true
        · exact List.forall_mem_cons.mpr ⟨rfl, induction true⟩

/-- `text.strip(character)` for every character of a set. -/
def strip (drops : Char → Bool) (text : Text) : Text :=
  (text.dropWhile drops).rdropWhile drops

theorem mem_of_mem_strip {drops : Char → Bool} {text : Text} {character : Char}
    (member : character ∈ strip drops text) : character ∈ text :=
  (List.dropWhile_sublist drops).subset
    ((List.rdropWhile_prefix drops _).subset member)

def slugify (library : StandardLibrary) (value : String) : Slug :=
  let lowered := library.lower
    (String.ofList (strip library.isSpace value.toList))
  let text := strip (· == '-') (hyphenate false lowered.toList)
  if text.isEmpty then
    ⟨"branch".toList, List.all_eq_true.mp (by decide)⟩
  else ⟨text, fun character member =>
    hyphenate_plain false _ character (mem_of_mem_strip member)⟩

inductive BranchKind where
  | organization
  | department
  | folder
  deriving DecidableEq

structure Branch where
  branchId : String
  tenantId : String
  parentBranchId : Option String
  parentKind : Option BranchKind
  kind : BranchKind
  name : String
  slug : Slug
  path : Text
  depth : Int
  ownerPrincipalId : Option String
  deriving DecidableEq

namespace Branch

def isOwnedRoot (row : Branch) : Bool :=
  row.parentBranchId.isNone && row.ownerPrincipalId.isSome

/-- The `check`s of a row.  That of a department holds where there is no parent
kind, which compares to `null`. -/
structure Checked (row : Branch) : Prop where
  depth : 0 ≤ row.depth
  other : row.parentBranchId ≠ some row.branchId
  both : row.parentBranchId.isNone = row.parentKind.isNone
  organization : row.kind = .organization → row.parentBranchId = none
  department : row.kind = .department → row.parentKind = none ∨
    row.parentKind = some .organization
  folder : row.kind = .folder → row.parentKind ≠ none
  root : row.parentBranchId = none ↔ row.depth = 0
  rooted : like row.path ['/', '%'] = true
  named : '/' :: row.slug.text <:+ row.path

instance (row : Branch) : Decidable row.Checked :=
  decidable_of_iff (0 ≤ row.depth ∧ row.parentBranchId ≠ some row.branchId ∧
      row.parentBranchId.isNone = row.parentKind.isNone ∧
      (row.kind = .organization → row.parentBranchId = none) ∧
      (row.kind = .department → row.parentKind = none ∨
        row.parentKind = some .organization) ∧
      (row.kind = .folder → row.parentKind ≠ none) ∧
      (row.parentBranchId = none ↔ row.depth = 0) ∧
      like row.path ['/', '%'] = true ∧ '/' :: row.slug.text <:+ row.path)
    ⟨fun ⟨depth, other, both, organization, department, folder, root, rooted,
        named⟩ => ⟨depth, other, both, organization, department, folder, root,
        rooted, named⟩,
      fun row => ⟨row.depth, row.other, row.both, row.organization,
        row.department, row.folder, row.root, row.rooted, row.named⟩⟩

end Branch

structure Legal (rows : List Branch) : Prop where
  primaryKey : (rows.map Branch.branchId).Nodup
  paths : (rows.map fun row => (row.tenantId, row.path)).Nodup
  siblings : (rows.map fun row =>
    (row.tenantId, row.parentBranchId, row.slug)).Nodup
  owners : ((rows.filter Branch.isOwnedRoot).map fun row =>
    (row.tenantId, row.ownerPrincipalId)).Nodup
  parents : ∀ row ∈ rows, ∀ parentId ∈ row.parentBranchId,
    ∀ kind ∈ row.parentKind, ∃ parent ∈ rows, parent.branchId = parentId ∧
      parent.tenantId = row.tenantId ∧ parent.kind = kind
  checked : ∀ row ∈ rows, row.Checked

instance (rows : List Branch) : Decidable (Legal rows) :=
  decidable_of_iff ((rows.map Branch.branchId).Nodup ∧
      (rows.map fun row => (row.tenantId, row.path)).Nodup ∧
      (rows.map fun row => (row.tenantId, row.parentBranchId, row.slug)).Nodup ∧
      ((rows.filter Branch.isOwnedRoot).map fun row =>
        (row.tenantId, row.ownerPrincipalId)).Nodup ∧
      (∀ row ∈ rows, ∀ parentId ∈ row.parentBranchId,
        ∀ kind ∈ row.parentKind, ∃ parent ∈ rows,
          parent.branchId = parentId ∧ parent.tenantId = row.tenantId ∧
            parent.kind = kind) ∧
      ∀ row ∈ rows, row.Checked)
    ⟨fun ⟨primaryKey, paths, siblings, owners, parents, checked⟩ =>
        ⟨primaryKey, paths, siblings, owners, parents, checked⟩,
      fun legal => ⟨legal.primaryKey, legal.paths, legal.siblings,
        legal.owners, legal.parents, legal.checked⟩⟩

structure Branches where
  rows : List Branch
  legal : Legal rows

inductive ContactsError where
  | tenantScopeRequired
  | branchNotFound
  | cyclicBranchMove
  | invalidBranchPlacement (message : String)
  | groupingNotFound
  | segmentRuleInvalid (message : String)
  /-- `PermissionDenied`; the dimension by its name. -/
  | permissionDenied (dimension : String)
  | valueError (message : String)
  /-- The database refuses the statement. -/
  | refused
  deriving DecidableEq

def maxBranchDepth : Nat := 128

namespace Branches

def empty : Branches where
  rows := []
  legal := by decide

def store (rows : List Branch) : Except ContactsError Branches :=
  if legal : Legal rows then .ok ⟨rows, legal⟩ else .error .refused

def fetchBranch (branches : Branches) (tenantId branchId : String) :
    Option Branch :=
  branches.rows.find? fun row =>
    row.tenantId == tenantId && row.branchId == branchId

def fetchDescendants (branches : Branches) (tenantId : String)
    (path : Text) : List Branch :=
  branches.rows.filter fun row =>
    row.tenantId == tenantId && like row.path (path ++ ['/', '%'])

/-- The loop of `reject_cyclic_branch_move`, with what is left of its steps. -/
def ascends (branches : Branches) (new : Branch) :
    Nat → Option String → Bool
  | _, none => true
  | 0, some _ => false
  | steps + 1, some ancestorId =>
      let next := (branches.fetchBranch new.tenantId ancestorId).bind
        Branch.parentBranchId
      next != some new.branchId && branches.ascends new steps next

def rejectCyclicBranchMove (branches : Branches) (new : Branch) :
    Except ContactsError Unit :=
  if new.parentBranchId != some new.branchId &&
      branches.ascends new maxBranchDepth new.parentBranchId then .ok ()
  else .error .refused

def insert (branches : Branches) (row : Branch) :
    Except ContactsError Branches := do
  branches.rejectCyclicBranchMove row
  store (branches.rows ++ [row])

/-- An `UPDATE` of one branch that does not name its parent. -/
def update (branches : Branches) (tenantId branchId : String)
    (assign : Branch → Branch) : Except ContactsError Branches :=
  store (branches.rows.map fun row =>
    if row.tenantId = tenantId ∧ row.branchId = branchId then assign row
    else row)

/-- An `UPDATE` of one branch that names its parent. -/
def reparent (branches : Branches) (old new : Branch) :
    Except ContactsError Branches := do
  branches.rejectCyclicBranchMove new
  branches.update old.tenantId old.branchId fun _ => new

end Branches

def requireTenant (tenantId : String) : Except ContactsError Unit :=
  if tenantId = "" then .error .tenantScopeRequired else .ok ()

def checkPlacement (kind : BranchKind) (parent : Option Branch) :
    Except ContactsError Unit :=
  if kind = .organization ∧ parent ≠ none then
    .error (.invalidBranchPlacement "an organization is always a root")
  else if kind = .department ∧
      parent.map Branch.kind ≠ some .organization then
    .error (.invalidBranchPlacement
      "a department belongs directly to an organization")
  else if kind = .folder ∧ parent = none then
    .error (.invalidBranchPlacement "a folder must sit inside a branch")
  else .ok ()

def checkDepth (depth : Int) : Except ContactsError Unit :=
  if maxBranchDepth ≤ depth then
    .error (.invalidBranchPlacement
      "branch nesting exceeds the supported depth")
  else .ok ()

def childPath (parent : Option Branch) (slug : Slug) : Text :=
  (parent.map Branch.path).getD [] ++ '/' :: slug.text

def childDepth (parent : Option Branch) : Int :=
  (parent.map fun branch => branch.depth + 1).getD 0

def within (candidatePath ancestorPath : Text) : Bool :=
  (ancestorPath ++ ['/']).isPrefixOf candidatePath

def deepest (rows : List Branch) (baseDepth : Int) : Int :=
  ((rows.map fun row => row.depth - baseDepth).max?).getD 0

namespace Branches

def fetchParent (branches : Branches) (tenantId : String) :
    Option String → Except ContactsError (Option Branch)
  | none => .ok none
  | some parentBranchId =>
      match branches.fetchBranch tenantId parentBranchId with
      | some parent => .ok (some parent)
      | none => .error .branchNotFound

/-- `branchId` is the one that the caller names, or was drawn. -/
def createBranch (library : StandardLibrary) (branches : Branches)
    (tenantId name : String) (kind : BranchKind)
    (parentBranchId slug : Option String) (branchId : String)
    (ownerPrincipalId : Option String) :
    Except ContactsError (Branch × Branches) := do
  requireTenant tenantId
  let parent ← branches.fetchParent tenantId parentBranchId
  checkPlacement kind parent
  checkDepth (childDepth parent)
  let segment := slugify library ((slug.filter (· ≠ "")).getD name)
  let row : Branch := {
    branchId
    tenantId
    parentBranchId := parent.map Branch.branchId
    parentKind := parent.map Branch.kind
    kind
    name
    slug := segment
    path := childPath parent segment
    depth := childDepth parent
    ownerPrincipalId := parent.elim ownerPrincipalId Branch.ownerPrincipalId }
  let later ← branches.insert row
  pure (row, later)

def checkAcyclic (branch : Branch) (parent : Option Branch) :
    Except ContactsError Unit :=
  if parent.any fun parent => parent.branchId == branch.branchId ||
      within parent.path branch.path then .error .cyclicBranchMove
  else .ok ()

def carried (branch moved row : Branch) : Branch :=
  { row with
    path := moved.path ++ row.path.drop branch.path.length
    depth := row.depth - branch.depth + moved.depth }

def moveBranch (branches : Branches) (tenantId branchId : String)
    (newParentBranchId : Option String) :
    Except ContactsError (Branch × Branches) := do
  requireTenant tenantId
  let branch ← (branches.fetchBranch tenantId branchId).elim
    (.error .branchNotFound) .ok
  let parent ← branches.fetchParent tenantId newParentBranchId
  checkAcyclic branch parent
  checkPlacement branch.kind parent
  let descendants := branches.fetchDescendants tenantId branch.path
  checkDepth (childDepth parent + deepest descendants branch.depth)
  let moved := { branch with
    parentBranchId := parent.map Branch.branchId
    parentKind := parent.map Branch.kind
    path := childPath parent branch.slug
    depth := childDepth parent }
  let later ← branches.reparent branch moved
  let final ← descendants.foldlM (fun branches row =>
    branches.update tenantId row.branchId fun _ => carried branch moved row)
    later
  pure (moved, final)

end Branches

inductive BranchCall where
  | createBranch (tenantId name : String) (kind : BranchKind)
      (parentBranchId slug : Option String) (branchId : String)
      (ownerPrincipalId : Option String)
  | moveBranch (tenantId branchId : String)
      (newParentBranchId : Option String)

def Branches.call (library : StandardLibrary) (branches : Branches) :
    BranchCall → Except ContactsError (Branch × Branches)
  | .createBranch tenantId name kind parentBranchId slug branchId
      ownerPrincipalId =>
      branches.createBranch library tenantId name kind parentBranchId slug
        branchId ownerPrincipalId
  | .moveBranch tenantId branchId newParentBranchId =>
      branches.moveBranch tenantId branchId newParentBranchId

def branchStep (library : StandardLibrary) (branches : Branches)
    (call : BranchCall) : Branches :=
  (transaction branches fun branches => branches.call library call).2

end AcpTask.Contacts
