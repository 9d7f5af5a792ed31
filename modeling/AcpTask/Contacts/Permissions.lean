import AcpTask.Contacts.Branches
import AcpTask.Library.Items

namespace AcpTask.Contacts

open Library

inductive Dimension where
  | view
  | edit
  | administer
  | campaignUse
  deriving DecidableEq

inductive PermissionEffect where
  | grant
  | restrict
  deriving DecidableEq

structure Permission where
  permissionId : String
  tenantId : String
  branchId : String
  principalId : String
  dimension : Dimension
  effect : PermissionEffect
  deriving DecidableEq

/-- `contacts.branch_permissions`, of which one row decides at most. -/
structure Permissions where
  rows : List Permission
  unique : (rows.map fun row =>
    (row.tenantId, row.branchId, row.principalId, row.dimension)).Nodup

namespace Branches

def ancestorsFrom (branches : Branches) (tenantId : String) :
    Nat → List String → Option String → List Branch
  | _, _, none => []
  | 0, _, some _ => []
  | steps + 1, seen, some parentId =>
      if parentId ∈ seen then []
      else match branches.fetchBranch tenantId parentId with
      | none => []
      | some parent => parent ::
          branches.ancestorsFrom tenantId steps (parentId :: seen)
            parent.parentBranchId

def ancestors (branches : Branches) (tenantId branchId : String) :
    Except ContactsError (List Branch) := do
  requireTenant tenantId
  let branch ← (branches.fetchBranch tenantId branchId).elim
    (.error .branchNotFound) .ok
  pure (branches.ancestorsFrom tenantId branches.rows.length []
    branch.parentBranchId).reverse

def subtree (branches : Branches) (tenantId branchId : String) :
    Except ContactsError (List Branch) := do
  requireTenant tenantId
  let branch ← (branches.fetchBranch tenantId branchId).elim
    (.error .branchNotFound) .ok
  pure (branch :: branches.fetchDescendants tenantId branch.path)

def ancestry (branches : Branches) (tenantId branchId : String) :
    Except ContactsError (List Branch) := do
  requireTenant tenantId
  match branches.fetchBranch tenantId branchId with
  | none => pure []
  | some branch =>
      let chain ← branches.ancestors tenantId branchId
      pure (chain ++ [branch])

end Branches

/-- `by_branch`: of two decisions the one that is read later stays. -/
def decisionAt (rows : List Permission) (branchId : String)
    (dimension : Dimension) : Option PermissionEffect :=
  ((rows.filter fun row =>
    row.branchId == branchId && row.dimension == dimension).getLast?).map
      Permission.effect

/-- `_nearest_decision`, with the length that it has found. -/
def nearer (path : Text) (best : Option PermissionEffect × Int)
    (item : Text × PermissionEffect) : Option PermissionEffect × Int :=
  if path == item.1 || within path item.1 then
    if best.2 < item.1.length ||
        ((item.1.length : Int) == best.2 && item.2 == .restrict) then
      (some item.2, item.1.length)
    else best
  else best

def nearestDecision (path : Text)
    (decisions : List (Text × PermissionEffect)) : Option PermissionEffect :=
  (decisions.foldl (nearer path) (none, -1)).1

structure Gathered where
  decisions : List (Text × PermissionEffect) := []
  candidates : List (String × Text) := []

namespace Permissions

def effective (permissions : Permissions) (branches : Branches)
    (tenantId principalId branchId : String) :
    Except ContactsError (Dimension → Bool) := do
  requireTenant tenantId
  if principalId = "" then pure fun _ => false
  else do
    let chain ← branches.ancestry tenantId branchId
    let rows := permissions.rows.filter fun row =>
      row.tenantId == tenantId && row.principalId == principalId &&
        (chain.map Branch.branchId).contains row.branchId
    pure fun dimension => chain.reverse.findSome? (fun branch =>
      decisionAt rows branch.branchId dimension) == some .grant

def holds (permissions : Permissions) (branches : Branches)
    (tenantId principalId branchId : String) (dimension : Dimension) :
    Except ContactsError Bool := do
  let effective ← permissions.effective branches tenantId principalId branchId
  pure (effective dimension)

def gather (branches : Branches) (tenantId : String) (gathered : Gathered)
    (row : Permission) : Gathered :=
  match branches.subtree tenantId row.branchId with
  | .ok (root :: below) => {
      decisions := Items.assign root.path row.effect gathered.decisions
      candidates := (root :: below).foldl (fun candidates branch =>
        Items.assign branch.branchId branch.path candidates)
          gathered.candidates }
  | _ => gathered

def authorizedBranches (permissions : Permissions) (branches : Branches)
    (tenantId principalId : String) (dimension : Dimension) :
    Except ContactsError (List String) := do
  requireTenant tenantId
  if principalId = "" then pure []
  else
    let rows := permissions.rows.filter fun row =>
      row.tenantId == tenantId && row.principalId == principalId &&
        row.dimension == dimension
    let gathered := rows.foldl (gather branches tenantId) {}
    let allowed := gathered.candidates.filter fun candidate =>
      nearestDecision candidate.2 gathered.decisions == some .grant
    pure ((allowed.map Prod.fst).mergeSort fun first second =>
      decide (first ≤ second))

end Permissions

end AcpTask.Contacts
