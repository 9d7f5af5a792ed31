import Mathlib.Data.List.Infix
import Mathlib.Data.List.TakeWhile
import AcpTask.Data.Value
import AcpTask.Library.Transaction

namespace AcpTask.Verification

open Data Library

abbrev Text := List Char

structure Scan where
  depth : Nat := 0
  inString : Bool := false
  escaped : Bool := false
  inComment : Bool := false

def scanStep (scan : Scan) (character : Char) : Except String Scan :=
  if scan.inComment then
    .ok { scan with inComment := character != '\n' }
  else if scan.inString then
    if scan.escaped then .ok { scan with escaped := false }
    else if character = '\\' then .ok { scan with escaped := true }
    else if character = '\x22' then .ok { scan with inString := false }
    else if character = '\n' then .error "unterminated string literal"
    else .ok scan
  else if character = '\x22' then .ok { scan with inString := true }
  else if character = '#' then .ok { scan with inComment := true }
  else if character = '\x7b' then .ok { scan with depth := scan.depth + 1 }
  else if character = '\x7d' then
    if scan.depth = 0 then .error "unbalanced braces: unexpected '\x7d'"
    else .ok { scan with depth := scan.depth - 1 }
  else .ok scan

section Resource

variable (isSpace : Char → Bool)

/-- `\s+`. -/
def spaces? : Text → Option Text
  | [] => none
  | character :: rest =>
      if isSpace character then some (rest.dropWhile isSpace) else none

/-- `"[^"\n]+"`. -/
def quoted? : Text → Option Text
  | '\x22' :: rest =>
      let plain := fun character => character != '\x22' && character != '\n'
      match rest.takeWhile plain, rest.dropWhile plain with
      | _ :: _, '\x22' :: after => some after
      | _, _ => none
  | _ => none

/-- `\s*resource\s+"[^"\n]+"\s+"[^"\n]+"\s*\x7b`, where the text begins. -/
def opensResource (text : Text) : Bool :=
  let block := do
    let named ← (text.dropWhile isSpace).dropPrefix? "resource".toList
    let typed ← quoted? (← spaces? isSpace named)
    quoted? (← spaces? isSpace typed)
  block.any fun rest => (rest.dropWhile isSpace).head? == some '\x7b'

/-- `_RESOURCE_BLOCK_RE.search(text)`. -/
def hasResource (text : Text) : Bool :=
  opensResource isSpace text || text.tails.any fun tail =>
    match tail with
    | '\n' :: rest => opensResource isSpace rest
    | _ => false

end Resource

def validateTerraformSyntax (library : StandardLibrary) (text : Value) :
    Except String Unit := do
  let .str text := text | .error "terraform_hcl must be a string"
  if text.toList.all library.isSpace then .error "terraform_hcl is empty"
  else
    let scan ← text.toList.foldlM scanStep {}
    if scan.inString then .error "unterminated string literal"
    else if scan.depth ≠ 0 then
      .error ("unbalanced braces: " ++ toString scan.depth ++
        " unclosed '\x7b'")
    else if hasResource library.isSpace text.toList then pure ()
    else .error "no resource block found"

end AcpTask.Verification
