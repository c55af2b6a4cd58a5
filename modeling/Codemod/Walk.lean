import Codemod.FileError
import Codemod.RuleSet

/-! Collecting the files below some roots.
A root may be a file, a directory or a link to a directory; below it links are neither
followed nor listed, and directories that cannot be opened are noted. Files come in the order
of their paths, each once. -/

namespace Codemod

/-- Files to process, and what could not be read on the way. -/
structure Candidates where
  files : List Path
  unreadable : List FileError

namespace Candidates

/-- Adds a path in order, unless it is there in some spelling. -/
def insertPath (p : Path) : List Path → List Path
  | [] => [p]
  | q :: rest =>
    if p.lt q then p :: q :: rest else if p.same q then q :: rest else q :: insertPath p rest

def addFile (c : Candidates) (p : Path) : Candidates :=
  { c with files := insertPath p c.files }

def addUnreadable (c : Candidates) (e : FileError) : Candidates :=
  { c with unreadable := c.unreadable ++ [e] }

end Candidates

/-- What a walk looks for: extensions in normal form, and directories it stays out of. -/
structure WalkFilter where
  extensions : List String
  excludeDirs : List String

namespace WalkFilter

def ofLists (extensions excludeDirs : List String) : WalkFilter where
  extensions := (Extension.scope extensions).filter (!·.isEmpty)
  excludeDirs := excludeDirs

def accepts (f : WalkFilter) (p : Path) : Bool :=
  Extension.accepts f.extensions p

end WalkFilter

namespace FileTree

/-- Collects the files below the directory that a path leads to. A directory that cannot be opened
is noted. Locations get longer and there are finitely many, so `fuel` beyond the number of
entries is never used up. -/
def walkDir (t : FileTree) (f : WalkFilter) : (fuel : Nat) → Path → Candidates → Candidates
  | 0, _, found => found
  | fuel + 1, path, found =>
    match t.openDir path with
    | .error e => found.addUnreadable (.read path (.during path.spelling e))
    | .ok loc =>
      (t.children loc).foldl (fun found child =>
        let path := path.join child.1
        match child.2 with
        | .file _ _ => if f.accepts path then found.addFile path else found
        | .dir => if f.excludeDirs.contains child.1 then found else walkDir t f fuel path found
        | .link _ => found) found

/-- Collects the files of one root, which exists. -/
def walkRoot (t : FileTree) (f : WalkFilter) (root : Path) (found : Candidates) : Candidates :=
  match t.resolve .keep root, t.resolve .follow root with
  | .ok own, .ok loc =>
    match t.get? loc with
    | some .dir => t.walkDir f (t.entries.length + 1) root found
    | some (.file _ _) =>
      if own = loc ∧ f.accepts root then found.addFile root else found
    | _ => found
  | _, _ => found

/-- Collects the files of all roots, or names the first root that does not exist. -/
def collect (t : FileTree) (f : WalkFilter) : List Path → Candidates → Except Path Candidates
  | [], found => .ok found
  | root :: rest, found =>
    if t.exists? root then collect t f rest (t.walkRoot f root found) else .error root

/-- Collects the files below roots. -/
def candidates (t : FileTree) (roots : List Path) (extensions excludeDirs : List String) :
    Except Path Candidates :=
  t.collect (.ofLists extensions excludeDirs) roots ⟨[], []⟩

end FileTree

end Codemod
