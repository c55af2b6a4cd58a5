import Codemod.Program

/-! The command line program. The tree below the working directory is loaded, the command
is carried out on it, and the files whose content changed are written back. -/

namespace Codemod.CommandLine

/-- What was loaded of a tree, and what the system kept back. -/
structure Loaded where
  entries : List (Location × Entry) := []
  denied : Denied := {}

namespace Loaded

def add (l : Loaded) (loc : Location) (e : Entry) : Loaded :=
  { l with entries := (loc, e) :: l.entries }

def denyReading (l : Loaded) (loc : Location) : Loaded :=
  { l with denied := { l.denied with reading := loc :: l.denied.reading } }

def denyPassing (l : Loaded) (loc : Location) : Loaded :=
  { l with denied := { l.denied with passing := loc :: l.denied.passing } }

/-- The tree with everything one location further down. -/
def below (l : Loaded) (cwd : Location) : Loaded where
  entries := l.entries.map fun e => (cwd ++ e.1, e.2)
  denied := ⟨l.denied.reading.map (cwd ++ ·), l.denied.passing.map (cwd ++ ·)⟩

end Loaded

/-- Loads what stands below a location; `top` is the path of the working directory, and links are
taken with the paths they lead to. -/
partial def load (top : String) (loc : Location) (found : Loaded) : IO Loaded := do
  let dir ← IO.FS.realPath ("/".intercalate (top :: loc))
  let .ok items ← dir.readDir.toBaseIO | return found.denyReading loc
  let mut found := found
  for item in items do
    let here := loc ++ [item.fileName]
    let .ok info ← item.path.symlinkMetadata.toBaseIO | return found.denyPassing loc
    match info.type with
    | .file =>
      match ← (IO.FS.readBinFile item.path).toBaseIO with
      | .ok bytes => found := found.add here (.file bytes.toList 0o644)
      | .error _ => found := (found.add here (.file [] 0o644)).denyReading here
    | .dir => found ← load top here (found.add here .dir)
    | .symlink =>
      let target ← try pure (← IO.FS.realPath item.path).toString catch _ => pure "/"
      found := found.add here (.link target)
    | .other => pure ()
  return found

/-- The directories that lead to a location. -/
def enclosing (loc : Location) : List (Location × Entry) :=
  (List.range loc.length).map fun i => (loc.take (i + 1), .dir)

/-- The tree of the working directory at its own location. -/
def snapshot (top : String) : IO FileTree := do
  let cwd := FileTree.stepsOf top
  let found := (← load top [] {}).below cwd
  return { entries := enclosing cwd ++ found.entries, cwd, denied := found.denied }

/-- Writes the files back that differ from what was loaded. -/
def store (before after : FileTree) : IO Unit := do
  for (loc, entry) in after.entries do
    if before.get? loc != some entry then
      if let .file bytes _ := entry then
        IO.FS.writeBinFile (FileTree.absolute loc).spelling bytes.toByteArray

end Codemod.CommandLine

open Codemod in
def main (args : List String) : IO UInt32 := do
  match CommandLine.parse args with
  | none =>
    IO.eprint Program.helpText
    return 2
  | some command =>
    let top := (← IO.currentDir).toString
    let before ← CommandLine.snapshot top
    let (outcome, after) := Program.execute .inOrder command before
    CommandLine.store before after
    IO.print outcome.stdout
    if let some e := outcome.error? then IO.eprintln e
    return outcome.exit.toUInt32
