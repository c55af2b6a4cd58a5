import Codemod.FileError

/-! Where contents are read and written. A store has a state `σ`; writing may fail, and
what it leaves behind then is its own affair. -/

namespace Codemod

structure Store (σ : Type) where
  read : Path → σ → Except IoError (List UInt8)
  write : Path → List Char → σ → Except IoError Unit × σ

namespace FileTree

/-- What is appended to the name of a file for the file written beside it. -/
def tempSuffix : String := ".srcfix.tmp"

/-- Some write permission is set. -/
def isWritable (mode : Nat) : Bool :=
  mode &&& 0o222 != 0

def modeOf : Entry → Nat
  | .file _ mode => mode
  | _ => 0o755

/-- Writes a content beside its target, gives it the mode of the target and moves it there.
The tree is given back as far as this got. -/
def writeBeside (t : FileTree) (target temp : Location) (bytes : List UInt8) (mode : Nat) :
    Except IoError Unit × FileTree :=
  match t.writeFile (absolute temp) bytes with
  | .error e => (.error e, t)
  | .ok t =>
    match t.setMode (absolute temp) mode with
    | .error e => (.error e, t)
    | .ok t =>
      match t.rename temp target with
      | .error e => (.error e, t)
      | .ok t => (.ok (), t)

/-- Replaces the content of the file a path leads to. Links are followed first, a file
without write permission is refused, and after a failure the file beside is removed. -/
def replaceContent (t : FileTree) (p : Path) (content : List Char) :
    Except IoError Unit × FileTree :=
  match t.canonicalize p with
  | .error e => (.error e, t)
  | .ok target =>
    let mode := ((t.get? target).map modeOf).getD 0
    if !isWritable mode then (.error .readOnly, t)
    else match target.getLast? with
      | none => (.error .noFileName, t)
      | some name =>
        let temp := target.dropLast ++ [name ++ tempSuffix]
        match t.writeBeside target temp (Utf8.encode content) mode with
        | (.ok (), t) => (.ok (), t)
        | (.error e, t) => (.error e, t.removeFile (absolute temp))

end FileTree

namespace Store

/-- Reads and writes a file tree. -/
def disk : Store FileTree where
  read p t := t.readFile p
  write p content t := t.replaceContent p content

/-- Reads a file tree and writes nothing. -/
def dryRun : Store FileTree where
  read p t := t.readFile p
  write _ _ t := (.ok (), t)

end Store

end Codemod
