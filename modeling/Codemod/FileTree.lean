import Codemod.Path

/-! File trees: what stands at each location, and how paths lead to locations.
A location is the list of names from the top. A path is followed step by step from the
top or from the working directory, through links. The system may keep the program from reading
a file, from listing a directory and from going through one. -/

namespace Codemod

/-- Why an operation on a file tree failed. -/
inductive IoError where
  | notFound
  | notDirectory
  | isDirectory
  | nameTooLong
  | tooManyLinks
  | nulInPath
  | denied
  | readOnly
  | noFileName
  | notText
  /-- An error that is described by its text. -/
  | described (text : String)
  /-- An error met while walking at a path. -/
  | during (path : String) (cause : IoError)
deriving DecidableEq

def IoError.message : IoError → String
  | .notFound => "No such file or directory (os error 2)"
  | .notDirectory => "Not a directory (os error 20)"
  | .isDirectory => "Is a directory (os error 21)"
  | .nameTooLong => "File name too long (os error 36)"
  | .tooManyLinks => "Too many levels of symbolic links (os error 40)"
  | .nulInPath => "file name contained an unexpected NUL byte"
  | .denied => "Permission denied (os error 13)"
  | .readOnly => "file is read-only"
  | .noFileName => "path has no file name"
  | .notText => "stream did not contain valid UTF-8"
  | .described text => text
  | .during path cause => "IO error for operation on " ++ path ++ ": " ++ cause.message

abbrev Location := List String

inductive Entry where
  | file (bytes : List UInt8) (mode : Nat)
  | dir
  | link (target : String)
deriving DecidableEq

/-- What the system keeps from the program, by whatever users and modes it does so. -/
structure Denied where
  /-- Files that may not be read, and directories that may not be listed. -/
  reading : List Location := []
  /-- Directories that may not be passed on the way to what is in them. -/
  passing : List Location := []
deriving DecidableEq

structure FileTree where
  entries : List (Location × Entry)
  /-- The working directory. -/
  cwd : Location
  denied : Denied := {}

namespace FileTree

/-- What stands at a location; the top is a directory. -/
def get? (t : FileTree) (loc : Location) : Option Entry :=
  if loc = [] then some .dir else t.entries.lookup loc

def erase (t : FileTree) (loc : Location) : FileTree :=
  { t with entries := t.entries.filter fun e => e.1 != loc }

def put (t : FileTree) (loc : Location) (e : Entry) : FileTree :=
  { t with entries := (loc, e) :: (t.erase loc).entries }

def isDir (t : FileTree) (loc : Location) : Bool :=
  t.get? loc == some .dir

def mayRead (t : FileTree) (loc : Location) : Bool :=
  !t.denied.reading.contains loc

def mayPass (t : FileTree) (loc : Location) : Bool :=
  !t.denied.passing.contains loc

/-- All directories above a location may be passed. -/
def reachable (t : FileTree) (loc : Location) : Bool :=
  (List.range loc.length).all fun depth => t.mayPass (loc.take depth)

/-- The names and entries of a directory. -/
def children (t : FileTree) (loc : Location) : List (String × Entry) :=
  t.entries.filterMap fun e =>
    match e.1.getLast? with
    | some name => if e.1.dropLast = loc then some (name, e.2) else none
    | none => none

theorem get?_put_self (t : FileTree) {loc : Location} (e : Entry) (h : loc ≠ []) :
    (t.put loc e).get? loc = some e := by
  simp [get?, put, h]

/-- Bytes in a name, and in a path, must be fewer than these. -/
def nameLimit : Nat := 256
def pathLimit : Nat := 4096

/-- Links followed on one way. -/
def linkLimit : Nat := 40

/-- What is done about the last step of a way. -/
inductive Last where
  /-- A link is followed. -/
  | follow
  /-- A link is where the way ends. -/
  | keep
  /-- A link is followed, and the entry need not exist. -/
  | create
deriving DecidableEq

/-- Where a way leads: to a location, or to a link with steps left. -/
inductive Progress where
  | arrived (loc : Location)
  | link (dir : Location) (target : String) (rest : List String)

/-- Takes steps from a location up to the first link that is to be followed. An empty step
stays where it is and only asks for a directory, but no entry is made right before it. -/
def advance (t : FileTree) (last : Last) : Location → List String → Except IoError Progress
  | loc, [] => .ok (.arrived loc)
  | loc, step :: rest =>
    if !t.isDir loc then .error .notDirectory
    else if step.isEmpty then advance t last loc rest
    else if !t.mayPass loc then .error .denied
    else if step = "." then advance t last loc rest
    else if step = ".." then advance t last loc.dropLast rest
    else if rest = [""] && last = .create then .error .isDirectory
    else if nameLimit ≤ step.utf8ByteSize then .error .nameTooLong
    else
      match t.get? (loc ++ [step]) with
      | none =>
        if rest.isEmpty && last = .create then .ok (.arrived (loc ++ [step]))
        else .error .notFound
      | some (.link target) =>
        if rest.isEmpty && last = .keep then .ok (.arrived (loc ++ [step]))
        else .ok (.link loc target rest)
      | some _ => advance t last (loc ++ [step]) rest

/-- The steps of a path; a separator at the end asks for a directory and gives an empty
step. -/
def stepsOf (spelling : String) : List String :=
  let cs := spelling.toList
  let steps := (Path.pieces cs).filter (!·.isEmpty)
  let steps := if cs.getLast? = some '/' && !steps.isEmpty then steps ++ [[]] else steps
  steps.map String.ofList

/-- Where a path starts, seen from a directory. -/
def startOf (dir : Location) (spelling : String) : Location :=
  if spelling.toList.head? = some '/' then [] else dir

/-- Takes steps through at most `links` links. -/
def travel (t : FileTree) (last : Last) :
    (links : Nat) → Location → List String → Except IoError Location
  | links, loc, steps =>
    match t.advance last loc steps with
    | .error e => .error e
    | .ok (.arrived loc) => .ok loc
    | .ok (.link dir target rest) =>
      match links with
      | 0 => .error .tooManyLinks
      | links + 1 => travel t last links (startOf dir target) (stepsOf target ++ rest)

/-- The location that a path leads to. -/
def resolve (t : FileTree) (last : Last) (p : Path) : Except IoError Location :=
  if p.spelling.toList.contains '\x00' then .error .nulInPath
  else if p.spelling.isEmpty then .error .notFound
  else if pathLimit ≤ p.spelling.utf8ByteSize then .error .nameTooLong
  else t.travel last linkLimit (startOf t.cwd p.spelling) (stepsOf p.spelling)

/-- The path of a location from the top. -/
def absolute (loc : Location) : Path :=
  ⟨"/" ++ "/".intercalate loc⟩

/-- Something stands where a path leads. -/
def exists? (t : FileTree) (p : Path) : Bool :=
  (t.resolve .follow p).isOk

/-- The location of a path. It must be reachable from the top, by a path that is not too long. -/
def canonicalize (t : FileTree) (p : Path) : Except IoError Location := do
  let loc ← t.resolve .follow p
  if !t.reachable loc then throw .denied
  if pathLimit ≤ (absolute loc).spelling.utf8ByteSize then throw .nameTooLong
  return loc

def readFile (t : FileTree) (p : Path) : Except IoError (List UInt8) := do
  let loc ← t.resolve .follow p
  if !t.mayRead loc then throw .denied
  match t.get? loc with
  | some (.file bytes _) => return bytes
  | some .dir => throw .isDirectory
  | _ => throw .notFound

/-- Opens the directory that a path leads to, to list it. -/
def openDir (t : FileTree) (p : Path) : Except IoError Location := do
  let loc ← t.resolve .follow p
  if !t.isDir loc then throw .notDirectory
  if !t.mayRead loc then throw .denied
  return loc

/-- Writes a file, which is made with mode 644 if it does not exist. -/
def writeFile (t : FileTree) (p : Path) (bytes : List UInt8) : Except IoError FileTree := do
  let loc ← t.resolve .create p
  match t.get? loc with
  | some .dir => throw .isDirectory
  | some (.file _ mode) => return t.put loc (.file bytes mode)
  | _ => return t.put loc (.file bytes 0o644)

/-- Sets the mode of a file. -/
def setMode (t : FileTree) (p : Path) (mode : Nat) : Except IoError FileTree := do
  let loc ← t.resolve .follow p
  match t.get? loc with
  | some (.file bytes _) => return t.put loc (.file bytes mode)
  | _ => return t

/-- Moves what stands at a location onto a file or link. -/
def rename (t : FileTree) (source target : Location) : Except IoError FileTree :=
  match t.get? source with
  | none => .error .notFound
  | some e =>
    if t.isDir target then .error .isDirectory else .ok ((t.erase source).put target e)

/-- Removes the file or link at a path, if the path leads to one. -/
def removeFile (t : FileTree) (p : Path) : FileTree :=
  match t.resolve .keep p with
  | .error _ => t
  | .ok loc => if t.isDir loc then t else t.erase loc

end FileTree

end Codemod
