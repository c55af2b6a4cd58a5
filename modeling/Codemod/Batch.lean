import Codemod.Pipeline
import Codemod.Store
import Codemod.Walk

/-! Processing many files. Each file is read, revised and committed on its own, and what
happened to it is an event; failures of one file do not concern the others. -/

namespace Codemod

inductive FileResult where
  | changed
  | unchanged
  | failed (cause : FileError)
deriving DecidableEq

/-- What happened to a file, with the names of the rule sets that changed it and of those
that would change their own result. -/
structure Event where
  path : Path
  result : FileResult
  applied : List String := []
  unstable : List String := []
deriving DecidableEq

def Event.failed (cause : FileError) : Event :=
  { path := cause.path, result := .failed cause }

structure Summary where
  changed : Nat := 0
  unchanged : Nat := 0
  failed : Nat := 0
deriving DecidableEq

namespace Summary

def record (s : Summary) : FileResult → Summary
  | .changed => { s with changed := s.changed + 1 }
  | .unchanged => { s with unchanged := s.unchanged + 1 }
  | .failed _ => { s with failed := s.failed + 1 }

def total (s : Summary) : Nat := s.changed + s.unchanged + s.failed

def ofEvents (events : List Event) : Summary :=
  events.foldl (fun s e => s.record e.result) {}

end Summary

/-- Who hears about a batch: of each event, and at the end of the summary. -/
structure Reporter (ρ : Type) where
  report : Event → ρ → ρ
  finish : Summary → ρ → ρ

/-- Keeps the rule sets with the given names in their own order, or all if there are no
names; else the first name that no set has. -/
def selectRuleSets (sets : List RuleSet) (only : List String) : Except String (List RuleSet) :=
  if only.isEmpty then .ok sets
  else match only.find? fun name => !sets.any fun s => s.name == name with
    | some name => .error name
    | none => .ok (sets.filter fun s => only.contains s.name)

namespace Batch

structure Options where
  /-- Whether files are processed at the same time. -/
  parallel : Bool := false
  /-- Whether rule sets that would change their own result are looked for. -/
  verify : Bool := false

variable {σ ρ : Type}

/-- Reads a file as text. -/
def readSource (store : Store σ) (p : Path) (s : σ) : Except FileError (List Char) :=
  match store.read p s with
  | .error cause => .error (.read p cause)
  | .ok bytes =>
    match Utf8.decode bytes with
    | .error cause => .error (.encoding p cause)
    | .ok text => .ok text

/-- Writes a content if it differs from what was loaded. -/
def commit (store : Store σ) (p : Path) (loaded revised : List Char) (s : σ) : FileResult × σ :=
  if revised = loaded then (.unchanged, s)
  else
    match store.write p revised s with
    | (.ok (), s) => (.changed, s)
    | (.error cause, s) => (.failed (.write p cause), s)

/-- Revises a loaded file and commits it. -/
def finish (store : Store σ) (sets : List RuleSet) (o : Options) (p : Path)
    (loaded : Except FileError (List Char)) (s : σ) : Event × σ :=
  match loaded with
  | .error cause => ({ path := p, result := .failed cause }, s)
  | .ok content =>
    let (file, applied) := Pipeline.revise sets (.ofContent p content)
    let unstable := if o.verify then Pipeline.unstable sets p content else []
    let (result, s) := commit store p file.loaded file.current s
    ({ path := p, result, applied, unstable }, s)

/-- Reads, revises and commits one file. -/
def process (store : Store σ) (sets : List RuleSet) (o : Options) (p : Path) (s : σ) : Event × σ :=
  finish store sets o p (readSource store p s) s

/-- Counts an event and reports it. -/
def tally (reporter : Reporter ρ) (counted : Summary × ρ) (e : Event) : Summary × ρ :=
  (counted.1.record e.result, reporter.report e counted.2)

/-- Processes files in order and reports each before the next one is begun. -/
def processEach (store : Store σ) (reporter : Reporter ρ) (sets : List RuleSet) (o : Options) :
    List Path → Summary × ρ → σ → (Summary × ρ) × σ
  | [], counted, s => (counted, s)
  | p :: rest, counted, s =>
    let (event, s) := process store sets o p s
    processEach store reporter sets o rest (tally reporter counted event) s

/-- Reports what could not be read, then the files, and at the end the summary, which is also
given back. Files that are processed at the same time are left to `workers`, who give the events
in the order of the files, and are reported when all are done. -/
def drive (store : Store σ) (reporter : Reporter ρ) (sets : List RuleSet) (o : Options)
    (workers : List Path → σ → List Event × σ) (c : Candidates) (s : σ) (r : ρ) :
    Summary × ρ × σ :=
  let counted := (c.unreadable.map Event.failed).foldl (tally reporter) ({}, r)
  let ((summary, r), s) :=
    if o.parallel then
      let (events, s) := workers c.files s
      (events.foldl (tally reporter) counted, s)
    else processEach store reporter sets o c.files counted s
  (summary, reporter.finish summary r, s)

end Batch

end Codemod
