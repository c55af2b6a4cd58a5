import Codemod.RuleSet

/-! Applying rule sets one after the other.
Each set sees the text that the sets before it left; its guard is asked about that text,
and it counts as applied only if it changes the text. -/

namespace Codemod

/-- A file with the content that was loaded and the content as it stands. -/
structure SourceFile where
  path : Path
  loaded : List Char
  current : List Char
deriving DecidableEq

namespace SourceFile

def ofContent (path : Path) (content : List Char) : SourceFile :=
  ⟨path, content, content⟩

def isChanged (f : SourceFile) : Bool :=
  f.loaded != f.current

end SourceFile

/-- The text as a rule set leaves it, if its guard holds and it changes the text. -/
def RuleSet.step? (s : RuleSet) (text : List Char) : Option (List Char) :=
  if s.applies text then
    let next := s.apply text
    if next = text then none else some next
  else none

namespace Pipeline

/-- Runs all sets over a text, whatever their scopes. -/
def run (sets : List RuleSet) (text : List Char) : List Char :=
  sets.foldl (fun t s => (s.step? t).getD t) text

/-- The sets whose scope a path lies in. -/
def inScope (path : Path) (sets : List RuleSet) : List RuleSet :=
  sets.filter fun s => s.acceptsPath path

/-- Runs sets over a text and lists the names of those that changed it. -/
def trace : List RuleSet → List Char → List Char × List String
  | [], text => (text, [])
  | s :: rest, text =>
    match s.step? text with
    | none => trace rest text
    | some next =>
      let r := trace rest next
      (r.1, s.name :: r.2)

/-- Runs the sets in scope over a file and lists the names of those that changed it. -/
def revise (sets : List RuleSet) (f : SourceFile) : SourceFile × List String :=
  let r := trace (inScope f.path sets) f.current
  ({ f with current := r.1 }, r.2)

/-- The names of the sets that change a text and then change their own result again. -/
def unstableIn : List RuleSet → List Char → List String
  | [], _ => []
  | s :: rest, text =>
    match s.step? text with
    | none => unstableIn rest text
    | some next =>
      if (s.step? next).isSome then s.name :: unstableIn rest next else unstableIn rest next

/-- The sets in scope of a path that are not stable on a content. -/
def unstable (sets : List RuleSet) (path : Path) (content : List Char) : List String :=
  unstableIn (inScope path sets) content

end Pipeline

end Codemod
