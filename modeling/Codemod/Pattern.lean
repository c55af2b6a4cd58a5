import Codemod.Pattern.Footprint
import Codemod.Pattern.Match
import Codemod.Pattern.Parser

/-! Compiled patterns. A pattern keeps its source and its expression; group 0 is the whole
match. -/

namespace Codemod

inductive PatternError where
  | malformed
  | tooBig
deriving DecidableEq

/-- A pattern ready for matching. -/
structure Pattern where
  source : List Char
  expr : Pattern.Expr

namespace Pattern

def compile (source : List Char) : Except PatternError Pattern :=
  match parse source with
  | none => .error .malformed
  | some e => if e.fits then .ok ⟨source, e⟩ else .error .tooBig

/-- What is matched against a text with `room` characters. -/
def root (p : Pattern) (room : Nat) : Node Outcome :=
  .group 0 (.ofExpr room none p.expr)

/-- The number of groups, the whole match included. -/
def groupCount (p : Pattern) : Nat :=
  (p.expr.groups.map (·.1)).foldl max 0 + 1

/-- The number of the group with a name. -/
def groupNamed? (p : Pattern) (name : String) : Option Nat :=
  (p.expr.groups.find? fun g => g.2 == some name).map (·.1)

def findAll (p : Pattern) (text : List Char) : List Match :=
  pickMatches 0 0 none text ((p.root text.length).sweep text)

def isMatch (p : Pattern) (text : List Char) : Bool :=
  ((p.root text.length).sweep text).any Option.isSome

/-- The text with every match replaced, and none if there is no match. -/
def replaceAll? (p : Pattern) (render : Match → List Char) (text : List Char) :
    Option (List Char) :=
  match p.findAll text with
  | [] => none
  | ms => some (splice render 0 text ms)

end Pattern

end Codemod
