import Codemod.Rule

/-! A guard decides from the content of a file whether a rule set is applied to it. -/

namespace Codemod

inductive Guard where
  /-- One of the markers occurs. -/
  | contains (markers : List String)
  /-- A pattern matches somewhere. -/
  | pattern (pattern : Pattern)

namespace Guard

def holds : Guard → List Char → Bool
  | .contains markers, text => markers.any fun marker => Text.occursIn marker.toList text
  | .pattern p, text => p.isMatch text

def describe : Guard → String
  | .contains markers => "contains " ++ " | ".intercalate markers
  | .pattern p => "pattern " ++ String.ofList p.source

end Guard

end Codemod
