import Codemod.Guard
import Codemod.Path

/-! Rule sets: a name, rules that are applied one after the other, and two conditions for
applying them, a guard on the content and a scope of file extensions. -/

namespace Codemod

namespace Extension

/-- Drops surrounding blanks and leading dots, and lowers ASCII letters. -/
def normalize (s : String) : String :=
  String.ofList (Text.lowerAscii ((Text.trim s.toList).dropWhile (· == '.')))

/-- Adds an extension to an increasing list. -/
def insert (s : String) : List String → List String
  | [] => [s]
  | t :: rest => if s < t then s :: t :: rest else if s = t then t :: rest else t :: insert s rest

/-- The normalised extensions in increasing order. -/
def scope (extensions : List String) : List String :=
  (extensions.map normalize).foldl (fun acc e => insert e acc) []

/-- The extension of a path, compared without ASCII case, is among those of a scope. -/
def accepts (scope : List String) (p : Path) : Bool :=
  p.extension?.any fun e => scope.contains (String.ofList (Text.lowerAscii e.toList))

end Extension

structure RuleSet where
  name : String
  rules : List Rule
  guard? : Option Guard := none
  extensions? : Option (List String) := none

namespace RuleSet

/-- Limits a set to paths with some extensions. -/
def withExtensions (s : RuleSet) (extensions : List String) : RuleSet :=
  { s with extensions? := some (Extension.scope extensions) }

/-- The guard, if there is one, holds for a content. -/
def applies (s : RuleSet) (text : List Char) : Bool :=
  s.guard?.all fun g => g.holds text

/-- A path lies in the scope; without a scope every path does. -/
def acceptsPath (s : RuleSet) (p : Path) : Bool :=
  s.extensions?.all fun scope => Extension.accepts scope p

/-- Applies all rules in order, whatever the guard says. -/
def apply (s : RuleSet) (text : List Char) : List Char :=
  s.rules.foldl (fun t r => r.apply t) text

end RuleSet

end Codemod
