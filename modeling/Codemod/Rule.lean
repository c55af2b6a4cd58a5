import Codemod.Template

/-! A rule replaces every occurrence of a text, or every match of a pattern. -/

namespace Codemod

namespace Text

/-- A text occurs somewhere in another. -/
def occursIn (find : List Char) : List Char → Bool
  | [] => find.isEmpty
  | c :: rest => find.isPrefixOf (c :: rest) || occursIn find rest

/-- Replaces the occurrences of a text from left to right, after passing over `skip`
characters of an occurrence already replaced. The empty text occurs between all
characters and at both ends. -/
def replaceFrom (find replacement : List Char) : (skip : Nat) → List Char → List Char
  | _, [] => if find.isEmpty then replacement else []
  | skip + 1, _ :: rest => replaceFrom find replacement skip rest
  | 0, c :: rest =>
    if find.isEmpty then replacement ++ c :: replaceFrom find replacement 0 rest
    else if find.isPrefixOf (c :: rest) then
      replacement ++ replaceFrom find replacement (find.length - 1) rest
    else c :: replaceFrom find replacement 0 rest

def replace (find replacement text : List Char) : List Char :=
  replaceFrom find replacement 0 text

end Text

inductive Rule where
  | literal (find replacement : List Char)
  | pattern (pattern : Pattern) (template : Template)

namespace Rule

/-- The text with the rule applied, and none if nothing matches. -/
def change? : Rule → List Char → Option (List Char)
  | .literal find replacement, text =>
    if Text.occursIn find text then some (Text.replace find replacement text) else none
  | .pattern p t, text => p.replaceAll? (t.expand p) text

def apply (r : Rule) (text : List Char) : List Char :=
  (r.change? text).getD text

end Rule

end Codemod
