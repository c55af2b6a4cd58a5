import Codemod.Text.CharSet
import Codemod.Unicode.AgeData
import Codemod.Unicode.BreakData
import Codemod.Unicode.CategoryData
import Codemod.Unicode.LetterData
import Codemod.Unicode.PropertyData
import Codemod.Unicode.ScriptData

/-! Character properties by name.
Names are compared without case, blanks, underscores and hyphens. A bare name is a
binary property, a general category or a script, in this order; `gc`, `sc`, `scx`, `age`,
`gcb`, `wb` and `sb` select the kind of property whose value is named. -/

namespace Codemod.Unicode

def hexDigit (c : Char) : Nat :=
  if c.toNat < 58 then c.toNat - 48 else c.toNat - 87

/-- State of the reader of run tables: finished runs (last first), the start of the
open run if its end is being read, and the number being read. -/
structure RunReader where
  runs : List (Nat × Nat) := []
  start : Option Nat := none
  number : Nat := 0

def RunReader.close (r : RunReader) : RunReader :=
  { runs := (r.start.getD r.number, r.number) :: r.runs }

def RunReader.step (r : RunReader) (c : Char) : RunReader :=
  if c == ' ' then r.close
  else if c == '-' then { r with start := some r.number, number := 0 }
  else { r with number := r.number * 16 + hexDigit c }

/-- Reads lines of runs such as `41-5a 61-7a aa`. -/
def readRuns (lines : List String) : CharSet :=
  ⟨(lines.foldl (fun (r : RunReader) (line : String) => (line.toList.foldl RunReader.step r).close)
    ({} : RunReader)).runs.reverse⟩

def lookup (table : List (List String × List String)) (name : String) : Option CharSet :=
  (table.find? fun row => row.1.contains name).map fun row => readRuns row.2

/-- General categories that are unions of others. -/
def categoryGroups : List (List String × List String) :=
  [(["l", "letter"], ["lu", "ll", "lt", "lm", "lo"]),
   (["lc", "casedletter"], ["lu", "ll", "lt"]),
   (["m", "mark", "combiningmark"], ["mn", "mc", "me"]),
   (["n", "number"], ["nd", "nl", "no"]),
   (["p", "punctuation", "punct"], ["pc", "pd", "ps", "pe", "pi", "pf", "po"]),
   (["s", "symbol"], ["sm", "sc", "sk", "so"]),
   (["z", "separator"], ["zs", "zl", "zp"]),
   (["c", "other"], ["cc", "cf", "co", "cn"])]

def unionOf (names : List String) : CharSet :=
  names.foldl (fun s name => s.union ((lookup categoryData name).getD .empty)) .empty

def category? (name : String) : Option CharSet :=
  if name == "any" then some .all
  else if name == "ascii" then some (.range '\x00' '\x7f')
  else if name == "assigned" then (lookup categoryData "cn").map .complement
  else match categoryGroups.find? fun row => row.1.contains name with
    | some row => some (unionOf row.2)
    | none => lookup categoryData name

def script? (name : String) : Option CharSet :=
  lookup scriptData name

def scriptExtension? (name : String) : Option CharSet :=
  (lookup scriptExtensionData name).orElse fun _ => script? name

def property? (name : String) : Option CharSet :=
  lookup propertyData name

/-- The rows of a table up to the one with a name. -/
def rowsUpTo (name : String) : List (List String × List String) →
    Option (List (List String × List String))
  | [] => none
  | row :: rest =>
    if row.1.contains name then some [row] else (rowsUpTo name rest).map (row :: ·)

/-- The characters that a version of the standard has. -/
def age? (name : String) : Option CharSet :=
  (rowsUpTo name ageData).map fun rows =>
    rows.foldl (fun s row => s.union (readRuns row.2)) .empty

def isNameByte (c : Char) : Bool :=
  c.toNat < 128 && c != ' ' && c != '_' && c != '-'

/-- Drops case, blanks, underscores, hyphens and a leading `is`; `isc` stays whole. -/
def normalizeName (name : List Char) : String :=
  let strip (cs : List Char) : List Char := (cs.filter isNameByte).map Char.toLower
  match name with
  | a :: b :: rest =>
    if a.toLower == 'i' && b.toLower == 's' then
      let body := strip rest
      if body == ['c'] then "isc" else String.ofList body
    else String.ofList (strip name)
  | _ => String.ofList (strip name)

/-- The members of a property given by a bare name. -/
def named? (name : List Char) : Option CharSet :=
  let key := normalizeName name
  let binary := if key == "cf" || key == "sc" || key == "lc" then none else property? key
  binary.orElse fun _ => (category? key).orElse fun _ => script? key

/-- The members of a property given by its kind and its value. -/
def valued? (kind value : List Char) : Option CharSet :=
  let kind := normalizeName kind
  let key := normalizeName value
  if kind == "gc" || kind == "generalcategory" then category? key
  else if kind == "sc" || kind == "script" then script? key
  else if kind == "scx" || kind == "scriptextensions" then scriptExtension? key
  else if kind == "age" then age? key
  else if kind == "gcb" || kind == "graphemeclusterbreak" then lookup graphemeBreakData key
  else if kind == "wb" || kind == "wordbreak" then lookup wordBreakData key
  else if kind == "sb" || kind == "sentencebreak" then lookup sentenceBreakData key
  else none

def digit : CharSet := (category? "nd").getD .empty

/-- Letters, marks, decimal digits, connectors and join controls. -/
def wordSet : CharSet :=
  [property? "alphabetic", category? "m", category? "nd", category? "pc",
    property? "joincontrol"].foldl (fun s part => s.union (part.getD .empty)) .empty

/-- Characters of names. -/
def alphabetic : CharSet := readRuns alphabeticData
def number : CharSet := readRuns numberData

/-- Characters of cased words, and characters that do not count in them. -/
def cased : CharSet := readRuns casedData
def caseIgnorable : CharSet := readRuns caseIgnorableData

end Codemod.Unicode
