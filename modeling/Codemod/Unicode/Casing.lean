import Codemod.Unicode.CaseData
import Codemod.Unicode.Property

/-! Case of characters and texts: simple case folding of sets, and full lowercase and
uppercase of texts, in which one character may become several. -/

namespace Codemod.Unicode

/-- Reads lines of words such as `df.53.53` into groups of code points. -/
def readGroups (lines : List String) : List (List Nat) :=
  (lines.flatMap fun line => line.splitOn " ").map fun word =>
    (word.splitOn ".").map fun part => part.toList.foldl (fun n c => n * 16 + hexDigit c) 0

/-- Groups of characters that simple case folding identifies. -/
def foldGroups : List (List Nat) := readGroups foldData

/-- Adds to a set every character that differs from a member only by case. -/
def foldCase (s : CharSet) : CharSet :=
  ⟨foldGroups.foldl (fun runs group =>
    if group.any (CharSet.inRuns s.runs) then
      group.foldl (fun runs n => CharSet.insertRun (n, n) runs) runs
    else runs) s.runs⟩

/-- Adds to a set the other case of its ASCII letters. -/
def foldAsciiCase (s : CharSet) : CharSet :=
  s.union <| (List.range 26).foldl (fun t i =>
    let lower := Char.ofNat (97 + i)
    let upper := Char.ofNat (65 + i)
    if s.mem lower || s.mem upper then (t.union (.single lower)).union (.single upper) else t)
    .empty

def readMapping (lines : List String) : List (Nat × List Char) :=
  (readGroups lines).filterMap fun
    | [] => none
    | n :: image => some (n, image.map Char.ofNat)

def upperTable : List (Nat × List Char) := readMapping upperData
def lowerTable : List (Nat × List Char) := readMapping lowerData

def image (table : List (Nat × List Char)) (c : Char) : List Char :=
  match table.find? fun row => c.toNat ≤ row.1 with
  | some row => if row.1 = c.toNat then row.2 else [c]
  | none => [c]

def upperChar (c : Char) : List Char :=
  if c.toNat < 128 then [c.toUpper] else image upperTable c

def lowerChar (c : Char) : List Char :=
  if c.toNat < 128 then [c.toLower] else image lowerTable c

def upper (text : List Char) : List Char :=
  text.flatMap upperChar

/-- Past the case-ignorable characters stands a cased one. -/
def reachesCased (text : List Char) : Bool :=
  match text.dropWhile caseIgnorable.mem with
  | [] => false
  | c :: _ => cased.mem c

/-- Lowercase of a text that follows `before`, which is held last character first. A
capital sigma becomes final where it ends a word. -/
def lowerAfter : List Char → List Char → List Char
  | _, [] => []
  | before, c :: rest =>
    let here :=
      if c = 'Σ' then
        if reachesCased before && !reachesCased rest then ['ς'] else ['σ']
      else lowerChar c
    here ++ lowerAfter (c :: before) rest

def lower (text : List Char) : List Char :=
  lowerAfter [] text

end Codemod.Unicode
