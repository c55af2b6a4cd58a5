import Codemod.Pattern.Search

/-! The matches of a pattern in a text, and texts with their matches replaced.
Matches do not overlap and come from left to right; an empty match right behind another
match is passed over. -/

namespace Codemod.Pattern

def lastOpened (group : Nat) : List Mark → Option Nat
  | [] => none
  | .opened i offset :: rest =>
    (lastOpened group rest).or (if i = group then some offset else none)
  | .closed _ _ :: rest => lastOpened group rest

def lastClosed (group : Nat) : List Mark → Option Nat
  | [] => none
  | .closed i offset :: rest =>
    (lastClosed group rest).or (if i = group then some offset else none)
  | .opened _ _ :: rest => lastClosed group rest

/-- A match from `start` to `stop`, with its characters and the marks of its groups. -/
structure Match where
  start : Nat
  stop : Nat
  chars : List Char
  marks : List Mark
deriving DecidableEq

namespace Match

/-- The characters of a match between two offsets of the text. -/
def slice (m : Match) (start stop : Nat) : List Char :=
  (m.chars.drop (start - m.start)).take (stop - start)

/-- Where a group matched the last time, if it took part. -/
def span? (m : Match) (group : Nat) : Option (Nat × Nat) :=
  match lastOpened group m.marks, lastClosed group m.marks with
  | some start, some stop => some (start, stop)
  | _, _ => none

/-- The text of a group, if it took part. -/
def group? (m : Match) (group : Nat) : Option (List Char) :=
  (m.span? group).map fun s => m.slice s.1 s.2

end Match

/-- Picks matches from the outcomes at the places from `offset` on, where `text` is what
follows there. No match begins before `resume`, and no empty one at `barred`. -/
def pickMatches (offset resume : Nat) (barred : Option Nat) (text : List Char) :
    List Outcome → List Match
  | [] => []
  | outcome :: rest =>
    match outcome with
    | none => pickMatches (offset + 1) resume barred text.tail rest
    | some marks =>
      if offset < resume then pickMatches (offset + 1) resume barred text.tail rest
      else
        let stop := (lastClosed 0 marks).getD offset
        if stop = offset ∧ barred = some offset then
          pickMatches (offset + 1) resume barred text.tail rest
        else
          ⟨offset, stop, text.take (stop - offset), marks⟩ ::
            pickMatches (offset + 1) stop (some stop) text.tail rest

/-- Puts `render m` in the place of each match `m` of a text that starts at `offset`. -/
def splice (render : Match → List Char) (offset : Nat) (text : List Char) :
    List Match → List Char
  | [] => text
  | m :: rest =>
    text.take (m.start - offset) ++
      (render m ++ splice render m.stop (text.drop (m.stop - offset)) rest)

end Codemod.Pattern
