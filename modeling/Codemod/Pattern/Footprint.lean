import Codemod.Pattern.Expr
import Codemod.Text.ByteRange
import Codemod.Text.Utf8
import Std.Data.HashMap

/-! The space that a pattern takes as an automaton over bytes.
Counted repetitions are written out. Every state takes 32 bytes; a fork takes 4 bytes more
for each way out of it, a step on a choice of byte ranges 8 bytes more for each range. The
pattern is laid out twice, for reading from the start and for reading from the end, and
neither layout may go beyond the limit. -/

namespace Codemod.Pattern

/-- What has been laid out: the number of states, and the bytes that they take beyond
their fixed size. States are numbered in the order in which they are added. -/
structure Layout where
  states : Nat
  extra : Nat

namespace Layout

def limit : Nat := 10 * 0x100000

def bytes (l : Layout) : Nat := 32 * l.states + l.extra

def plain (count : Nat) (l : Layout) : Layout := { l with states := l.states + count }

/-- One state with forks or ranges that take `extra` bytes. -/
def state (extra : Nat) (l : Layout) : Layout := ⟨l.states + 1, l.extra + extra⟩

/-- A part that ends in a fork gains one way out when something follows it. -/
def join (forked : Bool) (l : Layout) : Layout :=
  if forked then { l with extra := l.extra + 4 } else l

/-- Repeats a step, but goes no further once the limit is passed. -/
def copies (step : Layout → Layout) : Nat → Layout → Layout
  | 0, l => l
  | n + 1, l => if limit < l.bytes then l else copies step n (step l)

end Layout

/-- States under construction for one set of characters. A state that steps on the same
ranges to the same states as an earlier one is not added again, as long as the table
remembers the earlier one: each slot holds the last state whose key fell on it. -/
structure Weaving where
  slots : Nat
  table : Std.HashMap Nat (List Nat × Nat)
  layout : Layout

namespace Weaving

/-- The slot of a key before reduction: a 64-bit mix of its numbers in turn. -/
def mix (key : List Nat) : UInt64 :=
  key.foldl (fun h k => (h ^^^ UInt64.ofNat k) * 0x100000001B3) 0xCBF29CE484222325

/-- Adds a state and remembers it in a slot. -/
def fresh (w : Weaving) (slot extra : Nat) (key : List Nat) : Nat × Weaving :=
  (w.layout.states, ⟨w.slots, w.table.insert slot (key, w.layout.states), w.layout.state extra⟩)

/-- The number of the state with a key, which is added unless the table has it. -/
def share (w : Weaving) (extra : Nat) (key : List Nat) : Nat × Weaving :=
  let slot := (mix key).toNat % w.slots
  match w.table[slot]? with
  | some (known, index) => if known = key then (index, w) else w.fresh slot extra key
  | none => w.fresh slot extra key

/-- Lays out sequences with their common beginnings merged: behind each range that
sequences begin with come the rests of those sequences. -/
def branch (target : Nat) : (depth : Nat) → List (List Utf8.ByteRange) → Weaving → Nat × Weaving
  | 0, _, w => (target, w)
  | depth + 1, sequences, w =>
    if sequences.all List.isEmpty then (target, w)
    else
      let groups := sequences.splitBy fun a b => a.head? == b.head?
      let r := groups.foldl (fun (key, w) group =>
        let next := branch target depth (group.map List.tail) w
        match group.head?.bind List.head? with
        | some (lo, hi) => (key ++ [lo, hi, next.1], next.2)
        | none => (key, next.2)) ([], w)
      r.2.share (8 * groups.length) r.1

/-- Lays out one sequence from the state that its first range leads away from. -/
def chain (origin : Nat) (sequence : List Utf8.ByteRange) (w : Weaving) : Weaving :=
  (sequence.foldl (fun (state, w) (lo, hi) => w.share 0 [state, lo, hi]) (origin, w)).2

end Weaving

namespace Layout

/-- The states for one character out of a set that is given by its byte sequences. -/
def ofSequences (backward : Bool) (sequences : List (List Utf8.ByteRange)) (l : Layout) :
    Layout :=
  if sequences.all fun sequence => sequence.length = 1 then
    (l.state 0).state (8 * sequences.length)
  else if backward then
    let w : Weaving := ⟨1000, {}, (l.state (4 * sequences.length)).state 0⟩
    (sequences.foldl (fun w sequence => w.chain (l.states + 1) sequence) w).layout
  else
    let w : Weaving := ⟨10000, {}, l.state 0⟩
    (w.branch l.states 4 sequences).2.layout

/-- The states for one out of several words. Words share their beginnings, except that
what comes after the end of a word shares nothing with what comes before. `depth` exceeds
the length of the words. -/
def ofWords : (depth : Nat) → List (List UInt8) → Layout → Layout
  | 0, _, l => l
  | depth + 1, words, l =>
    let stretches := (words.splitBy fun a b => a.isEmpty == b.isEmpty).filter fun stretch =>
      stretch.any fun word => !word.isEmpty
    let ends := (words.dropWhile List.isEmpty).countP List.isEmpty +
      if (words.head?.any List.isEmpty) then 1 else 0
    let l := stretches.foldl (fun l stretch =>
      let heads := (stretch.filterMap List.head?).eraseDups
      let l := heads.foldl (fun l head =>
        let rests := (stretch.filter fun word => word.head? == some head).map List.tail
        if rests.all List.isEmpty then l else ofWords depth rests l) l
      l.state (if heads.length = 1 then 0 else 8 * heads.length)) l
    l.state (4 * (stretches.length + ends))

/-- The states for one out of several branches. -/
def ofBranches (forked : Nat) (steps : List (Layout → Layout)) (l : Layout) : Layout :=
  match steps with
  | first :: second :: rest =>
    rest.foldl (fun l step => step l)
      (((second (first l)).state (4 * (steps.length + forked))).state 0)
  | _ => steps.foldl (fun l step => step l) l

end Layout

namespace Expr

/-- The words of a choice between literals. -/
def words? (e : Expr) : Option (List (List UInt8)) :=
  e.branches.mapM fun b =>
    match b with
    | .literal cs => some (Utf8.encode cs)
    | _ => none

/-- Whether the layout of an expression ends in a fork. -/
def forked (backward : Bool) : Expr → Bool
  | .group _ _ body => backward && body.forked backward
  | .repeated least none _ body => 0 < least || body.consumes
  | .repeated least (some most) _ body => least == most && body.forked backward
  | .cat a b => if backward then a.forked backward else b.forked backward
  | _ => false

/-- The layout of an expression from those of its branches. -/
def assemble (backward : Bool) (e : Expr) (steps : List (Layout → Layout)) (l : Layout) :
    Layout :=
  match e, e.words? with
  | .alt _ _, some words =>
    let words := if backward then words.map List.reverse else words
    (l.state 0).ofWords ((words.map List.length).foldl max 0 + 1) words
  | _, _ => l.ofBranches (e.branches.countP (forked backward)) steps

/-- The layouts of the branches of an expression. -/
def lay (backward : Bool) : Expr → List (Layout → Layout)
  | .empty => [.state 0]
  | .literal cs => [.plain (Utf8.byteLength cs)]
  | .set s => [.ofSequences backward (s.runs.flatMap fun (lo, hi) => Utf8.sequences lo hi)]
  | .look _ => [.state 0]
  | .group _ _ body =>
    let inner := body.assemble backward (body.lay backward)
    if backward then [inner]
    else [fun l => ((inner (l.state 0)).join (body.forked backward)).state 0]
  | .repeated least most _ body =>
    let inner := body.assemble backward (body.lay backward)
    let part : Layout → Layout := fun l => (inner l).join (body.forked backward)
    match least, most with
    | 0, none =>
      if body.consumes then [fun l => part (l.state 4)]
      else [fun l => (((part l).state 8).state 8).state 0]
    | least, none => [fun l => (Layout.copies part least l).state 4]
    | 0, some 1 => [fun l => (part (l.state 8)).state 0]
    | least, some most =>
      if least = most then [fun l => inner (Layout.copies part (least - 1) l)]
      else
        [fun l =>
          let l := if least = 0 then l.state 0 else Layout.copies part least l
          Layout.copies (fun l => part (l.state 8)) (most - least) (l.state 0)]
  | .cat a b =>
    let first := a.assemble backward (a.lay backward)
    let rest := b.assemble backward (b.lay backward)
    if backward then [fun l => first ((rest l).join (b.forked backward))]
    else [fun l => rest ((first l).join (a.forked backward))]
  | .alt a b => a.assemble backward (a.lay backward) :: b.lay backward

/-- Every match begins at the start of the text. -/
def startsText : Expr → Bool
  | .look l => l == .textStart
  | .group _ _ body => body.startsText
  | .repeated least _ _ body => 0 < least && body.startsText
  | .cat a b => a.startsText || (a.maxLength == some 0 && b.startsText)
  | .alt a b => a.startsText && b.startsText
  | _ => false

/-- Every match stops at the end of the text. -/
def endsText : Expr → Bool
  | .look l => l == .textEnd
  | .group _ _ body => body.endsText
  | .repeated least _ _ body => 0 < least && body.endsText
  | .cat a b => b.endsText || (b.maxLength == some 0 && a.endsText)
  | .alt a b => a.endsText && b.endsText
  | _ => false

/-- The bytes that an expression takes as a whole pattern. Unless it is tied to the end
that reading begins with, a loop over any bytes stands before it. -/
def footprint (backward : Bool) (e : Expr) : Nat :=
  let tied := if backward then e.endsText else e.startsText
  let lead : Layout := if tied then ⟨1, 0⟩ else ⟨3, 16⟩
  let whole := Expr.group 0 none e
  let body := (whole.assemble backward (whole.lay backward)) lead
  ((body.join (whole.forked backward)).state 0).bytes

/-- A quick bound on both footprints, which is all that most patterns need. -/
def footprintBound : Expr → Nat
  | .literal cs => 96 * Utf8.byteLength cs + 64
  | .set s => if s.isAscii then 64 + 8 * s.runs.length else 64 + 2560 * s.runs.length
  | .group _ _ body => body.footprintBound + 72
  | .repeated least most _ body =>
    (body.footprintBound + 44) * max least (most.getD (max least 1)) + 128
  | .cat a b => a.footprintBound + b.footprintBound + 4
  | .alt a b => a.footprintBound + b.footprintBound + 80
  | _ => 32

/-- Neither layout goes beyond the limit; the states around the pattern take less than
256 bytes. -/
def fits (e : Expr) : Bool :=
  e.footprintBound + 256 ≤ Layout.limit ||
    (e.footprint false ≤ Layout.limit && e.footprint true ≤ Layout.limit)

end Expr

end Codemod.Pattern
