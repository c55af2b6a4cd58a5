import Codemod.Pattern.Primitive

/-! Bracketed character classes: items, ranges, nested classes, named ASCII classes and
the set operations `&&`, `--` and `~~`, which group to the left. A class is read straight
into the set it denotes, together with the depth of its brackets. -/

namespace Codemod.Pattern

inductive SetOp where
  | inter
  | diff
  | symmDiff
deriving DecidableEq

def SetOp.apply : SetOp → CharSet → CharSet → CharSet
  | .inter => .inter
  | .diff => .diff
  | .symmDiff => .symmDiff

/-- A set that was read and how deep its notation is nested. -/
structure ReadSet where
  chars : CharSet := .empty
  depth : Nat := 0

/-- Items read so far, and the operation with its left side that awaits them. -/
structure BracketState where
  items : ReadSet := {}
  count : Nat := 0
  pending : Option (SetOp × ReadSet) := none

def BracketState.add (s : BracketState) (item : ReadSet) : BracketState :=
  { s with
    items := ⟨s.items.chars.union item.chars, max s.items.depth item.depth⟩
    count := s.count + 1 }

/-- The value of the items together with the pending operation. -/
def BracketState.value (f : Flags) (s : BracketState) : ReadSet :=
  let items : ReadSet :=
    if 2 ≤ s.count then { s.items with depth := s.items.depth + 1 } else s.items
  match s.pending with
  | none => items
  | some (op, left) =>
    ⟨op.apply (f.fold left.chars) (f.fold items.chars), max left.depth items.depth + 1⟩

def BracketState.operate (f : Flags) (s : BracketState) (op : SetOp) : BracketState :=
  { pending := some (op, s.value f) }

def asciiClasses : List (String × List (Char × Char)) :=
  [("alnum", [('0', '9'), ('A', 'Z'), ('a', 'z')]),
   ("alpha", [('A', 'Z'), ('a', 'z')]),
   ("ascii", [('\x00', '\x7f')]),
   ("blank", [('\t', '\t'), (' ', ' ')]),
   ("cntrl", [('\x00', '\x1f'), ('\x7f', '\x7f')]),
   ("digit", [('0', '9')]),
   ("graph", [('!', '~')]),
   ("lower", [('a', 'z')]),
   ("print", [(' ', '~')]),
   ("punct", [('!', '/'), (':', '@'), ('[', '\x60'), ('\x7b', '~')]),
   ("space", [('\t', '\r'), (' ', ' ')]),
   ("upper", [('A', 'Z')]),
   ("word", [('0', '9'), ('A', 'Z'), ('_', '_'), ('a', 'z')]),
   ("xdigit", [('0', '9'), ('A', 'F'), ('a', 'f')])]

/-- Reads a named class such as `:alpha:]` after its bracket; none if this is not one. -/
def asciiClass? (cs : List Char) : Option (CharSet × Bool × List Char) :=
  match cs with
  | ':' :: rest =>
    let negated := rest.head? == some '^'
    let rest := if negated then rest.drop 1 else rest
    let name := rest.takeWhile (· != ':')
    match rest.dropWhile (· != ':') with
    | ':' :: ']' :: rest =>
      (asciiClasses.lookup (String.ofList name)).map fun runs => (asciiRuns runs, negated, rest)
    | _ => none
  | _ => none

/-- The set of one item that is not a range. -/
def itemSet? (f : Flags) : Primitive → Option CharSet
  | .char c => if f.unicode || c.toNat < 128 then some (.single c) else none
  | .byte c => if f.unicode || c.toNat < 128 then some (.single c) else none
  | .named name negated => f.namedSet? name negated
  | .property chars negated => f.propertySet? chars negated
  | .dot => none
  | .look _ => none

def itemChar? (f : Flags) : Primitive → Option Char
  | .char c => if f.unicode || c.toNat < 128 then some c else none
  | .byte c => if f.unicode || c.toNat < 128 then some c else none
  | _ => none

def bracketItem (f : Flags) (cs : List Char) : Option (Primitive × List Char) :=
  match cs with
  | [] => none
  | '\\' :: rest => escape f rest
  | c :: rest => some (.char c, rest)

/-- The character that decides whether a hyphen is followed by the end of a range. -/
def afterHyphen (f : Flags) (rest : List Char) : Option Char :=
  if f.extended then
    let visible := rest.filter (!isBlank ·)
    let visible := if visible.head? == some '#' then visible.drop 1 else visible
    visible.head?.or rest.head?
  else rest.head?

/-- Reads an item or a range of characters. -/
def bracketRange (f : Flags) (cs : List Char) : Option (CharSet × List Char) := do
  let (first, rest) ← bracketItem f cs
  match f.skip rest with
  | [] => none
  | '-' :: tail =>
    let next := afterHyphen f tail
    if next == some ']' || next == some '-' then
      return (← itemSet? f first, '-' :: tail)
    else
      let (last, rest) ← bracketItem f (f.skip tail)
      let lo ← itemChar? f first
      let hi ← itemChar? f last
      if lo.toNat ≤ hi.toNat then return (.range lo hi, rest) else none
  | rest => return (← itemSet? f first, rest)

/-- Leading hyphens, which stand for themselves. -/
def leadingHyphens (f : Flags) : (fuel : Nat) → BracketState → List Char → BracketState × List Char
  | 0, s, cs => (s, cs)
  | fuel + 1, s, cs =>
    match cs with
    | '-' :: rest => leadingHyphens f fuel (s.add ⟨.single '-', 0⟩) (f.skip rest)
    | _ => (s, cs)

/-- Reads the beginning of a class after its bracket: whether it is negated, and the
hyphens or the closing bracket that stand for themselves there. -/
def bracketOpen (f : Flags) (cs : List Char) : Bool × BracketState × List Char :=
  let cs := f.skip cs
  let negated := cs.head? == some '^'
  let cs := if negated then f.skip (cs.drop 1) else cs
  match leadingHyphens f (cs.length + 1) {} cs with
  | (s, ']' :: rest) =>
    if s.count = 0 then (negated, s.add ⟨.single ']', 0⟩, f.skip rest)
    else (negated, s, ']' :: rest)
  | (s, cs) => (negated, s, cs)

/-- The class denoted by what stands between its brackets. -/
def closeBracket (f : Flags) (negated : Bool) (s : BracketState) : Option ReadSet :=
  let body := s.value f
  (f.negateIf negated (f.fold body.chars)).map fun chars => ⟨chars, body.depth + 1⟩

/-- Reads up to the bracket that closes the class. -/
def bracketBody (f : Flags) :
    (fuel : Nat) → Bool → BracketState → List Char → Option (ReadSet × List Char)
  | 0, _, _, _ => none
  | fuel + 1, negated, s, cs =>
    match f.skip cs with
    | [] => none
    | '[' :: rest =>
      match asciiClass? rest with
      | some (chars, excluded, rest) =>
        (f.negateIf excluded (f.fold chars)).bind fun chars =>
          bracketBody f fuel negated (s.add ⟨chars, 0⟩) rest
      | none =>
        let opened := bracketOpen f rest
        (bracketBody f fuel opened.1 opened.2.1 opened.2.2).bind fun inner =>
          bracketBody f fuel negated (s.add inner.1) inner.2
    | ']' :: rest => (closeBracket f negated s).map (·, rest)
    | '&' :: '&' :: rest => bracketBody f fuel negated (s.operate f .inter) rest
    | '-' :: '-' :: rest => bracketBody f fuel negated (s.operate f .diff) rest
    | '~' :: '~' :: rest => bracketBody f fuel negated (s.operate f .symmDiff) rest
    | cs =>
      (bracketRange f cs).bind fun item =>
        bracketBody f fuel negated (s.add ⟨item.1, 0⟩) item.2

/-- Reads a bracketed class after its opening bracket. -/
def bracket (f : Flags) (cs : List Char) : Option (ReadSet × List Char) :=
  let opened := bracketOpen f cs
  bracketBody f (cs.length + 1) opened.1 opened.2.1 opened.2.2

end Codemod.Pattern
