import Codemod.Pattern.Bracket

/-! Pattern notation.
`parse` reads a whole pattern into an expression. Flags hold to the end of the group that
sets them, groups are numbered by their opening brackets up to `groupLimit`, and a pattern
may be nested at most `nestLimit` deep. -/

namespace Codemod.Pattern

/-- How deep brackets, repetitions, choices and sequences may be nested. -/
def nestLimit : Nat := 250

/-- The greatest number of a group, which takes 32 bits. -/
def groupLimit : Nat := 0xFFFFFFFF

/-- A piece that was read: its expression, how deep its notation is nested, and whether a
repetition may follow it. -/
structure Piece where
  expr : Expr
  depth : Nat := 0
  repeatable : Bool := true

def deepest (pieces : List Piece) : Nat :=
  pieces.foldl (fun d p => max d p.depth) 0

/-- The sequence of pieces held last first. -/
def Piece.sequence : List Piece → Piece
  | [] => { expr := .empty }
  | [p] => { p with repeatable := true }
  | ps => { expr := .concat (ps.reverse.map (·.expr)), depth := deepest ps + 1 }

/-- The choice between branches held last first. -/
def Piece.choice : List Piece → Piece
  | [] => { expr := .empty }
  | [p] => p
  | ps => { expr := .alternation (ps.reverse.map (·.expr)), depth := deepest ps + 1 }

def Piece.repeated (p : Piece) (least : Nat) (most : Option Nat) (greedy : Bool) : Piece :=
  { expr := .repetition least most greedy p.expr, depth := p.depth + 1 }

/-- Groups opened so far and the names in use. -/
structure Scope where
  groups : Nat := 0
  names : List String := []

inductive Flag where
  | caseless
  | multiline
  | dotAll
  | swapGreed
  | unicode
  | crlf
  | extended
deriving DecidableEq

def Flag.ofChar? : Char → Option Flag
  | 'i' => some .caseless
  | 'm' => some .multiline
  | 's' => some .dotAll
  | 'U' => some .swapGreed
  | 'u' => some .unicode
  | 'R' => some .crlf
  | 'x' => some .extended
  | _ => none

def Flags.assign (f : Flags) (on : Bool) : Flag → Flags
  | .caseless => { f with caseless := on }
  | .multiline => { f with multiline := on }
  | .dotAll => { f with dotAll := on }
  | .swapGreed => { f with swapGreed := on }
  | .unicode => { f with unicode := on }
  | .crlf => { f with crlf := on }
  | .extended => { f with extended := on }

/-- Flags as they stand before `)` or `:`; no flag may come twice, nor a hyphen, and a
hyphen needs a flag behind it. -/
def readFlags (f : Flags) (seen : List Flag) (negated dangling : Bool) :
    List Char → Option (Flags × Bool × List Char)
  | [] => none
  | c :: rest =>
    if c = ':' || c = ')' then
      if dangling then none else some (f, seen.isEmpty && !negated, c :: rest)
    else if c = '-' then
      if negated then none else readFlags f seen true true rest
    else match Flag.ofChar? c with
      | none => none
      | some flag =>
        if seen.contains flag then none
        else readFlags (f.assign (!negated) flag) (flag :: seen) negated false rest

def isNameStart (c : Char) : Bool :=
  c == '_' || Unicode.alphabetic.mem c

def isNameChar (c : Char) : Bool :=
  isNameStart c || c == '.' || c == '[' || c == ']' || Unicode.number.mem c

/-- Reads a group name up to `>`. -/
def groupName (cs : List Char) : Option (String × List Char) :=
  let name := cs.takeWhile (· != '>')
  match cs.dropWhile (· != '>'), name with
  | '>' :: rest, c :: more =>
    if isNameStart c && more.all isNameChar then some (String.ofList name, rest) else none
  | _, _ => none

inductive Opening where
  /-- Flags for the rest of the enclosing group. -/
  | flags (f : Flags)
  /-- A group, numbered if it captures, and the flags inside it. -/
  | group (index : Option (Nat × Option String)) (f : Flags)

def Scope.named (s : Scope) (cs : List Char) : Option (Nat × Option String × Scope × List Char) :=
  (groupName cs).bind fun r =>
    if groupLimit ≤ s.groups || s.names.contains r.1 then none
    else some (s.groups + 1, some r.1, ⟨s.groups + 1, r.1 :: s.names⟩, r.2)

/-- Reads what follows an opening parenthesis. -/
def opening (f : Flags) (s : Scope) (cs : List Char) : Option (Opening × Scope × List Char) :=
  match f.skip cs with
  | '?' :: '=' :: _ => none
  | '?' :: '!' :: _ => none
  | '?' :: '<' :: '=' :: _ => none
  | '?' :: '<' :: '!' :: _ => none
  | '?' :: 'P' :: '<' :: rest =>
    (s.named rest).map fun r => (.group (some (r.1, r.2.1)) f, r.2.2.1, r.2.2.2)
  | '?' :: '<' :: rest =>
    (s.named rest).map fun r => (.group (some (r.1, r.2.1)) f, r.2.2.1, r.2.2.2)
  | '?' :: rest =>
    match readFlags f [] false false rest with
    | some (g, blank, ')' :: rest) => if blank then none else some (.flags g, s, rest)
    | some (g, _, ':' :: rest) => some (.group none g, s, rest)
    | _ => none
  | rest =>
    if groupLimit ≤ s.groups then none
    else some (.group (some (s.groups + 1, none)) f, { s with groups := s.groups + 1 }, rest)

/-- Decimal digits, between which extended notation allows space. -/
def decimalDigits (f : Flags) : (fuel : Nat) → List Char → List Char → List Char × List Char
  | 0, digits, cs => (digits.reverse, cs)
  | fuel + 1, digits, cs =>
    match cs with
    | c :: rest =>
      if c.isDigit then decimalDigits f fuel (c :: digits) (f.skip rest) else (digits.reverse, cs)
    | [] => (digits.reverse, [])

/-- Reads a number between blanks: none if there are no digits, and the number is none if
it does not fit 32 bits. -/
def decimal (f : Flags) (cs : List Char) : Option (Option Nat) × List Char :=
  let cs := cs.dropWhile isBlank
  let (digits, rest) := decimalDigits f (cs.length + 1) [] cs
  let rest := f.skip (rest.dropWhile isBlank)
  if digits.isEmpty then (none, rest)
  else
    let n := digits.foldl (fun n c => n * 10 + (c.toNat - 48)) 0
    (some (if n < 0x100000000 then some n else none), rest)

/-- Reads the bounds of a counted repetition after its brace, and the brace that closes it. -/
def bounds (f : Flags) (cs : List Char) : Option (Nat × Option Nat × List Char) :=
  match decimal f (f.skip cs) with
  | (some (some least), '\x7d' :: rest) => some (least, some least, rest)
  | (some (some least), ',' :: rest) =>
    match f.skip rest with
    | '\x7d' :: rest => some (least, none, rest)
    | rest =>
      match decimal f rest with
      | (some (some most), '\x7d' :: rest) =>
        if least ≤ most then some (least, some most, rest) else none
      | _ => none
  | _ => none

/-- Whether a question mark makes the repetition prefer fewer rounds. -/
def laziness (f : Flags) (cs : List Char) : Bool × List Char :=
  match cs with
  | '?' :: rest => (f.swapGreed, rest)
  | _ => (!f.swapGreed, cs)

/-- Reads a repetition operator. -/
def repetitionOp (f : Flags) (cs : List Char) : Option (Nat × Option Nat × Bool × List Char) :=
  match cs with
  | '?' :: rest => let r := laziness f rest; some (0, some 1, r.1, r.2)
  | '*' :: rest => let r := laziness f rest; some (0, none, r.1, r.2)
  | '+' :: rest => let r := laziness f rest; some (1, none, r.1, r.2)
  | '\x7b' :: rest =>
    (bounds f rest).map fun b => let r := laziness f (f.skip b.2.2); (b.1, b.2.1, r.1, r.2)
  | _ => none

def isRepetition (c : Char) : Bool :=
  c == '?' || c == '*' || c == '+' || c == '\x7b'

/-- Reads a primitive outside brackets. -/
def primitive (f : Flags) (c : Char) (rest : List Char) : Option (Primitive × List Char) :=
  if c = '\\' then escape f rest
  else if c = '.' then some (.dot, rest)
  else if c = '^' then some (.look f.lineStart, rest)
  else if c = '$' then some (.look f.lineEnd, rest)
  else some (.char c, rest)

def Piece.enclose (index : Option (Nat × Option String)) (body : Piece) : Piece :=
  match index with
  | none => { expr := body.expr, depth := body.depth + 1 }
  | some (i, name) => { expr := .group i name body.expr, depth := body.depth + 1 }

/-- Reads branches up to a closing parenthesis or the end. The pieces of the branch being
read and the finished branches are held last first. -/
def readBranches :
    (fuel : Nat) → Flags → Scope → List Piece → List Piece → List Char →
      Option (Piece × Scope × List Char)
  | 0, _, _, _, _, _ => none
  | fuel + 1, f, s, pieces, done, cs =>
    match f.skip cs with
    | [] => some (.choice (.sequence pieces :: done), s, [])
    | c :: rest =>
      if c = ')' then some (.choice (.sequence pieces :: done), s, c :: rest)
      else if c = '|' then readBranches fuel f s [] (.sequence pieces :: done) rest
      else if c = '(' then
        (opening f s rest).bind fun o =>
          match o with
          | (.flags g, s, rest) =>
            readBranches fuel g s ({ expr := .empty, repeatable := false } :: pieces) done rest
          | (.group index g, s, rest) =>
            (readBranches fuel g s [] [] rest).bind fun r =>
              match r with
              | (body, s, ')' :: rest) =>
                readBranches fuel f s (body.enclose index :: pieces) done rest
              | _ => none
      else if c = '[' then
        (bracket f rest).bind fun r =>
          readBranches fuel f s
            ({ expr := .ofSet r.1.chars, depth := r.1.depth } :: pieces) done r.2
      else if isRepetition c then
        match pieces with
        | [] => none
        | p :: before =>
          if p.repeatable then
            (repetitionOp f (c :: rest)).bind fun r =>
              readBranches fuel f s (p.repeated r.1 r.2.1 r.2.2.1 :: before) done r.2.2.2
          else none
      else
        (primitive f c rest).bind fun r =>
          (r.1.expr? f).bind fun e => readBranches fuel f s ({ expr := e } :: pieces) done r.2

/-- Reads a whole pattern. -/
def parse (source : List Char) : Option Expr :=
  match readBranches (source.length + 1) {} {} [] [] source with
  | some (piece, _, []) => if piece.depth ≤ nestLimit then some piece.expr else none
  | _ => none

end Codemod.Pattern
