import Codemod.Pattern.Look

/-! Pattern expressions in simplified form.
`concat`, `alternation`, `repetition` and `ofSet` are the only ways to combine
expressions: neighbouring literals are one literal, sequences and alternatives are flat
and nested to the right, alternatives of single characters are one set, and a sequence
that all alternatives begin with stands before them. -/

namespace Codemod.Pattern

inductive Expr where
  | empty
  | literal (chars : List Char)
  | set (chars : CharSet)
  | look (condition : Look)
  | group (index : Nat) (name : Option String) (body : Expr)
  | repeated (least : Nat) (most : Option Nat) (greedy : Bool) (body : Expr)
  | cat (first rest : Expr)
  | alt (first rest : Expr)
deriving DecidableEq

namespace Expr

/-- The parts of a sequence. -/
def items : Expr → List Expr
  | .empty => []
  | .cat first rest => first :: items rest
  | e => [e]

/-- The branches of a choice. -/
def branches : Expr → List Expr
  | .alt first rest => first :: branches rest
  | e => [e]

def ofItems : List Expr → Expr
  | [] => .empty
  | [e] => e
  | e :: rest => .cat e (ofItems rest)

def ofBranches : List Expr → Expr
  | [] => .set .empty
  | [e] => e
  | e :: rest => .alt e (ofBranches rest)

/-- Puts a part before a sequence, joining literals. -/
def consItem : Expr → List Expr → List Expr
  | .literal a, .literal b :: rest => .literal (a ++ b) :: rest
  | e, rest => e :: rest

def concat (parts : List Expr) : Expr :=
  ofItems ((parts.flatMap items).foldr consItem [])

/-- A set of one character is a literal. -/
def ofSet (s : CharSet) : Expr :=
  match s.single? with
  | some c => .literal [c]
  | none => .set s

def literalChar? : Expr → Option Char
  | .literal [c] => some c
  | _ => none

def set? : Expr → Option CharSet
  | .set s => some s
  | _ => none

/-- The longest list that both lists begin with. -/
def commonItems : List Expr → List Expr → List Expr
  | a :: as, b :: bs => if a = b then a :: commonItems as bs else []
  | _, _ => []

/-- What all branches begin with, if each is a sequence of at least two parts. -/
def sharedItems : List Expr → List Expr
  | [] => []
  | e :: rest =>
    if (e :: rest).all fun b => 2 ≤ b.items.length then
      rest.foldl (fun shared b => commonItems shared b.items) e.items
    else []

def size : Expr → Nat
  | .group _ _ body => body.size + 1
  | .repeated _ _ _ body => body.size + 1
  | .cat a b => a.size + b.size + 1
  | .alt a b => a.size + b.size + 1
  | _ => 1

def totalSize : List Expr → Nat
  | [] => 0
  | e :: rest => e.size + totalSize rest

/-- Alternatives in simplified form. Each round of moving a shared beginning to the front
leaves smaller branches, so `fuel` beyond their size is never used up. -/
def alternationWith : (fuel : Nat) → List Expr → Expr
  | 0, parts => ofBranches parts
  | fuel + 1, parts =>
    let parts := parts.flatMap branches
    if parts.length ≤ 1 then ofBranches parts
    else match parts.mapM literalChar? with
    | some cs => ofSet (.ofRuns (cs.map fun c => (c.toNat, c.toNat)))
    | none => match parts.mapM set? with
      | some sets => ofSet (sets.foldl .union .empty)
      | none =>
        let shared := sharedItems parts
        if shared.isEmpty then ofBranches parts
        else
          let tails := parts.map fun b => concat (b.items.drop shared.length)
          concat (shared ++ [alternationWith fuel tails])

def alternation (parts : List Expr) : Expr :=
  alternationWith (totalSize parts + 1) parts

/-- Least number of characters matched; none if nothing can match. -/
def minLength : Expr → Option Nat
  | .empty => some 0
  | .literal cs => some cs.length
  | .set s => if s.isEmpty then none else some 1
  | .look _ => some 0
  | .group _ _ body => body.minLength
  | .repeated least _ _ body => body.minLength.map (· * least)
  | .cat a b => do return (← a.minLength) + (← b.minLength)
  | .alt a b => do return min (← a.minLength) (← b.minLength)

/-- Greatest number of characters matched; none if there is no bound. -/
def maxLength : Expr → Option Nat
  | .empty => some 0
  | .literal cs => some cs.length
  | .set s => if s.isEmpty then none else some 1
  | .look _ => some 0
  | .group _ _ body => body.maxLength
  | .repeated _ most _ body => do return (← body.maxLength) * (← most)
  | .cat a b => do return (← a.maxLength) + (← b.maxLength)
  | .alt a b => do return max (← a.maxLength) (← b.maxLength)

/-- Some repetition is known to consume a character each time. -/
def consumes (e : Expr) : Bool :=
  e.minLength.any (0 < ·)

/-- Repetition in simplified form: what matches the empty text only is tried once at most. -/
def repetition (least : Nat) (most : Option Nat) (greedy : Bool) (body : Expr) : Expr :=
  let blank := body.maxLength == some 0
  let least := if blank then min least 1 else least
  let most := if blank then some ((most.map (min · 1)).getD 1) else most
  if least = 0 ∧ most = some 0 then .empty
  else if least = 1 ∧ most = some 1 then body
  else .repeated least most greedy body

/-- The groups of an expression with their names. -/
def groups : Expr → List (Nat × Option String)
  | .group index name body => (index, name) :: groups body
  | .repeated _ _ _ body => groups body
  | .cat a b => groups a ++ groups b
  | .alt a b => groups a ++ groups b
  | _ => []

end Expr

end Codemod.Pattern
