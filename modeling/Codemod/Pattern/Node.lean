import Codemod.Pattern.Expr

/-! Patterns with every counted repetition written out, for a text of known length.
A leaf consumes one character and carries a note of type `α`. The three loops differ in
how they begin: `star` may be skipped, `plus` and `loop` begin with their body; the bodies
of `star` and `plus` consume at least one character, that of `loop` may consume none. -/

namespace Codemod.Pattern

inductive Node (α : Type) where
  | empty
  | set (chars : CharSet) (note : α)
  | look (condition : Look)
  | group (index : Nat) (body : Node α)
  | cat (first rest : Node α)
  | alt (first rest : Node α)
  | star (greedy : Bool) (body : Node α)
  | plus (greedy : Bool) (body : Node α)
  | loop (greedy : Bool) (body : Node α)

namespace Node

variable {α : Type}

def maybe (greedy : Bool) (body : Node α) : Node α :=
  if greedy then .alt body .empty else .alt .empty body

/-- `body`, a number of times, then `rest`. -/
def copies : Nat → Node α → Node α → Node α
  | 0, _, rest => rest
  | n + 1, body, rest => .cat body (copies n body rest)

/-- `body`, at most a number of times; each further time only after the one before. -/
def upTo (greedy : Bool) : Nat → Node α → Node α
  | 0, _ => .empty
  | 1, body => maybe greedy body
  | n + 1, body => maybe greedy (.cat body (upTo greedy n body))

/-- `body`, at least once; `consumes` says that it never matches the empty text. -/
def many (greedy consumes : Bool) (body : Node α) : Node α :=
  if consumes then .plus greedy body else .loop greedy body

/-- `body`, any number of times. -/
def any (greedy consumes : Bool) (body : Node α) : Node α :=
  if consumes then .star greedy body else maybe greedy (.loop greedy body)

def literal (note : α) : List Char → Node α
  | [] => .empty
  | [c] => .set (.single c) note
  | c :: rest => .cat (.set (.single c) note) (literal note rest)

/-- `body`, between `least` and `most` times, for a text with `room` characters. What
consumes a character each time is not written out more than `room + 1` times: the text ends
before. -/
def ofRepeated (room least : Nat) (most : Option Nat) (greedy consumes : Bool) (body : Node α) :
    Node α :=
  let within (count : Nat) : Nat := if consumes then min count (room + 1) else count
  match within least, most.map within with
  | 0, none => any greedy consumes body
  | n + 1, none => copies n body (many greedy consumes body)
  | 0, some most => upTo greedy most body
  | n + 1, some most =>
    if most ≤ n + 1 then copies n body body
    else copies (n + 1) body (upTo greedy (most - (n + 1)) body)

/-- Writes an expression out for a text with `room` characters, with the same note at every
leaf. -/
def ofExpr (room : Nat) (note : α) : Expr → Node α
  | .empty => .empty
  | .literal cs => literal note cs
  | .set s => .set s note
  | .look l => .look l
  | .group index _ body => .group index (ofExpr room note body)
  | .repeated least most greedy body =>
    ofRepeated room least most greedy body.consumes (ofExpr room note body)
  | .cat a b => .cat (ofExpr room note a) (ofExpr room note b)
  | .alt a b => .alt (ofExpr room note a) (ofExpr room note b)

end Node

end Codemod.Pattern
