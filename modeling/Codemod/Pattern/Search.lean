import Codemod.Pattern.Node

/-! Matching by preference.
A pattern tries its ways through the text in a fixed order, and the first way that reaches
the end of the pattern is its match. Within one place a loop does not start a further
round that consumes nothing, and a choice is not entered twice.

The text is read from its end to its start. When place `p` is reached, the note at a leaf
is what follows after that leaf consumed the character at `p`; `enter` computes from the
notes how a node fares at `p`, and `annotate` the notes for the place before. So every
place costs one pass over the pattern, whatever the text is. -/

namespace Codemod.Pattern

/-- A group opened or closed at an offset. -/
inductive Mark where
  | opened (group offset : Nat)
  | closed (group offset : Nat)
deriving DecidableEq

/-- The marks set on the way to the end of the pattern, if there is a way. -/
abbrev Outcome := Option (List Mark)

/-- A place in a text: its offset and the characters around it. -/
structure Place where
  offset : Nat
  before : Option Char
  after : Option Char

def placesFrom : Nat → Option Char → List Char → List Place
  | offset, before, [] => [⟨offset, before, none⟩]
  | offset, before, c :: rest => ⟨offset, before, some c⟩ :: placesFrom (offset + 1) (some c) rest

/-- All places of a text, from its start to its end. -/
def places (text : List Char) : List Place :=
  placesFrom 0 none text

namespace Outcome

def opening (index : Nat) (p : Place) (k : Outcome) : Outcome :=
  k.map (.opened index p.offset :: ·)

def closing (index : Nat) (p : Place) (k : Outcome) : Outcome :=
  k.map (.closed index p.offset :: ·)

/-- The first outcome is preferred if `greedy`, else the second. -/
def prefer (greedy : Bool) (again leave : Outcome) : Outcome :=
  if greedy then again.or leave else leave.or again

end Outcome

/-- How a node fares at a place, whatever leaving it there leads to: what comes before the
first way that leaves it without consuming anything, the marks set on that way, and what
comes after. -/
structure Passage where
  before : Outcome
  through : Option (List Mark)
  after : Outcome

namespace Passage

/-- The outcome of a node, where `k` is the outcome of leaving it at the same place. -/
def outcome (s : Passage) (k : Outcome) : Outcome :=
  s.before.or ((s.through.bind fun marks => k.map (marks ++ ·)).or s.after)

/-- There is no way to leave without consuming. -/
def fixed (k : Outcome) : Passage := ⟨k, none, none⟩

def idle : Passage := ⟨none, some [], none⟩

def marking (m : Mark) : Passage := ⟨none, some [m], none⟩

/-- Marks of one place in order; one that is set again later need not be kept. -/
def joinMarks (first second : List Mark) : List Mark :=
  first.filter (fun m => !second.contains m) ++ second

/-- One passage, and where it is left the other. -/
def andThen (s t : Passage) : Passage :=
  match s.before, s.through with
  | none, some marks =>
    ⟨t.before.map (marks ++ ·), t.through.map (joinMarks marks),
      (t.after.map (marks ++ ·)).or s.after⟩
  | _, _ => s

/-- The ways of one passage, then those of the other. -/
def orElse (s t : Passage) : Passage :=
  match s.through with
  | some marks => ⟨s.before, some marks, s.after.or (t.outcome none)⟩
  | none => ⟨s.before.or (s.after.or t.before), t.through, t.after⟩

/-- The passage from entering the body of a loop again to leaving the loop, where `s` leads
on from leaving it: going round again is preferred if `greedy`, else leaving is. -/
def orAgain (greedy : Bool) (s : Passage) : Passage :=
  if greedy then ⟨none, some [], s.outcome none⟩
  else match s.through with
    | some _ => s
    | none => ⟨s.outcome none, some [], none⟩

end Passage

namespace Node

/-- The outcome of a node entered at a place, where `k` is the outcome of leaving the node
at the same place. A loop whose body consumed nothing is left at once. -/
def enter (p : Place) : Node Outcome → Outcome → Outcome
  | .empty, k => k
  | .set chars note, _ => if p.after.any chars.mem then note else none
  | .look l, k => if l.holds p.before p.after then k else none
  | .group index body, k => (enter p body (k.closing index p)).opening index p
  | .cat a b, k => enter p a (enter p b k)
  | .alt a b, k => (enter p a k).or (enter p b k)
  | .star greedy body, k => Outcome.prefer greedy (enter p body none) k
  | .plus _ body, _ => enter p body none
  | .loop _ body, k => enter p body k

/-- What `enter` computes and, for notes inside the body of a loop that may consume
nothing, the notes for the place before. A way that comes from a leaf of the node, consumes
nothing more and starts the loop again finds the choices behind it closed: the passage
given for the notes leads from entering the node once more under that restriction to
leaving it. -/
def survey (p : Place) : Node Outcome → Passage × (Passage → Node Outcome)
  | .empty => (.idle, fun _ => .empty)
  | .set chars note =>
    let taken := if p.after.any chars.mem then note else none
    (.fixed taken, fun leave => .set chars (leave.outcome taken))
  | .look l => (if l.holds p.before p.after then .idle else .fixed none, fun _ => .look l)
  | .group index body =>
    let r := survey p body
    let opens := Passage.marking (.opened index p.offset)
    let closes := Passage.marking (.closed index p.offset)
    (opens.andThen (r.1.andThen closes),
      fun leave => .group index (r.2 (closes.andThen (leave.andThen opens))))
  | .cat a b =>
    let ra := survey p a
    let rb := survey p b
    (ra.1.andThen rb.1,
      fun leave => .cat (ra.2 (rb.1.andThen leave)) (rb.2 (leave.andThen ra.1)))
  | .alt a b =>
    let ra := survey p a
    let rb := survey p b
    (ra.1.orElse rb.1,
      fun leave =>
        .alt (ra.2 (leave.andThen ⟨none, some [], rb.1.outcome none⟩))
          (rb.2 (leave.andThen ⟨ra.1.outcome none, some [], none⟩)))
  | .star greedy body =>
    let r := survey p body
    let again := r.1.outcome none
    (if greedy then ⟨again, some [], none⟩ else ⟨none, some [], again⟩,
      fun leave =>
        .star greedy (r.2 (.fixed (Outcome.prefer greedy again (leave.outcome none)))))
  | .plus greedy body =>
    let r := survey p body
    let again := r.1.outcome none
    (.fixed again,
      fun leave =>
        .plus greedy (r.2 (.fixed (Outcome.prefer greedy again (leave.outcome again)))))
  | .loop greedy body =>
    let r := survey p body
    (r.1, fun leave => .loop greedy (r.2 (leave.orAgain greedy)))

/-- The outcome of entering a node and its notes for the place before, where `k` is the
outcome of leaving the node at this place. -/
def annotate (p : Place) : Node Outcome → Outcome → Outcome × Node Outcome
  | .empty, k => (k, .empty)
  | .set chars note, k => (if p.after.any chars.mem then note else none, .set chars k)
  | .look l, k => (if l.holds p.before p.after then k else none, .look l)
  | .group index body, k =>
    let r := annotate p body (k.closing index p)
    (r.1.opening index p, .group index r.2)
  | .cat a b, k =>
    let rb := annotate p b k
    let ra := annotate p a rb.1
    (ra.1, .cat ra.2 rb.2)
  | .alt a b, k =>
    let ra := annotate p a k
    let rb := annotate p b k
    (ra.1.or rb.1, .alt ra.2 rb.2)
  | .star greedy body, k =>
    let v := Outcome.prefer greedy (enter p body none) k
    (v, .star greedy (annotate p body v).2)
  | .plus greedy body, k =>
    let again := enter p body none
    (again, .plus greedy (annotate p body (Outcome.prefer greedy again k)).2)
  | .loop greedy body, k =>
    (enter p body k, .loop greedy ((survey p body).2 ((Passage.fixed k).orAgain greedy)))

/-- The outcome of the whole pattern at each place, from the start of the text. -/
def sweep (root : Node Outcome) (text : List Char) : List Outcome :=
  ((places text).foldr (fun p state =>
    let r := annotate p state.1 (some [])
    (r.2, r.1 :: state.2)) (root, [])).2

end Node

end Codemod.Pattern
