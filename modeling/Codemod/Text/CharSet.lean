/-! Sets of characters as increasing lists of code-point runs.
The operations keep the runs apart and in order, so that two sets with the same
members have the same runs; membership stops at the first run beyond the character. -/

namespace Codemod

/-- A set of characters: runs of code points, both ends included, in increasing order. -/
structure CharSet where
  runs : List (Nat × Nat)
deriving DecidableEq, Inhabited

namespace CharSet

def inRuns : List (Nat × Nat) → Nat → Bool
  | [], _ => false
  | (lo, hi) :: rest, n => decide (lo ≤ n) && (decide (n ≤ hi) || inRuns rest n)

def mem (s : CharSet) (c : Char) : Bool :=
  inRuns s.runs c.toNat

/-- Adds a run and merges it with the runs that it meets or touches. -/
def insertRun : Nat × Nat → List (Nat × Nat) → List (Nat × Nat)
  | run, [] => [run]
  | (lo, hi), (a, b) :: rest =>
    if hi + 1 < a then (lo, hi) :: (a, b) :: rest
    else if b + 1 < lo then (a, b) :: insertRun (lo, hi) rest
    else insertRun (min lo a, max hi b) rest

/-- The runs between `start` and `limit` that the given runs leave free. -/
def gaps (start limit : Nat) : List (Nat × Nat) → List (Nat × Nat)
  | [] => if start ≤ limit then [(start, limit)] else []
  | (lo, hi) :: rest =>
    if start < lo then (start, lo - 1) :: gaps (hi + 1) limit rest
    else gaps (hi + 1) limit rest

def empty : CharSet := ⟨[]⟩

def isEmpty (s : CharSet) : Bool := s.runs.isEmpty

def ofRuns (runs : List (Nat × Nat)) : CharSet :=
  ⟨runs.foldr insertRun []⟩

def range (lo hi : Char) : CharSet := ⟨[(lo.toNat, hi.toNat)]⟩

def single (c : Char) : CharSet := range c c

def union (s t : CharSet) : CharSet :=
  ⟨s.runs.foldr insertRun t.runs⟩

/-- Every character outside the set; the surrogate code points are no characters. -/
def complement (s : CharSet) : CharSet :=
  ⟨gaps 0 0x10FFFF (insertRun (0xD800, 0xDFFF) s.runs)⟩

def all : CharSet := complement empty

def inter (s t : CharSet) : CharSet :=
  complement (union (complement s) (complement t))

def diff (s t : CharSet) : CharSet :=
  inter s (complement t)

def symmDiff (s t : CharSet) : CharSet :=
  union (diff s t) (diff t s)

/-- The only member, if there is just one. -/
def single? (s : CharSet) : Option Char :=
  match s.runs with
  | [(lo, hi)] => if lo = hi then some (Char.ofNat lo) else none
  | _ => none

/-- No member lies beyond ASCII. -/
def isAscii (s : CharSet) : Bool :=
  s.runs.all fun run => decide (run.2 < 128)

theorem mem_range (lo hi c : Char) :
    (range lo hi).mem c = (decide (lo.toNat ≤ c.toNat) && decide (c.toNat ≤ hi.toNat)) := by
  simp [mem, range, inRuns]

theorem mem_single (a c : Char) : (single a).mem c = decide (a = c) := by
  rw [single, mem_range, ← Bool.decide_and]
  apply decide_eq_decide.mpr
  constructor
  · intro h
    exact Char.toNat_inj.mp (Nat.le_antisymm h.1 h.2)
  · rintro rfl
    exact ⟨Nat.le_refl _, Nat.le_refl _⟩

end CharSet

end Codemod
