import Codemod.Batch

/-! Workers, who process the files of a batch at the same time.
The work on a file is two steps: it is read, and it is committed. Workers take the steps of
different files in any order, and give the events in the order of the files. -/

namespace Codemod.Batch

/-- How far the work on a path has come. -/
inductive Work where
  | waiting
  | loaded (content : Except FileError (List Char))
  | done (event : Event)

/-- A batch under way: the state of the store, and every path with its work, in order. -/
structure Running (σ : Type) where
  state : σ
  work : List (Path × Work)

section Steps

variable {σ : Type} (store : Store σ) (sets : List RuleSet) (o : Options)

/-- The next step on a path. -/
def Work.next (p : Path) : Work → σ → Work × σ
  | .waiting, s => (.loaded (readSource store p s), s)
  | .loaded content, s =>
    let (event, s) := finish store sets o p content s
    (.done event, s)
  | .done event, s => (.done event, s)

/-- Some worker takes the next step on the path at a position. -/
def Running.turn (r : Running σ) (i : Nat) : Running σ :=
  match r.work[i]? with
  | none => r
  | some (p, w) =>
    let (w, s) := w.next store sets o p r.state
    ⟨s, r.work.set i (p, w)⟩

/-- Workers take steps in some order, which is given by the positions of the paths. -/
def Running.interleave (r : Running σ) (schedule : List Nat) : Running σ :=
  schedule.foldl (fun r i => r.turn store sets o i) r

end Steps

namespace Running

variable {σ : Type}

/-- Before the first step. -/
def start (paths : List Path) (s : σ) : Running σ :=
  ⟨s, paths.map fun p => (p, .waiting)⟩

/-- The events so far, in the order of the paths. -/
def events (r : Running σ) : List Event :=
  r.work.filterMap fun item =>
    match item.2 with
    | .done event => some event
    | _ => none

end Running

/-- What workers make of files if they take turns in some order. -/
def pool {σ : Type} (store : Store σ) (sets : List RuleSet) (o : Options) (turns : List Nat)
    (paths : List Path) (s : σ) : List Event × σ :=
  let final := (Running.start paths s).interleave store sets o turns
  (final.events, final.state)

/-- The order in which workers take turns, by how many files there are. Each file has the turns that
it needs. -/
structure Schedule where
  turns : Nat → List Nat
  complete : ∀ count, ∀ i < count, 2 ≤ (turns count).count i

/-- Both steps of one path after the other, path by path from a position on. -/
def sequential (first count : Nat) : List Nat :=
  (List.range' first count).flatMap fun i => [i, i]

theorem two_le_count_sequential {count i : Nat} (h : i < count) :
    2 ≤ (sequential 0 count).count i := by
  have part : [i, i].Sublist (sequential 0 count) := by
    rw [sequential, List.flatMap_def]
    exact List.sublist_flatten_of_mem
      (List.mem_map_of_mem (List.mem_range'_1.mpr ⟨Nat.zero_le i, by omega⟩))
  simpa using part.count_le i

namespace Schedule

/-- One file after the other. -/
def inOrder : Schedule where
  turns := sequential 0
  complete _ _ := two_le_count_sequential

/-- Workers that follow a schedule. -/
def workers {σ : Type} (schedule : Schedule) (store : Store σ) (sets : List RuleSet) (o : Options)
    (paths : List Path) (s : σ) : List Event × σ :=
  pool store sets o (schedule.turns paths.length) paths s

end Schedule

end Codemod.Batch
