import Codemod.Proofs.Batch.Reporting
import Codemod.Proofs.Text.Utf8
import Mathlib.Data.List.Forall2

/-! What a dry run says about a run.
A dry run reads each file and revises it, and writes nothing, so that the order of turns makes no
difference to it. A run in the same tree reads and revises the same, if its paths are independent:
what it wrote before does not concern a later path. So its events are those of the dry run, but for
writes that fail, whatever the orders of turns in both. -/

namespace Codemod

/-- A store that is as it was after every write. -/
def Store.Still {σ : Type} (store : Store σ) : Prop :=
  ∀ p content s, (store.write p content s).2 = s

theorem Store.still_dryRun : Store.dryRun.Still :=
  fun _ _ _ => rfl

namespace Batch

open FileTree

section Still

variable {σ : Type} {store : Store σ} (h : store.Still) {sets : List RuleSet} {o : Options}
include h

theorem commit_still (p : Path) (loaded revised : List Char) (s : σ) :
    (commit store p loaded revised s).2 = s := by
  have hwrite := h p revised s
  rw [commit]
  split_ifs
  · rfl
  · rcases hdone : store.write p revised s with ⟨_ | _, after⟩ <;> simpa [hdone] using hwrite

theorem finish_still (p : Path) (loaded : Except FileError (List Char)) (s : σ) :
    (finish store sets o p loaded s).2 = s := by
  cases loaded with
  | error cause => rfl
  | ok text =>
    rw [finish_ok]
    exact commit_still h p _ _ s

theorem process_still (p : Path) (s : σ) : (process store sets o p s).2 = s :=
  finish_still h p _ s

end Still

/-- A batch under way whose store is as it was: each path was read in the first state, or has the
event that it has there. -/
structure Undisturbed {σ : Type} (store : Store σ) (sets : List RuleSet) (o : Options) (s : σ)
    (r : Running σ) : Prop where
  state : r.state = s
  work : ∀ item ∈ r.work, item.2 = .waiting ∨ item.2 = .loaded (readSource store item.1 s) ∨
    item.2 = .done (process store sets o item.1 s).1

section Undisturbed

variable {σ : Type} {store : Store σ} (h : store.Still) {sets : List RuleSet} {o : Options}
include h

theorem Undisturbed.turn {s : σ} {r : Running σ} (hr : Undisturbed store sets o s r) (i : Nat) :
    Undisturbed store sets o s (r.turn store sets o i) := by
  cases hitem : r.work[i]? with
  | none =>
    rw [Running.turn, hitem]
    exact hr
  | some item =>
    obtain ⟨p, w⟩ := item
    have hset {w' : Work} (hw' : w' = .loaded (readSource store p s) ∨
        w' = .done (process store sets o p s).1) :
        Undisturbed store sets o s ⟨s, r.work.set i (p, w')⟩ := by
      refine ⟨rfl, fun item hmem => ?_⟩
      rcases List.mem_or_eq_of_mem_set hmem with hold | rfl
      · exact hr.work item hold
      · exact .inr hw'
    rw [turn_of_some hitem, hr.state]
    have hwork : w = .waiting ∨ w = .loaded (readSource store p s) ∨
        w = .done (process store sets o p s).1 := hr.work (p, w) (List.mem_of_getElem? hitem)
    rcases hwork with rfl | rfl | rfl
    · exact hset (.inl rfl)
    · have hlast : finish store sets o p (readSource store p s) s = process store sets o p s := rfl
      rw [Work.next, hlast, process_still h]
      exact hset (.inr rfl)
    · exact hset (.inr rfl)

theorem Undisturbed.interleave {s : σ} {r : Running σ} (hr : Undisturbed store sets o s r)
    (turns : List Nat) : Undisturbed store sets o s (r.interleave store sets o turns) := by
  induction turns generalizing r with
  | nil => exact hr
  | cons i rest ih => exact ih (hr.turn h i)

/-- Workers of a store that is as it was after every write read each path in the first state, in
whatever order they take their turns. -/
theorem pool_still {paths : List Path} {turns : List Nat}
    (hturns : ∀ i < paths.length, 2 ≤ turns.count i) (s : σ) :
    pool store sets o turns paths s = (paths.map fun p => (process store sets o p s).1, s) := by
  let final := (Running.start paths s).interleave store sets o turns
  have hstart : Undisturbed store sets o s (.start paths s) := by
    refine ⟨rfl, fun item hitem => ?_⟩
    obtain ⟨p, -, rfl⟩ := List.mem_map.mp hitem
    exact .inl rfl
  have hfinal : Undisturbed store sets o s final := hstart.interleave h turns
  have complete : final.Complete := complete_interleave store sets o s hturns
  have hpaths : final.work.map Prod.fst = paths :=
    (paths_interleave _ turns).trans (paths_start paths s)
  have hitems : ∀ item ∈ final.work, item.2 = .done (process store sets o item.1 s).1 := by
    intro item hitem
    have hsteps := complete item hitem
    rcases hfinal.work item hitem with hw | hw | hw
    · rw [hw] at hsteps
      cases hsteps
    · rw [hw] at hsteps
      cases hsteps
    · exact hw
  have hevents : final.events = final.work.map fun item => (process store sets o item.1 s).1 := by
    rw [Running.events, ← List.filterMap_eq_map]
    exact List.filterMap_congr fun item hitem => by simp [hitems item hitem]
  refine Prod.ext (hevents.trans ?_) hfinal.state
  rw [← hpaths, List.map_map]
  rfl

end Undisturbed

/-- An event of a dry run, and that of a run on the same path: they differ at most in that a change
could not be written. -/
structure Foretells (checked done : Event) : Prop where
  path : checked.path = done.path
  applied : checked.applied = done.applied
  unchanged : checked.result = .unchanged ↔ done.result = .unchanged
  read : ∀ p cause, checked.result = .failed (.read p cause) ↔ done.result = .failed (.read p cause)
  encoding : ∀ p cause,
    checked.result = .failed (.encoding p cause) ↔ done.result = .failed (.encoding p cause)
  changed : checked.result = .changed →
    done.result = .changed ∨ ∃ cause, done.result = .failed (.write done.path cause)

theorem Foretells.of_failed (cause : FileError) (p : Path) :
    Foretells { path := p, result := .failed cause } { path := p, result := .failed cause } :=
  ⟨rfl, rfl, .rfl, fun _ _ => .rfl, fun _ _ => .rfl, by simp⟩

theorem commit_dryRun (p : Path) (loaded revised : List Char) (t : FileTree) :
    commit Store.dryRun p loaded revised t =
      (if revised = loaded then .unchanged else .changed, t) := by
  unfold commit
  split_ifs <;> rfl

/-- A dry run reads every path in the tree it started with, and leaves that tree. -/
theorem run_dryRun (sets : List RuleSet) (o : Options) (schedule : Schedule) (c : Candidates)
    (t : FileTree) :
    run Store.dryRun sets o schedule c t =
      (c.unreadable.map Event.failed ++ c.files.map fun p => (process Store.dryRun sets o p t).1,
        t) := by
  rw [run, pool_still Store.still_dryRun (two_le_count_of_schedule o schedule _)]

/-- On one path in one tree. -/
theorem foretells_process (sets : List RuleSet) (o o' : Options) (p : Path) (t : FileTree) :
    Foretells (process Store.dryRun sets o p t).1 (process Store.disk sets o' p t).1 := by
  have hread : readSource Store.dryRun p t = readSource Store.disk p t := rfl
  rw [process, process, hread]
  cases readSource Store.disk p t with
  | error cause => exact .of_failed cause p
  | ok text =>
    rw [finish_ok, finish_ok, commit_dryRun]
    by_cases hsame : (Pipeline.revise sets (.ofContent p text)).1.current = text
    · rw [if_pos hsame, commit, if_pos hsame]
      exact ⟨rfl, rfl, .rfl, fun _ _ => .rfl, fun _ _ => .rfl, by simp [loadedEvent]⟩
    · rw [if_neg hsame, commit_of_ne Store.disk p hsame]
      rcases Store.disk.write p (Pipeline.revise sets (.ofContent p text)).1.current t with
        ⟨_ | cause, after⟩ <;> constructor <;> simp [loadedEvent]

section Run

variable {t : FileTree} (ht : t.WellFormed) {c : Candidates} (hfiles : Independent t c.files)
  (sets : List RuleSet) (o : Options) (schedule : Schedule)
include ht hfiles

theorem exists_consistent_run :
    ∃ r, Consistent t sets o c.files r ∧ r.Complete ∧
      run Store.disk sets o schedule c t = (c.unreadable.map Event.failed ++
        c.files.map fun p => (process Store.disk sets o p t).1, r.state) := by
  obtain ⟨r, consistent, complete, hpool⟩ :=
    exists_consistent_pool ht hfiles sets o (two_le_count_of_schedule o schedule _)
  refine ⟨r, consistent, complete, ?_⟩
  rw [run, hpool, consistent.events_eq complete]

theorem run_disk_fst :
    (run Store.disk sets o schedule c t).1 =
      c.unreadable.map Event.failed ++ c.files.map fun p => (process Store.disk sets o p t).1 := by
  obtain ⟨r, -, -, hrun⟩ := exists_consistent_run ht hfiles sets o schedule
  rw [hrun]

/-- Event by event, in order. -/
theorem forall₂_foretells (o' : Options) (schedule' : Schedule) :
    List.Forall₂ Foretells (run Store.dryRun sets o' schedule' c t).1
      (run Store.disk sets o schedule c t).1 := by
  rw [run_disk_fst ht hfiles, run_dryRun]
  apply List.rel_append
  · rw [List.forall₂_map_left_iff, List.forall₂_map_right_iff, List.forall₂_same]
    exact fun cause _ => .of_failed cause cause.path
  · rw [List.forall₂_map_left_iff, List.forall₂_map_right_iff, List.forall₂_same]
    exact fun p _ => foretells_process sets o' o p t

end Run

/-- A revised file differs from what it was. -/
theorem Revises.ne {t : FileTree} {sets : List RuleSet} {p : Path} {loc : Location} {entry : Entry}
    (h : Revises t sets p loc entry) : t.get? loc ≠ some entry := by
  obtain ⟨bytes, mode, text, -, hfile, htext, hne, rfl⟩ := h
  rw [hfile]
  intro heq
  obtain ⟨rfl, -⟩ := Entry.file.inj (Option.some.inj heq)
  rw [Utf8.decode_encode] at htext
  exact hne (Except.ok.inj htext)

/-- A run leaves the tree as it was just if it changed no file. -/
theorem get?_run_eq_iff {t : FileTree} (ht : t.WellFormed) {c : Candidates}
    (hfiles : Independent t c.files) (sets : List RuleSet) (o : Options) (schedule : Schedule) :
    ((run Store.disk sets o schedule c t).2.cwd = t.cwd ∧
        (run Store.disk sets o schedule c t).2.denied = t.denied ∧
        ∀ loc, (run Store.disk sets o schedule c t).2.get? loc = t.get? loc) ↔
      ∀ e ∈ (run Store.disk sets o schedule c t).1, e.result ≠ .changed := by
  obtain ⟨r, consistent, complete, hrun⟩ := exists_consistent_run ht hfiles sets o schedule
  rw [hrun]
  constructor
  · rintro ⟨-, -, hsame⟩ e he hchanged
    rcases List.mem_append.mp he with hbefore | hfile
    · obtain ⟨cause, -, rfl⟩ := List.mem_map.mp hbefore
      cases hchanged
    · obtain ⟨p, hp, rfl⟩ := List.mem_map.mp hfile
      obtain ⟨loc, entry, hrevises⟩ :=
        exists_revises_of_changed ht (hfiles.clear p hp) hchanged
      apply hrevises.ne
      rw [← hsame loc, consistent.get?_of_changed complete hp hchanged hrevises]
  · intro hquiet
    refine ⟨consistent.shape.cwd, consistent.shape.denied, fun loc =>
      consistent.get?_of_kept complete ?_⟩
    intro p hp hchanged
    exact absurd hchanged
      (hquiet _ (List.mem_append_right _ (List.mem_map_of_mem hp)))

end Batch

end Codemod
