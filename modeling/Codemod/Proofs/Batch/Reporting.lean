import Codemod.Console
import Codemod.Proofs.Batch.Interleaving
import Codemod.Proofs.Batch.Writing

/-! What is reported about a batch.
Whether files are processed one after the other or at the same time, the reporter hears of the
events in the order of the files, and then of their summary. If no file concerns another one, these
are the events that the files have alone, and so is what the files hold in the end, in whatever
order workers take their turns. -/

namespace Codemod

def FileResult.isFailed : FileResult → Bool
  | .failed _ => true
  | _ => false

theorem FileResult.eq_unchanged_iff (r : FileResult) :
    r = .unchanged ↔ r.isFailed = false ∧ r ≠ .changed := by
  cases r <;> simp [isFailed]

namespace Summary

theorem foldl_record (events : List Event) (s : Summary) :
    events.foldl (fun s e => s.record e.result) s =
      { changed := s.changed + events.countP fun e => e.result = .changed
        unchanged := s.unchanged + events.countP fun e => e.result = .unchanged
        failed := s.failed + events.countP fun e => e.result.isFailed } := by
  induction events generalizing s with
  | nil => rfl
  | cons e rest ih =>
    rw [List.foldl_cons, ih]
    rcases h : e.result with _ | _ | cause <;>
      simp [record, h, FileResult.isFailed, Nat.add_assoc, Nat.add_comm 1]

/-- A summary counts the events of each result. -/
theorem ofEvents_eq (events : List Event) :
    ofEvents events =
      { changed := events.countP fun e => e.result = .changed
        unchanged := events.countP fun e => e.result = .unchanged
        failed := events.countP fun e => e.result.isFailed } := by
  simp [ofEvents, foldl_record]

end Summary

namespace Batch

section Drive

variable {σ ρ : Type}

/-- A reporter that has heard of some events. -/
def reported (reporter : Reporter ρ) (events : List Event) (r : ρ) : ρ :=
  events.foldl (fun r e => reporter.report e r) r

theorem foldl_tally (reporter : Reporter ρ) (events : List Event) (counted : Summary × ρ) :
    events.foldl (tally reporter) counted =
      (events.foldl (fun s e => s.record e.result) counted.1,
        reported reporter events counted.2) := by
  induction events generalizing counted with
  | nil => rfl
  | cons e rest ih => exact ih (tally reporter counted e)

/-- Reporting each file when it is done is reporting all of them when all are done. -/
theorem processEach_eq (store : Store σ) (reporter : Reporter ρ) (sets : List RuleSet)
    (o : Options) (paths : List Path) (counted : Summary × ρ) (s : σ) :
    processEach store reporter sets o paths counted s =
      ((processAll store sets o paths s).1.foldl (tally reporter) counted,
        (processAll store sets o paths s).2) := by
  induction paths generalizing counted s with
  | nil => rfl
  | cons p rest ih => exact ih _ _

/-- Who processes the files of a batch. -/
def handling (store : Store σ) (sets : List RuleSet) (o : Options)
    (workers : List Path → σ → List Event × σ) : List Path → σ → List Event × σ :=
  if o.parallel then workers else processAll store sets o

/-- The reporter hears of what could not be read, of the files, and of the summary of both. -/
theorem drive_eq (store : Store σ) (reporter : Reporter ρ) (sets : List RuleSet) (o : Options)
    (workers : List Path → σ → List Event × σ) (c : Candidates) (s : σ) (r : ρ) :
    drive store reporter sets o workers c s r =
      let done := handling store sets o workers c.files s
      let events := c.unreadable.map Event.failed ++ done.1
      (.ofEvents events, reporter.finish (.ofEvents events) (reported reporter events r),
        done.2) := by
  have both (events : List Event) :
      events.foldl (tally reporter)
          ((c.unreadable.map Event.failed).foldl (tally reporter) ({}, r)) =
        (.ofEvents (c.unreadable.map Event.failed ++ events),
          reported reporter (c.unreadable.map Event.failed ++ events) r) := by
    rw [← List.foldl_append, foldl_tally]
    rfl
  rw [drive, handling]
  split_ifs with hparallel
  · simp only [both]
  · simp only [processEach_eq, both]

theorem processAll_eq_pool (store : Store σ) (sets : List RuleSet) (o : Options)
    (paths : List Path) (s : σ) :
    processAll store sets o paths s = pool store sets o (sequential 0 paths.length) paths s := by
  obtain ⟨hstate, hevents⟩ := interleave_sequential store sets o paths [] s
  exact Prod.ext hevents.symm hstate.symm

/-- The order of the turns in a batch: that of the workers, or one file after the other. -/
def turnsOf (o : Options) (schedule : List Nat) (count : Nat) : List Nat :=
  if o.parallel then schedule else sequential 0 count

theorem two_le_count_turnsOf (o : Options) {schedule : List Nat} {count : Nat}
    (h : ∀ i < count, 2 ≤ schedule.count i) :
    ∀ i < count, 2 ≤ (turnsOf o schedule count).count i := by
  intro i hi
  rw [turnsOf]
  split_ifs
  · exact h i hi
  · exact two_le_count_sequential hi

theorem handling_pool (store : Store σ) (sets : List RuleSet) (o : Options) (schedule : List Nat)
    (paths : List Path) (s : σ) :
    handling store sets o (pool store sets o schedule) paths s =
      pool store sets o (turnsOf o schedule paths.length) paths s := by
  rw [handling, turnsOf]
  split_ifs with hparallel
  · rfl
  · exact processAll_eq_pool store sets o paths s

/-- What a batch comes to if its workers follow a schedule: the events of what could not be read,
then those of the files, and the state. -/
def run (store : Store σ) (sets : List RuleSet) (o : Options) (schedule : Schedule)
    (c : Candidates) (s : σ) : List Event × σ :=
  let turns := turnsOf o (schedule.turns c.files.length) c.files.length
  let done := pool store sets o turns c.files s
  (c.unreadable.map Event.failed ++ done.1, done.2)

theorem two_le_count_of_schedule (o : Options) (schedule : Schedule) (count : Nat) :
    ∀ i < count, 2 ≤ (turnsOf o (schedule.turns count) count).count i :=
  two_le_count_turnsOf o (schedule.complete count)

theorem drive_workers (store : Store σ) (reporter : Reporter ρ) (sets : List RuleSet)
    (o : Options) (schedule : Schedule) (c : Candidates) (s : σ) (r : ρ) :
    drive store reporter sets o (schedule.workers store sets o) c s r =
      let done := run store sets o schedule c s
      (.ofEvents done.1, reporter.finish (.ofEvents done.1) (reported reporter done.1 r),
        done.2) := by
  have hfollow : handling store sets o (schedule.workers store sets o) c.files s =
      handling store sets o (pool store sets o (schedule.turns c.files.length)) c.files s := by
    rw [handling, handling]
    split_ifs <;> rfl
  rw [drive_eq, hfollow, handling_pool]
  rfl

end Drive

section Alone

variable {t : FileTree}

theorem process_of_verify {σ : Type} (store : Store σ) (sets : List RuleSet) {o o' : Options}
    (h : o'.verify = o.verify) (p : Path) (s : σ) :
    process store sets o' p s = process store sets o p s := by
  simp only [process, finish, h]

theorem Consistent.of_verify {sets : List RuleSet} {o o' : Options} {paths : List Path}
    {r : Running FileTree} (h : Consistent t sets o paths r) (hverify : o.verify = o'.verify) :
    Consistent t sets o' paths r := by
  refine ⟨h.paths_eq, h.shape, fun hitem => ?_, h.rewritten, h.kept⟩
  rw [← process_of_verify Store.disk sets hverify]
  exact h.work hitem

variable (ht : t.WellFormed) {c : Candidates} (hfiles : Independent t c.files)
include ht hfiles

/-- What a batch on disk comes to, whatever the order of the turns. -/
theorem exists_consistent_drive {ρ : Type} (reporter : Reporter ρ) (sets : List RuleSet)
    (o : Options) {turns : List Nat} (hturns : ∀ i < c.files.length, 2 ≤ turns.count i) (r : ρ) :
    ∃ final, Consistent t sets o c.files final ∧ final.Complete ∧
      drive Store.disk reporter sets o (pool Store.disk sets o turns) c t r =
        let events := c.unreadable.map Event.failed ++
          c.files.map fun p => (process Store.disk sets o p t).1
        (.ofEvents events, reporter.finish (.ofEvents events) (reported reporter events r),
          final.state) := by
  obtain ⟨final, consistent, complete, hpool⟩ :=
    exists_consistent_pool ht hfiles sets o (two_le_count_turnsOf o hturns)
  refine ⟨final, consistent, complete, ?_⟩
  rw [drive_eq, handling_pool, hpool, consistent.events_eq complete]

/-- A batch of files that do not concern each other ends as if each file was processed alone,
whatever the order of the workers' turns. The reporter hears of what could not be read, then of the
events that the files have alone in the first tree, in the order of the files, and then of the
summary, which is given back and counts the events of each kind. A path has a change just if it
leads to a text that is revised to another one and can be written, and is unchanged just if it leads
to a text that is revised to itself. The file of each path with a change holds what was revised, and
nothing else has changed. And so it is, with the same summary, the same reports and the same tree,
in every other order of turns and if no files are processed at the same time. -/
theorem drive_eq_alone {ρ : Type} (reporter : Reporter ρ) (sets : List RuleSet) (o : Options)
    {turns : List Nat} (hturns : ∀ i < c.files.length, 2 ≤ turns.count i) (r : ρ) :
    let done := drive Store.disk reporter sets o (pool Store.disk sets o turns) c t r
    let alone := fun p => (process Store.disk sets o p t).1
    let events := c.unreadable.map Event.failed ++ c.files.map alone
    let revised := fun p text => (Pipeline.revise sets (.ofContent p text)).1.current
    let after := done.2.2
    done.1 = { changed := events.countP fun e => e.result = .changed
               unchanged := events.countP fun e => e.result = .unchanged
               failed := events.countP fun e => e.result.isFailed } ∧
      done.2.1 = reporter.finish done.1 (reported reporter events r) ∧
      after.cwd = t.cwd ∧ after.denied = t.denied ∧
      (∀ p ∈ c.files,
        ((alone p).result = .unchanged ↔ ∃ text, Holds t p text ∧ revised p text = text) ∧
          ((alone p).result = .changed ↔
            ∃ text, Holds t p text ∧ revised p text ≠ text ∧ CanWrite t p)) ∧
      (∀ p ∈ c.files, (alone p).result = .changed →
        ∃ loc entry, Revises t sets p loc entry ∧ after.get? loc = some entry) ∧
      (∀ loc, (∀ p ∈ c.files, (alone p).result = .changed → ¬ t.LeadsToFile p loc) →
        after.get? loc = t.get? loc) ∧
      ∀ (parallel : Bool) (turns' : List Nat), (∀ i < c.files.length, 2 ≤ turns'.count i) →
        let o' := { o with parallel }
        let again := drive Store.disk reporter sets o' (pool Store.disk sets o' turns') c t r
        again.1 = done.1 ∧ again.2.1 = done.2.1 ∧ again.2.2.cwd = after.cwd ∧
          again.2.2.denied = after.denied ∧ ∀ loc, again.2.2.get? loc = after.get? loc := by
  intro done alone events revised after
  obtain ⟨final, consistent, complete, hdone⟩ : ∃ final, Consistent t sets o c.files final ∧
      final.Complete ∧ done = _ := exists_consistent_drive ht hfiles reporter sets o hturns r
  have hafter : after = final.state := congrArg (·.2.2) hdone
  rw [hdone, hafter]
  refine ⟨Summary.ofEvents_eq events, rfl, consistent.shape.cwd, consistent.shape.denied, ?_, ?_,
    ?_, ?_⟩
  · intro p hp
    exact result_process_iff ht (hfiles.clear p hp) sets o
  · intro p hp hchanged
    obtain ⟨loc, entry, hrevises⟩ := exists_revises_of_changed ht (hfiles.clear p hp) hchanged
    exact ⟨loc, entry, hrevises, consistent.get?_of_changed complete hp hchanged hrevises⟩
  · exact fun loc hothers => consistent.get?_of_kept complete hothers
  · intro parallel turns' hturns' o' again
    obtain ⟨final', consistent', complete', hagain⟩ : ∃ final, Consistent t sets o' c.files final ∧
        final.Complete ∧ again = _ := exists_consistent_drive ht hfiles reporter sets o' hturns' r
    have hsame : ∀ p, process Store.disk sets o' p t = process Store.disk sets o p t :=
      fun p => process_of_verify Store.disk sets rfl p t
    have hshape := consistent'.shape
    simp only [hsame] at hagain
    rw [hagain]
    have hagree : Consistent t sets o c.files final' := consistent'.of_verify rfl
    exact ⟨rfl, rfl, hshape.cwd.trans consistent.shape.cwd.symm,
      hshape.denied.trans consistent.shape.denied.symm,
      hagree.get?_eq ht hfiles complete' consistent complete⟩

end Alone

/-- A link to a file, a file that is no text, one that is read-only, one that may not be read, and a
path to nothing, in an order in which the last path begins and the second ends. -/
theorem drive_eq_alone_five :
    let t : FileTree := ⟨[(["src"], .dir), (["src", "a.ts"], .file (Utf8.encode "xy".toList) 0o600),
      (["src", "b.ts"], .file [0xFF] 0o644), (["c.ts"], .file (Utf8.encode "x".toList) 0o444),
      (["d.ts"], .file (Utf8.encode "x".toList) 0o244), (["l.ts"], .link "src/a.ts")], [],
      { reading := [["d.ts"]] }⟩
    let sets : List RuleSet := [⟨"shorten", [.literal "x".toList []], none, none⟩]
    let c : Candidates := ⟨[⟨"l.ts"⟩, ⟨"src/b.ts"⟩, ⟨"c.ts"⟩, ⟨"d.ts"⟩, ⟨"gone.ts"⟩],
      [.read ⟨"lib"⟩ .nameTooLong]⟩
    let journal : Reporter (List Event × List Summary) :=
      ⟨fun e r => (r.1 ++ [e], r.2), fun s r => (r.1, r.2 ++ [s])⟩
    let turns := [4, 0, 1, 2, 3, 2, 0, 3, 4, 1]
    let o : Options := { parallel := true }
    let done := drive Store.disk journal sets o (pool Store.disk sets o turns) c t ([], [])
    let o' : Options := { o with parallel := false }
    let inOrder := drive Store.disk journal sets o' (pool Store.disk sets o' turns) c t ([], [])
    t.WellFormed ∧ Independent t c.files ∧ (∀ i < c.files.length, 2 ≤ turns.count i) ∧
      done.1 = ⟨1, 0, 5⟩ ∧ done.2.1.2 = [⟨1, 0, 5⟩] ∧
      done.2.1.1.map Event.result = [.failed (.read ⟨"lib"⟩ .nameTooLong), .changed,
        .failed (.encoding ⟨"src/b.ts"⟩ ⟨0, some 1⟩), .failed (.write ⟨"c.ts"⟩ .readOnly),
        .failed (.read ⟨"d.ts"⟩ .denied), .failed (.read ⟨"gone.ts"⟩ .notFound)] ∧
      done.2.2.get? ["src", "a.ts"] = some (.file (Utf8.encode "y".toList) 0o600) ∧
      inOrder.1 = done.1 ∧ inOrder.2.1 = done.2.1 ∧
      ∀ loc, inOrder.2.2.get? loc = done.2.2.get? loc := by
  intro t sets c journal turns o
  have hformed : t.WellFormed := by decide +kernel
  have hfiles : Independent t c.files := by decide +kernel
  have hturns : ∀ i < c.files.length, 2 ≤ turns.count i := by decide +kernel
  obtain ⟨-, -, -, -, -, -, -, hany⟩ := drive_eq_alone hformed hfiles journal sets o hturns ([], [])
  obtain ⟨hsummary, hreports, -, -, htree⟩ := hany false turns hturns
  exact ⟨hformed, hfiles, hturns, by decide +kernel, by decide +kernel, by decide +kernel,
    by decide +kernel, hsummary, hreports, htree⟩

end Batch

namespace Console

theorem unlines_append (first second : List String) :
    unlines (first ++ second) = unlines first ++ unlines second := by
  rw [unlines, List.map_append, String.join_append]
  rfl

theorem reported_reporter (dryRun : Bool) (events : List Event) (printed : String) :
    Batch.reported (reporter dryRun) events printed =
      printed ++ unlines (events.flatMap (eventLines dryRun)) := by
  induction events generalizing printed with
  | nil => exact String.append_empty.symm
  | cons e rest ih =>
    have step : Batch.reported (reporter dryRun) (e :: rest) printed =
        Batch.reported (reporter dryRun) rest (printed ++ unlines (eventLines dryRun e)) := rfl
    rw [step, ih, List.flatMap_cons, unlines_append, String.append_assoc]

/-- What is printed about a batch are the lines about its events and its summary. -/
theorem drive_reporter {σ : Type} (dryRun : Bool) (store : Store σ) (sets : List RuleSet)
    (o : Batch.Options) (schedule : Batch.Schedule) (c : Candidates) (s : σ) :
    Batch.drive store (reporter dryRun) sets o (schedule.workers store sets o) c s "" =
      let done := Batch.run store sets o schedule c s
      (.ofEvents done.1, render dryRun done.1 (some (.ofEvents done.1)), done.2) := by
  have printed (events : List Event) (summary : Summary) :
      (reporter dryRun).finish summary (Batch.reported (reporter dryRun) events "") =
        render dryRun events (some summary) := by
    rw [reported_reporter, String.empty_append, render, unlines_append]
    rfl
  rw [Batch.drive_workers]
  simp only [printed]

end Console

end Codemod
