import Codemod.Program
import Codemod.Proofs.Batch.DryRun

/-! A check foretells a run: from the same tree and arguments both stop for the same reason or
process the same files, and a check finds nothing to do just if a run would do nothing. That is so
in whatever order the workers of either take their turns. -/

namespace Codemod.Program

open FileTree Batch

/-- What is printed about the events of a batch, and how it exits. -/
def report (check : Bool) (events : List Event) : Outcome where
  exit := exitCode check (.ofEvents events)
  stdout := Console.render check events (some (.ofEvents events))

/-- Where a batch writes. -/
def storeOf (check : Bool) : Store FileTree :=
  if check then Store.dryRun else Store.disk

theorem runBatch_of_error {t : FileTree} {a : BatchArgs} {e : StartError}
    (h : prepare t a = .error e) (schedule : Schedule) (check : Bool) :
    runBatch schedule check a t = (failure e, t) := by
  rw [runBatch, h]

section Prepared

variable {t : FileTree} {a : BatchArgs} {sets : List RuleSet} {found : Candidates}
  (h : prepare t a = .ok (sets, found)) (schedule : Schedule)
include h

theorem runBatch_of_prepared (check : Bool) :
    runBatch schedule check a t =
      let done := Batch.run (storeOf check) sets ⟨a.parallel, check⟩ schedule found t
      (report check done.1, done.2) := by
  simp only [runBatch, h, Console.drive_reporter]
  rfl

theorem runBatch_check :
    runBatch schedule true a t =
      (report true (Batch.run Store.dryRun sets ⟨a.parallel, true⟩ schedule found t).1, t) := by
  have hafter : (Batch.run (storeOf true) sets ⟨a.parallel, true⟩ schedule found t).2 = t :=
    congrArg Prod.snd (run_dryRun sets ⟨a.parallel, true⟩ schedule found t)
  exact (runBatch_of_prepared h schedule true).trans (Prod.ext rfl hafter)

end Prepared

theorem exitCode_eq_zero_iff (check : Bool) (s : Summary) :
    exitCode check s = 0 ↔ s.failed = 0 ∧ (check → s.changed = 0) := by
  rw [exitCode]
  split_ifs with hfailed hchanged
  · simp [Nat.ne_of_gt hfailed]
  · simp only [Bool.and_eq_true, decide_eq_true_eq] at hchanged
    simp [hchanged.1, Nat.ne_of_gt hchanged.2]
  · simp only [Bool.and_eq_true, decide_eq_true_eq, not_and] at hchanged
    simp only [true_iff]
    exact ⟨by omega, fun hcheck => Nat.eq_zero_of_not_pos (hchanged hcheck)⟩

theorem exit_report_run (events : List Event) :
    (report false events).exit = 0 ↔ ∀ e ∈ events, e.result.isFailed = false := by
  simp [report, exitCode_eq_zero_iff, Summary.ofEvents_eq, List.countP_eq_zero]

theorem exit_report_check (events : List Event) :
    (report true events).exit = 0 ↔ ∀ e ∈ events, e.result = .unchanged := by
  simp [report, exitCode_eq_zero_iff, Summary.ofEvents_eq, List.countP_eq_zero,
    FileResult.eq_unchanged_iff, imp_and, forall_and]

theorem unchanged_iff_of_foretells {checked done : List Event}
    (h : List.Forall₂ Foretells checked done) :
    (∀ e ∈ checked, e.result = .unchanged) ↔ ∀ e ∈ done, e.result = .unchanged := by
  induction h with
  | nil => simp
  | cons hevent _ ih => simp [hevent.unchanged, ih]

/-- A check leaves the tree alone and stops before the first file just if a run does, for the same
reason. Else, if the files found are independent, each event of the check foretells that of the run,
in order, and the check exits with 0 just if the run does and leaves the tree as it was; in whatever
order the workers of the check take their turns, and those of the run. -/
theorem check_foretells_run (schedule schedule' : Schedule) (a : BatchArgs) (t : FileTree) :
    let check := runBatch schedule true a t
    let run := runBatch schedule' false a t
    check.2 = t ∧ check.1.error? = run.1.error? ∧
      (check.1.error? ≠ none →
        ∃ e, prepare t a = .error e ∧ check = (failure e, t) ∧ run = (failure e, t)) ∧
      (check.1.error? = none → ∃ sets found, prepare t a = .ok (sets, found) ∧
        let checked := (Batch.run Store.dryRun sets ⟨a.parallel, true⟩ schedule found t).1
        let done := Batch.run Store.disk sets ⟨a.parallel, false⟩ schedule' found t
        check = (report true checked, t) ∧ run = (report false done.1, done.2) ∧
        (t.WellFormed → Independent t found.files →
          List.Forall₂ Foretells checked done.1 ∧
          (check.1.exit = 0 ↔ run.1.exit = 0 ∧ run.2.cwd = t.cwd ∧ run.2.denied = t.denied ∧
            ∀ loc, run.2.get? loc = t.get? loc))) := by
  intro check run
  cases h : prepare t a with
  | error e =>
    have hcheck : check = (failure e, t) := runBatch_of_error h schedule true
    have hrun : run = (failure e, t) := runBatch_of_error h schedule' false
    simp [hcheck, hrun, failure]
  | ok batch =>
    obtain ⟨sets, found⟩ := batch
    have hcheck : check = _ := runBatch_check h schedule
    have hrun : run =
        let done := Batch.run Store.disk sets ⟨a.parallel, false⟩ schedule' found t
        (report false done.1, done.2) :=
      runBatch_of_prepared h schedule' false
    refine ⟨by rw [hcheck], by rw [hcheck, hrun]; rfl, ?_, ?_⟩
    · rw [hcheck]
      exact fun herror => absurd rfl herror
    · intro _
      refine ⟨sets, found, rfl, hcheck, hrun, fun ht hfiles => ?_⟩
      have hevents := forall₂_foretells ht hfiles sets ⟨a.parallel, false⟩ schedule'
        ⟨a.parallel, true⟩ schedule
      refine ⟨hevents, ?_⟩
      rw [hcheck, hrun, exit_report_check, exit_report_run, get?_run_eq_iff ht hfiles,
        unchanged_iff_of_foretells hevents]
      simp only [FileResult.eq_unchanged_iff, imp_and, forall_and]

/-- Of three files one is to be changed, one is not, and one cannot be written; they are processed
at the same time, in two orders. -/
theorem check_foretells_run_three :
    let config :=
      "rule_sets = [\x7bname = \"shorten\", rules = [\x7bfind = \"x\", replace = \"\"\x7d]\x7d]"
    let t : FileTree := ⟨[(["srcfix.toml"], .file (Utf8.encode config.toList) 0o644),
      (["src"], .dir), (["src", "a.ts"], .file (Utf8.encode "xy".toList) 0o600),
      (["src", "b.ts"], .file (Utf8.encode "y".toList) 0o644),
      (["c.ts"], .file (Utf8.encode "x".toList) 0o444)], [], {}⟩
    let a : BatchArgs := { roots := ["src", "c.ts"], parallel := true }
    let check := runBatch .allRead true a t
    let run := runBatch .lastFirst false a t
    check.1.error? = none ∧ t.WellFormed ∧ check.2 = t ∧ check.1.exit = 2 ∧ run.1.exit = 1 ∧
      ∃ sets found, prepare t a = .ok (sets, found) ∧ found.files.length = 3 ∧
        Independent t found.files ∧
        List.Forall₂ Foretells
          (Batch.run Store.dryRun sets ⟨a.parallel, true⟩ .allRead found t).1
          (Batch.run Store.disk sets ⟨a.parallel, false⟩ .lastFirst found t).1 := by
  intro config t a
  have hformed : t.WellFormed := by decide +kernel
  have hruns : (prepare t a).toOption.map (fun batch => batch.2.files) =
        some [⟨"c.ts"⟩, ⟨"src/a.ts"⟩, ⟨"src/b.ts"⟩] ∧
      (runBatch .allRead true a t).1.error? = none ∧ (runBatch .allRead true a t).1.exit = 2 ∧
      (runBatch .lastFirst false a t).1.exit = 1 := by decide +kernel
  obtain ⟨hprepared, hnone, hcheck, hrun⟩ := hruns
  obtain ⟨hkept, -, -, hdone⟩ := check_foretells_run .allRead .lastFirst a t
  obtain ⟨sets, found, hfound, -, -, hevents⟩ := hdone hnone
  have hfiles : found.files = [⟨"c.ts"⟩, ⟨"src/a.ts"⟩, ⟨"src/b.ts"⟩] := by
    rw [hfound] at hprepared
    exact Option.some.inj hprepared
  have hindependent : Independent t found.files := by
    rw [hfiles]
    decide +kernel
  exact ⟨hnone, hformed, hkept, hcheck, hrun, sets, found, hfound, by rw [hfiles]; rfl,
    hindependent, (hevents hformed hindependent).1⟩

end Codemod.Program
