import Codemod.Proofs.Batch.Process
import Codemod.Proofs.Pipeline.Pass

/-! The account that a pass gives of itself.
A pass over a file runs the sets in scope one after the other. It lists a set just if the run of the
sets up to it ends with another text than the run of the sets before it, whether or not later sets
undo what it did. So a file that is reported as changed is never reported without a name. -/

namespace Codemod

namespace Pipeline

theorem run_append (front back : List RuleSet) (text : List Char) :
    run (front ++ back) text = run back (run front text) :=
  List.foldl_append ..

theorem run_singleton (s : RuleSet) (text : List Char) : run [s] text = s.gated text :=
  s.getD_step text

/-- A pass ends where the run of its sets ends. -/
theorem trace_fst_eq_run (sets : List RuleSet) (text : List Char) :
    (trace sets text).1 = run sets text := by
  induction sets generalizing text with
  | nil => rfl
  | cons s rest ih =>
    rw [← List.singleton_append, run_append, run_singleton, List.singleton_append]
    by_cases h : s.gated text = text
    · rw [trace_cons_of_eq h, ih, h]
    · rw [trace_cons_of_ne h, ih]

/-- The set at a place changes the text that the sets before it leave. -/
def ChangesAt (sets : List RuleSet) (text : List Char) (i : Nat) : Prop :=
  run (sets.take (i + 1)) text ≠ run (sets.take i) text

instance (sets : List RuleSet) (text : List Char) : DecidablePred (ChangesAt sets text) :=
  fun _ => inferInstanceAs (Decidable (_ ≠ _))

theorem changesAt_length_iff {front rest : List RuleSet} {s : RuleSet} {text : List Char} :
    ChangesAt (front ++ s :: rest) text front.length ↔
      s.gated (run front text) ≠ run front text := by
  have upTo : (front ++ s :: rest).take (front.length + 1) = front ++ [s] := by
    rw [List.take_length_add_append, List.take_succ_cons, List.take_zero]
  rw [ChangesAt, upTo, List.take_left, run_append, run_singleton]

/-- What is listed behind some sets that have been run. -/
theorem trace_snd_eq_filter (front sets : List RuleSet) (text : List Char) :
    (trace sets (run front text)).2 =
      ((sets.zipIdx front.length).filter fun e => ChangesAt (front ++ sets) text e.2).map
        fun e => e.1.name := by
  induction sets generalizing front with
  | nil => rfl
  | cons s rest ih =>
    have hnext := ih (front ++ [s])
    rw [run_append, run_singleton, List.length_append, List.length_singleton, List.append_assoc,
      List.singleton_append] at hnext
    rw [List.zipIdx_cons]
    by_cases h : s.gated (run front text) = run front text
    · have idle : ¬ ChangesAt (front ++ s :: rest) text front.length :=
        fun changes => changesAt_length_iff.mp changes h
      rw [h] at hnext
      rw [trace_cons_of_eq h, List.filter_cons_of_neg (by simpa using idle), hnext]
    · have changes : ChangesAt (front ++ s :: rest) text front.length :=
        changesAt_length_iff.mpr h
      rw [trace_cons_of_ne h, List.filter_cons_of_pos (by simpa using changes), List.map_cons,
        hnext]

end Pipeline

namespace Batch

open Pipeline

variable {σ : Type}

theorem ne_of_commit_changed {store : Store σ} {p : Path} {loaded revised : List Char} {s : σ}
    (h : (commit store p loaded revised s).1 = .changed) : revised ≠ loaded := by
  rintro rfl
  rw [commit, if_pos rfl] at h
  cases h

/-- A file that was not changed by any set is not reported as changed. -/
theorem applied_ne_nil_of_changed {store : Store σ} {sets : List RuleSet} {o : Options} {p : Path}
    {s : σ} (h : (process store sets o p s).1.result = .changed) :
    (process store sets o p s).1.applied ≠ [] := by
  rw [process] at h ⊢
  cases hread : readSource store p s with
  | error cause =>
    rw [hread] at h
    cases h
  | ok text =>
    rw [hread, finish_ok] at h
    rw [finish_ok]
    intro none
    apply ne_of_commit_changed h
    exact congrArg (fun r => r.1.current) (revise_eq_iff.mpr (trace_snd_eq_nil_iff.mp none))

end Batch

namespace Pipeline

open Batch (Options process)

/-- A pass runs the sets whose scope the path of the file lies in over the text as it stands, and
keeps the path and what was loaded. It lists the names of the sets that change the text that the
sets before them leave, in their order. Runs of two lists of sets, one after the other, are a run of
both together. A file that is processed and reported as changed is reported with a name. -/
theorem revise_accounts (sets : List RuleSet) (f : SourceFile) :
    let chosen := sets.filter fun s => s.acceptsPath f.path
    (revise sets f).1 = ⟨f.path, f.loaded, run chosen f.current⟩ ∧
    (revise sets f).2 =
      (chosen.zipIdx.filter fun e => ChangesAt chosen f.current e.2).map (fun e => e.1.name) ∧
    (∀ front back text, run (front ++ back) text = run back (run front text)) ∧
    ∀ (σ : Type) (store : Store σ) (o : Options) (s : σ),
      (process store sets o f.path s).1.result = .changed →
        (process store sets o f.path s).1.applied ≠ [] := by
  refine ⟨?_, trace_snd_eq_filter [] _ f.current, run_append, ?_⟩
  · rw [revise, trace_fst_eq_run]
    rfl
  · exact fun _ _ _ _ => Batch.applied_ne_nil_of_changed

/-- The second set undoes what the first one of the same name did, and both are listed; the third is
out of scope, and the guard of the last sees the text that the second left. -/
theorem revise_accounts_undone :
    let sets : List RuleSet :=
      [{ name := "swap", rules := [.literal ['a'] ['b']] },
       { name := "swap", rules := [.literal ['b'] ['a']] },
       { name := "markup", rules := [.literal ['a'] ['c']], extensions? := some ["tsx"] },
       { name := "late", rules := [.literal ['a'] ['d']], guard? := some (.contains ["a"]) }]
    let f : SourceFile := ⟨⟨"lib.ts"⟩, ['o'], ['a']⟩
    let t : FileTree := ⟨[(["lib.ts"], .file (Utf8.encode ['a']) 0o644)], [], {}⟩
    revise sets f = (⟨⟨"lib.ts"⟩, ['o'], ['d']⟩, ["swap", "swap", "late"]) ∧
      run (sets.take 2) ['a'] = ['a'] ∧
      (process Store.dryRun sets {} f.path t).1.result = .changed ∧
      (process Store.dryRun sets {} f.path t).1.applied ≠ [] := by
  intro sets f t
  have changed : (process Store.dryRun sets {} f.path t).1.result = .changed := by decide +kernel
  exact ⟨by decide +kernel, by decide +kernel, changed,
    (revise_accounts sets f).2.2.2 FileTree Store.dryRun {} t changed⟩

end Pipeline

end Codemod
