import Codemod.Pipeline
import Mathlib.Logic.Function.Iterate

/-! One pass of rule sets over a file, and pass after pass.
A pass lists a name exactly if some set changes the text that it sees. Where every change of a
set lowers a measure of the text, so does every pass that lists a name, and as many passes as
the measure counts lead to a file that no further pass changes. -/

namespace Codemod

namespace RuleSet

/-- The text with the rules applied if the guard holds, and the text itself if not. -/
def gated (s : RuleSet) (text : List Char) : List Char :=
  if s.applies text then s.apply text else text

theorem gated_of_applies {s : RuleSet} {text : List Char} (h : s.applies text) :
    s.gated text = s.apply text :=
  if_pos h

theorem gated_of_apply_eq {s : RuleSet} {text : List Char} (h : s.apply text = text) :
    s.gated text = text := by
  rw [gated, h, ite_self]

theorem step_eq (s : RuleSet) (text : List Char) :
    s.step? text = if s.gated text = text then none else some (s.gated text) := by
  unfold step? gated
  by_cases h : s.applies text
  · simp [h]
  · simp [h]

theorem step_of_eq {s : RuleSet} {text : List Char} (h : s.gated text = text) :
    s.step? text = none := by
  rw [step_eq, if_pos h]

theorem step_of_ne {s : RuleSet} {text : List Char} (h : s.gated text ≠ text) :
    s.step? text = some (s.gated text) := by
  rw [step_eq, if_neg h]

theorem getD_step (s : RuleSet) (text : List Char) : (s.step? text).getD text = s.gated text := by
  by_cases h : s.gated text = text
  · rw [step_of_eq h, Option.getD_none, h]
  · rw [step_of_ne h, Option.getD_some]

/-- A guard does not take stability away: it rejects the text, or the result, or neither. -/
theorem gated_gated {s : RuleSet} (h : ∀ text, s.apply (s.apply text) = s.apply text)
    (text : List Char) : s.gated (s.gated text) = s.gated text := by
  by_cases applies : s.applies text
  · rw [gated_of_applies applies]
    exact gated_of_apply_eq (h text)
  · have kept : s.gated text = text := if_neg applies
    rw [kept, kept]

end RuleSet

namespace Pipeline

variable {sets : List RuleSet}

/-- A file after one pass. -/
def pass (sets : List RuleSet) (f : SourceFile) : SourceFile :=
  (revise sets f).1

/-- A set that keeps the text is passed over. -/
theorem trace_cons_of_eq {s : RuleSet} {text : List Char} (h : s.gated text = text) :
    trace (s :: sets) text = trace sets text := by
  rw [trace, RuleSet.step_of_eq h]

/-- A set that changes the text is listed, and the sets after it see its result. -/
theorem trace_cons_of_ne {s : RuleSet} {text : List Char} (h : s.gated text ≠ text) :
    trace (s :: sets) text =
      ((trace sets (s.gated text)).1, s.name :: (trace sets (s.gated text)).2) := by
  rw [trace, RuleSet.step_of_ne h]

/-- The text that the sets leave behind. -/
theorem trace_fst (sets : List RuleSet) (text : List Char) :
    (trace sets text).1 = sets.foldl (fun t s => s.gated t) text := by
  induction sets generalizing text with
  | nil => rfl
  | cons s rest ih =>
    by_cases h : s.gated text = text
    · rw [trace_cons_of_eq h, List.foldl_cons, h, ih]
    · rw [trace_cons_of_ne h, List.foldl_cons, ih]

theorem trace_of_fixed {text : List Char} (h : ∀ s ∈ sets, s.gated text = text) :
    trace sets text = (text, []) := by
  induction sets with
  | nil => rfl
  | cons s rest ih =>
    rw [List.forall_mem_cons] at h
    rw [trace_cons_of_eq h.1]
    exact ih h.2

theorem trace_snd_eq_nil_iff {text : List Char} :
    (trace sets text).2 = [] ↔ ∀ s ∈ sets, s.gated text = text := by
  constructor
  · intro hnil
    induction sets with
    | nil => simp
    | cons s rest ih =>
      by_cases h : s.gated text = text
      · rw [trace_cons_of_eq h] at hnil
        exact List.forall_mem_cons.mpr ⟨h, ih hnil⟩
      · simp [trace_cons_of_ne h] at hnil
  · intro h
    rw [trace_of_fixed h]

/-- A pass over a file finds nothing exactly if each set in scope leaves its text as it is. -/
theorem revise_eq_iff {f : SourceFile} :
    revise sets f = (f, []) ↔ ∀ s ∈ inScope f.path sets, s.gated f.current = f.current := by
  constructor
  · intro h
    exact trace_snd_eq_nil_iff.mp (congrArg Prod.snd h)
  · intro h
    rw [revise, trace_of_fixed h]

theorem unstableIn_eq_nil (h : ∀ s ∈ sets, ∀ text, s.gated (s.gated text) = s.gated text)
    (text : List Char) : unstableIn sets text = [] := by
  induction sets generalizing text with
  | nil => rfl
  | cons s rest ih =>
    rw [List.forall_mem_cons] at h
    by_cases same : s.gated text = text
    · rw [unstableIn, RuleSet.step_of_eq same]
      exact ih h.2 text
    · rw [unstableIn, RuleSet.step_of_ne same]
      simp only [RuleSet.step_of_eq (h.1 text), Option.isSome_none, Bool.false_eq_true, ↓reduceIte]
      exact ih h.2 _

/-- Sets that keep their own results are stable in every pipeline. -/
theorem unstable_eq_nil (h : ∀ s ∈ sets, ∀ text, s.gated (s.gated text) = s.gated text)
    (path : Path) (text : List Char) : unstable sets path text = [] :=
  unstableIn_eq_nil (fun s hs => h s (List.mem_filter.mp hs).1) text

section Measure

variable {m : List Char → Nat} (hm : ∀ s ∈ sets, ∀ text, s.gated text ≠ text →
  m (s.gated text) < m text)
include hm

theorem measure_trace_le (text : List Char) : m (trace sets text).1 ≤ m text := by
  induction sets generalizing text with
  | nil => exact Nat.le_refl _
  | cons s rest ih =>
    rw [List.forall_mem_cons] at hm
    by_cases h : s.gated text = text
    · rw [trace_cons_of_eq h]
      exact ih hm.2 text
    · rw [trace_cons_of_ne h]
      exact Nat.le_trans (ih hm.2 _) (Nat.le_of_lt (hm.1 text h))

theorem measure_trace_lt {text : List Char} (h : (trace sets text).2 ≠ []) :
    m (trace sets text).1 < m text := by
  induction sets with
  | nil => exact absurd rfl h
  | cons s rest ih =>
    by_cases same : s.gated text = text
    · rw [trace_cons_of_eq same] at h ⊢
      exact ih (List.forall_mem_cons.mp hm).2 h
    · rw [trace_cons_of_ne same]
      exact Nat.lt_of_le_of_lt (measure_trace_le (List.forall_mem_cons.mp hm).2 _)
        ((List.forall_mem_cons.mp hm).1 text same)

theorem measure_revise_lt {f : SourceFile} (h : (revise sets f).2 ≠ []) :
    m (revise sets f).1.current < m f.current :=
  measure_trace_lt (fun s hs => hm s ((List.mem_filter.mp hs).1)) h

/-- No pass that lists a name ends where it began. -/
theorem revise_snd_ne_nil_iff (path : Path) (text : List Char) :
    (revise sets (.ofContent path text)).2 ≠ [] ↔
      (revise sets (.ofContent path text)).1.isChanged := by
  have changed : (revise sets (.ofContent path text)).1.isChanged ↔
      text ≠ (revise sets (.ofContent path text)).1.current :=
    bne_iff_ne
  rw [changed]
  constructor
  · intro h same
    have lower := measure_revise_lt hm h
    rw [← same] at lower
    exact absurd lower (Nat.lt_irrefl _)
  · intro h hnil
    exact h (congrArg Prod.fst (trace_of_fixed (trace_snd_eq_nil_iff.mp hnil))).symm

/-- A pass that lists no name keeps the file; any other leaves less for the passes after it. -/
theorem revise_iterate_of_le (n : Nat) {f : SourceFile} (h : m f.current ≤ n) :
    revise sets ((pass sets)^[n] f) = ((pass sets)^[n] f, []) := by
  induction n generalizing f with
  | zero =>
    by_cases quiet : (revise sets f).2 = []
    · exact revise_eq_iff.mpr (trace_snd_eq_nil_iff.mp quiet)
    · have lower := measure_revise_lt hm quiet
      omega
  | succ n ih =>
    rw [Function.iterate_succ_apply]
    by_cases quiet : (revise sets f).2 = []
    · have fixed := revise_eq_iff.mpr (trace_snd_eq_nil_iff.mp quiet)
      have stays : pass sets f = f := congrArg Prod.fst fixed
      rw [stays, Function.iterate_fixed stays, fixed]
    · have lower := measure_revise_lt hm quiet
      apply ih
      rw [pass]
      omega

end Measure

end Pipeline

end Codemod
