import Codemod.Proofs.Batch.Process
import Codemod.Proofs.Catalog.Defects
import Codemod.Proofs.Pipeline.Pass

/-! Selecting rule sets by their names.
A set that is left out although it changes a file can make a difference to that file; one that does
not change it cannot, since the sets after it see the same text without it. So a file comes out
as before if the sets that changed it are selected, whatever else is. -/

namespace Codemod

namespace Pipeline

variable {sets : List RuleSet} {names : List String}

/-- The sets that have one of some names. -/
def named (names : List String) (sets : List RuleSet) : List RuleSet :=
  sets.filter fun s => names.contains s.name

theorem mem_named {s : RuleSet} : s ∈ named names sets ↔ s ∈ sets ∧ s.name ∈ names := by
  rw [named, List.mem_filter, List.contains_iff_mem]

theorem named_cons_of_mem {s : RuleSet} (h : s.name ∈ names) :
    named names (s :: sets) = s :: named names sets :=
  List.filter_cons_of_pos (List.contains_iff_mem.mpr h)

theorem named_cons_of_not_mem {s : RuleSet} (h : s.name ∉ names) :
    named names (s :: sets) = named names sets :=
  List.filter_cons_of_neg fun selected => h (List.contains_iff_mem.mp selected)

theorem inScope_named (path : Path) (names : List String) (sets : List RuleSet) :
    inScope path (named names sets) = named names (inScope path sets) := by
  simp only [inScope, named, List.filter_filter, Bool.and_comm]

theorem unstableIn_cons_of_eq {s : RuleSet} {text : List Char} (h : s.gated text = text) :
    unstableIn (s :: sets) text = unstableIn sets text := by
  rw [unstableIn, RuleSet.step_of_eq h]

theorem unstableIn_cons_of_ne {s : RuleSet} {text : List Char} (h : s.gated text ≠ text) :
    unstableIn (s :: sets) text =
      if (s.step? (s.gated text)).isSome then s.name :: unstableIn sets (s.gated text)
      else unstableIn sets (s.gated text) := by
  rw [unstableIn, RuleSet.step_of_ne h]

/-- What is listed are names of the sets, in their order. -/
theorem trace_snd_sublist (sets : List RuleSet) (text : List Char) :
    (trace sets text).2.Sublist (sets.map RuleSet.name) := by
  induction sets generalizing text with
  | nil => exact List.Sublist.slnil
  | cons s rest ih =>
    by_cases h : s.gated text = text
    · rw [trace_cons_of_eq h]
      exact (ih text).cons s.name
    · rw [trace_cons_of_ne h]
      exact (ih (s.gated text)).cons_cons s.name

/-- Sets that do not change the text that they see can be left out. -/
theorem trace_named {text : List Char} (h : ∀ name ∈ (trace sets text).2, name ∈ names) :
    trace (named names sets) text = trace sets text := by
  induction sets generalizing text with
  | nil => rfl
  | cons s rest ih =>
    by_cases same : s.gated text = text
    · rw [trace_cons_of_eq same] at h ⊢
      by_cases selected : s.name ∈ names
      · rw [named_cons_of_mem selected, trace_cons_of_eq same, ih h]
      · rw [named_cons_of_not_mem selected, ih h]
    · rw [trace_cons_of_ne same, List.forall_mem_cons] at h
      rw [named_cons_of_mem h.1, trace_cons_of_ne same, trace_cons_of_ne same, ih h.2]

theorem unstableIn_named {text : List Char} (h : ∀ name ∈ (trace sets text).2, name ∈ names) :
    unstableIn (named names sets) text = unstableIn sets text := by
  induction sets generalizing text with
  | nil => rfl
  | cons s rest ih =>
    by_cases same : s.gated text = text
    · rw [trace_cons_of_eq same] at h
      rw [unstableIn_cons_of_eq same]
      by_cases selected : s.name ∈ names
      · rw [named_cons_of_mem selected, unstableIn_cons_of_eq same, ih h]
      · rw [named_cons_of_not_mem selected, ih h]
    · rw [trace_cons_of_ne same, List.forall_mem_cons] at h
      rw [named_cons_of_mem h.1, unstableIn_cons_of_ne same, unstableIn_cons_of_ne same, ih h.2]

theorem revise_named {f : SourceFile} (h : ∀ name ∈ (revise sets f).2, name ∈ names) :
    revise (named names sets) f = revise sets f := by
  rw [revise, inScope_named, trace_named h, revise]

theorem unstable_named {path : Path} {text : List Char}
    (h : ∀ name ∈ (revise sets (.ofContent path text)).2, name ∈ names) :
    unstable (named names sets) path text = unstable sets path text := by
  rw [unstable, inScope_named]
  exact unstableIn_named h

theorem mem_names_of_mem_revise {f : SourceFile} {name : String} (h : name ∈ (revise sets f).2) :
    name ∈ sets.map RuleSet.name := by
  obtain ⟨s, hs, rfl⟩ := List.mem_map.mp ((trace_snd_sublist _ _).subset h)
  exact List.mem_map_of_mem (List.mem_filter.mp hs).1

end Pipeline

open Pipeline

section Select

variable {sets : List RuleSet} {only : List String}

theorem selectRuleSets_nil : selectRuleSets sets [] = .ok sets :=
  rfl

theorem selectRuleSets_of_known (hne : only ≠ [])
    (h : ∀ name ∈ only, name ∈ sets.map RuleSet.name) :
    selectRuleSets sets only = .ok (named only sets) := by
  have known : only.find? (fun name => !sets.any fun s => s.name == name) = none := by
    simpa using h
  rw [selectRuleSets, if_neg (by simpa using hne), known, named]

/-- Sets can be selected just if each name is that of a set. -/
theorem fails_selectRuleSets_iff :
    Fails (selectRuleSets sets only) ↔ ∃ name ∈ only, name ∉ sets.map RuleSet.name := by
  constructor
  · intro h
    by_contra known
    push Not at known
    cases only with
    | nil => exact absurd h (not_fails_ok sets)
    | cons first rest =>
      rw [selectRuleSets_of_known (List.cons_ne_nil first rest) known] at h
      exact absurd h (not_fails_ok _)
  · rintro ⟨name, hmem, hname⟩
    have unknown : (only.find? fun name => !sets.any fun s => s.name == name).isSome := by
      simpa using ⟨name, hmem, by simpa using hname⟩
    obtain ⟨found, hfound⟩ := Option.isSome_iff_exists.mp unknown
    have hne : only.isEmpty = false := by
      simpa using List.ne_nil_of_mem hmem
    rw [selectRuleSets, hne, if_neg Bool.false_ne_true, hfound]
    exact fails_error found

/-- What is selected are the sets that have one of the names, or all if there are no names. -/
theorem selectRuleSets_eq_ok_iff {selected : List RuleSet} :
    selectRuleSets sets only = .ok selected ↔
      (∀ name ∈ only, name ∈ sets.map RuleSet.name) ∧
        selected = if only = [] then sets else named only sets := by
  by_cases known : ∀ name ∈ only, name ∈ sets.map RuleSet.name
  · rw [and_iff_right known]
    cases only with
    | nil => simp [selectRuleSets_nil, eq_comm]
    | cons first rest =>
      simp [selectRuleSets_of_known (List.cons_ne_nil first rest) known, eq_comm]
  · have unknown := known
    push Not at unknown
    obtain ⟨e, he⟩ := fails_selectRuleSets_iff.mpr unknown
    exact iff_of_false (by simp [he]) fun h => known h.1

/-- Selecting among selected sets is selecting the same among all. -/
theorem selectRuleSets_again {selected : List RuleSet} {names : List String}
    (h : selectRuleSets sets only = .ok selected) (hne : names ≠ [])
    (hknown : ∀ name ∈ names, name ∈ selected.map RuleSet.name) :
    selectRuleSets sets names = .ok (named names selected) := by
  cases only with
  | nil =>
    obtain rfl := Except.ok.inj h
    exact selectRuleSets_of_known hne hknown
  | cons first rest =>
    obtain ⟨-, rfl⟩ := selectRuleSets_eq_ok_iff.mp h
    rw [if_neg (List.cons_ne_nil first rest)] at hknown ⊢
    have among : ∀ name ∈ names, name ∈ first :: rest ∧ name ∈ sets.map RuleSet.name := by
      intro name hname
      obtain ⟨s, hs, rfl⟩ := List.mem_map.mp (hknown name hname)
      obtain ⟨hmem, hselected⟩ := mem_named.mp hs
      exact ⟨hselected, List.mem_map_of_mem hmem⟩
    rw [selectRuleSets_of_known hne fun name hname => (among name hname).2]
    congr 1
    rw [named, named, named, List.filter_filter]
    apply List.filter_congr
    intro s _
    by_cases hs : s.name ∈ names
    · simp [hs, (among s.name hs).1]
    · simp [hs]

end Select

namespace Batch

/-- A file is processed as before by the sets that changed it. -/
theorem process_named {σ : Type} {store : Store σ} {sets : List RuleSet} {o : Options} {p : Path}
    {s : σ} {names : List String}
    (h : ∀ name ∈ (process store sets o p s).1.applied, name ∈ names) :
    process store (named names sets) o p s = process store sets o p s := by
  rw [process] at h
  rw [process, process]
  cases hread : readSource store p s with
  | error cause => rfl
  | ok text =>
    rw [hread, finish_ok] at h
    have happlied : ∀ name ∈ (revise sets (.ofContent p text)).2, name ∈ names := h
    simp only [finish_ok, loadedEvent, revise_named happlied, unstable_named happlied]

end Batch

end Codemod
