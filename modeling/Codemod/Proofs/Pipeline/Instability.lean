import Codemod.Proofs.Batch.Selection
import Codemod.Proofs.Pipeline.Account

/-! Sets that are found unstable, and the pass that reaches them.
Whether a set keeps its own result is asked at the text at which a pass comes to it, and only if it
changes that text. So the sets that are found unstable are among those that the pass lists, and in
the same order; a single set in scope is found unstable just if a second pass changes the file. -/

namespace Codemod

/-- A set changes a text, and then changes its own result again. -/
def RuleSet.Unsettled (s : RuleSet) (text : List Char) : Prop :=
  s.gated text ≠ text ∧ s.gated (s.gated text) ≠ s.gated text

instance (s : RuleSet) : DecidablePred s.Unsettled :=
  fun _ => inferInstanceAs (Decidable (_ ∧ _))

theorem RuleSet.isSome_step_iff {s : RuleSet} {text : List Char} :
    (s.step? text).isSome ↔ s.gated text ≠ text := by
  rw [step_eq]
  split_ifs with h <;> simp [h]

namespace Pipeline

/-- Every set hands its own result on, whether or not it is listed. -/
theorem unstableIn_cons (s : RuleSet) (rest : List RuleSet) (text : List Char) :
    unstableIn (s :: rest) text =
      if s.Unsettled text then s.name :: unstableIn rest (s.gated text)
      else unstableIn rest (s.gated text) := by
  by_cases same : s.gated text = text
  · have settled : ¬ s.Unsettled text := fun h => h.1 same
    rw [unstableIn_cons_of_eq same, if_neg settled, same]
  · have again : s.Unsettled text ↔ (s.step? (s.gated text)).isSome := by
      rw [RuleSet.isSome_step_iff]
      exact and_iff_right same
    rw [unstableIn_cons_of_ne same]
    exact if_congr again.symm rfl rfl

theorem unstableIn_sublist_trace (sets : List RuleSet) (text : List Char) :
    (unstableIn sets text).Sublist (trace sets text).2 := by
  induction sets generalizing text with
  | nil => exact .slnil
  | cons s rest ih =>
    rw [unstableIn_cons]
    by_cases same : s.gated text = text
    · have settled : ¬ s.Unsettled text := fun h => h.1 same
      rw [trace_cons_of_eq same, if_neg settled, same]
      exact ih text
    · rw [trace_cons_of_ne same]
      split_ifs
      · exact (ih _).cons_cons s.name
      · exact (ih _).cons s.name

theorem trace_append (front back : List RuleSet) (text : List Char) :
    trace (front ++ back) text =
      ((trace back (trace front text).1).1,
        (trace front text).2 ++ (trace back (trace front text).1).2) := by
  induction front generalizing text with
  | nil => rfl
  | cons s rest ih =>
    rw [List.cons_append]
    by_cases same : s.gated text = text
    · rw [trace_cons_of_eq same, trace_cons_of_eq same, ih]
    · rw [trace_cons_of_ne same, trace_cons_of_ne same, ih, List.cons_append]

/-- A pass over two lists of sets is a pass over the one and then over the other. -/
theorem revise_append (front back : List RuleSet) (f : SourceFile) :
    revise (front ++ back) f =
      ((revise back (revise front f).1).1,
        (revise front f).2 ++ (revise back (revise front f).1).2) := by
  simp only [revise, inScope, List.filter_append, trace_append]

/-- The text at which a pass over a content comes to the set at a place. -/
def reached (sets : List RuleSet) (path : Path) (content : List Char) (i : Nat) : List Char :=
  (revise (sets.take i) (.ofContent path content)).1.current

theorem reached_length (front back : List RuleSet) (path : Path) (content : List Char) :
    reached (front ++ back) path content front.length =
      run (inScope path front) content := by
  rw [reached, List.take_left]
  exact trace_fst_eq_run _ _

/-- What is found unstable behind some sets that a pass has come past. -/
theorem unstableIn_eq_filter (front sets : List RuleSet) (path : Path) (content : List Char) :
    unstableIn (inScope path sets) (run (inScope path front) content) =
      ((sets.zipIdx front.length).filter fun e => e.1.acceptsPath path ∧
        e.1.Unsettled (reached (front ++ sets) path content e.2)).map fun e => e.1.name := by
  induction sets generalizing front with
  | nil => rfl
  | cons s rest ih =>
    have hnext := ih (front ++ [s])
    rw [List.length_append, List.length_singleton, List.append_assoc, List.singleton_append]
      at hnext
    have here := reached_length front (s :: rest) path content
    rw [List.zipIdx_cons]
    by_cases accepted : s.acceptsPath path
    · have taken : inScope path (front ++ [s]) = inScope path front ++ [s] := by
        simp [inScope, accepted]
      have first : inScope path (s :: rest) = s :: inScope path rest :=
        List.filter_cons_of_pos accepted
      rw [taken, run_append, run_singleton] at hnext
      rw [first, unstableIn_cons, hnext]
      by_cases unsettled : s.Unsettled (run (inScope path front) content)
      · rw [if_pos unsettled, List.filter_cons_of_pos (by simpa [here] using ⟨accepted, unsettled⟩),
          List.map_cons]
      · rw [if_neg unsettled, List.filter_cons_of_neg (by simp [here, unsettled])]
    · have taken : inScope path (front ++ [s]) = inScope path front := by
        simp [inScope, accepted]
      have first : inScope path (s :: rest) = inScope path rest :=
        List.filter_cons_of_neg accepted
      rw [taken] at hnext
      rw [first, List.filter_cons_of_neg (by simp [accepted]), hnext]

theorem unstableIn_singleton_eq_nil_iff {s : RuleSet} {text : List Char} :
    unstableIn [s] text = [] ↔ s.gated (s.gated text) = s.gated text := by
  have settled : ¬ s.Unsettled text ↔ s.gated (s.gated text) = s.gated text := by
    constructor
    · intro h
      by_contra again
      exact h ⟨fun same => again (by rw [same, same]), again⟩
    · exact fun kept h => h.2 kept
  rw [unstableIn_cons, ← settled]
  split_ifs with h <;> simp [h, unstableIn]

/-- Where one set is in scope, a second pass changes nothing just if the set keeps its result. -/
theorem pass_pass_eq_iff {sets : List RuleSet} {f : SourceFile} {s : RuleSet}
    (h : inScope f.path sets = [s]) :
    pass sets (pass sets f) = pass sets f ↔
      s.gated (s.gated f.current) = s.gated f.current := by
  have once (g : SourceFile) (hg : g.path = f.path) :
      pass sets g = { g with current := s.gated g.current } := by
    rw [pass, revise, hg, h, trace_fst_eq_run, run_singleton]
  rw [once f rfl, once ⟨f.path, f.loaded, s.gated f.current⟩ rfl]
  simp

end Pipeline

namespace Batch

open Pipeline

/-- An event names no set as unstable that it does not name as applied. -/
theorem unstable_sublist_applied {σ : Type} (store : Store σ) (sets : List RuleSet) (o : Options)
    (p : Path) (s : σ) :
    (process store sets o p s).1.unstable.Sublist (process store sets o p s).1.applied := by
  rw [process]
  cases readSource store p s with
  | error cause => exact .slnil
  | ok text =>
    rw [finish_ok]
    change (if o.verify then unstable sets p text else []).Sublist
      (revise sets (.ofContent p text)).2
    split_ifs
    · exact unstableIn_sublist_trace _ text
    · exact List.nil_sublist _

end Batch

namespace Pipeline

open Batch (Options process)

/-- A pass that has come past some sets goes on with the others at the text that it has reached. The
sets found unstable on a content are those in scope that change the text at which the pass comes to
them and then their own result, in their order. They are among the sets that the pass lists, and
the same holds of every event. If one set is in scope, none is found unstable just if a
second pass changes nothing. -/
theorem unstable_at_reached (sets : List RuleSet) (path : Path) (content : List Char) :
    let fresh := SourceFile.ofContent path content
    (∀ i, revise sets fresh =
      let rest := revise (sets.drop i) ⟨path, content, reached sets path content i⟩
      (rest.1, (revise (sets.take i) fresh).2 ++ rest.2)) ∧
    unstable sets path content =
      (sets.zipIdx.filter fun e => e.1.acceptsPath path ∧
        e.1.Unsettled (reached sets path content e.2)).map (fun e => e.1.name) ∧
    (unstable sets path content).Sublist (revise sets fresh).2 ∧
    (∀ (σ : Type) (store : Store σ) (o : Options) (s : σ),
      (process store sets o path s).1.unstable.Sublist (process store sets o path s).1.applied) ∧
    ∀ s, (sets.filter fun s => s.acceptsPath path) = [s] →
      (unstable sets path content = [] ↔ pass sets (pass sets fresh) = pass sets fresh) := by
  refine ⟨fun i => ?_, unstableIn_eq_filter [] sets path content,
    unstableIn_sublist_trace _ content, ?_, fun s single => ?_⟩
  · conv_lhs => rw [← List.take_append_drop i sets, revise_append]
    rfl
  · exact fun _ store o s => Batch.unstable_sublist_applied store sets o path s
  · have alone : inScope path sets = [s] := single
    rw [unstable, alone, unstableIn_singleton_eq_nil_iff]
    exact (pass_pass_eq_iff (f := .ofContent path content) alone).symm

/-- The last set finds nothing to do in the content and is unstable on the text that the first one
leaves; the first changes its own result no more, and the second is out of scope. -/
theorem unstable_at_reached_grown :
    let mark : RuleSet := { name := "mark", rules := [.literal ['x'] ['a']] }
    let sheet : RuleSet :=
      { name := "sheet", rules := [.literal ['a'] []], extensions? := some ["css"] }
    let grow : RuleSet := { name := "grow", rules := [.literal ['a'] ['a', 'a']] }
    let lib : Path := ⟨"lib.ts"⟩
    grow.gated ['x'] = ['x'] ∧ reached [mark, sheet, grow] lib ['x'] 2 = ['a'] ∧
      revise [mark, sheet, grow] (.ofContent lib ['x']) =
        (⟨lib, ['x'], ['a', 'a']⟩, ["mark", "grow"]) ∧
      unstable [mark, sheet, grow] lib ['x'] = ["grow"] ∧
      unstable [sheet, grow] lib ['a'] = ["grow"] ∧
      pass [sheet, grow] (pass [sheet, grow] (.ofContent lib ['a'])) ≠
        pass [sheet, grow] (.ofContent lib ['a']) := by
  intro mark sheet grow lib
  have outside : sheet.acceptsPath lib = false := by decide +kernel
  have single : ([sheet, grow].filter fun s => s.acceptsPath lib) = [grow] := by
    rw [List.filter_cons_of_neg (by simp [outside])]
    rfl
  have found : unstable [sheet, grow] lib ['a'] = ["grow"] := by decide +kernel
  refine ⟨by decide +kernel, by decide +kernel, by decide +kernel, by decide +kernel, found, ?_⟩
  intro same
  have none := ((unstable_at_reached [sheet, grow] lib ['a']).2.2.2.2 grow single).mpr same
  rw [found] at none
  cases none

end Pipeline

end Codemod
