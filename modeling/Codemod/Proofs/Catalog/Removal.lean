import Codemod.Proofs.Catalog.Imports

/-! The two rule sets that remove imports are filters of lines.
A line is removed just if the pattern of the set, matched against that line alone, passes over all
of it. The other lines, and what follows the last newline, are left as they are. -/

namespace Codemod

namespace Pattern

/-- The first match of a pattern in a text is the whole text. -/
def covers (p : Pattern) (text : List Char) : Bool :=
  (p.findAll text).head?.any fun m => m.start == 0 && m.stop == text.length

/-- No match is picked before the place that picking starts at. -/
theorem start_of_mem_pickMatches {offset resume : Nat} {barred : Option Nat} {text : List Char}
    {outcomes : List Outcome} {m : Match} (h : m ∈ pickMatches offset resume barred text outcomes) :
    offset ≤ m.start := by
  fun_induction pickMatches offset resume barred text outcomes with
  | case1 => cases h
  | case2 _ _ _ _ _ ih => exact Nat.le_of_succ_le (ih h)
  | case3 _ _ _ _ _ _ _ ih => exact Nat.le_of_succ_le (ih h)
  | case4 _ _ _ _ _ _ _ _ _ ih => exact Nat.le_of_succ_le (ih h)
  | case5 offset _ _ _ _ _ _ _ _ ih =>
    rcases List.mem_cons.mp h with rfl | h
    · exact Nat.le_refl offset
    · exact Nat.le_of_succ_le (ih h)

section Covers

variable {p : Pattern} {text : List Char}

theorem findAll_eq : p.findAll text =
    pickMatches (Cursor.start text).offset 0 none (Cursor.start text).rest
      ((cursorsFrom (Cursor.start text).offset (Cursor.start text).before
        (Cursor.start text).rest).map (p.root text.length).hit) := by
  rw [findAll, Node.sweep_eq]
  rfl

/-- Where no way begins at the start of a text, no match is the whole of it. -/
theorem covers_of_miss (miss : (p.root text.length).hit (Cursor.start text) = none) :
    p.covers text = false := by
  rw [covers, findAll_eq]
  cases text with
  | nil => simp_all [cursorsFrom, pickMatches, Cursor.start]
  | cons a rest =>
    rw [pickMatches_miss miss rfl, Bool.eq_false_iff, ne_eq, Option.any_eq_true]
    rintro ⟨m, hm, hwhole⟩
    have hstart : 1 ≤ m.start := start_of_mem_pickMatches (List.mem_of_head? hm)
    simp [Nat.ne_of_gt hstart] at hwhole

/-- Where a way begins at the start of a text, the first match is the whole text if the way passes
over all of it. -/
theorem covers_of_hit (hconsumes : (p.root text.length).consumes) {ms : List Mark} {c : Cursor}
    (hit : (p.root text.length).hit (Cursor.start text) = some ms)
    (way : Way (p.root text.length) (Cursor.start text) ms c) :
    p.covers text ↔ c.rest = [] := by
  have shorter := Node.rest_length_lt hconsumes way
  obtain ⟨used, hrest, hpast⟩ := way.exists_past
  cases used with
  | nil =>
    rw [hrest] at shorter
    exact absurd shorter (Nat.lt_irrefl _)
  | cons a used =>
    have hstop : c.offset + c.rest.length = text.length := by
      have hlength := congrArg List.length hrest
      rw [hpast]
      simp only [Cursor.start, List.length_append, Cursor.past_offset, Cursor.past_rest] at *
      omega
    rw [covers, findAll_eq, pickMatches_hit hit (lastClosed_of_way way) hrest hpast (Nat.zero_le _)]
    simp only [List.head?_cons, Option.any_some, matchOf, Bool.and_eq_true, beq_iff_eq]
    rw [← hstop, ← List.length_eq_zero_iff]
    simp [Cursor.start]

end Covers

end Pattern

namespace Text

open Pattern

/-- A line is no proper beginning of another one. -/
theorem Terminated.eq_nil_of_append {l rest : List Char} (h : Terminated l)
    (hwhole : Terminated (l ++ rest)) : rest = [] := by
  obtain ⟨line, hline, rfl⟩ := h
  obtain ⟨line', hline', hsplit⟩ := hwhole
  have pieces_eq := congrArg pieces hsplit
  rw [List.append_assoc, List.singleton_append, pieces_line hline, pieces_line hline'] at pieces_eq
  rw [← flatten_pieces rest, (List.cons.inj pieces_eq).2]
  rfl

/-- A pattern that passes over whole lines of some form covers just these lines. -/
theorem covers_iff_of_ways {p : Pattern} {l : List Char} {drop : List Char → Prop}
    (hdrop : ∀ l, drop l → Terminated l) (hsteady : (p.root l.length).steady)
    (hconsumes : (p.root l.length).consumes)
    (ways : ∀ c c', (∃ ms, Way (p.root l.length) c ms c') ↔
      Look.lineStart.holds c.before c.rest.head? ∧
        ∃ l rest, drop l ∧ c.rest = l ++ rest ∧ c' = c.past l rest) :
    p.covers l ↔ drop l := by
  cases hit : (p.root l.length).hit (Cursor.start l) with
  | none =>
    rw [covers_of_miss hit]
    refine ⟨nofun, fun hl => ?_⟩
    obtain ⟨ms, way⟩ := (ways (Cursor.start l) _).mpr
      ⟨rfl, l, [], hl, (List.append_nil l).symm, rfl⟩
    exact absurd way ((Node.hit_eq_none_iff hsteady).mp hit ms _)
  | some ms =>
    obtain ⟨c, way⟩ := Node.exists_way_of_hit hsteady hit
    obtain ⟨-, front, rest, hfront, hsplit, rfl⟩ := (ways (Cursor.start l) c).mp ⟨ms, way⟩
    have hl : l = front ++ rest := hsplit
    rw [covers_of_hit hconsumes hit way, Cursor.past_rest]
    constructor
    · rintro rfl
      rwa [hl, List.append_nil]
    · intro hwhole
      exact (hdrop front hfront).eq_nil_of_append (hl ▸ hdrop l hwhole)

theorem removeLines_of_iff {drop : List Char → Bool} {form : List Char → Prop}
    [DecidablePred form] (h : ∀ l, drop l ↔ form l) (text : List Char) :
    removeLines (fun l => decide (form l)) text = removeLines drop text := by
  have same : (fun l => decide (form l)) = drop := by
    funext l
    rw [Bool.eq_iff_iff, decide_eq_true_iff, h]
  rw [same]

/-- The pieces of a text are lines and what follows the last newline. -/
theorem exists_pieces_eq (text : List Char) :
    ∃ lines last, pieces text = lines ++ [last] ∧ (∀ l ∈ lines, Terminated l) ∧ '\n' ∉ last := by
  induction text using lines_induction with
  | last t h => exact ⟨[], t, pieces_of_not_mem h, by simp, h⟩
  | line line rest h ih =>
    obtain ⟨lines, last, hpieces, hlines, hlast⟩ := ih
    refine ⟨(line ++ ['\n']) :: lines, last, ?_, ?_, hlast⟩
    · rw [pieces_line h, hpieces, List.cons_append]
    · exact List.forall_mem_cons.mpr ⟨⟨line, h, rfl⟩, hlines⟩

end Text

namespace Catalog

open Pattern Text

theorem covers_emptyImport_iff {source l : List Char} :
    Pattern.covers ⟨source, emptyImport⟩ l ↔ EmptyImportLine l := by
  apply covers_iff_of_ways
  · exact fun l h => h.terminated
  · simp [Pattern.root, ofExpr_emptyImport, ofExpr_lineEnd]
  · simp [Pattern.root, ofExpr_emptyImport, ofExpr_lineEnd]
  · simp only [exists_way_emptyImport_iff, implies_true]

theorem covers_reactImport_iff {source l : List Char} :
    Pattern.covers ⟨source, reactImport⟩ l ↔ ReactImportLine l := by
  apply covers_iff_of_ways
  · exact fun l h => h.terminated
  · simp [Pattern.root, ofExpr_reactImport, ofExpr_lineEnd]
  · simp [Pattern.root, ofExpr_reactImport, ofExpr_lineEnd]
  · simp only [exists_way_reactImport_iff, implies_true]

/-- Both sets have one rule, which removes the lines that its pattern covers. -/
theorem exists_pattern_of_removal {s : RuleSet} (hs : s ∈ [reactRemoval, emptyImportRemoval]) :
    ∃ p, s.rules = [.pattern p ⟨[]⟩] ∧ (∀ l, p.covers l → Terminated l) ∧
      ∀ text, s.apply text = removeLines p.covers text := by
  rcases List.mem_pair.mp hs with rfl | rfl
  · refine ⟨_, rfl, fun l h => (covers_reactImport_iff.mp h).terminated, fun text => ?_⟩
    rw [apply_reactRemoval, removeLines_of_iff fun l => covers_reactImport_iff]
  · refine ⟨_, rfl, fun l h => (covers_emptyImport_iff.mp h).terminated, fun text => ?_⟩
    rw [apply_emptyImportRemoval, removeLines_of_iff fun l => covers_emptyImport_iff]

/-- A text is lines and what follows the last newline. Of these the two sets remove just the lines
that the pattern of their rule covers, and the lines of the result are the lines that are left. -/
theorem removals_filter_lines (text : List Char) :
    compile builtin = .ok shipped ∧
    shipped.find? (·.name == "client-react-import") = some reactRemoval ∧
    shipped.find? (·.name == "empty-imports") = some emptyImportRemoval ∧
    ∃ (lines : List (List Char)) (last : List Char),
      text = lines.flatten ++ last ∧ (∀ l ∈ lines, Terminated l) ∧ '\n' ∉ last ∧
      ∀ s ∈ [reactRemoval, emptyImportRemoval], ∃ p, s.rules = [.pattern p ⟨[]⟩] ∧
        s.apply text = (lines.filter (!p.covers ·)).flatten ++ last ∧
        pieces (s.apply text) = lines.filter (!p.covers ·) ++ [last] := by
  obtain ⟨lines, last, hpieces, hlines, hlast⟩ := exists_pieces_eq text
  have whole := flatten_pieces text
  rw [hpieces, List.flatten_append, List.flatten_singleton] at whole
  refine ⟨compile_builtin, rfl, rfl, lines, last, whole.symm, hlines, hlast, fun s hs => ?_⟩
  obtain ⟨p, hrules, hcovers, happly⟩ := exists_pattern_of_removal hs
  have kept : p.covers last = false := by
    rw [Bool.eq_false_iff]
    exact fun h => not_terminated_of_not_mem hlast (hcovers last h)
  have left : pieces (s.apply text) = lines.filter (!p.covers ·) ++ [last] := by
    rw [happly, pieces_removeLines hcovers, hpieces, List.filter_append,
      List.filter_cons_of_pos (by simp [kept]), List.filter_nil]
  refine ⟨p, hrules, ?_, left⟩
  rw [← flatten_pieces (s.apply text), left, List.flatten_append, List.flatten_singleton]

/-- Two lines that follow each other are removed, one of them with a carriage return; the last one
has no newline and is left. -/
theorem removals_filter_lines_unfinished :
    let text := ("import \x7b\x7d from 'a';\r\nimport \x7b \x7d from 'b'; \n" ++
      "let x;\nimport \x7b\x7d from 'c';").toList
    emptyImportRemoval.apply text = "let x;\nimport \x7b\x7d from 'c';".toList ∧
    ∃ (lines : List (List Char)) (last : List Char) (p : Pattern),
      text = lines.flatten ++ last ∧ '\n' ∉ last ∧ emptyImportRemoval.rules = [.pattern p ⟨[]⟩] ∧
      emptyImportRemoval.apply text = (lines.filter (!p.covers ·)).flatten ++ last := by
  intro text
  obtain ⟨-, -, -, lines, last, hsplit, -, hlast, filtered⟩ := removals_filter_lines text
  obtain ⟨p, hrules, happly, -⟩ := filtered emptyImportRemoval (by simp)
  exact ⟨by decide +kernel, lines, last, p, hsplit, hlast, hrules, happly⟩

end Catalog

end Codemod
