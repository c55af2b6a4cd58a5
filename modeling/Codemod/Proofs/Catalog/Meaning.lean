import Codemod.Proofs.Catalog.Markup

/-! What the built-in catalog makes of a file.
Three of its rule sets work line by line: one lowers component names within a line, two remove
whole lines. Lowering changes neither the lines that are removed nor the client directive, so
the three together are described by the lines of the original text. The fourth set follows in
files with markup. -/

namespace Codemod.Catalog

open Pipeline Text

/-- The extension of the path, in lower case, is one of a file with markup. -/
def JsxPath (path : Path) : Prop :=
  ∃ e, path.extension? = some e ∧
    (lowerAscii e.toList = "tsx".toList ∨ lowerAscii e.toList = "jsx".toList)

theorem acceptsPath_quoteEscaping_iff {path : Path} :
    quoteEscaping.acceptsPath path ↔ JsxPath path := by
  have spelled : ∀ {cs : List Char} {name : String},
      String.ofList cs = name ↔ cs = name.toList := by
    intro cs name
    rw [← String.toList_inj, String.toList_ofList]
  simp only [RuleSet.acceptsPath, quoteEscaping, Option.all_some, Extension.accepts,
    Option.any_eq_true, List.contains_eq_mem, List.mem_cons, List.not_mem_nil, or_false,
    decide_eq_true_eq, spelled, JsxPath]
  exact exists_congr fun e => and_congr_right fun _ => or_comm

instance : DecidablePred JsxPath := fun path =>
  decidable_of_iff (quoteEscaping.acceptsPath path) acceptsPath_quoteEscaping_iff

theorem inScope_shipped (path : Path) :
    inScope path shipped = [importCasing, reactRemoval, emptyImportRemoval] ++
      if JsxPath path then [quoteEscaping] else [] := by
  have everywhere : ∀ s ∈ [importCasing, reactRemoval, emptyImportRemoval], s.acceptsPath path := by
    simp [RuleSet.acceptsPath, importCasing, reactRemoval, emptyImportRemoval]
  simp only [List.forall_mem_cons] at everywhere
  simp only [inScope, shipped, List.filter_cons, everywhere, ↓reduceIte, List.filter_nil,
    acceptsPath_quoteEscaping_iff]
  rfl

/-- A line that stays: it imports something, and not React as a whole in a client component. -/
def Stays (client : Prop) (l : List Char) : Prop :=
  ¬ EmptyImportLine l ∧ ¬ (client ∧ ReactImportLine l)

instance (client : Prop) [Decidable client] : DecidablePred (Stays client) := fun l =>
  inferInstanceAs (Decidable (¬ EmptyImportLine l ∧ ¬ (client ∧ ReactImportLine l)))

/-- The lines of a text that stay, with component names lowered. -/
def tidy (text : List Char) : List Char :=
  ((pieces text).filter (Stays (Client text) ·)).flatMap (replaceEach casings)

theorem stays_replaceEach {client : Prop} {l : List Char} :
    Stays client (replaceEach casings l) ↔ Stays client l := by
  rw [Stays, iff_replaceEach EmptyImportLine.of_alike, iff_replaceEach ReactImportLine.of_alike,
    Stays]

/-- The lines that one of the two removing sets removes. -/
def removed (client : Prop) [Decidable client] (l : List Char) : Bool :=
  decide (client ∧ ReactImportLine l) || decide (EmptyImportLine l)

section Lines

variable (text : List Char)

theorem removed_terminated {client : Prop} [Decidable client] (l : List Char)
    (h : removed client l) : Terminated l := by
  rcases Bool.or_eq_true_iff.mp h with h | h
  · exact (of_decide_eq_true h).2.terminated
  · exact (of_decide_eq_true h).terminated

/-- Lowering names before lines are removed or afterwards comes to the same. -/
theorem filter_pieces_replaceEach {client : Prop} [Decidable client] :
    (pieces (replaceEach casings text)).filter (!removed client ·) =
      ((pieces text).filter (Stays client ·)).map (replaceEach casings) := by
  have stays : ∀ l, (!removed client (replaceEach casings l)) = decide (Stays client l) := by
    intro l
    have kept : (!removed client (replaceEach casings l)) = true ↔
        Stays client (replaceEach casings l) := by
      rw [removed, Bool.not_or, Bool.and_eq_true, Bool.not_eq_true', Bool.not_eq_true',
        decide_eq_false_iff_not, decide_eq_false_iff_not, and_comm, Stays]
    rw [Bool.eq_iff_iff, kept, stays_replaceEach, decide_eq_true_iff]
  rw [pieces_replaceEach separable_casings (fun e he => (casings_checked e he).inline.1)
    (fun e he => (casings_checked e he).inline.2), List.filter_map]
  simp only [Function.comp_def, stays]

theorem removeLines_replaceEach :
    removeLines (removed (Client text)) (replaceEach casings text) = tidy text := by
  rw [removeLines, filter_pieces_replaceEach, tidy, List.flatMap_def]

/-- The lines of a tidy text are the lines that stay, with names lowered. -/
theorem pieces_tidy : pieces (tidy text) =
    ((pieces text).filter (Stays (Client text) ·)).map (replaceEach casings) := by
  rw [← removeLines_replaceEach, pieces_removeLines removed_terminated, filter_pieces_replaceEach]

theorem gated_lines :
    emptyImportRemoval.gated (reactRemoval.gated (importCasing.gated text)) = tidy text := by
  have react : ∀ l, decide (Client text ∧ ReactImportLine l) → Terminated l :=
    fun l h => (of_decide_eq_true h).2.terminated
  rw [gated_importCasing, gated_reactRemoval, gated_emptyImportRemoval]
  simp only [iff_replaceEach Client.of_alike]
  rw [removeLines_comp react, ← removeLines_replaceEach]
  rfl

end Lines

/-- What one pass of the built-in catalog makes of the text of a file. -/
def revised (path : Path) (text : List Char) : List Char :=
  if JsxPath path then escapeNodes false (tidy text) else tidy text

theorem revise_shipped_fst (f : SourceFile) :
    (revise shipped f).1 = { f with current := revised f.path f.current } := by
  rw [revise, trace_fst, inScope_shipped, revised]
  by_cases h : JsxPath f.path
  · simp [h, gated_lines, gated_quoteEscaping]
  · simp [h, gated_lines]

/-- Outside files with markup a pass of the built-in catalog leaves the lines that stay, with
component names lowered. -/
theorem revise_outside_jsx (f : SourceFile) (h : ¬ JsxPath f.path) :
    compile builtin = .ok shipped ∧
      (revise shipped f).1 = { f with current := tidy f.current } := by
  refine ⟨compile_builtin, ?_⟩
  rw [revise_shipped_fst, revised, if_neg h]

/-- A client component outside markup: three lines change, and the last, which has no newline,
stays. -/
theorem revise_outside_jsx_client :
    ¬ JsxPath ⟨"src/app.ts"⟩ ∧
      (revise shipped (.ofContent ⟨"src/app.ts"⟩
        ("'use client'\nimport React from \"react\";\nimport \x7b \x7d from './a';\r\n" ++
          "import B from \"@/components/ui/Button\";\n" ++
          "import \x7b\x7d from './b';").toList)).1.current =
        ("'use client'\nimport B from \"@/components/ui/button\";\n" ++
          "import \x7b\x7d from './b';").toList := by
  have outside : ¬ JsxPath ⟨"src/app.ts"⟩ := by decide
  refine ⟨outside, ?_⟩
  rw [(revise_outside_jsx (.ofContent ⟨"src/app.ts"⟩ _) outside).2]
  decide +kernel

end Codemod.Catalog
