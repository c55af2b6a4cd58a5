import Codemod.Proofs.Catalog.Meaning

/-! Stability of the built-in catalog.
Each of its rule sets keeps its own results. One after the other they do not always: the entity
that one set writes ends with a semicolon, and this may complete an import of nothing that
another set removes only in the next pass. A second pass finds something in no other case. -/

namespace Codemod.Catalog

open Pipeline Text

theorem apply_apply_of_mem_shipped {s : RuleSet} (hs : s ∈ shipped) (text : List Char) :
    s.apply (s.apply text) = s.apply text := by
  simp only [shipped, List.mem_cons, List.not_mem_nil, or_false] at hs
  rcases hs with rfl | rfl | rfl | rfl
  · rw [apply_importCasing, apply_importCasing]
    exact replaceEach_replaceEach separable_casings text
  · rw [apply_reactRemoval, apply_reactRemoval]
    exact removeLines_removeLines (fun l h => (of_decide_eq_true h).terminated) text
  · rw [apply_emptyImportRemoval, apply_emptyImportRemoval]
    exact removeLines_removeLines (fun l h => (of_decide_eq_true h).terminated) text
  · rw [apply_quoteEscaping, apply_quoteEscaping]
    exact escapeNodes_escapeNodes false text

/-- Every rule set of the built-in catalog keeps its own results, with its guard and without, so
none is ever found unstable. -/
theorem unstable_shipped (path : Path) (text : List Char) :
    compile builtin = .ok shipped ∧
      (∀ s ∈ shipped, s.apply (s.apply text) = s.apply text ∧
        s.gated (s.gated text) = s.gated text) ∧
      unstable shipped path text = [] := by
  have gated : ∀ s ∈ shipped, ∀ text, s.gated (s.gated text) = s.gated text :=
    fun s hs => RuleSet.gated_gated (apply_apply_of_mem_shipped hs)
  refine ⟨compile_builtin, fun s hs => ?_, unstable_eq_nil gated path text⟩
  exact ⟨apply_apply_of_mem_shipped hs text, gated s hs text⟩

theorem escaped_revised (path : Path) (text : List Char) :
    Escaped (tidy text) (revised path text) := by
  unfold revised
  split
  · exact escaped_escapeNodes false (tidy text)
  · exact .refl (tidy text)

/-- A word in the result of a pass, between entities and within a line, was there after names were
lowered. -/
theorem infix_of_infix_revised {path : Path} {text word : List Char} {c : Char} (hc : c ∉ entity)
    (hword : '&' ∉ c :: word) (hline : '\n' ∉ c :: word)
    (hin : c :: word <:+: revised path text) : c :: word <:+: replaceEach casings text := by
  have hin := (escaped_revised path text).infix_before hc hword hin
  rw [← removeLines_replaceEach] at hin
  exact infix_of_infix_removeLines removed_terminated hline hin

theorem importCasing_revised (path : Path) (text : List Char) :
    importCasing.gated (revised path text) = revised path text := by
  rw [gated_importCasing]
  apply replaceEach_eq_self
  intro e he hin
  obtain ⟨tail, htail, -⟩ := word_marked separable_casings he
  have hplain := (casings_checked e he).plain
  have hinline := (casings_checked e he).inline.1
  rw [htail] at hin hplain hinline
  have occurs := infix_of_infix_revised (by decide) hplain hinline hin
  rw [← htail] at occurs
  exact not_infix_replaceEach separable_casings he text occurs

theorem client_of_client_revised {path : Path} {text : List Char}
    (h : Client (revised path text)) : Client text := by
  rw [← iff_replaceEach Client.of_alike text]
  exact h.imp (infix_of_infix_revised (by decide) (by decide) (by decide))
    (infix_of_infix_revised (by decide) (by decide) (by decide))

theorem stays_of_mem_tidy {text l : List Char} (hl : l ∈ pieces (tidy text)) :
    Stays (Client text) l := by
  rw [pieces_tidy] at hl
  obtain ⟨l', hl', rfl⟩ := List.mem_map.mp hl
  exact stays_replaceEach.mpr (of_decide_eq_true (List.mem_filter.mp hl').2)

/-- A line in the result of a pass and the line that it was before quotes were escaped. -/
theorem exists_mem_tidy {path : Path} {text l : List Char} (hl : l ∈ pieces (revised path text)) :
    ∃ l' ∈ pieces (tidy text), Escaped l' l := by
  obtain ⟨i, hi, rfl⟩ := List.getElem_of_mem hl
  have lines := (escaped_revised path text).pieces
  have hi' : i < (pieces (tidy text)).length := lines.length_eq ▸ hi
  exact ⟨_, List.getElem_mem hi', lines.get hi' hi⟩

theorem reactRemoval_revised (path : Path) (text : List Char) :
    reactRemoval.gated (revised path text) = revised path text := by
  rw [gated_reactRemoval]
  apply removeLines_eq_self
  intro l hl
  rw [decide_eq_false_iff_not]
  rintro ⟨hclient, hreact⟩
  obtain ⟨l', hl', escaped⟩ := exists_mem_tidy hl
  have hplain : '&' ∉ l := fun hmem => absurd (hreact.mem_chars hmem) (by decide)
  rw [escaped.eq_of_not_mem (by decide) hplain] at hl'
  exact (stays_of_mem_tidy hl').2 ⟨client_of_client_revised hclient, hreact⟩

theorem emptyImportRemoval_revised_iff (path : Path) (text : List Char) :
    emptyImportRemoval.gated (revised path text) = revised path text ↔
      ∀ l ∈ pieces (revised path text), ¬ EmptyImportLine l := by
  rw [gated_emptyImportRemoval,
    removeLines_eq_self_iff fun l h => (of_decide_eq_true h).terminated]
  simp only [decide_eq_false_iff_not]

theorem quoteEscaping_revised {path : Path} (h : JsxPath path) (text : List Char) :
    quoteEscaping.gated (revised path text) = revised path text := by
  rw [gated_quoteEscaping, revised, if_pos h, escapeNodes_escapeNodes]

/-- Of the four sets only the one that removes imports of nothing can change the result of a
pass. -/
theorem revise_revised_iff (path : Path) (text : List Char) :
    revise shipped (.ofContent path (revised path text)) =
        (.ofContent path (revised path text), []) ↔
      ∀ l ∈ pieces (revised path text), ¬ EmptyImportLine l := by
  rw [revise_eq_iff, ← emptyImportRemoval_revised_iff, SourceFile.ofContent, inScope_shipped]
  constructor
  · intro h
    exact h emptyImportRemoval (by simp)
  · intro h s hs
    simp only [List.mem_append, List.mem_cons, List.not_mem_nil, or_false] at hs
    rcases hs with (rfl | rfl | rfl) | hs
    · exact importCasing_revised path text
    · exact reactRemoval_revised path text
    · exact h
    · split at hs
      · next hjsx =>
        rw [List.mem_singleton.mp hs]
        exact quoteEscaping_revised hjsx text
      · cases hs

/-- An import of nothing that a pass leaves behind ended with a quote before. -/
theorem exists_quote_of_emptyImportLine {l l' : List Char} (h : Escaped l' l)
    (hl : EmptyImportLine l) (hl' : ¬ EmptyImportLine l') :
    ∃ front ending, LineEnd ending ∧ l = front ++ entity ++ ending ∧
      l' = front ++ '"' :: ending := by
  obtain ⟨blanks, path, ending, hblanks, hpath, hending, rfl⟩ := hl
  have hspace : ';' ∉ blanks := fun hmem => absurd (hblanks _ hmem) (by decide)
  have hinline : ';' ∉ path := fun hmem => absurd (hpath _ hmem) (by decide)
  have hbody : ';' ∉ "import \x7b".toList ++ (blanks ++ ("\x7d from ".toList ++ path)) := by
    simp [hspace, hinline]
  have hplain : '&' ∉ ending := fun hmem => absurd (hending.mem_chars hmem) (by decide)
  have whole :
      "import \x7b".toList ++ (blanks ++ ("\x7d from ".toList ++ (path ++ ';' :: ending))) =
      "import \x7b".toList ++ (blanks ++ ("\x7d from ".toList ++ path)) ++ ';' :: ending := by
    simp only [List.append_assoc]
  rw [whole] at h ⊢
  rcases h.before_semicolon hbody with ⟨rest, rfl, hrest⟩ | ⟨front, rest, hfront, rfl, hrest⟩
  · rw [hrest.eq_of_not_mem (by decide) hplain, ← whole] at hl'
    exact absurd ⟨blanks, path, ending, hblanks, hpath, hending, rfl⟩ hl'
  · rw [hrest.eq_of_not_mem (by decide) hplain]
    refine ⟨front, ending, hending, ?_, rfl⟩
    rw [← hfront]
    exact List.append_cons ..

/-- A second pass over a file finds something exactly if the file has markup and the first pass
leaves an import of nothing behind. Such a line ended with a quote, whose entity brought the
semicolon. -/
theorem second_pass_clean_iff (path : Path) (text : List Char) :
    let once := (revise shipped (.ofContent path text)).1.current
    compile builtin = .ok shipped ∧
      (revise shipped (.ofContent path once) = (.ofContent path once, []) ↔
        ¬ (JsxPath path ∧ ∃ l ∈ pieces (escapeNodes false (tidy text)), EmptyImportLine l)) ∧
      ∀ l ∈ pieces once, EmptyImportLine l →
        ∃ front ending, LineEnd ending ∧ l = front ++ entity ++ ending ∧
          front ++ '"' :: ending ∈ pieces (tidy text) := by
  have once : (revise shipped (.ofContent path text)).1.current = revised path text := by
    rw [revise_shipped_fst]
    rfl
  simp only [once]
  refine ⟨compile_builtin, ?_, ?_⟩
  · rw [revise_revised_iff]
    by_cases h : JsxPath path
    · simp [revised, h]
    · simp only [revised, h, if_false, false_and, not_false_iff, iff_true]
      exact fun l hl => (stays_of_mem_tidy hl).1
  · intro l hl hempty
    obtain ⟨l', hl', escaped⟩ := exists_mem_tidy hl
    obtain ⟨front, ending, hending, hl, rfl⟩ :=
      exists_quote_of_emptyImportLine escaped hempty (stays_of_mem_tidy hl').1
    exact ⟨front, ending, hending, hl, hl'⟩

/-- The quote at the end of the line becomes an entity in the first pass, and the second pass
removes the line. -/
theorem second_pass_changes_again :
    compile builtin = .ok shipped ∧
      revise shipped (.ofContent ⟨"a.tsx"⟩ "import \x7b\x7d from >\"\n<".toList) =
        (⟨⟨"a.tsx"⟩, "import \x7b\x7d from >\"\n<".toList,
          "import \x7b\x7d from >&quot;\n<".toList⟩, ["jsx-text-quotes"]) ∧
      revise shipped (.ofContent ⟨"a.tsx"⟩ "import \x7b\x7d from >&quot;\n<".toList) =
        (⟨⟨"a.tsx"⟩, "import \x7b\x7d from >&quot;\n<".toList, "<".toList⟩,
          ["empty-imports"]) :=
  ⟨compile_builtin, by decide +kernel⟩

end Codemod.Catalog
