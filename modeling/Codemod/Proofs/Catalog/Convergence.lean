import Codemod.Proofs.Catalog.Meaning

/-! Repeated passes of the built-in catalog, or of a part of it, come to rest.
Quotes, newlines and capital letters are counted together: lowering a name takes capital letters
away, removing a line its newline, and escaping quotes the quotes; no set brings one of them
back. -/

namespace Codemod.Catalog

open Pipeline Text

/-- The quotes, newlines and capital letters of a text. -/
def weight (text : List Char) : Nat :=
  text.count '"' + text.count '\n' + text.countP Char.isUpper

theorem weight_append (s t : List Char) : weight (s ++ t) = weight s + weight t := by
  simp only [weight, List.count_append, List.countP_append]
  omega

theorem casings_weight (e : List Char × List Char) (he : e ∈ casings) :
    weight e.2 < weight e.1 := by
  have checked := casings_checked e he
  have hquotes := checked.quotes
  have hcapitals := checked.capitals
  simp only [weight, List.count_eq_zero.mpr checked.inline.1,
    List.count_eq_zero.mpr checked.inline.2]
  omega

theorem weight_removeLines_lt {drop : List Char → Bool} (hdrop : ∀ l, drop l → Terminated l)
    {text : List Char} (h : removeLines drop text ≠ text) :
    weight (removeLines drop text) < weight text := by
  have hsub := removeLines_sublist drop text
  have hquotes := hsub.count_le '"'
  have hnewlines := count_removeLines_lt hdrop h
  have hcapitals := hsub.countP_le (p := Char.isUpper)
  simp only [weight]
  omega

theorem Escaped.weight_lt {s t : List Char} (h : Escaped s t) (hne : t ≠ s) :
    weight t < weight s := by
  have lower : t = s ∨ weight t < weight s := by
    clear hne
    induction h with
    | nil => exact .inl rfl
    | @keep c s t rest ih =>
      refine ih.imp (congrArg (c :: ·)) fun hrest => ?_
      rw [← List.singleton_append, weight_append, ← List.singleton_append (l := s), weight_append]
      omega
    | @quote s t rest ih =>
      have hle : weight t ≤ weight s := ih.elim (fun h => by rw [h]) Nat.le_of_lt
      have hentity : weight entity = 0 := by decide
      have hquote : weight ['"'] = 1 := by decide
      rw [weight_append, ← List.singleton_append (l := s), weight_append]
      exact .inr (by omega)
  exact lower.resolve_left hne

/-- Every change of a set in the built-in catalog lowers the weight. -/
theorem weight_gated_lt {s : RuleSet} (hs : s ∈ shipped) {text : List Char}
    (h : s.gated text ≠ text) : weight (s.gated text) < weight text := by
  simp only [shipped, List.mem_cons, List.not_mem_nil, or_false] at hs
  rcases hs with rfl | rfl | rfl | rfl
  · rw [gated_importCasing] at h ⊢
    exact measure_replaceEach_lt separable_casings weight_append casings_weight h
  · rw [gated_reactRemoval] at h ⊢
    exact weight_removeLines_lt (fun l hl => (of_decide_eq_true hl).2.terminated) h
  · rw [gated_emptyImportRemoval] at h ⊢
    exact weight_removeLines_lt (fun l hl => (of_decide_eq_true hl).terminated) h
  · rw [gated_quoteEscaping] at h ⊢
    exact (escaped_escapeNodes false text).weight_lt h

/-- With any part of the built-in catalog, a pass that lists a name lowers the weight of a file.
So a pass over a new file lists a name exactly if it changes the file, and as many passes as the
weight of the text lead to a file that no further pass changes. -/
theorem passes_converge {sets : List RuleSet} (hsets : sets.Sublist shipped) (path : Path)
    (text : List Char) :
    compile builtin = .ok shipped ∧
      (∀ f : SourceFile, (revise sets f).2 ≠ [] →
        weight (revise sets f).1.current < weight f.current) ∧
      ((revise sets (.ofContent path text)).2 ≠ [] ↔
        (revise sets (.ofContent path text)).1.isChanged) ∧
      ∀ n, weight text ≤ n →
        revise sets ((pass sets)^[n] (.ofContent path text)) =
          ((pass sets)^[n] (.ofContent path text), []) := by
  have lower : ∀ s ∈ sets, ∀ text, s.gated text ≠ text → weight (s.gated text) < weight text :=
    fun s hs _ => weight_gated_lt (hsets.subset hs)
  refine ⟨compile_builtin, fun f => measure_revise_lt lower,
    revise_snd_ne_nil_iff lower path text, fun n hn => ?_⟩
  exact revise_iterate_of_le lower n hn

/-- Two sets and a text of weight two: the first pass escapes the quote, the second removes the
line, and the third finds nothing. -/
theorem passes_converge_two_sets :
    [emptyImportRemoval, quoteEscaping].Sublist shipped ∧
      weight "import \x7b\x7d from >\"\n<".toList = 2 ∧
      (pass [emptyImportRemoval, quoteEscaping])^[2]
          (.ofContent ⟨"a.tsx"⟩ "import \x7b\x7d from >\"\n<".toList) =
        ⟨⟨"a.tsx"⟩, "import \x7b\x7d from >\"\n<".toList, "<".toList⟩ ∧
      revise [emptyImportRemoval, quoteEscaping] ((pass [emptyImportRemoval, quoteEscaping])^[2]
          (.ofContent ⟨"a.tsx"⟩ "import \x7b\x7d from >\"\n<".toList)) =
        ((pass [emptyImportRemoval, quoteEscaping])^[2]
          (.ofContent ⟨"a.tsx"⟩ "import \x7b\x7d from >\"\n<".toList), []) := by
  have part : [emptyImportRemoval, quoteEscaping].Sublist shipped :=
    .cons _ (.cons _ (List.Sublist.refl _))
  have heavy : weight "import \x7b\x7d from >\"\n<".toList = 2 := by decide +kernel
  refine ⟨part, heavy, by decide +kernel, ?_⟩
  exact (passes_converge part ⟨"a.tsx"⟩ _).2.2.2 2 (Nat.le_of_eq heavy)

end Codemod.Catalog
