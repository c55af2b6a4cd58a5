import Codemod.Proofs.Catalog.Imports

/-! What the guards of two rule sets of the built-in catalog look for.
The guard of either set is a pattern of its own, which is wider than the patterns of the rules
behind it: any capital letter in place of a component's name, any blanks between the braces of an
import, line ends included. So it rejects no text that the rules would change, and asking it saves
work and makes no other difference. -/

namespace Codemod

namespace CharSet

theorem mem_capitals {c : Char} : (range 'A' 'Z').mem c ↔ c.isUpper := by
  have upper : c.isUpper = decide (c.val ≥ 'A'.val ∧ c.val ≤ 'Z'.val) := rfl
  rw [mem_range, Bool.and_eq_true, decide_eq_true_eq, decide_eq_true_eq, upper, decide_eq_true_eq]
  rfl

end CharSet

namespace Catalog

open Pattern Text

/-- Something is imported from a component module whose name begins with a capital letter. -/
def HasCapitalImport (text : List Char) : Prop :=
  ∃ quote c, isQuote quote ∧ c.isUpper ∧ importHead quote ++ [c] <:+: text

/-- There is an import with nothing but blanks between its braces. -/
def HasEmptyBraces (text : List Char) : Prop :=
  ∃ blanks, (∀ c ∈ blanks, isBlank c) ∧
    "import \x7b".toList ++ (blanks ++ ['\x7d']) <:+: text

section Guards

variable {text : List Char}

theorem applies_importCasing_iff : importCasing.applies text ↔ HasCapitalImport text := by
  have hguard : importCasing.applies text =
      Pattern.isMatch ⟨"from [\"']@/components/ui/[A-Z]".toList, capitalImport⟩ text := rfl
  rw [hguard, isMatch_iff_infix (by simp [root, capitalImport, Node.ofExpr])
    (by simp [capitalImport, Node.ofExpr])]
  simp only [capitalImport, Node.ofExpr, Node.mem_language_cat, Node.mem_language_literal,
    Node.mem_language_set, CharSet.mem_quotes, CharSet.mem_capitals, HasCapitalImport, isQuote,
    Bool.or_eq_true, beq_iff_eq]
  -- The word that the pattern spells is the head and the letter by computation.
  constructor
  · rintro ⟨_, ⟨_, rfl, _, ⟨_, ⟨quote, hquote, rfl⟩, _, ⟨_, rfl, _, ⟨c, hc, rfl⟩, rfl⟩, rfl⟩, rfl⟩,
      hin⟩
    exact ⟨quote, c, hquote, hc, hin⟩
  · rintro ⟨quote, c, hquote, hc, hin⟩
    exact ⟨_, ⟨_, rfl, _, ⟨_, ⟨quote, hquote, rfl⟩, _, ⟨_, rfl, _, ⟨c, hc, rfl⟩, rfl⟩, rfl⟩, rfl⟩,
      hin⟩

theorem applies_emptyImportRemoval_iff : emptyImportRemoval.applies text ↔ HasEmptyBraces text := by
  have hguard : emptyImportRemoval.applies text =
      Pattern.isMatch ⟨"import \\\x7b\\s*\\\x7d".toList, emptyBraces⟩ text := rfl
  rw [hguard, isMatch_iff_infix (by simp [root, ofExpr_emptyBraces])
    (by simp [ofExpr_emptyBraces])]
  simp only [ofExpr_emptyBraces, Node.mem_language_cat, Node.mem_language_star_set,
    Node.mem_language_literal, HasEmptyBraces, isBlank]
  constructor
  · rintro ⟨_, ⟨_, rfl, _, ⟨blanks, hblanks, _, rfl, rfl⟩, rfl⟩, hin⟩
    exact ⟨blanks, hblanks, hin⟩
  · rintro ⟨blanks, hblanks, hin⟩
    exact ⟨_, ⟨_, rfl, _, ⟨blanks, hblanks, _, rfl, rfl⟩, rfl⟩, hin⟩

end Guards

/-- With or without its guard either set makes the same of a text. -/
theorem gated_eq_apply {s : RuleSet} (hs : s ∈ [importCasing, emptyImportRemoval])
    (text : List Char) : s.gated text = s.apply text := by
  rcases List.mem_pair.mp hs with rfl | rfl
  · rw [gated_importCasing, apply_importCasing]
  · rw [gated_emptyImportRemoval, apply_emptyImportRemoval]

/-- The guard of one set looks for a capital letter in the path of a component module, that of the
other for braces with nothing but blanks between them. A text that either guard rejects would be
kept by the rules behind it, so a step of the set is the same as its rules alone. -/
theorem guards_lose_nothing (text : List Char) :
    compile builtin = .ok shipped ∧
    shipped.find? (·.name == "ui-import-casing") = some importCasing ∧
    shipped.find? (·.name == "empty-imports") = some emptyImportRemoval ∧
    (importCasing.applies text ↔ HasCapitalImport text) ∧
    (emptyImportRemoval.applies text ↔ HasEmptyBraces text) ∧
    ∀ s ∈ [importCasing, emptyImportRemoval],
      (s.applies text = false → s.apply text = text) ∧
        (s.step? text).getD text = s.apply text := by
  refine ⟨compile_builtin, rfl, rfl, applies_importCasing_iff, applies_emptyImportRemoval_iff,
    fun s hs => ⟨fun rejects => ?_, ?_⟩⟩
  · have kept : s.gated text = text := if_neg (by simp [rejects])
    rw [← gated_eq_apply hs, kept]
  · rw [s.getD_step, gated_eq_apply hs]

/-- Both guards reject a text that comes near to what the rules look for. -/
theorem guards_lose_nothing_near :
    let text := "import \x7b a \x7d from '@/components/ui/button';\n".toList
    importCasing.applies text = false ∧ importCasing.apply text = text ∧
      emptyImportRemoval.applies text = false ∧ emptyImportRemoval.apply text = text := by
  intro text
  have casing : importCasing.applies text = false := by decide +kernel
  have braces : emptyImportRemoval.applies text = false := by decide +kernel
  obtain ⟨-, -, -, -, -, rejected⟩ := guards_lose_nothing text
  exact ⟨casing, (rejected importCasing (by simp)).1 casing, braces,
    (rejected emptyImportRemoval (by simp)).1 braces⟩

-- The guard of the other set that removes lines asks for something else than its rule, and holds it
-- back.
example : reactRemoval.applies "import React from 'react';\n".toList = false ∧
    reactRemoval.apply "import React from 'react';\n".toList = [] := by
  decide +kernel

end Catalog

end Codemod
