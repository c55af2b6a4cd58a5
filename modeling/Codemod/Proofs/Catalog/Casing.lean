import Codemod.Proofs.Catalog.Compiled
import Codemod.Proofs.Pattern.Language
import Codemod.Proofs.Pipeline.Pass
import Codemod.Proofs.Text.Words

/-! Imports of component modules: the rule set that lowers their names replaces words by a
table, and its guard rejects only texts in which none of these words occurs. -/

namespace Codemod

theorem Unicode.lower_of_ascii {text : List Char} (h : ∀ c ∈ text, c.toNat < 128) :
    Unicode.lower text = Text.lowerAscii text := by
  have after : ∀ before, Unicode.lowerAfter before text = Text.lowerAscii text := by
    induction text with
    | nil => exact fun _ => rfl
    | cons c rest ih =>
      intro before
      have hc := h c (List.mem_cons_self ..)
      have hsigma : c ≠ 'Σ' := by
        rintro rfl
        exact absurd hc (by decide)
      rw [Unicode.lowerAfter, if_neg hsigma, Unicode.lowerChar, if_pos hc,
        ih (fun d hd => h d (List.mem_cons_of_mem c hd)) (c :: before)]
      rfl
  exact after []

namespace Catalog

open Pattern

/-- The import of a component module, from the keyword to the closing quote. -/
def importWord (quote : Char) (name : List Char) : List Char :=
  importHead quote ++ name ++ [quote]

/-- The imports of all components between one kind of quotes, with their names lowered. -/
def casingTable (quote : Char) : List (List Char × List Char) :=
  components.map fun name =>
    (importWord quote name.toList, importWord quote (Text.lowerAscii name.toList))

/-- The imports of all components. -/
def casings : List (List Char × List Char) :=
  casingTable '"' ++ casingTable '\''

theorem mem_casings {e : List Char × List Char} :
    e ∈ casings ↔ ∃ quote ∈ ['"', '\''], ∃ name ∈ components,
      e = (importWord quote name.toList, importWord quote (Text.lowerAscii name.toList)) := by
  simp only [casings, casingTable, List.mem_append, List.mem_map, List.mem_cons, List.not_mem_nil,
    or_false, exists_eq_or_imp, exists_eq_left, eq_comm]

theorem importWord_prefix_iff {quote quote' : Char} {name name' : List Char} :
    importWord quote name <+: importWord quote' name' ↔
      quote = quote' ∧ name ++ [quote] <+: name' ++ [quote'] := by
  unfold importWord importHead
  generalize "from ".toList = front
  generalize "@/components/ui/".toList = back
  simp [List.cons_prefix_cons]

/-- No component name begins another one up to its closing quote, and none begins like a lowered
name. -/
theorem components_apart : ∀ quote ∈ ['"', '\''], ∀ name ∈ components, ∀ other ∈ components,
    (name.toList ++ [quote] <+: other.toList ++ [quote] → name = other) ∧
      ¬ name.toList ++ [quote] <+: Text.lowerAscii other.toList ++ [quote] ∧
      ¬ Text.lowerAscii other.toList ++ [quote] <+: name.toList ++ [quote] := by
  rw [List.forall_mem_cons, List.forall_mem_singleton]
  decide

/-- The texts differ at most in letters that follow a slash directly; `slash` says that one stands
before them. -/
@[simp] def alike : (slash : Bool) → List Char → List Char → Bool
  | _, [], [] => true
  | slash, a :: s, b :: t => (a == b || slash && a.isAlpha && b.isAlpha) && alike (a == '/') s t
  | _, _, _ => false

theorem alike_cons_iff {slash : Bool} {a b : Char} {s t : List Char} :
    alike slash (a :: s) (b :: t) ↔
      (a = b ∨ slash ∧ a.isAlpha ∧ b.isAlpha) ∧ alike (a == '/') s t := by
  simp [and_assoc]

theorem exists_of_alike_cons {slash : Bool} {a : Char} {s t : List Char}
    (h : alike slash (a :: s) t) : ∃ b t', t = b :: t' := by
  cases t with
  | nil => simp at h
  | cons b t' => exact ⟨b, t', rfl⟩

theorem slash_not_alpha {c : Char} (h : c.isAlpha) : (c == '/') = false := by
  rw [beq_eq_false_iff_ne]
  rintro rfl
  exact absurd h (by decide)

theorem alike_symm {slash : Bool} {s t : List Char} (h : alike slash s t) : alike slash t s := by
  induction s generalizing slash t with
  | nil =>
    cases t with
    | nil => rfl
    | cons b t => simp at h
  | cons a s ih =>
    obtain ⟨b, t, rfl⟩ := exists_of_alike_cons h
    rw [alike_cons_iff] at h ⊢
    obtain ⟨rfl | ⟨hslash, ha, hb⟩, hrest⟩ := h
    · exact ⟨.inl rfl, ih hrest⟩
    · rw [slash_not_alpha ha] at hrest
      rw [slash_not_alpha hb]
      exact ⟨.inr ⟨hslash, hb, ha⟩, ih hrest⟩

theorem alike_append {slash : Bool} {s s' t t' : List Char} (h : alike slash s s')
    (h' : ∀ slash, alike slash t t') : alike slash (s ++ t) (s' ++ t') := by
  induction s generalizing slash s' with
  | nil =>
    cases s' with
    | nil => exact h' slash
    | cons b s' => simp at h
  | cons a s ih =>
    obtain ⟨b, s', rfl⟩ := exists_of_alike_cons h
    rw [alike_cons_iff] at h
    rw [List.cons_append, List.cons_append, alike_cons_iff]
    exact ⟨h.1, ih h.2⟩

/-- The words of an entry lie within a line and hold no ampersand, and the second differs from the
first in capital letters that follow a slash. -/
structure Lowering (e : List Char × List Char) : Prop where
  marked : Text.markedBy 'f' e.1 ∧ Text.markedBy 'f' e.2
  inline : '\n' ∉ e.1 ∧ '\n' ∉ e.2
  plain : '&' ∉ e.1
  alike : ∀ slash, alike slash e.1 e.2
  quotes : e.2.count '"' = e.1.count '"'
  capitals : e.2.countP Char.isUpper < e.1.countP Char.isUpper

theorem casings_checked (e : List Char × List Char) (he : e ∈ casings) : Lowering e := by
  have checked : ∀ e ∈ casings, (Text.markedBy 'f' e.1 ∧ Text.markedBy 'f' e.2) ∧
      ('\n' ∉ e.1 ∧ '\n' ∉ e.2) ∧ '&' ∉ e.1 ∧ (∀ slash, Catalog.alike slash e.1 e.2) ∧
      e.2.count '"' = e.1.count '"' ∧ e.2.countP Char.isUpper < e.1.countP Char.isUpper := by
    decide
  obtain ⟨marked, inline, plain, alike, quotes, capitals⟩ := checked e he
  exact ⟨marked, inline, plain, alike, quotes, capitals⟩

theorem separable_casings : Text.separable 'f' casings := by
  simp only [Text.separable, List.all_eq_true, Bool.and_eq_true, Bool.or_eq_true,
    Bool.not_eq_true', beq_iff_eq]
  intro e he
  refine ⟨(casings_checked e he).marked, fun d hd => ?_⟩
  obtain ⟨quote, hquote, name, hname, rfl⟩ := mem_casings.mp he
  obtain ⟨quote', hquote', other, hother, rfl⟩ := mem_casings.mp hd
  simp only [← Bool.not_eq_true, List.isPrefixOf_iff_prefix, importWord_prefix_iff]
  by_cases hq : quote = quote'
  · subst hq
    obtain ⟨same, apart, apart'⟩ := components_apart quote hquote name hname other hother
    refine ⟨⟨?_, fun h => apart h.2⟩, fun h => apart' h.2⟩
    by_cases hpre : name.toList ++ [quote] <+: other.toList ++ [quote]
    · exact .inr (by rw [same hpre])
    · exact .inl fun h => hpre h.2
  · exact ⟨⟨.inl fun h => hq h.1, fun h => hq h.1⟩, fun h => hq h.1.symm⟩

/-- Names are ASCII and begin with a capital letter. -/
theorem components_letters : ∀ name ∈ components, name.toList.all (·.toNat < 128) ∧
    name.toList.head?.any (CharSet.range 'A' 'Z').mem := by
  decide

/-- The marks of the import of a component from a cursor on. -/
def importMarks (quote : Char) (name : List Char) (offset : Nat) : List Mark :=
  let nameStart := offset + (importHead quote).length
  let nameStop := nameStart + name.length
  [.opened 0 offset, .opened 1 offset, .closed 1 nameStart, .opened 2 nameStart,
    .closed 2 nameStop, .opened 3 nameStop, .closed 3 (nameStop + 1), .closed 0 (nameStop + 1)]

theorem componentImport_eq (quote : Char) : componentImport quote =
    .cat (.group 1 none (.literal (importHead quote)))
      (.cat (.group 2 none (.ofBranches ((components.map String.toList).map .literal)))
        (.group 3 none (.literal [quote]))) := by
  rw [List.map_map]
  rfl

theorem way_componentImport_iff {room : Nat} {quote : Char} {c c' : Cursor} {ms : List Mark} :
    Way (.group 0 (Node.ofExpr room (none : Outcome) (componentImport quote))) c ms c' ↔
      ∃ name ∈ components, ∃ rest, c.rest = importWord quote name.toList ++ rest ∧
        c' = c.past (importWord quote name.toList) rest ∧
        ms = importMarks quote name.toList c.offset := by
  rw [Way.group_iff]
  simp only [componentImport_eq, Node.ofExpr, Way.cat_iff,
    Node.way_group_iff (Node.silent_literal _ _), Node.way_group_iff (Node.silent_branches _ _ _),
    Node.mem_language_literal, Node.mem_language_branches, List.mem_map]
  constructor
  · rintro ⟨_, ⟨_, _, _, ⟨_, r₁, h₁, rfl, rfl, rfl⟩,
      ⟨_, _, _, ⟨_, r₂, h₂, rfl, ⟨name, hname, rfl⟩, rfl⟩,
        ⟨_, rest, h₃, rfl, rfl, rfl⟩, rfl⟩, rfl⟩, rfl⟩
    rw [Cursor.past_rest] at h₂ h₃
    refine ⟨name, hname, rest, ?_, ?_, ?_⟩
    · simp [h₁, h₂, h₃, importWord]
    · simp [Cursor.past_past, importWord]
    · simp [importMarks]
  · rintro ⟨name, hname, rest, hrest, rfl, rfl⟩
    refine ⟨_, ⟨_, _, _, ⟨_, name.toList ++ quote :: rest, ?_, rfl, rfl, rfl⟩,
      ⟨_, _, _, ⟨_, quote :: rest, rfl, rfl, ⟨name, hname, rfl⟩, rfl⟩,
        ⟨_, rest, rfl, ?_, rfl, rfl⟩, rfl⟩, rfl⟩, ?_⟩
    · simp [hrest, importWord]
    · simp [Cursor.past_past, importWord]
    · simp [importMarks, importWord, Nat.add_assoc]

theorem steady_componentImport (room : Nat) (quote : Char) :
    (Node.group 0 (Node.ofExpr room none (componentImport quote))).steady := by
  simp only [componentImport_eq, Node.ofExpr, Node.steady, Node.steady_literal,
    Node.steady_branches, Bool.and_self]

/-- The rendering of an import keeps its groups and lowers the name. -/
theorem expand_loweringRule {source : List Char} {quote : Char} {name : String}
    (hname : name ∈ components) {c : Cursor} {rest : List Char}
    (hrest : c.rest = importWord quote name.toList ++ rest) :
    loweringTemplate.expand ⟨source, componentImport quote⟩
        (matchOf c (importMarks quote name.toList c.offset)
          (c.past (importWord quote name.toList) rest)) =
      importWord quote (Text.lowerAscii name.toList) := by
  generalize hm : matchOf c (importMarks quote name.toList c.offset)
    (c.past (importWord quote name.toList) rest) = m
  have first : m.group? 1 = some (importHead quote) := by
    rw [← hm]
    exact group_matchOf [] _ (name.toList ++ [quote]) hrest (List.append_assoc ..) rfl rfl
  have second : m.group? 2 = some name.toList := by
    rw [← hm]
    exact group_matchOf (importHead quote) _ [quote] hrest (List.append_assoc ..) rfl rfl
  have third : m.group? 3 = some [quote] := by
    rw [← hm]
    apply group_matchOf (importHead quote ++ name.toList) _ [] hrest rfl
    · simp [importMarks, lastOpened, Nat.add_assoc]
    · simp [importMarks, lastClosed, Nat.add_assoc]
  have hcount : Pattern.groupCount ⟨source, componentImport quote⟩ = 4 := rfl
  have hascii : ∀ c ∈ name.toList, c.toNat < 128 := by
    simpa using (components_letters name hname).1
  have hlower := Unicode.lower_of_ascii hascii
  simp [loweringTemplate, Template.expand, Template.expandSegment, GroupRef.resolve?, hcount, first,
    second, third, Transform.apply, hlower, importWord]

theorem apply_loweringRule {source : String} {quote : Char} (hquote : quote ∈ ['"', '\''])
    (text : List Char) :
    (loweringRule source (componentImport quote)).apply text =
      Text.replaceEach (casingTable quote) text := by
  have hsub : casingTable quote ⊆ casings := by
    rcases List.mem_pair.mp hquote with rfl | rfl
    · exact List.subset_append_left _ _
    · exact List.subset_append_right _ _
  have hsep := Text.separable_of_subset separable_casings hsub
  have hconsumes : (Pattern.root ⟨source.toList, componentImport quote⟩ text.length).consumes := rfl
  apply replaceAll_eq ⟨source.toList, componentImport quote⟩ text
    (f := fun c => Text.replaceEach (casingTable quote) c.rest)
    (steady_componentImport text.length quote) hconsumes
  constructor
  · intro c hrest
    simp only [hrest, Text.replaceEach]
  · intro c a rest hrest noWay
    rw [hrest, Text.replaceEach_cons]
    · rfl
    · rintro e he ⟨tail, htail⟩
      obtain ⟨name, hname, rfl⟩ := List.mem_map.mp he
      exact noWay _ _ (way_componentImport_iff.mpr
        ⟨name, hname, tail, hrest.trans htail.symm, rfl, rfl⟩)
  · intro c ms c' way
    obtain ⟨name, hname, rest, hrest, rfl, rfl⟩ := way_componentImport_iff.mp way
    have hmem := List.mem_map_of_mem (f := fun name : String =>
      (importWord quote name.toList, importWord quote (Text.lowerAscii name.toList))) hname
    rw [expand_loweringRule hname hrest, hrest]
    exact Text.replaceEach_word hsep hmem rest

/-- The rule set replaces the imports of all components by their lowered forms. -/
theorem apply_importCasing (text : List Char) :
    importCasing.apply text = Text.replaceEach casings text := by
  rw [RuleSet.apply, importCasing]
  simp only [List.foldl_cons, List.foldl_nil]
  rw [apply_loweringRule (by simp), apply_loweringRule (by simp),
    Text.replaceEach_append separable_casings]
  rfl

/-- Where the import of a component occurs, an import with a capital letter does. -/
theorem isMatch_capitalImport {source text : List Char} {e : List Char × List Char}
    (he : e ∈ casings) (h : e.1 <:+: text) : Pattern.isMatch ⟨source, capitalImport⟩ text := by
  obtain ⟨quote, hquote, name, hname, rfl⟩ := mem_casings.mp he
  obtain ⟨front, back, rfl⟩ := h
  obtain ⟨c, tail, hcap, hsplit⟩ : ∃ c tail, (CharSet.range 'A' 'Z').mem c ∧
      name.toList = c :: tail := by
    have hhead := (components_letters name hname).2
    cases hchars : name.toList with
    | nil => simp [hchars] at hhead
    | cons c tail => exact ⟨c, tail, by simpa [hchars] using hhead, rfl⟩
  apply isMatch_of_infix (importHead quote ++ [c])
  · simp [root, capitalImport, Node.ofExpr]
  · simp [capitalImport, Node.ofExpr]
  · have hq : quotes.mem quote := by
      rcases List.mem_pair.mp hquote with rfl | rfl <;> decide
    simp only [capitalImport, Node.ofExpr, Node.mem_language_cat, Node.mem_language_literal,
      Node.mem_language_set]
    exact ⟨_, rfl, [quote] ++ ("@/components/ui/".toList ++ [c]),
      ⟨[quote], ⟨quote, hq, rfl⟩, _, ⟨_, rfl, [c], ⟨c, hcap, rfl⟩, rfl⟩, rfl⟩,
      (List.append_assoc ..).symm⟩
  · exact ⟨front, tail ++ quote :: back, by simp [importWord, hsplit]⟩

/-- The guard rejects no text that the rules change. -/
theorem gated_importCasing (text : List Char) :
    importCasing.gated text = Text.replaceEach casings text := by
  by_cases h : ∃ e ∈ casings, e.1 <:+: text
  · obtain ⟨e, he, hin⟩ := h
    have applies : importCasing.applies text := isMatch_capitalImport he hin
    rw [RuleSet.gated_of_applies applies, apply_importCasing]
  · rw [not_exists] at h
    have same := Text.replaceEach_eq_self fun e he hin => h e ⟨he, hin⟩
    rw [RuleSet.gated_of_apply_eq ((apply_importCasing text).trans same), same]

/-- Lowering names changes no more than the first letter of the last part of a module path. -/
theorem alike_replaceEach (slash : Bool) (text : List Char) :
    alike slash text (Text.replaceEach casings text) := by
  induction text using Text.replaceEach_induction separable_casings generalizing slash with
  | nil => simp [Text.replaceEach]
  | word e he rest ih =>
    rw [Text.replaceEach_word separable_casings he]
    exact alike_append ((casings_checked e he).alike slash) ih
  | char c rest h ih =>
    rw [Text.replaceEach_cons h, alike_cons_iff]
    exact ⟨.inl rfl, ih _⟩

/-- A text without slashes that begins one of two such texts begins both. -/
theorem exists_append_of_alike {s rest t : List Char} (hs : '/' ∉ s)
    (h : alike false (s ++ rest) t) : ∃ rest', t = s ++ rest' ∧ alike false rest rest' := by
  induction s generalizing t with
  | nil => exact ⟨t, rfl, h⟩
  | cons a s ih =>
    obtain ⟨b, t, rfl⟩ := exists_of_alike_cons h
    rw [List.cons_append, alike_cons_iff] at h
    rw [List.mem_cons, not_or] at hs
    obtain ⟨rfl | ⟨hslash, -⟩, hrest⟩ := h
    · rw [beq_eq_false_iff_ne.mpr (Ne.symm hs.1)] at hrest
      obtain ⟨rest', rfl, hrest'⟩ := ih hs.2 hrest
      exact ⟨rest', rfl, hrest'⟩
    · cases hslash

theorem eq_of_alike {s t : List Char} (hs : '/' ∉ s) (h : alike false s t) : t = s := by
  rw [← List.append_nil s] at h
  obtain ⟨rest, rfl, hrest⟩ := exists_append_of_alike hs h
  cases rest with
  | nil => exact List.append_nil s
  | cons b rest => simp at hrest

theorem exists_cons_of_alike {slash : Bool} {a : Char} {s t : List Char} (ha : a.isAlpha = false)
    (h : alike slash (a :: s) t) : ∃ t', t = a :: t' ∧ alike (a == '/') s t' := by
  obtain ⟨b, t, rfl⟩ := exists_of_alike_cons h
  obtain ⟨rfl | ⟨-, halpha, -⟩, hrest⟩ := alike_cons_iff.mp h
  · exact ⟨t, rfl, hrest⟩
  · simp [ha] at halpha

/-- A run of characters among which are all letters stays such a run. -/
theorem exists_run_of_alike {slash : Bool} {p : Char → Prop} (letters : ∀ c, c.isAlpha → p c)
    {s rest t : List Char} (hs : ∀ c ∈ s, p c) (h : alike slash (s ++ rest) t) :
    ∃ s' rest' slash', t = s' ++ rest' ∧ (∀ c ∈ s', p c) ∧ alike slash' rest rest' := by
  induction s generalizing slash t with
  | nil => exact ⟨[], t, slash, rfl, by simp, h⟩
  | cons a s ih =>
    obtain ⟨b, t, rfl⟩ := exists_of_alike_cons h
    rw [List.cons_append, alike_cons_iff] at h
    obtain ⟨s', rest', slash', rfl, hs', hrest⟩ :=
      ih (fun c hc => hs c (List.mem_cons_of_mem a hc)) h.2
    refine ⟨b :: s', rest', slash', rfl, List.forall_mem_cons.mpr ⟨?_, hs'⟩, hrest⟩
    obtain rfl | ⟨-, -, hb⟩ := h.1
    · exact hs a (List.mem_cons_self ..)
    · exact letters b hb

/-- A word without slashes that does not begin with a letter occurs in both texts or in none. -/
theorem infix_of_alike {slash : Bool} {a : Char} {word s t : List Char} (ha : a.isAlpha = false)
    (hword : '/' ∉ a :: word) (h : alike slash s t) (hin : a :: word <:+: s) :
    a :: word <:+: t := by
  induction s generalizing slash t with
  | nil => simp at hin
  | cons c s ih =>
    obtain ⟨b, t, rfl⟩ := exists_of_alike_cons h
    rcases List.infix_cons_iff.mp hin with ⟨rest, hpre⟩ | hin
    · rw [← hpre] at h
      obtain ⟨t', ht', hrest⟩ := exists_cons_of_alike ha h
      rw [List.mem_cons, not_or] at hword
      rw [beq_eq_false_iff_ne.mpr (Ne.symm hword.1)] at hrest
      obtain ⟨rest', rfl, -⟩ := exists_append_of_alike hword.2 hrest
      exact ⟨[], rest', ht'.symm⟩
    · exact List.infix_cons (ih (alike_cons_iff.mp h).2 hin)

end Catalog

end Codemod
