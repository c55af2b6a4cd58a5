import Codemod.Proofs.Catalog.Markup
import Codemod.Proofs.Text.Places
import Codemod.Proofs.Text.Utf8

/-! What two rule sets of the built-in catalog do to each character of a text.
A quote becomes an entity by what its nearest markup characters are, and a letter is lowered if it
begins a component's name in an import of it. No other character changes. -/

namespace Codemod.Catalog

open Text

/-- The nearest markup characters on both sides of a place are the end of a tag and the beginning of
another one. -/
def BetweenTags (text : List Char) (i : Nat) : Prop :=
  (text.take i).reverse.find? isMarkup = some '>' ∧ (text.drop (i + 1)).find? isMarkup = some '<'

instance (text : List Char) : DecidablePred (BetweenTags text) :=
  fun _ => inferInstanceAs (Decidable (_ ∧ _))

theorem betweenTags_length_iff {before rest : List Char} {c : Char} :
    BetweenTags (before ++ c :: rest) before.length ↔
      before.reverse.find? isMarkup = some '>' ∧ rest.find? isMarkup = some '<' := by
  rw [BetweenTags, List.take_left, List.drop_length_add_append, List.drop_one, List.tail_cons]

/-- The scan of the text behind a part that has been passed. -/
theorem escapeNodes_eq_flatten (before rest : List Char) :
    escapeNodes (before.reverse.find? isMarkup == some '>') rest =
      (rest.mapIdx fun i c =>
        if c = '"' ∧ BetweenTags (before ++ rest) (before.length + i) then entity
        else [c]).flatten := by
  induction rest generalizing before with
  | nil => rfl
  | cons c rest ih =>
    have hnext := ih (before ++ [c])
    -- With one more character passed, the nearest markup character before the rest is that one or
    -- the one before it.
    simp only [List.reverse_append, List.reverse_singleton, List.singleton_append,
      List.find?_cons, List.length_append, List.length_singleton, List.append_assoc,
      Nat.add_assoc, Nat.add_comm 1] at hnext
    rw [List.mapIdx_cons, List.flatten_cons, Nat.add_zero]
    by_cases hc : isMarkup c
    · have hquote : c ≠ '"' := by
        rintro rfl
        exact absurd hc (by decide)
      rw [hc] at hnext
      rw [escapeNodes_markup hc, if_neg fun h => hquote h.1, ← hnext]
      rfl
    · rw [Bool.not_eq_true] at hc
      rw [hc] at hnext
      rw [← hnext]
      by_cases h : c = '"' ∧ BetweenTags (before ++ c :: rest) before.length
      · obtain ⟨hbefore, hbehind⟩ := betweenTags_length_iff.mp h.2
        rw [if_pos h, h.1, hbefore, beq_self_eq_true, escapeNodes_quote hbehind]
      · rw [if_neg h, List.singleton_append, escapeNodes_plain hc]
        rw [betweenTags_length_iff] at h
        rwa [beq_iff_eq]

/-- A quote is written as an entity just if it stands between two tags, and every other character
is kept. -/
theorem quoteEscaping_at_each_place (text : List Char) :
    compile builtin = .ok shipped ∧
    shipped.find? (·.name == "jsx-text-quotes") = some quoteEscaping ∧
    quoteEscaping.apply text = (text.mapIdx fun i c =>
      if c = '"' ∧ BetweenTags text i then "&quot;".toList else [c]).flatten := by
  refine ⟨compile_builtin, rfl, ?_⟩
  have hscan := escapeNodes_eq_flatten [] text
  simp only [List.nil_append, List.length_nil, Nat.zero_add] at hscan
  rw [apply_quoteEscaping]
  exact hscan

/-- The first letter of a component's name stands at a place, in an import of the component. -/
def NameAt (text : List Char) (i : Nat) : Prop :=
  ∃ quote ∈ ['"', '\''], ∃ name ∈ components, ∃ k ≤ i,
    importWord quote name.toList <+: text.drop k ∧ i = k + (importHead quote).length

instance (text : List Char) : DecidablePred (NameAt text) :=
  fun _ => inferInstanceAs (Decidable (∃ _ ∈ _, _))

/-- Lowering a name changes its first letter and no other one. -/
theorem lowerAscii_component {name : String} (h : name ∈ components) :
    ∃ c tail, c.toLower ≠ c ∧ name.toList = c :: tail ∧
      lowerAscii name.toList = c.toLower :: tail := by
  have checked : ∀ name ∈ components, name.toList.head?.any (fun c => c.toLower != c) ∧
      lowerAscii name.toList.tail = name.toList.tail := by
    decide
  obtain ⟨hhead, htail⟩ := checked name h
  cases hname : name.toList with
  | nil => simp [hname] at hhead
  | cons c tail =>
    rw [hname] at hhead htail
    exact ⟨c, tail, by simpa using hhead, rfl, congrArg (c.toLower :: ·) htail⟩

/-- The lowered import of a component is its import with another letter behind the head. -/
theorem importWord_lowerAscii (quote : Char) {name : String} (h : name ∈ components) :
    ∃ c, c.toLower ≠ c ∧
      (importWord quote name.toList)[(importHead quote).length]? = some c ∧
      importWord quote (lowerAscii name.toList) =
        (importWord quote name.toList).set (importHead quote).length c.toLower := by
  obtain ⟨c, tail, hc, hname, hlower⟩ := lowerAscii_component h
  refine ⟨c, hc, ?_, ?_⟩
  · simp [importWord, hname]
  · rw [importWord, importWord, hlower, hname]
    simp

theorem length_casings : ∀ e ∈ casings, e.2.length = e.1.length := by
  decide

theorem byteLength_casings : ∀ e ∈ casings,
    Utf8.byteLength e.2 = Utf8.byteLength e.1 := by
  decide

theorem getElem?_replaceEach_of_nameAt {text : List Char} {i : Nat} (h : NameAt text i) :
    ∃ c, c.toLower ≠ c ∧ text[i]? = some c ∧
      (replaceEach casings text)[i]? = some c.toLower := by
  obtain ⟨quote, hquote, name, hname, k, -, hpre, rfl⟩ := h
  obtain ⟨c, hc, hfirst, hlower⟩ := importWord_lowerAscii quote hname
  have hinside := (List.getElem?_eq_some_iff.mp hfirst).1
  have he := mem_casings.mpr ⟨quote, hquote, name, hname, rfl⟩
  refine ⟨c, hc, ?_, ?_⟩
  · rw [getElem?_of_prefix_drop hpre hinside, hfirst]
  · rw [getElem?_replaceEach_of_word separable_casings length_casings he hpre hinside, hlower,
      List.getElem?_set_self hinside]

theorem getElem?_replaceEach_of_not_nameAt {text : List Char} {i : Nat} (h : ¬ NameAt text i) :
    (replaceEach casings text)[i]? = text[i]? := by
  apply getElem?_replaceEach_of_kept separable_casings length_casings
  intro e he k j hpre hplace
  obtain ⟨quote, hquote, name, hname, rfl⟩ := mem_casings.mp he
  obtain ⟨c, -, -, hlower⟩ := importWord_lowerAscii quote hname
  rw [hlower, List.getElem?_set_ne]
  rintro rfl
  exact h ⟨quote, hquote, name, hname, k, by omega, hpre, hplace⟩

/-- The text keeps its length, in characters and in bytes. It changes just where the name of a
component begins in an import of it, and there the letter is lowered. -/
theorem importCasing_at_each_place (text : List Char) :
    compile builtin = .ok shipped ∧
    shipped.find? (·.name == "ui-import-casing") = some importCasing ∧
    (importCasing.apply text).length = text.length ∧
    Utf8.byteLength (importCasing.apply text) = Utf8.byteLength text ∧
    (∀ i, (importCasing.apply text)[i]? ≠ text[i]? ↔ NameAt text i) ∧
    importCasing.apply text = text.mapIdx fun i c => if NameAt text i then c.toLower else c := by
  rw [apply_importCasing]
  refine ⟨compile_builtin, rfl, ?_, ?_, fun i => ?_, List.ext_getElem? fun i => ?_⟩
  · exact length_replaceEach separable_casings length_casings text
  · exact measure_replaceEach separable_casings Utf8.byteLength_append byteLength_casings text
  · by_cases h : NameAt text i
    · obtain ⟨c, hc, hbefore, hafter⟩ := getElem?_replaceEach_of_nameAt h
      simp [hbefore, hafter, hc, h]
    · simp [getElem?_replaceEach_of_not_nameAt h, h]
  · rw [List.getElem?_mapIdx]
    by_cases h : NameAt text i
    · obtain ⟨c, -, hbefore, hafter⟩ := getElem?_replaceEach_of_nameAt h
      simp [hbefore, hafter, h]
    · simp [getElem?_replaceEach_of_not_nameAt h, h]

end Codemod.Catalog
