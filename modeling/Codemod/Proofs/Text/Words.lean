import Codemod.Proofs.Text.Lines

/-! Replacing words by a table.
At each place the entry whose word begins there is used, and the text goes on behind the word.
The words of a separable table begin with a mark that occurs nowhere else in them, so they
never overlap; nor do the replacements, so no word is left after one pass, and two passes are
one pass with both tables. -/

namespace Codemod.Text

/-- The text with every word of a table replaced, from left to right. -/
def replaceEach (table : List (List Char × List Char)) : List Char → List Char
  | [] => []
  | c :: rest =>
    match table.find? fun entry => entry.1.isPrefixOf (c :: rest) with
    | some entry => entry.2 ++ replaceEach table (rest.drop (entry.1.length - 1))
    | none => c :: replaceEach table rest
termination_by text => text.length

/-- A text that begins with the mark and has no other. -/
def markedBy (mark : Char) (word : List Char) : Bool :=
  word.head? == some mark && !word.tail.contains mark

/-- Words and replacements are marked, no word begins another entry's word, and no word and no
replacement begin alike. -/
def separable (mark : Char) (table : List (List Char × List Char)) : Bool :=
  table.all fun e => markedBy mark e.1 && markedBy mark e.2 && table.all fun d =>
    (!e.1.isPrefixOf d.1 || e == d) && !e.1.isPrefixOf d.2 && !d.2.isPrefixOf e.1

theorem markedBy_iff {mark : Char} {word : List Char} :
    markedBy mark word ↔ ∃ tail, word = mark :: tail ∧ mark ∉ tail := by
  cases word with
  | nil => simp [markedBy]
  | cons c tail => simp [markedBy]

/-- An occurrence begins behind a text without its first character. -/
theorem infix_of_infix_append {c : Char} {word text rest : List Char} (h : c ∉ text)
    (hin : c :: word <:+: text ++ rest) : c :: word <:+: rest := by
  induction text with
  | nil => exact hin
  | cons d text ih =>
    rw [List.mem_cons, not_or] at h
    rw [List.cons_append, List.infix_cons_iff, List.cons_prefix_cons] at hin
    rcases hin with hpre | hin
    · exact absurd hpre.1 h.1
    · exact ih h.2 hin

section Separable

variable {mark : Char} {table : List (List Char × List Char)} (hsep : separable mark table)
include hsep

theorem word_marked {e : List Char × List Char} (he : e ∈ table) :
    ∃ tail, e.1 = mark :: tail ∧ mark ∉ tail := by
  have h := List.all_eq_true.mp hsep e he
  simp only [Bool.and_eq_true] at h
  exact markedBy_iff.mp h.1.1

theorem replacement_marked {e : List Char × List Char} (he : e ∈ table) :
    ∃ tail, e.2 = mark :: tail ∧ mark ∉ tail := by
  have h := List.all_eq_true.mp hsep e he
  simp only [Bool.and_eq_true] at h
  exact markedBy_iff.mp h.1.2

/-- At most one word begins at a place. -/
theorem entry_unique {e d : List Char × List Char} (he : e ∈ table) (hd : d ∈ table)
    {text : List Char} (hpe : e.1 <+: text) (hpd : d.1 <+: text) : e = d := by
  have h : ∀ {e d : List Char × List Char}, e ∈ table → d ∈ table → e.1 <+: d.1 → e = d := by
    intro e d he hd hpre
    have h := List.all_eq_true.mp hsep e he
    simp only [Bool.and_eq_true, List.all_eq_true] at h
    simpa [List.isPrefixOf_iff_prefix.mpr hpre] using (h.2 d hd).1.1
  rcases List.prefix_or_prefix_of_prefix hpe hpd with hed | hde
  · exact h he hd hed
  · exact (h hd he hde).symm

/-- No word begins where a replacement stands. -/
theorem not_prefix_replacement {e d : List Char × List Char} (he : e ∈ table) (hd : d ∈ table)
    (rest : List Char) : ¬ e.1 <+: d.2 ++ rest := by
  have h := List.all_eq_true.mp hsep e he
  simp only [Bool.and_eq_true, List.all_eq_true, Bool.not_eq_true'] at h
  have apart := h.2 d hd
  intro hpre
  rcases List.prefix_or_prefix_of_prefix hpre (List.prefix_append d.2 rest) with hed | hde
  · exact absurd (List.isPrefixOf_iff_prefix.mpr hed) (by simp [apart.1.2])
  · exact absurd (List.isPrefixOf_iff_prefix.mpr hde) (by simp [apart.2])

theorem replaceEach_word {e : List Char × List Char} (he : e ∈ table) (rest : List Char) :
    replaceEach table (e.1 ++ rest) = e.2 ++ replaceEach table rest := by
  obtain ⟨tail, htail, -⟩ := word_marked hsep he
  have found : table.find? (fun entry => entry.1.isPrefixOf (mark :: (tail ++ rest))) = some e := by
    rw [← List.cons_append, ← htail]
    cases hfind : table.find? (fun entry => entry.1.isPrefixOf (e.1 ++ rest)) with
    | none =>
      rw [List.find?_eq_none] at hfind
      exact absurd (List.isPrefixOf_iff_prefix.mpr (List.prefix_append e.1 rest)) (hfind e he)
    | some d =>
      have hd := List.mem_of_find?_eq_some hfind
      have hpre : d.1.isPrefixOf (e.1 ++ rest) := by simpa using List.find?_some hfind
      rw [entry_unique hsep hd he (List.isPrefixOf_iff_prefix.mp hpre)
        (List.prefix_append e.1 rest)]
  rw [htail, List.cons_append, replaceEach, found]
  simp [htail]

omit hsep in
theorem replaceEach_cons {c : Char} {rest : List Char}
    (h : ∀ e ∈ table, ¬ e.1 <+: c :: rest) :
    replaceEach table (c :: rest) = c :: replaceEach table rest := by
  have none : table.find? (fun entry => entry.1.isPrefixOf (c :: rest)) = none := by
    rw [List.find?_eq_none]
    intro e he hpre
    exact h e he (List.isPrefixOf_iff_prefix.mp hpre)
  rw [replaceEach, none]

/-- The two ways a text goes on: with a word of the table, or with a character at which no word
begins. -/
theorem replaceEach_induction {P : List Char → Prop} (nil : P [])
    (word : ∀ e ∈ table, ∀ rest, P rest → P (e.1 ++ rest))
    (char : ∀ c rest, (∀ e ∈ table, ¬ e.1 <+: c :: rest) → P rest → P (c :: rest))
    (text : List Char) : P text := by
  induction hlen : text.length using Nat.strong_induction_on generalizing text with
  | _ len ih =>
    cases text with
    | nil => exact nil
    | cons c rest =>
      by_cases h : ∃ e ∈ table, e.1 <+: c :: rest
      · obtain ⟨e, he, tail, htail⟩ := h
        obtain ⟨body, hbody, -⟩ := word_marked hsep he
        rw [← htail] at hlen ⊢
        refine word e he tail (ih tail.length ?_ tail rfl)
        rw [hbody, List.length_append, List.length_cons] at hlen
        omega
      · rw [not_exists] at h
        have shorter : rest.length < len := by
          rw [List.length_cons] at hlen
          omega
        exact char c rest (fun e he hpre => h e ⟨he, hpre⟩) (ih rest.length shorter rest rfl)

theorem not_prefix_of_ne {e : List Char × List Char} (he : e ∈ table) {c : Char}
    (hc : c ≠ mark) (rest : List Char) : ¬ e.1 <+: c :: rest := by
  obtain ⟨tail, htail, -⟩ := word_marked hsep he
  rw [htail, List.cons_prefix_cons]
  exact fun h => hc h.1.symm

/-- Where the mark does not occur nothing is replaced. -/
theorem replaceEach_append_of_not_mem {text : List Char} (h : mark ∉ text) (rest : List Char) :
    replaceEach table (text ++ rest) = text ++ replaceEach table rest := by
  induction text with
  | nil => rfl
  | cons c text ih =>
    rw [List.mem_cons, not_or] at h
    rw [List.cons_append, replaceEach_cons fun e he => not_prefix_of_ne hsep he (Ne.symm h.1) _,
      ih h.2, List.cons_append]

/-- A marked text at which no word begins is kept as a whole. -/
theorem replaceEach_append_of_no_word {s rest : List Char}
    (hs : ∃ tail, s = mark :: tail ∧ mark ∉ tail) (h : ∀ e ∈ table, ¬ e.1 <+: s ++ rest) :
    replaceEach table (s ++ rest) = s ++ replaceEach table rest := by
  obtain ⟨tail, rfl, hmark⟩ := hs
  rw [List.cons_append] at h ⊢
  rw [replaceEach_cons h, replaceEach_append_of_not_mem hsep hmark, List.cons_append]

/-- A text without the mark begins what is replaced exactly if it begins the text itself. -/
theorem prefix_replaceEach_iff {s : List Char} (hs : mark ∉ s) (text : List Char) :
    s <+: replaceEach table text ↔ s <+: text := by
  induction text using replaceEach_induction hsep generalizing s with
  | nil => rw [replaceEach]
  | word e he rest ih =>
    obtain ⟨tail, htail, -⟩ := word_marked hsep he
    obtain ⟨image, himage, -⟩ := replacement_marked hsep he
    rw [replaceEach_word hsep he, htail, himage]
    cases s with
    | nil => simp
    | cons a s =>
      rw [List.mem_cons, not_or] at hs
      simp [List.cons_prefix_cons, Ne.symm hs.1]
  | char c rest h ih =>
    rw [replaceEach_cons h]
    cases s with
    | nil => simp
    | cons a s =>
      rw [List.mem_cons, not_or] at hs
      rw [List.cons_prefix_cons, List.cons_prefix_cons, ih hs.2]

/-- No word is left. -/
theorem not_infix_replaceEach {e : List Char × List Char} (he : e ∈ table) (text : List Char) :
    ¬ e.1 <:+: replaceEach table text := by
  obtain ⟨tail, htail, hmark⟩ := word_marked hsep he
  induction text using replaceEach_induction hsep with
  | nil =>
    rw [replaceEach, List.infix_nil, htail]
    simp
  | word d hd rest ih =>
    obtain ⟨image, himage, himark⟩ := replacement_marked hsep hd
    rw [replaceEach_word hsep hd]
    intro hin
    rw [himage, List.cons_append, List.infix_cons_iff, ← List.cons_append, ← himage] at hin
    rcases hin with hpre | hin
    · exact not_prefix_replacement hsep he hd _ hpre
    · rw [htail] at hin ih
      exact ih (infix_of_infix_append himark hin)
  | char c rest h ih =>
    rw [replaceEach_cons h]
    intro hin
    rcases List.infix_cons_iff.mp hin with hpre | hin
    · refine h e he ?_
      rw [htail, List.cons_prefix_cons] at hpre ⊢
      exact ⟨hpre.1, (prefix_replaceEach_iff hsep hmark rest).mp hpre.2⟩
    · exact ih hin

omit hsep in
/-- A text in which no word occurs stays as it is. -/
theorem replaceEach_eq_self {text : List Char} (h : ∀ e ∈ table, ¬ e.1 <:+: text) :
    replaceEach table text = text := by
  induction text with
  | nil => rw [replaceEach]
  | cons c rest ih =>
    rw [replaceEach_cons fun e he hpre => h e he hpre.isInfix,
      ih fun e he hin => h e he (List.infix_cons hin)]

theorem replaceEach_replaceEach (text : List Char) :
    replaceEach table (replaceEach table text) = replaceEach table text :=
  replaceEach_eq_self fun _ he => not_infix_replaceEach hsep he text

/-- If every replacement counts less than its word, so does every text that changes. -/
theorem measure_replaceEach_lt {m : List Char → Nat} (hadd : ∀ s t, m (s ++ t) = m s + m t)
    (hlt : ∀ e ∈ table, m e.2 < m e.1) {text : List Char} (h : replaceEach table text ≠ text) :
    m (replaceEach table text) < m text := by
  have lower : ∀ text, replaceEach table text = text ∨ m (replaceEach table text) < m text := by
    intro text
    induction text using replaceEach_induction hsep with
    | nil => exact .inl (by rw [replaceEach])
    | word e he rest ih =>
      have hle : m (replaceEach table rest) ≤ m rest := ih.elim (fun h => by rw [h]) Nat.le_of_lt
      have := hlt e he
      rw [replaceEach_word hsep he, hadd, hadd]
      exact .inr (by omega)
    | char c rest hnone ih =>
      rw [replaceEach_cons hnone]
      refine ih.imp (congrArg (c :: ·)) fun hrest => ?_
      have hcons : ∀ t, m (c :: t) = m [c] + m t := hadd [c]
      rw [hcons, hcons rest]
      omega
  exact (lower text).resolve_left h

end Separable

theorem separable_of_subset {mark : Char} {part table : List (List Char × List Char)}
    (hsep : separable mark table) (hsub : part ⊆ table) : separable mark part := by
  simp only [separable, List.all_eq_true, Bool.and_eq_true] at hsep ⊢
  intro e he
  exact ⟨(hsep e (hsub he)).1, fun d hd => (hsep e (hsub he)).2 d (hsub hd)⟩

/-- Replacements have no words of another part of the table, so two passes are one. -/
theorem replaceEach_append {mark : Char} {first second : List (List Char × List Char)}
    (hsep : separable mark (first ++ second)) (text : List Char) :
    replaceEach second (replaceEach first text) = replaceEach (first ++ second) text := by
  have h₁ := separable_of_subset hsep (List.subset_append_left first second)
  have h₂ := separable_of_subset hsep (List.subset_append_right first second)
  induction text using replaceEach_induction hsep with
  | nil => simp only [replaceEach]
  | word e he rest ih =>
    rw [replaceEach_word hsep he, ← ih]
    by_cases he₁ : e ∈ first
    · have kept : ∀ d ∈ second, ¬ d.1 <+: e.2 ++ replaceEach first rest := fun d hd =>
        not_prefix_replacement hsep (List.mem_append_right first hd) he _
      rw [replaceEach_word h₁ he₁,
        replaceEach_append_of_no_word h₂ (replacement_marked hsep he) kept]
    · have he₂ := (List.mem_append.mp he).resolve_left he₁
      have kept : ∀ d ∈ first, ¬ d.1 <+: e.1 ++ rest := by
        intro d hd hpre
        have same := entry_unique hsep (List.mem_append_left second hd) he hpre
          (List.prefix_append e.1 rest)
        exact he₁ (same ▸ hd)
      rw [replaceEach_append_of_no_word h₁ (word_marked hsep he) kept, replaceEach_word h₂ he₂]
  | char c rest h ih =>
    rw [replaceEach_cons h, replaceEach_cons fun e he => h e (List.mem_append_left second he),
      replaceEach_cons, ih]
    intro e he hpre
    obtain ⟨tail, htail, hmark⟩ := word_marked h₂ he
    refine h e (List.mem_append_right first he) ?_
    rw [htail, List.cons_prefix_cons] at hpre ⊢
    exact ⟨hpre.1, (prefix_replaceEach_iff h₁ hmark rest).mp hpre.2⟩

theorem prefix_append_cons_iff {word : List Char} {c : Char} (h : c ∉ word)
    (text rest : List Char) : word <+: text ++ c :: rest ↔ word <+: text := by
  constructor
  · intro hpre
    rcases List.prefix_or_prefix_of_prefix hpre (List.prefix_append text (c :: rest)) with hw | ht
    · exact hw
    · obtain ⟨more, rfl⟩ := ht
      cases more with
      | nil => simp
      | cons d more =>
        rw [List.prefix_append_right_inj, List.cons_prefix_cons] at hpre
        simp [hpre.1] at h
  · exact fun hpre => hpre.trans (List.prefix_append text (c :: rest))

/-- No word reaches over a character that no word has. -/
theorem replaceEach_append_cons {mark c : Char} {table : List (List Char × List Char)}
    (hsep : separable mark table) (hc : ∀ e ∈ table, c ∉ e.1) (text rest : List Char) :
    replaceEach table (text ++ c :: rest) =
      replaceEach table text ++ c :: replaceEach table rest := by
  induction text using replaceEach_induction hsep with
  | nil =>
    rw [List.nil_append, replaceEach_cons, replaceEach, List.nil_append]
    intro e he hpre
    obtain ⟨tail, htail, -⟩ := word_marked hsep he
    rw [htail, List.cons_prefix_cons] at hpre
    exact hc e he (by simp [htail, hpre.1])
  | word e he text ih =>
    rw [List.append_assoc, replaceEach_word hsep he, ih, replaceEach_word hsep he,
      List.append_assoc]
  | char d text h ih =>
    rw [List.cons_append, replaceEach_cons, ih, replaceEach_cons h, List.cons_append]
    intro e he hpre
    rw [← List.cons_append, prefix_append_cons_iff (hc e he)] at hpre
    exact h e he hpre

/-- Words without newlines are replaced in each line by itself. -/
theorem pieces_replaceEach {mark : Char} {table : List (List Char × List Char)}
    (hsep : separable mark table) (hwords : ∀ e ∈ table, '\n' ∉ e.1)
    (himages : ∀ e ∈ table, '\n' ∉ e.2) (text : List Char) :
    pieces (replaceEach table text) = (pieces text).map (replaceEach table) := by
  have inline : ∀ line, '\n' ∉ line → '\n' ∉ replaceEach table line := by
    intro line
    induction line using replaceEach_induction hsep with
    | nil => simp [replaceEach]
    | word e he rest ih =>
      intro h
      rw [List.mem_append, not_or] at h
      rw [replaceEach_word hsep he, List.mem_append, not_or]
      exact ⟨himages e he, ih h.2⟩
    | char c rest hnone ih =>
      intro h
      rw [List.mem_cons, not_or] at h
      rw [replaceEach_cons hnone, List.mem_cons, not_or]
      exact ⟨h.1, ih h.2⟩
  induction text using lines_induction with
  | last t h => rw [pieces_of_not_mem h, pieces_of_not_mem (inline t h), List.map_singleton]
  | line line rest h ih =>
    have cut : replaceEach table (line ++ ['\n']) = replaceEach table line ++ ['\n'] := by
      rw [replaceEach_append_cons hsep hwords, replaceEach]
    rw [replaceEach_append_cons hsep hwords, pieces_line (inline line h), pieces_line h, ih,
      List.map_cons, cut]

theorem infix_append_cons {word : List Char} {c : Char} (h : c ∉ word) {text rest : List Char}
    (hin : word <:+: text ++ c :: rest) : word <:+: text ∨ word <:+: rest := by
  induction text with
  | nil =>
    rw [List.nil_append, List.infix_cons_iff] at hin
    rcases hin with hpre | hin
    · rw [← List.nil_append (c :: rest), prefix_append_cons_iff h] at hpre
      exact .inl hpre.isInfix
    · exact .inr hin
  | cons d text ih =>
    rw [List.cons_append, List.infix_cons_iff, ← List.cons_append, prefix_append_cons_iff h] at hin
    rcases hin with hpre | hin
    · exact .inl hpre.isInfix
    · exact (ih hin).imp_left List.infix_cons

/-- A word without newlines lies within a line. -/
theorem exists_mem_pieces_of_infix {word text : List Char} (h : '\n' ∉ word)
    (hin : word <:+: text) : ∃ l ∈ pieces text, word <:+: l := by
  induction text using lines_induction with
  | last t ht =>
    rw [pieces_of_not_mem ht]
    exact ⟨t, List.mem_singleton_self t, hin⟩
  | line line rest hline ih =>
    rw [pieces_line hline]
    rcases infix_append_cons h hin with hin | hin
    · exact ⟨line ++ ['\n'], List.mem_cons_self .., hin.trans (List.infix_append_left ..)⟩
    · obtain ⟨l, hl, hin⟩ := ih hin
      exact ⟨l, List.mem_cons_of_mem _ hl, hin⟩

/-- Removing lines makes no such word. -/
theorem infix_of_infix_removeLines {drop : List Char → Bool} (hdrop : ∀ l, drop l → Terminated l)
    {word text : List Char} (h : '\n' ∉ word) (hin : word <:+: removeLines drop text) :
    word <:+: text := by
  obtain ⟨l, hl, hin⟩ := exists_mem_pieces_of_infix h hin
  rw [pieces_removeLines hdrop] at hl
  exact hin.trans (infix_of_mem_pieces (List.mem_filter.mp hl).1)

end Codemod.Text
