import Codemod.Proofs.Catalog.Imports

/-! Quotes in the text between tags. The rule set writes a quote as an entity exactly if the
nearest markup character before it is a closing angle bracket and the nearest one behind it an
opening one. Entities hold no markup, so the result is stable, and a word that does not begin
within an entity occurs in it only where it occurred before. -/

namespace Codemod

namespace Catalog

open Pattern Text

/-- Characters that the text between two tags does not have. -/
def isMarkup (c : Char) : Bool :=
  ['<', '>', '\x7b', '\x7d', '(', ')', '='].contains c

def entity : List Char := ['&', 'q', 'u', 'o', 't', ';']

/-- Writes quotes between tags as entities; `inNode` says that the nearest markup character
before the text is a closing angle bracket. -/
def escapeNodes : (inNode : Bool) → List Char → List Char
  | _, [] => []
  | inNode, c :: rest =>
    if isMarkup c then c :: escapeNodes (c == '>') rest
    else if c = '"' ∧ inNode ∧ rest.find? isMarkup = some '<' then
      entity ++ escapeNodes inNode rest
    else c :: escapeNodes inNode rest

theorem mem_nodeText {c : Char} : nodeText.mem c ↔ isMarkup c = false := by
  have hvalid := CharSet.toNat_valid c
  have code : '<'.toNat = 60 ∧ '>'.toNat = 62 ∧ '\x7b'.toNat = 123 ∧ '\x7d'.toNat = 125 ∧
      '('.toNat = 40 ∧ ')'.toNat = 41 ∧ '='.toNat = 61 := by decide
  simp only [CharSet.mem, nodeText, CharSet.inRuns, Bool.and_eq_true, Bool.or_eq_true,
    decide_eq_true_eq, Bool.false_eq_true, or_false, isMarkup, List.contains_eq_mem,
    decide_eq_false_iff_not, List.mem_cons, List.not_mem_nil, not_or, ← Char.toNat_inj, code]
  omega

theorem escapeNodes_markup {c : Char} (h : isMarkup c) (inNode : Bool) (rest : List Char) :
    escapeNodes inNode (c :: rest) = c :: escapeNodes (c == '>') rest := by
  rw [escapeNodes, if_pos h]

theorem escapeNodes_quote {rest : List Char} (h : rest.find? isMarkup = some '<') :
    escapeNodes true ('"' :: rest) = entity ++ escapeNodes true rest := by
  rw [escapeNodes, if_neg (by decide), if_pos ⟨rfl, rfl, h⟩]

theorem escapeNodes_plain {c : Char} (hc : isMarkup c = false) {inNode : Bool} {rest : List Char}
    (h : ¬ (c = '"' ∧ inNode ∧ rest.find? isMarkup = some '<')) :
    escapeNodes inNode (c :: rest) = c :: escapeNodes inNode rest := by
  rw [escapeNodes, if_neg (by simp [hc]), if_neg h]

/-- The three ways a text goes on. -/
theorem escapeNodes_induction {P : Bool → List Char → Prop} (nil : ∀ inNode, P inNode [])
    (markup : ∀ inNode c rest, isMarkup c → P (c == '>') rest → P inNode (c :: rest))
    (quote : ∀ rest, rest.find? isMarkup = some '<' → P true rest → P true ('"' :: rest))
    (plain : ∀ (inNode : Bool) c rest, isMarkup c = false →
      ¬ (c = '"' ∧ inNode ∧ rest.find? isMarkup = some '<') → P inNode rest → P inNode (c :: rest))
    (inNode : Bool) (text : List Char) : P inNode text := by
  induction text generalizing inNode with
  | nil => exact nil inNode
  | cons c rest ih =>
    by_cases hc : isMarkup c
    · exact markup inNode c rest hc (ih _)
    · by_cases h : c = '"' ∧ inNode ∧ rest.find? isMarkup = some '<'
      · obtain ⟨rfl, rfl, hfind⟩ := h
        exact quote rest hfind (ih _)
      · exact plain inNode c rest (by simpa using hc) h (ih _)

/-- Entities hold no markup, so the nearest markup character stays the same. -/
theorem find_escapeNodes (inNode : Bool) (text : List Char) :
    (escapeNodes inNode text).find? isMarkup = text.find? isMarkup := by
  induction inNode, text using escapeNodes_induction with
  | nil inNode => rfl
  | markup inNode c rest hc ih => rw [escapeNodes_markup hc, List.find?_cons, List.find?_cons, hc]
  | quote rest h ih =>
    have hplain : entity.find? isMarkup = none := by decide
    rw [escapeNodes_quote h, List.find?_append, hplain, Option.none_or, ih]
    rfl
  | plain inNode c rest hc h ih =>
    rw [escapeNodes_plain hc h, List.find?_cons, List.find?_cons, hc, ih]

theorem escapeNodes_append_plain {word : List Char}
    (h : ∀ c ∈ word, isMarkup c = false ∧ c ≠ '"') (inNode : Bool) (rest : List Char) :
    escapeNodes inNode (word ++ rest) = word ++ escapeNodes inNode rest := by
  induction word with
  | nil => rfl
  | cons c word ih =>
    obtain ⟨hc, hquote⟩ := h c (List.mem_cons_self ..)
    rw [List.cons_append, escapeNodes_plain hc fun hq => hquote hq.1,
      ih fun d hd => h d (List.mem_cons_of_mem c hd), List.cons_append]

theorem escapeNodes_escapeNodes (inNode : Bool) (text : List Char) :
    escapeNodes inNode (escapeNodes inNode text) = escapeNodes inNode text := by
  induction inNode, text using escapeNodes_induction with
  | nil inNode => rfl
  | markup inNode c rest hc ih => rw [escapeNodes_markup hc, escapeNodes_markup hc, ih]
  | quote rest h ih =>
    have hplain : ∀ c ∈ entity, isMarkup c = false ∧ c ≠ '"' := by simp [entity, isMarkup]
    rw [escapeNodes_quote h, escapeNodes_append_plain hplain, ih]
  | plain inNode c rest hc h ih =>
    rw [escapeNodes_plain hc h, escapeNodes_plain hc, ih]
    rwa [find_escapeNodes]

theorem escapeQuotes_cons (c : Char) (rest : List Char) :
    escapeQuotes (c :: rest) = (if c = '"' then entity else [c]) ++ escapeQuotes rest := by
  have spelled : "&quot;".toList = entity := rfl
  rw [escapeQuotes, List.flatMap_cons, spelled]
  rfl

theorem escapeQuotes_append (s t : List Char) :
    escapeQuotes (s ++ t) = escapeQuotes s ++ escapeQuotes t :=
  List.flatMap_append

theorem escapeQuotes_eq_self {s : List Char} (h : '"' ∉ s) : escapeQuotes s = s := by
  induction s with
  | nil => rfl
  | cons c rest ih =>
    rw [List.mem_cons, not_or] at h
    rw [escapeQuotes_cons, if_neg (Ne.symm h.1), ih h.2, List.singleton_append]

/-- A stretch without markup is escaped as a whole or not at all. -/
theorem escapeNodes_stretch {run rest : List Char} (hrun : ∀ c ∈ run, isMarkup c = false)
    (hrest : rest.head?.all isMarkup) (inNode : Bool) :
    escapeNodes inNode (run ++ rest) =
      (if inNode ∧ rest.head? = some '<' then escapeQuotes run else run) ++
        escapeNodes inNode rest := by
  have hfind : rest.find? isMarkup = rest.head? := by
    cases rest with
    | nil => rfl
    | cons d rest =>
      simp only [List.head?_cons, Option.all_some] at hrest
      rw [List.find?_cons, hrest, List.head?_cons]
  induction run with
  | nil => simp [show escapeQuotes [] = [] from rfl]
  | cons c run ih =>
    have hc := hrun c (List.mem_cons_self ..)
    have htail := fun d hd => hrun d (List.mem_cons_of_mem c hd)
    have hnext : (run ++ rest).find? isMarkup = rest.head? := by
      rw [List.find?_append, List.find?_eq_none.mpr fun d hd => by simp [htail d hd],
        Option.none_or, hfind]
    rw [List.cons_append, escapeNodes, if_neg (by simp [hc]), hnext, ih htail, escapeQuotes_cons]
    by_cases hnode : inNode ∧ rest.head? = some '<'
    · by_cases hquote : c = '"'
      · simp [hnode, hquote]
      · simp [hnode, hquote]
    · simp [hnode]

theorem ofExpr_quotedNode (room : Nat) : Node.ofExpr room (none : Outcome) quotedNode =
    .cat (Node.literal none ['>']) (.cat (.star true (.set nodeText none))
      (.cat (Node.literal none ['"']) (.cat (.star true (.set nodeText none))
        (Node.literal none ['<'])))) := by
  simp only [quotedNode, Node.ofExpr, Node.ofExpr_many room none (s := nodeText) rfl]

/-- The pattern passes over the text between two tags, and the brackets around it, if there is a
quote in it. -/
theorem way_quotedNode_iff {source : List Char} {room : Nat} {c c' : Cursor} {ms : List Mark} :
    Way (Pattern.root ⟨source, quotedNode⟩ room) c ms c' ↔
      ∃ run rest, (∀ d ∈ run, isMarkup d = false) ∧ '"' ∈ run ∧
        c.rest = '>' :: (run ++ ['<']) ++ rest ∧ c' = c.past ('>' :: (run ++ ['<'])) rest ∧
        ms = [.opened 0 c.offset, .closed 0 (c.offset + ('>' :: (run ++ ['<'])).length)] := by
  simp only [Pattern.root, ofExpr_quotedNode]
  rw [Node.way_group_iff (by simp)]
  simp only [Node.mem_language_cat, Node.mem_language_literal, Node.mem_language_star_set,
    mem_nodeText]
  constructor
  · rintro ⟨_, rest, hrest, rfl, ⟨_, rfl, _, ⟨left, hleft, _, ⟨_, rfl, _, ⟨right, hright, _, rfl,
      rfl⟩, rfl⟩, rfl⟩, rfl⟩, rfl⟩
    have hrun : ['>'] ++ (left ++ (['"'] ++ (right ++ ['<']))) =
        '>' :: ((left ++ '"' :: right) ++ ['<']) := by simp
    rw [hrun] at hrest ⊢
    refine ⟨left ++ '"' :: right, rest, ?_, by simp, hrest, rfl, rfl⟩
    intro d hd
    simp only [List.mem_append, List.mem_cons] at hd
    rcases hd with hd | rfl | hd
    · exact hleft d hd
    · rfl
    · exact hright d hd
  · rintro ⟨run, rest, hrun, hquote, hrest, rfl, rfl⟩
    obtain ⟨left, right, rfl⟩ := List.append_of_mem hquote
    refine ⟨_, rest, hrest, rfl, ⟨_, rfl, _, ⟨left, ?_, _, ⟨_, rfl, _, ⟨right, ?_, _, rfl, rfl⟩,
      rfl⟩, rfl⟩, by simp⟩, rfl⟩
    · exact fun d hd => hrun d (by simp [hd])
    · exact fun d hd => hrun d (by simp [hd])

theorem expand_quotedNode {source : List Char} {c : Cursor} {used rest : List Char}
    (hrest : c.rest = used ++ rest) :
    Template.expand ⟨[.group (.index 0) (some .htmlQuotes)]⟩ ⟨source, quotedNode⟩
        (matchOf c [.opened 0 c.offset, .closed 0 (c.offset + used.length)] (c.past used rest)) =
      escapeQuotes used := by
  have whole : (matchOf c [.opened 0 c.offset, .closed 0 (c.offset + used.length)]
      (c.past used rest)).group? 0 = some used :=
    group_matchOf [] used [] hrest (List.append_nil used).symm rfl rfl
  have hcount : Pattern.groupCount ⟨source, quotedNode⟩ = 1 := rfl
  simp [Template.expand, Template.expandSegment, GroupRef.resolve?, hcount, whole, Transform.apply]

/-- The text from the next markup character on. -/
theorem head_dropWhile_markup (text : List Char) :
    (text.dropWhile (!isMarkup ·)).head?.all isMarkup := by
  cases h : (text.dropWhile (!isMarkup ·)).head? with
  | none => rfl
  | some d => simpa [h] using List.head?_dropWhile_not (!isMarkup ·) text

theorem escapeNodes_congr_markup {rest : List Char} (h : rest.head?.all isMarkup)
    (inNode inNode' : Bool) : escapeNodes inNode rest = escapeNodes inNode' rest := by
  cases rest with
  | nil => rfl
  | cons d rest => rw [escapeNodes_markup (by simpa using h), escapeNodes_markup (by simpa using h)]

/-- If the text behind a closing angle bracket is not one that the pattern passes over, its quotes
are kept. -/
theorem escapeNodes_of_no_node {text : List Char}
    (h : ∀ run rest, (∀ d ∈ run, isMarkup d = false) → '"' ∈ run → text ≠ run ++ '<' :: rest) :
    escapeNodes true text = escapeNodes false text := by
  have hrun : ∀ d ∈ text.takeWhile (!isMarkup ·), isMarkup d = false := fun d hd => by
    simpa using List.mem_takeWhile_imp hd
  have hrest := head_dropWhile_markup text
  rw [← List.takeWhile_append_dropWhile (p := (!isMarkup ·)) (l := text),
    escapeNodes_stretch hrun hrest, escapeNodes_stretch hrun hrest,
    escapeNodes_congr_markup hrest true false]
  by_cases hopen : (text.dropWhile (!isMarkup ·)).head? = some '<'
  · obtain ⟨rest, hsplit⟩ := List.head?_eq_some_iff.mp hopen
    have hquote : '"' ∉ text.takeWhile (!isMarkup ·) := by
      intro hmem
      apply h _ rest hrun hmem
      rw [← hsplit, List.takeWhile_append_dropWhile]
    simp [hopen, escapeQuotes_eq_self hquote]
  · simp [hopen]

theorem apply_quoteEscaping (text : List Char) :
    quoteEscaping.apply text = escapeNodes false text := by
  apply replaceAll_eq ⟨">[^<>\x7b\x7d()=]*\"[^<>\x7b\x7d()=]*<".toList, quotedNode⟩ text
    (f := fun c => escapeNodes false c.rest)
  · simp [Pattern.root, ofExpr_quotedNode]
  · simp [Pattern.root, ofExpr_quotedNode]
  · constructor
    · intro c hrest
      simp only [hrest, escapeNodes]
    · intro c a rest hrest noWay
      rw [hrest, Cursor.past_rest]
      by_cases ha : isMarkup a
      · rw [escapeNodes_markup ha]
        by_cases hclose : a = '>'
        · subst hclose
          refine congrArg _ (escapeNodes_of_no_node fun run tail hrun hquote hsplit => ?_)
          exact noWay _ _ (way_quotedNode_iff.mpr
            ⟨run, tail, hrun, hquote, by simp [hrest, hsplit], rfl, rfl⟩)
        · rw [beq_eq_false_iff_ne.mpr hclose]
      · exact escapeNodes_plain (by simpa using ha) (by simp)
    · intro c ms c' way
      obtain ⟨run, rest, hrun, hquote, hrest, rfl, rfl⟩ := way_quotedNode_iff.mp way
      have hnode : escapeNodes true (run ++ '<' :: rest) =
          escapeQuotes run ++ '<' :: escapeNodes false rest := by
        rw [escapeNodes_stretch hrun (by rfl), escapeNodes_markup (by rfl)]
        rfl
      rw [expand_quotedNode hrest, hrest, escapeQuotes_cons, escapeQuotes_append]
      simpa [escapeNodes_markup, show isMarkup '>' from rfl,
        show escapeQuotes ['<'] = ['<'] from rfl]
        using hnode

theorem gated_quoteEscaping (text : List Char) :
    quoteEscaping.gated text = escapeNodes false text := by
  rw [RuleSet.gated_of_applies rfl, apply_quoteEscaping]

/-- The second text is the first with some of its quotes written as entities. -/
inductive Escaped : List Char → List Char → Prop where
  | nil : Escaped [] []
  | keep (c : Char) {s t : List Char} (rest : Escaped s t) : Escaped (c :: s) (c :: t)
  | quote {s t : List Char} (rest : Escaped s t) : Escaped ('"' :: s) (entity ++ t)

theorem escaped_escapeNodes (inNode : Bool) (text : List Char) :
    Escaped text (escapeNodes inNode text) := by
  induction inNode, text using escapeNodes_induction with
  | nil inNode => exact .nil
  | markup inNode c rest hc ih =>
    rw [escapeNodes_markup hc]
    exact .keep c ih
  | quote rest h ih =>
    rw [escapeNodes_quote h]
    exact .quote ih
  | plain inNode c rest hc h ih =>
    rw [escapeNodes_plain hc h]
    exact .keep c ih

namespace Escaped

theorem refl (s : List Char) : Escaped s s := by
  induction s with
  | nil => exact .nil
  | cons c s ih => exact .keep c ih

theorem prefix_before {word s t : List Char} (h : Escaped s t) (hword : '&' ∉ word)
    (hpre : word <+: t) : word <+: s := by
  induction h generalizing word with
  | nil => exact hpre
  | keep c rest ih =>
    cases word with
    | nil => exact List.nil_prefix
    | cons d word =>
      rw [List.mem_cons, not_or] at hword
      rw [List.cons_prefix_cons] at hpre ⊢
      exact ⟨hpre.1, ih hword.2 hpre.2⟩
  | quote rest ih =>
    cases word with
    | nil => exact List.nil_prefix
    | cons d word =>
      rw [entity, List.cons_append, List.cons_prefix_cons] at hpre
      simp [hpre.1] at hword

/-- A word without an ampersand that begins within no entity lies between the entities. -/
theorem infix_before {d : Char} {word s t : List Char} (h : Escaped s t) (hd : d ∉ entity)
    (hword : '&' ∉ d :: word) (hin : d :: word <:+: t) : d :: word <:+: s := by
  induction h with
  | nil => exact hin
  | keep c rest ih =>
    rcases List.infix_cons_iff.mp hin with hpre | hin
    · exact ((keep c rest).prefix_before hword hpre).isInfix
    · exact List.infix_cons (ih hin)
  | quote rest ih => exact List.infix_cons (ih (infix_of_infix_append hd hin))

theorem eq_of_not_mem {s t : List Char} (h : Escaped s t) {c : Char} (hc : c ∈ entity)
    (ht : c ∉ t) : s = t := by
  induction h with
  | nil => rfl
  | keep d rest ih =>
    rw [List.mem_cons, not_or] at ht
    rw [ih ht.2]
  | quote rest ih => exact absurd (List.mem_append_left _ hc) ht

/-- Entities hold no newlines, so the lines are escaped one by one. -/
theorem pieces {s t : List Char} (h : Escaped s t) :
    List.Forall₂ Escaped (Text.pieces s) (Text.pieces t) := by
  induction h with
  | nil => exact .cons .nil .nil
  | @keep c s t rest ih =>
    by_cases hc : c = '\n'
    · subst hc
      rw [pieces_newline, pieces_newline]
      exact .cons (.keep _ .nil) ih
    · obtain ⟨p, ps, hp⟩ := List.exists_cons_of_ne_nil (pieces_ne_nil s)
      obtain ⟨q, qs, hq⟩ := List.exists_cons_of_ne_nil (pieces_ne_nil t)
      rw [hp, hq, List.forall₂_cons] at ih
      rw [pieces_cons_of_ne hc hp, pieces_cons_of_ne hc hq]
      exact .cons (.keep c ih.1) ih.2
  | @quote s t rest ih =>
    obtain ⟨p, ps, hp⟩ := List.exists_cons_of_ne_nil (pieces_ne_nil s)
    obtain ⟨q, qs, hq⟩ := List.exists_cons_of_ne_nil (pieces_ne_nil t)
    rw [hp, hq, List.forall₂_cons] at ih
    rw [pieces_cons_of_ne (by decide) hp, pieces_append_of_not_mem (by decide) hq]
    exact .cons (.quote ih.1) ih.2

/-- The first semicolon stood there before, or it ends the first entity. -/
theorem before_semicolon {s body rest : List Char} (h : Escaped s (body ++ ';' :: rest))
    (hbody : ';' ∉ body) :
    (∃ rest', s = body ++ ';' :: rest' ∧ Escaped rest' rest) ∨
      ∃ front rest', body ++ [';'] = front ++ entity ∧ s = front ++ '"' :: rest' ∧
        Escaped rest' rest := by
  generalize ht : body ++ ';' :: rest = t at h
  induction h generalizing body with
  | nil => simp at ht
  | @keep c s t escaped ih =>
    cases body with
    | nil =>
      obtain ⟨rfl, rfl⟩ := List.cons.inj ht
      exact .inl ⟨s, rfl, escaped⟩
    | cons d body =>
      obtain ⟨rfl, htail⟩ := List.cons.inj ht
      rw [List.mem_cons, not_or] at hbody
      rcases ih hbody.2 htail with ⟨rest', rfl, hrest⟩ | ⟨front, rest', hfront, rfl, hrest⟩
      · exact .inl ⟨rest', rfl, hrest⟩
      · exact .inr ⟨d :: front, rest', by rw [List.cons_append, hfront]; rfl, rfl, hrest⟩
  | @quote s t escaped ih =>
    -- Both sides are cut at their first semicolon.
    have hstart : body = entity.dropLast := by
      have keep : ∀ c ∈ body, (c != ';') = true := by
        rintro c hc
        rw [bne_iff_ne]
        rintro rfl
        exact hbody hc
      have cut := congrArg (List.takeWhile (· != ';')) ht
      rw [List.takeWhile_append_of_pos keep] at cut
      simpa [entity] using cut
    subst hstart
    have hrest : rest = t := (List.cons.inj (List.append_cancel_left ht)).2
    subst hrest
    exact .inr ⟨[], s, rfl, rfl, escaped⟩

end Escaped

end Catalog

end Codemod
