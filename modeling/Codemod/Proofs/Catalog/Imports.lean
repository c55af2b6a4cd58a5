import Codemod.Proofs.Catalog.Casing
import Mathlib.Data.List.TakeWhile

/-! The import lines that two rule sets remove: imports of nothing, and the default import of
React. Each form is read off a line by a recogniser; the patterns pass over just the lines of
these forms, and lowering component names makes no line one of them and leaves none out. -/

namespace Codemod

namespace CharSet

theorem mem_spaces {c : Char} : Catalog.spaces.mem c ↔ c = ' ' ∨ c = '\t' := by
  have hspace : ' '.toNat = 32 := rfl
  have htab : '\t'.toNat = 9 := rfl
  simp only [mem, Catalog.spaces, inRuns, Bool.and_eq_true, Bool.or_eq_true, decide_eq_true_eq,
    Bool.false_eq_true, or_false, ← Char.toNat_inj, hspace, htab]
  omega

theorem mem_quotes {c : Char} : Catalog.quotes.mem c ↔ c = '"' ∨ c = '\'' := by
  have hdouble : '"'.toNat = 34 := rfl
  have hsingle : '\''.toNat = 39 := rfl
  simp only [mem, Catalog.quotes, inRuns, Bool.and_eq_true, Bool.or_eq_true, decide_eq_true_eq,
    Bool.false_eq_true, or_false, ← Char.toNat_inj, hdouble, hsingle]
  omega

theorem toNat_valid (c : Char) : c.toNat ≤ 0xD7FF ∨ 0xE000 ≤ c.toNat ∧ c.toNat ≤ 0x10FFFF := by
  have h : c.toNat < 0xD800 ∨ 0xDFFF < c.toNat ∧ c.toNat < 0x110000 := c.valid
  omega

theorem mem_importPath {c : Char} : Catalog.importPath.mem c ↔ c ≠ ';' ∧ c ≠ '\n' := by
  have hsemicolon : ';'.toNat = 59 := rfl
  have hnewline : '\n'.toNat = 10 := rfl
  have hvalid := toNat_valid c
  simp only [mem, Catalog.importPath, inRuns, Bool.and_eq_true, Bool.or_eq_true, decide_eq_true_eq,
    Bool.false_eq_true, or_false, ne_eq, ← Char.toNat_inj, hsemicolon, hnewline]
  omega

end CharSet

namespace Pattern.Node

variable {α : Type}

theorem ofExpr_many (room : Nat) (note : α) {s : CharSet} (hs : s.isEmpty = false) :
    ofExpr room note (Catalog.many s) = .star true (.set s note) := by
  simp [Catalog.many, ofExpr, ofRepeated, any, Expr.consumes, Expr.minLength, hs]

@[simp] theorem ofExpr_maybe (room : Nat) (note : α) (c : Char) :
    ofExpr room note (Catalog.maybe c) = .alt (literal note [c]) .empty := by
  simp [Catalog.maybe, ofExpr, ofRepeated, upTo, maybe, Expr.consumes, Expr.minLength]

/-- The ways of a node that begins with a condition. -/
theorem exists_way_look_iff {n : Node α} (hn : n.silent) {i : Nat} {l : Look} {c c' : Cursor} :
    (∃ ms, Way (.group i (.cat (.look l) n)) c ms c') ↔
      l.holds c.before c.rest.head? ∧
        ∃ used rest, used ∈ n.language ∧ c.rest = used ++ rest ∧ c' = c.past used rest := by
  simp only [Way.group_iff, Way.cat_iff, Way.look_iff, way_iff_reads hn, Reads]
  constructor
  · rintro ⟨_, _, ⟨_, _, _, ⟨hlook, rfl, rfl⟩, ⟨rfl, used, rest, hrest, rfl, hused⟩, rfl⟩, rfl⟩
    exact ⟨hlook, used, rest, hused, hrest, rfl⟩
  · rintro ⟨hlook, used, rest, hused, hrest, rfl⟩
    exact ⟨_, _, ⟨_, _, _, ⟨hlook, rfl, rfl⟩, ⟨rfl, used, rest, hrest, rfl, hused⟩, rfl⟩, rfl⟩

end Pattern.Node

namespace Text

theorem occursIn_iff {find text : List Char} : occursIn find text ↔ find <:+: text := by
  induction text with
  | nil => simp [occursIn]
  | cons c rest ih =>
    rw [occursIn, Bool.or_eq_true, List.isPrefixOf_iff_prefix, ih, List.infix_cons_iff]

/-- The text is a word and a rest of some form. -/
def wordThen (word : List Char) (next : List Char → Bool) (s : List Char) : Bool :=
  word.isPrefixOf s && next (s.drop word.length)

/-- The text is a character of some kind and a rest of some form. -/
def charThen (p : Char → Bool) (next : List Char → Bool) : List Char → Bool
  | [] => false
  | c :: rest => p c && next rest

/-- What is left behind a run of characters has some form. -/
def runThen (p : Char → Bool) (next : List Char → Bool) (s : List Char) : Bool :=
  next (s.dropWhile p)

theorem wordThen_iff {word s : List Char} {next : List Char → Bool} :
    wordThen word next s ↔ ∃ rest, next rest ∧ s = word ++ rest := by
  rw [wordThen, Bool.and_eq_true, List.isPrefixOf_iff_prefix]
  constructor
  · rintro ⟨⟨rest, rfl⟩, hnext⟩
    rw [List.drop_left] at hnext
    exact ⟨rest, hnext, rfl⟩
  · rintro ⟨rest, hnext, rfl⟩
    rw [List.drop_left]
    exact ⟨List.prefix_append word rest, hnext⟩

theorem charThen_iff {p : Char → Bool} {next : List Char → Bool} {s : List Char} :
    charThen p next s ↔ ∃ c rest, p c ∧ next rest ∧ s = c :: rest := by
  cases s with
  | nil => simp [charThen]
  | cons c rest => simp [charThen]

/-- The run is as long as can be, since what follows it begins otherwise. -/
theorem runThen_iff {p : Char → Bool} {next : List Char → Bool} {s : List Char}
    (stop : ∀ c rest, next (c :: rest) → p c = false) :
    runThen p next s ↔ ∃ run rest, (∀ c ∈ run, p c) ∧ next rest ∧ s = run ++ rest := by
  rw [runThen]
  constructor
  · intro h
    exact ⟨s.takeWhile p, s.dropWhile p, fun c hc => List.mem_takeWhile_imp hc, h,
      (List.takeWhile_append_dropWhile).symm⟩
  · rintro ⟨run, rest, hrun, hnext, rfl⟩
    rw [List.dropWhile_append_of_pos hrun]
    cases rest with
    | nil => exact hnext
    | cons c rest =>
      rw [List.dropWhile_cons_of_neg (by simp [stop c rest hnext])]
      exact hnext

/-- A word that begins outside the run ends it. -/
theorem runThen_wordThen_iff {p : Char → Bool} {next : List Char → Bool} {word s : List Char}
    (stop : word.head?.any (!p ·)) :
    runThen p (wordThen word next) s ↔
      ∃ run rest, (∀ c ∈ run, p c) ∧ next rest ∧ s = run ++ (word ++ rest) := by
  rw [runThen_iff]
  · simp only [wordThen_iff]
    constructor
    · rintro ⟨run, _, hrun, ⟨rest, hnext, rfl⟩, rfl⟩
      exact ⟨run, rest, hrun, hnext, rfl⟩
    · rintro ⟨run, rest, hrun, hnext, rfl⟩
      exact ⟨run, _, hrun, ⟨rest, hnext, rfl⟩, rfl⟩
  · intro c rest h
    obtain ⟨tail, -, hcons⟩ := wordThen_iff.mp h
    cases word with
    | nil => simp at stop
    | cons d word =>
      rw [(List.cons.inj hcons).1]
      simpa using stop

end Text

namespace Catalog

open Pattern Text

def isSpace (c : Char) : Bool := c == ' ' || c == '\t'

def isQuote (c : Char) : Bool := c == '"' || c == '\''

/-- Characters of the path of an import. -/
def inPath (c : Char) : Bool := c != ';' && c != '\n'

/-- Blanks, perhaps a carriage return, and the newline. -/
def LineEnd (s : List Char) : Prop :=
  ∃ blanks cr, (∀ c ∈ blanks, isSpace c) ∧ (cr = [] ∨ cr = ['\r']) ∧ s = blanks ++ (cr ++ ['\n'])

/-- A line that imports nothing. -/
def EmptyImportLine (l : List Char) : Prop :=
  ∃ blanks path ending, (∀ c ∈ blanks, isSpace c) ∧ (∀ c ∈ path, inPath c) ∧ LineEnd ending ∧
    l = "import \x7b".toList ++ (blanks ++ ("\x7d from ".toList ++ (path ++ ';' :: ending)))

/-- A line that imports React as a whole. -/
def ReactImportLine (l : List Char) : Prop :=
  ∃ q q' semicolon ending, isQuote q ∧ isQuote q' ∧ (semicolon = [] ∨ semicolon = [';']) ∧
    LineEnd ending ∧
    l = "import React from ".toList ++ q :: ("react".toList ++ q' :: (semicolon ++ ending))

def isLineEnd : List Char → Bool :=
  runThen isSpace fun s => s == ['\n'] || s == ['\r', '\n']

def isEmptyImport : List Char → Bool :=
  wordThen "import \x7b".toList <| runThen isSpace <| wordThen "\x7d from ".toList <|
    runThen inPath <| wordThen [';'] isLineEnd

def isReactImport : List Char → Bool :=
  wordThen "import React from ".toList <| charThen isQuote <| wordThen "react".toList <|
    charThen isQuote fun s => isLineEnd s || wordThen [';'] isLineEnd s

theorem isLineEnd_iff {s : List Char} : isLineEnd s ↔ LineEnd s := by
  rw [isLineEnd, runThen_iff]
  · simp only [Bool.or_eq_true, beq_iff_eq, LineEnd]
    constructor
    · rintro ⟨blanks, rest, hblanks, rfl | rfl, rfl⟩
      · exact ⟨blanks, [], hblanks, .inl rfl, rfl⟩
      · exact ⟨blanks, ['\r'], hblanks, .inr rfl, rfl⟩
    · rintro ⟨blanks, cr, hblanks, rfl | rfl, rfl⟩
      · exact ⟨blanks, ['\n'], hblanks, .inl rfl, rfl⟩
      · exact ⟨blanks, ['\r', '\n'], hblanks, .inr rfl, rfl⟩
  · intro c rest h
    simp only [Bool.or_eq_true, beq_iff_eq, List.cons.injEq] at h
    rcases h with ⟨rfl, -⟩ | ⟨rfl, -⟩ <;> rfl

theorem isEmptyImport_iff {l : List Char} : isEmptyImport l ↔ EmptyImportLine l := by
  rw [isEmptyImport, wordThen_iff, EmptyImportLine]
  constructor
  · rintro ⟨_, hbraces, rfl⟩
    obtain ⟨blanks, _, hblanks, hfrom, rfl⟩ := (runThen_wordThen_iff (by decide)).mp hbraces
    obtain ⟨path, ending, hpath, hending, rfl⟩ := (runThen_wordThen_iff (by decide)).mp hfrom
    exact ⟨blanks, path, ending, hblanks, hpath, isLineEnd_iff.mp hending, rfl⟩
  · rintro ⟨blanks, path, ending, hblanks, hpath, hending, rfl⟩
    refine ⟨_, (runThen_wordThen_iff (by decide)).mpr ⟨blanks, _, hblanks, ?_, rfl⟩, rfl⟩
    exact (runThen_wordThen_iff (by decide)).mpr
      ⟨path, ending, hpath, isLineEnd_iff.mpr hending, rfl⟩

theorem isReactImport_iff {l : List Char} : isReactImport l ↔ ReactImportLine l := by
  simp only [isReactImport, wordThen_iff, charThen_iff, Bool.or_eq_true, isLineEnd_iff,
    ReactImportLine]
  constructor
  · rintro ⟨_, ⟨q, _, hq, ⟨_, ⟨q', rest, hq', hrest, rfl⟩, rfl⟩, rfl⟩, rfl⟩
    rcases hrest with hending | ⟨ending, hending, rfl⟩
    · exact ⟨q, q', [], rest, hq, hq', .inl rfl, hending, rfl⟩
    · exact ⟨q, q', [';'], ending, hq, hq', .inr rfl, hending, rfl⟩
  · rintro ⟨q, q', semicolon, ending, hq, hq', hsemicolon, hending, rfl⟩
    refine ⟨_, ⟨q, _, hq, ⟨_, ⟨q', semicolon ++ ending, hq', ?_, rfl⟩, rfl⟩, rfl⟩, rfl⟩
    rcases hsemicolon with rfl | rfl
    · exact .inl hending
    · exact .inr ⟨ending, hending, rfl⟩

instance : DecidablePred EmptyImportLine := fun l =>
  decidable_of_iff (isEmptyImport l) isEmptyImport_iff

instance : DecidablePred ReactImportLine := fun l =>
  decidable_of_iff (isReactImport l) isReactImport_iff

theorem lineEnd_terminated {s front : List Char} (h : LineEnd s) (hfront : '\n' ∉ front) :
    Terminated (front ++ s) := by
  obtain ⟨blanks, cr, hblanks, hcr, rfl⟩ := h
  refine ⟨front ++ (blanks ++ cr), ?_, by simp⟩
  have hspace : '\n' ∉ blanks := fun hmem => absurd (hblanks _ hmem) (by decide)
  rcases hcr with rfl | rfl <;> simp [hfront, hspace]

theorem EmptyImportLine.terminated {l : List Char} (h : EmptyImportLine l) : Terminated l := by
  obtain ⟨blanks, path, ending, hblanks, hpath, hending, rfl⟩ := h
  have hspace : '\n' ∉ blanks := fun hmem => absurd (hblanks _ hmem) (by decide)
  have hinline : '\n' ∉ path := fun hmem => absurd (hpath _ hmem) (by decide)
  have hfront : '\n' ∉
      "import \x7b".toList ++ (blanks ++ ("\x7d from ".toList ++ (path ++ [';']))) := by
    simp [hspace, hinline]
  simpa using lineEnd_terminated hending hfront

theorem ReactImportLine.terminated {l : List Char} (h : ReactImportLine l) : Terminated l := by
  obtain ⟨q, q', semicolon, ending, hq, hq', hsemicolon, hending, rfl⟩ := h
  have hquote : ∀ {q}, isQuote q → '\n' ≠ q := by
    rintro q hq rfl
    exact absurd hq (by decide)
  have hfront : '\n' ∉ "import React from ".toList ++ q :: ("react".toList ++ q' :: semicolon) := by
    rcases hsemicolon with rfl | rfl <;> simp [hquote hq, hquote hq']
  simpa using lineEnd_terminated hending hfront

section Patterns

variable (room : Nat)

theorem ofExpr_lineEnd : Node.ofExpr room (none : Outcome) lineEnd =
    .cat (.star true (.set spaces none))
      (.cat (.alt (Node.literal none ['\r']) .empty) (Node.literal none ['\n'])) := by
  rw [lineEnd, Node.ofExpr, Node.ofExpr_many _ _ rfl, Node.ofExpr, Node.ofExpr_maybe, Node.ofExpr]

theorem ofExpr_emptyImport : Node.ofExpr room (none : Outcome) emptyImport =
    .cat (.look .lineStart) (.cat (Node.literal none "import \x7b".toList)
      (.cat (.star true (.set spaces none)) (.cat (Node.literal none "\x7d from ".toList)
        (.cat (.star true (.set importPath none)) (.cat (Node.literal none [';'])
          (Node.ofExpr room none lineEnd)))))) := by
  simp only [emptyImport, Node.ofExpr, Node.ofExpr_many room none (s := spaces) rfl,
    Node.ofExpr_many room none (s := importPath) rfl]

theorem ofExpr_reactImport : Node.ofExpr room (none : Outcome) reactImport =
    .cat (.look .lineStart) (.cat (Node.literal none "import React from ".toList)
      (.cat (.set quotes none) (.cat (Node.literal none "react".toList) (.cat (.set quotes none)
        (.cat (.alt (Node.literal none [';']) .empty) (Node.ofExpr room none lineEnd)))))) := by
  simp only [reactImport, Node.ofExpr, Node.ofExpr_maybe]

theorem ofExpr_emptyBraces : Node.ofExpr room (none : Outcome) emptyBraces =
    .cat (Node.literal none "import \x7b".toList)
      (.cat (.star true (.set .blank none)) (Node.literal none ['\x7d'])) := by
  simp only [emptyBraces, Node.ofExpr, Node.ofExpr_many room none (s := .blank) rfl]

theorem mem_language_lineEnd {w : List Char} :
    w ∈ (Node.ofExpr room (none : Outcome) lineEnd).language ↔ LineEnd w := by
  simp only [ofExpr_lineEnd, Node.mem_language_cat, Node.mem_language_star_set,
    Node.mem_language_maybe, Node.mem_language_literal, CharSet.mem_spaces, LineEnd, isSpace,
    Bool.or_eq_true, beq_iff_eq]
  constructor
  · rintro ⟨blanks, hblanks, _, ⟨cr, hcr, _, rfl, rfl⟩, rfl⟩
    exact ⟨blanks, cr, hblanks, hcr, rfl⟩
  · rintro ⟨blanks, cr, hblanks, hcr, rfl⟩
    exact ⟨blanks, hblanks, _, ⟨cr, hcr, _, rfl, rfl⟩, rfl⟩

/-- The pattern passes over just the lines that import nothing. -/
theorem exists_way_emptyImport_iff {source : List Char} {c c' : Cursor} :
    (∃ ms, Way (Pattern.root ⟨source, emptyImport⟩ room) c ms c') ↔
      Look.lineStart.holds c.before c.rest.head? ∧
        ∃ l rest, EmptyImportLine l ∧ c.rest = l ++ rest ∧ c' = c.past l rest := by
  simp only [Pattern.root, ofExpr_emptyImport]
  rw [Node.exists_way_look_iff (by simp [ofExpr_lineEnd])]
  simp only [Node.mem_language_cat, Node.mem_language_star_set, Node.mem_language_literal,
    mem_language_lineEnd, CharSet.mem_spaces, CharSet.mem_importPath, EmptyImportLine, isSpace,
    inPath, Bool.or_eq_true, beq_iff_eq, Bool.and_eq_true, bne_iff_ne]
  refine and_congr_right fun _ => exists_congr fun l => exists_congr fun rest =>
    and_congr_left fun _ => ?_
  constructor
  · rintro ⟨_, rfl, _, ⟨blanks, hblanks, _, ⟨_, rfl, _, ⟨path, hpath, _,
      ⟨_, rfl, ending, hending, rfl⟩, rfl⟩, rfl⟩, rfl⟩, rfl⟩
    exact ⟨blanks, path, ending, hblanks, hpath, hending, rfl⟩
  · rintro ⟨blanks, path, ending, hblanks, hpath, hending, rfl⟩
    exact ⟨_, rfl, _, ⟨blanks, hblanks, _, ⟨_, rfl, _, ⟨path, hpath, _,
      ⟨_, rfl, ending, hending, rfl⟩, rfl⟩, rfl⟩, rfl⟩, rfl⟩

/-- The pattern passes over just the lines that import React as a whole. -/
theorem exists_way_reactImport_iff {source : List Char} {c c' : Cursor} :
    (∃ ms, Way (Pattern.root ⟨source, reactImport⟩ room) c ms c') ↔
      Look.lineStart.holds c.before c.rest.head? ∧
        ∃ l rest, ReactImportLine l ∧ c.rest = l ++ rest ∧ c' = c.past l rest := by
  simp only [Pattern.root, ofExpr_reactImport]
  rw [Node.exists_way_look_iff (by simp [ofExpr_lineEnd])]
  simp only [Node.mem_language_cat, Node.mem_language_set, Node.mem_language_literal,
    Node.mem_language_maybe, mem_language_lineEnd, CharSet.mem_quotes, ReactImportLine, isQuote,
    Bool.or_eq_true, beq_iff_eq]
  refine and_congr_right fun _ => exists_congr fun l => exists_congr fun rest =>
    and_congr_left fun _ => ?_
  constructor
  · rintro ⟨_, rfl, _, ⟨_, ⟨q, hq, rfl⟩, _, ⟨_, rfl, _, ⟨_, ⟨q', hq', rfl⟩, _,
      ⟨semicolon, hsemicolon, ending, hending, rfl⟩, rfl⟩, rfl⟩, rfl⟩, rfl⟩
    exact ⟨q, q', semicolon, ending, hq, hq', hsemicolon, hending, rfl⟩
  · rintro ⟨q, q', semicolon, ending, hq, hq', hsemicolon, hending, rfl⟩
    exact ⟨_, rfl, _, ⟨_, ⟨q, hq, rfl⟩, _, ⟨_, rfl, _, ⟨_, ⟨q', hq', rfl⟩, _,
      ⟨semicolon, hsemicolon, ending, hending, rfl⟩, rfl⟩, rfl⟩, rfl⟩, rfl⟩

end Patterns

theorem apply_emptyImportRemoval (text : List Char) :
    emptyImportRemoval.apply text = removeLines (fun l => decide (EmptyImportLine l)) text := by
  apply replaceAll_removeLines
  · exact fun l h => (of_decide_eq_true h).terminated
  · simp [Pattern.root, ofExpr_emptyImport, ofExpr_lineEnd]
  · simp [Pattern.root, ofExpr_emptyImport, ofExpr_lineEnd]
  · exact fun m => rfl
  · simp only [exists_way_emptyImport_iff, decide_eq_true_eq, implies_true]

theorem apply_reactRemoval (text : List Char) :
    reactRemoval.apply text = removeLines (fun l => decide (ReactImportLine l)) text := by
  apply replaceAll_removeLines
  · exact fun l h => (of_decide_eq_true h).terminated
  · simp [Pattern.root, ofExpr_reactImport, ofExpr_lineEnd]
  · simp [Pattern.root, ofExpr_reactImport, ofExpr_lineEnd]
  · exact fun m => rfl
  · simp only [exists_way_reactImport_iff, decide_eq_true_eq, implies_true]

/-- One of the two spellings of the client directive occurs. -/
def Client (text : List Char) : Prop :=
  "'use client'".toList <:+: text ∨ "\"use client\"".toList <:+: text

theorem applies_reactRemoval_iff {text : List Char} : reactRemoval.applies text ↔ Client text := by
  simp [RuleSet.applies, reactRemoval, Guard.holds, occursIn_iff, Client]

instance : DecidablePred Client := fun text =>
  decidable_of_iff (reactRemoval.applies text) applies_reactRemoval_iff

theorem gated_reactRemoval (text : List Char) :
    reactRemoval.gated text =
      removeLines (fun l => decide (Client text ∧ ReactImportLine l)) text := by
  simp only [RuleSet.gated, applies_reactRemoval_iff, apply_reactRemoval]
  by_cases h : Client text
  · simp [h]
  · rw [if_neg h, removeLines_eq_self fun l _ => decide_eq_false fun hl => h hl.1]

/-- Where nothing is imported there are empty braces. -/
theorem applies_emptyImportRemoval {text l : List Char} (hl : EmptyImportLine l)
    (hmem : l ∈ pieces text) : emptyImportRemoval.applies text := by
  obtain ⟨blanks, path, ending, hblanks, -, -, rfl⟩ := hl
  apply isMatch_of_infix ("import \x7b".toList ++ (blanks ++ ['\x7d']))
  · simp [Pattern.root, ofExpr_emptyBraces]
  · simp [ofExpr_emptyBraces]
  · have hblank : ∀ c ∈ blanks, CharSet.blank.mem c := by
      intro c hc
      have hspace := hblanks c hc
      simp only [isSpace, Bool.or_eq_true, beq_iff_eq] at hspace
      rcases hspace with rfl | rfl <;> decide
    simp only [ofExpr_emptyBraces, Node.mem_language_cat, Node.mem_language_star_set,
      Node.mem_language_literal]
    exact ⟨_, rfl, _, ⟨blanks, hblank, _, rfl, rfl⟩, rfl⟩
  · refine List.IsInfix.trans ⟨[], " from ".toList ++ (path ++ ';' :: ending), ?_⟩
      (infix_of_mem_pieces hmem)
    simp

theorem gated_emptyImportRemoval (text : List Char) :
    emptyImportRemoval.gated text =
      removeLines (fun l => decide (EmptyImportLine l)) text := by
  by_cases h : ∃ l ∈ pieces text, EmptyImportLine l
  · obtain ⟨l, hmem, hl⟩ := h
    rw [RuleSet.gated_of_applies (applies_emptyImportRemoval hl hmem), apply_emptyImportRemoval]
  · rw [not_exists] at h
    have same : removeLines (fun l => decide (EmptyImportLine l)) text = text :=
      removeLines_eq_self fun l hmem => decide_eq_false fun hl => h l ⟨hmem, hl⟩
    rw [RuleSet.gated_of_apply_eq ((apply_emptyImportRemoval text).trans same), same]

theorem LineEnd.mem_chars {s : List Char} (h : LineEnd s) {c : Char} (hc : c ∈ s) :
    c ∈ [' ', '\t', '\r', '\n'] := by
  obtain ⟨blanks, cr, hblanks, hcr, rfl⟩ := h
  rw [List.mem_append, List.mem_append] at hc
  rcases hc with hc | hc | hc
  · have hspace := hblanks c hc
    simp only [isSpace, Bool.or_eq_true, beq_iff_eq] at hspace
    rcases hspace with rfl | rfl <;> decide
  · rcases hcr with rfl | rfl
    · cases hc
    · rw [List.mem_singleton.mp hc]
      decide
  · rw [List.mem_singleton.mp hc]
    decide

/-- The characters of a line that imports React as a whole. -/
def reactChars : List Char := "importReactfrom\"';".toList ++ [' ', '\t', '\r', '\n']

theorem ReactImportLine.mem_chars {l : List Char} (h : ReactImportLine l) {c : Char}
    (hc : c ∈ l) : c ∈ reactChars := by
  obtain ⟨q, q', semicolon, ending, hq, hq', hsemicolon, hending, rfl⟩ := h
  have words : "import React from ".toList ⊆ reactChars ∧ "react".toList ⊆ reactChars := by decide
  have hquote : ∀ {q}, isQuote q → q ∈ reactChars := by
    intro q hq
    simp only [isQuote, Bool.or_eq_true, beq_iff_eq] at hq
    rcases hq with rfl | rfl <;> decide
  simp only [List.mem_append, List.mem_cons] at hc
  rcases hc with hc | rfl | hc | rfl | hc | hc
  · exact words.1 hc
  · exact hquote hq
  · exact words.2 hc
  · exact hquote hq'
  · rcases hsemicolon with rfl | rfl
    · cases hc
    · rw [List.mem_singleton.mp hc]
      decide
  · exact List.mem_append_right _ (hending.mem_chars hc)

theorem ReactImportLine.of_alike {l l' : List Char} (hl : ReactImportLine l)
    (h : alike false l l') : ReactImportLine l' := by
  have hslash : '/' ∉ l := fun hmem => absurd (hl.mem_chars hmem) (by decide)
  rwa [eq_of_alike hslash h]

/-- Slashes stand only in the path of the line, where every letter may stand. -/
theorem EmptyImportLine.of_alike {l l' : List Char} (hl : EmptyImportLine l)
    (h : alike false l l') : EmptyImportLine l' := by
  obtain ⟨blanks, path, ending, hblanks, hpath, hending, rfl⟩ := hl
  have hspace : '/' ∉ blanks := fun hmem => absurd (hblanks _ hmem) (by decide)
  have letters : ∀ c : Char, c.isAlpha → inPath c := by
    rintro c hc
    simp only [inPath, Bool.and_eq_true, bne_iff_ne]
    constructor <;> rintro rfl <;> exact absurd hc (by decide)
  obtain ⟨_, rfl, h₁⟩ := exists_append_of_alike (by decide) h
  obtain ⟨_, rfl, h₂⟩ := exists_append_of_alike hspace h₁
  obtain ⟨_, rfl, h₃⟩ := exists_append_of_alike (by decide) h₂
  obtain ⟨path', _, slash, rfl, hpath', h₄⟩ := exists_run_of_alike letters hpath h₃
  obtain ⟨ending', rfl, h₅⟩ := exists_cons_of_alike (by decide) h₄
  have hslash : '/' ∉ ending := fun hmem => absurd (hending.mem_chars hmem) (by decide)
  rw [eq_of_alike hslash h₅]
  exact ⟨blanks, path', ending, hblanks, hpath', hending, rfl⟩

theorem Client.of_alike {text text' : List Char} (hc : Client text)
    (h : alike false text text') : Client text' :=
  hc.imp (infix_of_alike (by decide) (by decide) h) (infix_of_alike (by decide) (by decide) h)

/-- A form that such texts share is neither made nor lost by lowering names. -/
theorem iff_replaceEach {P : List Char → Prop}
    (share : ∀ {s t : List Char}, P s → alike false s t → P t) (text : List Char) :
    P (replaceEach casings text) ↔ P text :=
  ⟨fun h => share h (alike_symm (alike_replaceEach false text)),
    fun h => share h (alike_replaceEach false text)⟩

end Catalog

end Codemod
