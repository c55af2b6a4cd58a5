import Codemod.Proofs.Catalog.Imports
import Codemod.Rule

/-! A literal rule as a pattern rule.
A text whose metacharacters are escaped is read as the pattern that matches just this text, and a
replacement whose dollar signs are doubled as the template that stands for just this replacement.
The matches of the pattern are the occurrences of the text that a literal rule replaces, also where
the text is empty. -/

namespace Codemod

theorem Text.length_le_flatMap {f : Char → List Char} (h : ∀ c, f c ≠ []) (text : List Char) :
    text.length ≤ (text.flatMap f).length := by
  induction text with
  | nil => simp
  | cons c rest ih =>
    have hc := List.length_pos_of_ne_nil (h c)
    rw [List.flatMap_cons, List.length_append, List.length_cons]
    omega

namespace Template

/-- A text with every dollar sign written twice. -/
def doubleDollars (text : List Char) : List Char :=
  text.flatMap fun c => if c = '$' then ['$', '$'] else [c]

/-- The segments of a text without references. -/
def literalSegments (text : List Char) : List Segment :=
  if text = [] then [] else [.literal text]

theorem consChar_literalSegments (c : Char) (text : List Char) :
    consChar c (literalSegments text) = literalSegments (c :: text) := by
  cases text <;> rfl

theorem readFrom_doubleDollars (text : List Char) {fuel : Nat} (h : text.length < fuel)
    (offset : Nat) : readFrom fuel offset (doubleDollars text) = .ok (literalSegments text) := by
  induction text generalizing fuel offset with
  | nil =>
    cases fuel with
    | zero => rfl
    | succ fuel => rfl
  | cons c rest ih =>
    obtain ⟨fuel, rfl⟩ : ∃ n, fuel = n + 1 := ⟨fuel - 1, by omega⟩
    have hrest : rest.length < fuel := by simpa using h
    rw [← consChar_literalSegments, doubleDollars, List.flatMap_cons, ← doubleDollars]
    by_cases hc : c = '$'
    · subst hc
      simp [readFrom, ih hrest, Except.map]
    · rw [if_neg hc, List.singleton_append, readFrom]
      · rw [ih hrest]
        rfl
      · simp [hc]
      · simp [hc]
      · simp [hc]

theorem parse_doubleDollars (text : List Char) :
    parse (doubleDollars text) = .ok ⟨literalSegments text⟩ := by
  have hlength : text.length ≤ (doubleDollars text).length :=
    Text.length_le_flatMap (fun c => by split_ifs <;> simp) text
  rw [parse, readFrom_doubleDollars text (by omega)]
  rfl

theorem compile_doubleDollars (p : Pattern) (text : List Char) :
    compile p (doubleDollars text) = .ok ⟨literalSegments text⟩ := by
  have hknown : unknownGroup? p ⟨literalSegments text⟩ = none := by
    cases text <;> rfl
  rw [compile, parse_doubleDollars]
  simp only [bind, Except.bind, hknown]
  rfl

theorem expand_literalSegments (p : Pattern) (m : Pattern.Match) (text : List Char) :
    expand ⟨literalSegments text⟩ p m = text := by
  cases text <;> simp [expand, literalSegments, expandSegment]

theorem isLiteral_literalSegments (text : List Char) : isLiteral ⟨literalSegments text⟩ := by
  cases text <;> rfl

end Template

namespace Text

theorem replaceFrom_length_append (find replacement used rest : List Char) :
    replaceFrom find replacement used.length (used ++ rest) = replace find replacement rest := by
  induction used with
  | nil => rfl
  | cons c used ih => exact ih

/-- An occurrence is replaced as a whole. -/
theorem replace_append {find : List Char} (h : find ≠ []) (replacement rest : List Char) :
    replace find replacement (find ++ rest) = replacement ++ replace find replacement rest := by
  obtain ⟨c, used, rfl⟩ := List.exists_cons_of_ne_nil h
  have hoccurs : (c :: used).isPrefixOf (c :: (used ++ rest)) := by simp
  rw [List.cons_append, replace, replaceFrom]
  simp only [List.isEmpty_cons, Bool.false_eq_true, if_false, hoccurs, if_true]
  rw [List.length_cons, Nat.add_sub_cancel, replaceFrom_length_append]

/-- A character where no occurrence begins is kept. -/
theorem replace_cons {find : List Char} (h : find ≠ []) {c : Char} {rest : List Char}
    (hnone : ¬ find <+: c :: rest) (replacement : List Char) :
    replace find replacement (c :: rest) = c :: replace find replacement rest := by
  rw [← List.isPrefixOf_iff_prefix] at hnone
  rw [replace, replaceFrom]
  simp [h, hnone, replace]

end Text

namespace Pattern

/-- A text with a backslash before each metacharacter. -/
def escapeMeta (text : List Char) : List Char :=
  text.flatMap fun c => if isMeta c then ['\\', c] else [c]

section Reading

variable (fuel : Nat) (s : Scope) (pieces done : List Piece) {c : Char} (rest : List Char)

theorem readBranches_meta (h : isMeta c) :
    readBranches (fuel + 1) {} s pieces done ('\\' :: c :: rest) =
      readBranches fuel {} s ({ expr := .literal [c] } :: pieces) done rest := by
  have hescape : escape {} (c :: rest) = some (.char c, rest) := by
    simp [escape, isEscapable, h]
  rw [readBranches]
  simp [Flags.skip, isRepetition, primitive, hescape, Primitive.expr?, Flags.charExpr]

theorem readBranches_plain (h : isMeta c = false) :
    readBranches (fuel + 1) {} s pieces done (c :: rest) =
      readBranches fuel {} s ({ expr := .literal [c] } :: pieces) done rest := by
  have hmeta : "\\.+*?()|[]\x7b\x7d^$#&-~".toList = ['\\', '.', '+', '*', '?', '(', ')', '|', '[',
    ']', '\x7b', '\x7d', '^', '$', '#', '&', '-', '~'] := by decide
  have hplain : c ∉ "\\.+*?()|[]\x7b\x7d^$#&-~".toList := by simpa [isMeta] using h
  simp only [hmeta, List.mem_cons, not_or] at hplain
  rw [readBranches]
  simp [Flags.skip, isRepetition, primitive, hplain, Primitive.expr?, Flags.charExpr]

end Reading

/-- Character by character, each becomes a piece of its own. -/
theorem readBranches_escapeMeta (text : List Char) {fuel : Nat} (h : text.length < fuel) (s : Scope)
    (pieces : List Piece) :
    readBranches fuel {} s pieces [] (escapeMeta text) =
      some (.sequence ((text.map fun c => { expr := .literal [c] }).reverse ++ pieces), s, []) := by
  induction text generalizing fuel pieces with
  | nil =>
    obtain ⟨fuel, rfl⟩ : ∃ n, fuel = n + 1 := ⟨fuel - 1, by omega⟩
    rw [readBranches]
    rfl
  | cons c rest ih =>
    obtain ⟨fuel, rfl⟩ : ∃ n, fuel = n + 1 := ⟨fuel - 1, by omega⟩
    have hrest : rest.length < fuel := by simpa using h
    rw [escapeMeta, List.flatMap_cons, ← escapeMeta]
    split_ifs with hmeta
    · rw [List.cons_append, List.singleton_append, readBranches_meta fuel s pieces [] _ hmeta,
        ih hrest]
      simp
    · rw [List.singleton_append,
        readBranches_plain fuel s pieces [] _ (Bool.eq_false_of_not_eq_true hmeta), ih hrest]
      simp

/-- The expression that matches just a text. -/
def Expr.ofText (text : List Char) : Expr :=
  if text = [] then .empty else .literal text

theorem Expr.concat_map_literal {text : List Char} (h : text ≠ []) :
    Expr.concat (text.map fun c => .literal [c]) = .literal text := by
  have hitems : (text.map fun c => Expr.literal [c]).flatMap items =
      text.map fun c => Expr.literal [c] := by
    rw [List.flatMap_map, List.map_eq_flatMap]
    rfl
  have hjoined : ∀ text : List Char, text ≠ [] →
      (text.map fun c => Expr.literal [c]).foldr consItem [] = [.literal text] := by
    intro text
    induction text with
    | nil => exact fun hnil => absurd rfl hnil
    | cons c rest ih =>
      intro _
      rw [List.map_cons, List.foldr_cons]
      cases rest with
      | nil => rfl
      | cons d rest =>
        rw [ih (by simp)]
        rfl
  rw [concat, hitems, hjoined text h]
  rfl

theorem deepest_of_flat {pieces : List Piece} (h : ∀ p ∈ pieces, p.depth = 0) :
    deepest pieces = 0 := by
  rw [deepest]
  induction pieces with
  | nil => rfl
  | cons p rest ih =>
    rw [List.forall_mem_cons] at h
    rw [List.foldl_cons, h.1, Nat.max_self, ih h.2]

theorem sequence_of_two_le {pieces : List Piece} (h : 2 ≤ pieces.length) :
    Piece.sequence pieces =
      { expr := .concat (pieces.reverse.map (·.expr)), depth := deepest pieces + 1 } := by
  match pieces, h with
  | p :: q :: others, _ => rfl

/-- Pieces of one character each are joined to one text. -/
theorem sequence_literals (text : List Char) :
    let piece := Piece.sequence (text.map fun c => { expr := .literal [c] }).reverse
    piece.expr = .ofText text ∧ piece.depth ≤ 1 := by
  match text with
  | [] => exact ⟨rfl, Nat.zero_le 1⟩
  | [c] => exact ⟨rfl, Nat.zero_le 1⟩
  | c :: d :: rest =>
    have hexprs : ((c :: d :: rest).map fun c => ({ expr := .literal [c] } : Piece)).map (·.expr) =
        (c :: d :: rest).map fun c => .literal [c] :=
      List.map_map
    rw [sequence_of_two_le (by simp), List.reverse_reverse, hexprs,
      Expr.concat_map_literal (List.cons_ne_nil c (d :: rest)), deepest_of_flat (by grind)]
    exact ⟨rfl, Nat.le_refl 1⟩

theorem parse_escapeMeta (text : List Char) : parse (escapeMeta text) = some (.ofText text) := by
  have hlength : text.length ≤ (escapeMeta text).length :=
    Text.length_le_flatMap (fun c => by split_ifs <;> simp) text
  obtain ⟨hexpr, hdepth⟩ := sequence_literals text
  rw [parse, readBranches_escapeMeta text (by omega), List.append_nil]
  simp only [hexpr]
  exact if_pos (hdepth.trans (by decide))

/-- An escaped text is a pattern, unless it is too long. -/
theorem compile_escapeMeta (text : List Char) :
    compile (escapeMeta text) =
      if (Expr.ofText text).fits then .ok ⟨escapeMeta text, .ofText text⟩ else .error .tooBig := by
  rw [compile, parse_escapeMeta]

theorem findAll_eq_nil_iff (p : Pattern) (text : List Char) :
    p.findAll text = [] ↔ p.isMatch text = false := by
  have hpick : ∀ (outcomes : List Outcome) (offset : Nat) (text : List Char),
      pickMatches offset 0 none text outcomes = [] ↔ outcomes.any Option.isSome = false := by
    intro outcomes
    induction outcomes with
    | nil => simp [pickMatches]
    | cons outcome rest ih =>
      intro offset text
      cases outcome with
      | none => simp [pickMatches, ih]
      | some marks => simp [pickMatches]
  exact hpick _ 0 text

/-- Matches are replaced just where there are some. -/
theorem replaceAll?_eq (p : Pattern) (render : Match → List Char) (text : List Char) :
    p.replaceAll? render text =
      if p.isMatch text then some (splice render 0 text (p.findAll text)) else none := by
  rw [replaceAll?]
  cases hfound : p.findAll text with
  | nil => simp [(findAll_eq_nil_iff p text).mp hfound]
  | cons m ms =>
    have hmatch : p.isMatch text := by
      rw [← Bool.not_eq_false, ← findAll_eq_nil_iff, hfound]
      simp
    simp [hmatch]

section Literal

variable {p : Pattern} {find : List Char} (hp : p.expr = .ofText find)
include hp

theorem root_ofText (room : Nat) : p.root room = .group 0 (Node.literal none find) := by
  rw [root, hp, Expr.ofText]
  split_ifs with h
  · rw [h]
    rfl
  · rfl

theorem way_root_iff {room : Nat} {c c' : Cursor} {ms : List Mark} :
    Way (p.root room) c ms c' ↔ c.rest = find ++ c'.rest ∧ c' = c.past find c'.rest ∧
      ms = [.opened 0 c.offset, .closed 0 (c.offset + find.length)] := by
  rw [root_ofText hp, Node.way_group_iff (Node.silent_literal none find)]
  simp only [Node.mem_language_literal]
  constructor
  · rintro ⟨_, rest, hrest, rfl, rfl, rfl⟩
    exact ⟨hrest, rfl, rfl⟩
  · rintro ⟨hrest, hpast, hms⟩
    exact ⟨find, c'.rest, hrest, hpast, rfl, hms⟩

theorem isMatch_ofText (text : List Char) : p.isMatch text = Text.occursIn find text := by
  have hsteady : (p.root text.length).steady := by
    rw [root_ofText hp]
    exact Node.steady_literal none find
  rw [Bool.eq_iff_iff, isMatch_iff p text hsteady, Text.occursIn_iff]
  simp only [way_root_iff hp, Cursor.past_rest]
  constructor
  · rintro ⟨front, rest, _, c', rfl, hrest, -⟩
    exact ⟨front, c'.rest, by rw [hrest, List.append_assoc]⟩
  · rintro ⟨front, back, rfl⟩
    exact ⟨front, find ++ back, _, ((Cursor.start _).past front _).past find back,
      List.append_assoc .., rfl, rfl, rfl⟩

/-- The rules for replacing the occurrences of a text are those for replacing the matches. -/
theorem rewrites_ofText (h : find ≠ []) (room : Nat) (replacement : List Char) :
    Rewrites (p.root room) (fun _ => replacement)
      fun c => Text.replace find replacement c.rest where
  finish c hend := by
    obtain ⟨a, rest, rfl⟩ := List.exists_cons_of_ne_nil h
    rw [hend]
    rfl
  keep c a rest hrest hnone := by
    have hno : ¬ find <+: a :: rest := by
      rintro ⟨back, hback⟩
      exact hnone _ (c.past find back)
        ((way_root_iff hp).mpr ⟨by rw [hrest, ← hback]; rfl, rfl, rfl⟩)
    rw [hrest, Text.replace_cons h hno]
    rfl
  render c ms c' way := by
    rw [((way_root_iff hp).mp way).1, Text.replace_append h]

/-- The empty text matches at every place, so the replacement is put before each character and at
the end. `held` is the text since the last match. -/
theorem splice_pickMatches_nil (hfind : find = []) {room : Nat} (replacement text held : List Char)
    (offset resume : Nat) (before : Option Char) (barred : Option Nat)
    (hresume : resume ≤ offset + held.length)
    (hbarred : barred ≠ some (offset + held.length)) :
    splice (fun _ => replacement) offset (held ++ text)
        (pickMatches (offset + held.length) resume barred text
          ((cursorsFrom (offset + held.length) before text).map (p.root room).hit)) =
      held ++ Text.replace [] replacement text := by
  have hhit : ∀ c, (p.root room).hit c = some [.opened 0 c.offset, .closed 0 c.offset] := by
    intro c
    rw [root_ofText hp, hfind]
    simp [Node.hit, Node.outcomeAt_group, Node.literal, Node.outcomeAt_empty, Outcome.closing,
      Outcome.opening, Cursor.place]
  induction text generalizing held offset resume before barred with
  | nil =>
    simp [cursorsFrom, pickMatches, hhit, Nat.not_lt.mpr hresume, lastClosed, hbarred, splice,
      Text.replace, Text.replaceFrom]
  | cons a rest ih =>
    have step := ih [a] (offset + held.length) (offset + held.length) (some a)
      (some (offset + held.length)) (by simp) (by simp)
    simp only [cursorsFrom, List.map_cons, pickMatches, hhit, Nat.not_lt.mpr hresume, if_false,
      lastClosed, if_true, Option.none_or, Option.getD_some, hbarred, and_false, splice,
      Nat.add_sub_cancel_left, List.take_left', List.drop_left']
    exact congrArg (fun tail => held ++ (replacement ++ tail)) step

theorem splice_findAll (replacement text : List Char) :
    splice (fun _ => replacement) 0 text (p.findAll text) = Text.replace find replacement text := by
  rw [findAll, Node.sweep_eq]
  by_cases hfind : find = []
  · rw [hfind]
    exact splice_pickMatches_nil hp hfind replacement text [] 0 0 none none (Nat.le_refl 0)
      (by simp)
  · have hrewrites := rewrites_ofText hp hfind text.length replacement
    obtain ⟨a, rest, rfl⟩ := List.exists_cons_of_ne_nil hfind
    rw [root_ofText hp] at hrewrites ⊢
    exact splice_pickMatches (Node.steady_literal none _) (Node.consumes_literal none a rest)
      hrewrites (.start text) 0 0 none [] rfl (Nat.le_refl 0)

end Literal

end Pattern

namespace Rule

/-- An escaped text is a pattern unless it is too long, and a text with doubled dollar signs is a
template for every pattern, without references, that expands to the text for every match. The rule
of both finds a match just where the literal rule does, and changes each text to the same text. -/
theorem change?_escaped (find replacement : List Char) :
    Pattern.compile (Pattern.escapeMeta find) ≠ .error .malformed ∧
    (∀ p, ∃ t, Template.compile p (Template.doubleDollars replacement) = .ok t ∧ t.isLiteral ∧
      ∀ m, t.expand p m = replacement) ∧
    ∀ p, Pattern.compile (Pattern.escapeMeta find) = .ok p →
      ∃ t, Template.compile p (Template.doubleDollars replacement) = .ok t ∧
        ∀ text, (pattern p t).change? text = (literal find replacement).change? text ∧
          (pattern p t).apply text = (literal find replacement).apply text := by
  refine ⟨?_, fun p => ?_, fun p hp => ?_⟩
  · rw [Pattern.compile_escapeMeta]
    split_ifs <;> simp
  · exact ⟨_, Template.compile_doubleDollars p replacement,
      Template.isLiteral_literalSegments replacement,
      fun m => Template.expand_literalSegments p m replacement⟩
  · have hexpr : p.expr = .ofText find := by
      rw [Pattern.compile_escapeMeta] at hp
      split_ifs at hp
      rw [← Except.ok.inj hp]
    refine ⟨_, Template.compile_doubleDollars p replacement, fun text => ?_⟩
    have hrender :
        Template.expand ⟨Template.literalSegments replacement⟩ p = fun _ => replacement :=
      funext fun m => Template.expand_literalSegments p m replacement
    have hchange : (pattern p ⟨Template.literalSegments replacement⟩).change? text =
        (literal find replacement).change? text := by
      simp only [change?, hrender, Pattern.replaceAll?_eq, Pattern.isMatch_ofText hexpr,
        Pattern.splice_findAll hexpr]
    exact ⟨hchange, by rw [apply, hchange, apply]⟩

/-- Metacharacters and dollar signs, an occurrence that overlaps another, and the empty text. -/
theorem change?_escaped_overlap :
    ∃ p q t u, Pattern.compile (Pattern.escapeMeta "$(a$(".toList) = .ok p ∧
      Pattern.compile (Pattern.escapeMeta []) = .ok q ∧
      Template.compile p (Template.doubleDollars "$1".toList) = .ok t ∧
      Template.compile q (Template.doubleDollars "-".toList) = .ok u ∧
      (pattern p t).change? "$(a$(a$(".toList = some "$1a$(".toList ∧
      (pattern p t).change? "$(a".toList = none ∧
      (pattern q u).change? "ab".toList = some "-a-b-".toList := by
  obtain ⟨-, -, hsame⟩ := change?_escaped "$(a$(".toList "$1".toList
  obtain ⟨-, -, hsame'⟩ := change?_escaped [] "-".toList
  have hp : Pattern.compile (Pattern.escapeMeta "$(a$(".toList) =
      .ok ⟨"\\$\\(a\\$\\(".toList, .literal "$(a$(".toList⟩ := by decide +kernel
  have hq : Pattern.compile (Pattern.escapeMeta []) = .ok ⟨[], .empty⟩ := by decide +kernel
  obtain ⟨t, ht, hchange⟩ := hsame _ hp
  obtain ⟨u, hu, hchange'⟩ := hsame' _ hq
  refine ⟨_, _, t, u, hp, hq, ht, hu, ?_, ?_, ?_⟩
  · rw [(hchange _).1]
    decide
  · rw [(hchange _).1]
    decide
  · rw [(hchange' _).1]
    decide

end Rule

end Codemod
