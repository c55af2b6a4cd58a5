import Codemod.Proofs.Template.Tokens
import Codemod.Proofs.Text.Utf8
import Mathlib.Data.List.Chain

/-! The parser of replacement templates.
Each step of the parser reads one token, so it accepts the texts that are sequences of tokens, and
gives segments that stand for what the tokens stand for. On any other text it comes to the first
brace at fault, and reports the fault with the offset in bytes. -/

namespace Codemod.Template

section Reading

variable {name body text rest : List Char} {transform : Option Transform} {tok : Token}
variable (fuel offset : Nat)

theorem utf8Size_of_isGroupChar {c : Char} (h : isGroupChar c) : c.utf8Size = 1 := by
  unfold isGroupChar Char.isAlphanum Char.isAlpha Char.isUpper Char.isLower Char.isDigit at h
  simp only [Bool.or_eq_true, Bool.and_eq_true, decide_eq_true_eq, beq_iff_eq, ge_iff_le,
    UInt32.le_iff_toNat_le, UInt32.reduceToNat, Char.reduceVal] at h
  simp only [Char.utf8Size_eq_one_iff, UInt32.le_iff_toNat_le, UInt32.reduceToNat]
  rcases h with h | rfl
  · omega
  · decide

theorem byteLength_groupChars (h : ∀ c ∈ name, isGroupChar c) :
    Utf8.byteLength name = name.length := by
  induction name with
  | nil => rfl
  | cons c name ih =>
    rw [List.forall_mem_cons] at h
    rw [Utf8.byteLength, utf8Size_of_isGroupChar h.1, ih h.2, List.length_cons, Nat.add_comm]

theorem byteLength_bare (h : ∀ c ∈ name, isGroupChar c) :
    Utf8.byteLength (Token.bare name).spelling = 1 + name.length := by
  rw [Token.spelling, Utf8.byteLength, byteLength_groupChars h]
  rfl

theorem byteLength_braced (name : List Char) (transform : Option Transform) :
    Utf8.byteLength (Token.braced name transform).spelling =
      Utf8.byteLength (name ++ Transform.suffix transform) + 3 := by
  have hdollar : '$'.utf8Size = 1 := by decide
  have hopening : '\x7b'.utf8Size = 1 := by decide
  have hclosing : Utf8.byteLength ['\x7d'] = 1 := by decide
  rw [Token.spelling, Utf8.byteLength, Utf8.byteLength, Utf8.byteLength_append _ ['\x7d']]
  omega

/-- Between braces, the text before the first colon is the name. -/
theorem braced_suffix (hname : ':' ∉ name) :
    braced offset (name ++ Transform.suffix transform) =
      if name = [] then .error (.emptyGroup offset)
      else if name.all isGroupChar then .ok (.group (.ofName name) transform)
      else .error (.invalidGroupName (String.ofList name)) := by
  have hrun := Text.all_ne hname
  have hstop : ∀ c ∈ (Transform.suffix transform).head?, (c != ':') = false := by
    intro c hc
    simp [Transform.head_suffix transform c hc]
  rw [braced, Text.takeWhile_run hrun hstop, Text.dropWhile_run hrun hstop]
  cases transform with
  | none => cases name <;> simp [Transform.suffix, bind, Except.bind, pure, Except.pure] <;> rfl
  | some t =>
    cases name <;>
      simp [Transform.suffix, Transform.ofName?_name, bind, Except.bind, pure, Except.pure] <;> rfl

/-- A transform that is not known is reported whatever the name is. -/
theorem braced_unknownTransform (hname : ':' ∉ name) (htext : ∀ t : Transform, text ≠ t.name) :
    braced offset (name ++ ':' :: text) = .error (.unknownTransform (String.ofList text)) := by
  have hrun := Text.all_ne hname
  have hstop : ∀ c ∈ (':' :: text).head?, (c != ':') = false := by simp
  rw [braced, Text.takeWhile_run hrun hstop, Text.dropWhile_run hrun hstop]
  simp [Transform.ofName?_eq_none htext, bind, Except.bind, throw, throwThe, MonadExceptOf.throw]

theorem readFrom_enclosed (hbody : '\x7d' ∉ body) :
    readFrom (fuel + 1) offset ('$' :: '\x7b' :: (body ++ '\x7d' :: rest)) =
      (braced offset body).bind fun segment =>
        (readFrom fuel (offset + Utf8.byteLength body + 3) rest).map (segment :: ·) := by
  have hrun := Text.all_ne hbody
  have hstop : ∀ c ∈ ('\x7d' :: rest).head?, (c != '\x7d') = false := by simp
  rw [readFrom]
  simp only [Text.takeWhile_run hrun hstop, Text.dropWhile_run hrun hstop]
  cases braced offset body with
  | error e => rfl
  | ok segment =>
    cases readFrom fuel (offset + Utf8.byteLength body + 3) rest <;> rfl

/-- Puts what a token stands for before segments. -/
def Atom.cons : Atom → List Segment → List Segment
  | .char c, segments => consChar c segments
  | .group ref transform, segments => .group ref transform :: segments

/-- One step of the parser reads the token at the front. -/
theorem readFrom_token (h : tok.Fits rest) :
    readFrom (fuel + 1) offset (tok.spelling ++ rest) =
      (readFrom fuel (offset + Utf8.byteLength tok.spelling) rest).map tok.atom.cons := by
  cases tok with
  | plain c =>
    have hc : c ≠ '$' := h
    -- The last branch of the parser applies, since the text does not begin with a dollar sign.
    rw [Token.spelling, List.singleton_append, readFrom]
    · rfl
    · simp [hc]
    · simp [hc]
    · simp [hc]
  | dollars => rfl
  | lone =>
    have hname : rest.takeWhile isGroupChar = [] := by
      cases rest with
      | nil => rfl
      | cons c rest => simp [(h c rfl).2.2]
    rw [Token.spelling, List.singleton_append, readFrom]
    · rw [hname]
      rfl
    · rintro rest' rfl
      exact (h _ rfl).1 rfl
    · rintro rest' rfl
      exact (h _ rfl).2.1 rfl
  | bare name =>
    obtain ⟨hne, hname, hstop⟩ := h
    obtain ⟨c, name, rfl⟩ := List.exists_cons_of_ne_nil hne
    have hc : isGroupChar c := hname c (by simp)
    rw [byteLength_bare hname, Token.spelling, List.cons_append, readFrom]
    · rw [Text.takeWhile_run hname hstop, Text.dropWhile_run hname hstop, ← Nat.add_assoc]
      cases readFrom fuel (offset + 1 + (c :: name).length) rest <;> rfl
    · intro rest' heq
      exact ne_of_isGroupChar hc (by decide) (List.cons.inj heq).1
    · intro rest' heq
      exact ne_of_isGroupChar hc (by decide) (List.cons.inj heq).1
  | braced name transform =>
    obtain ⟨hne, hname⟩ := h
    have hbody : '\x7d' ∉ name ++ Transform.suffix transform :=
      closing_not_mem_body (not_mem_of_groupChars hname (by decide)) transform
    have hsegment : braced offset (name ++ Transform.suffix transform) =
        .ok (.group (.ofName name) transform) := by
      rw [braced_suffix offset (not_mem_of_groupChars hname (by decide)), if_neg hne,
        if_pos (List.all_eq_true.mpr hname)]
    rw [byteLength_braced, Token.spelling, List.cons_append, List.cons_append, List.append_assoc,
      List.singleton_append, readFrom_enclosed fuel offset hbody, hsegment, ← Nat.add_assoc]
    rfl

/-- A brace at fault ends the parse. -/
theorem readFrom_offence {report : Nat → TemplateError} (h : Offence rest report) :
    readFrom (fuel + 1) offset ('$' :: '\x7b' :: rest) = .error (report offset) := by
  cases h with
  | unterminated hopen =>
    have hall : rest.dropWhile (· != '\x7d') = [] := by
      rw [List.dropWhile_eq_nil_iff]
      exact Text.all_ne hopen
    rw [readFrom]
    simp only [hall]
  | unknownTransform name text tail hrest hbody hname htext =>
    rw [hrest, readFrom_enclosed fuel offset hbody, braced_unknownTransform offset hname htext]
    rfl
  | emptyGroup transform tail hrest =>
    have hsegment : braced offset ([] ++ Transform.suffix transform) =
        .error (.emptyGroup offset) := by
      rw [braced_suffix offset List.not_mem_nil, if_pos rfl]
    rw [List.nil_append] at hsegment
    rw [hrest, readFrom_enclosed fuel offset (Transform.closing_not_mem_suffix transform),
      hsegment]
    rfl
  | invalidGroupName name transform tail hrest hclosing hname hne hinvalid =>
    have hbody := closing_not_mem_body hclosing transform
    have hall : ¬ name.all isGroupChar := by
      simpa using hinvalid
    rw [hrest, readFrom_enclosed fuel offset hbody, braced_suffix offset hname, if_neg hne,
      if_neg hall]
    rfl

end Reading

theorem stuck_offence {rest : List Char} {report : Nat → TemplateError} (h : Offence rest report) :
    Stuck ('$' :: '\x7b' :: rest) := by
  intro tok rest' htext hfits
  have herror := readFrom_offence 0 0 h
  rw [htext, readFrom_token 0 0 hfits] at herror
  cases herror

/-- The tokens at the front of a text are read in as many steps. -/
theorem readFrom_tokens {toks : List Token} {tail : List Char} (h : Fits toks tail)
    (fuel offset : Nat) :
    readFrom (toks.length + fuel) offset (spell toks ++ tail) =
      (readFrom fuel (offset + Utf8.byteLength (spell toks)) tail).map
        fun segments => (toks.map Token.atom).foldr Atom.cons segments := by
  induction toks generalizing offset with
  | nil =>
    rw [List.length_nil, Nat.zero_add]
    change readFrom fuel offset tail = (readFrom fuel offset tail).map id
    cases readFrom fuel offset tail <;> rfl
  | cons tok toks ih =>
    rw [spell_cons, List.append_assoc, List.length_cons, Nat.add_right_comm, readFrom_token _ _ h.1,
      ih h.2, Utf8.byteLength_append, Nat.add_assoc]
    cases readFrom fuel _ tail <;> rfl

theorem length_le_spell (toks : List Token) : toks.length ≤ (spell toks).length := by
  induction toks with
  | nil => exact Nat.zero_le 0
  | cons tok toks ih =>
    have hpos := tok.length_spelling_pos
    rw [spell_cons, List.length_append, List.length_cons]
    omega

/-- The fuel of the parser lasts for all tokens and for the step behind them. -/
theorem parse_of_reads {source tail : List Char} {toks : List Token} (h : Reads source toks tail) :
    ∃ fuel, parse source =
      (readFrom (fuel + 1) (Utf8.byteLength (spell toks)) tail).map
        fun segments => ⟨(toks.map Token.atom).foldr Atom.cons segments⟩ := by
  obtain ⟨rfl, hfits⟩ := h
  have hlength := length_le_spell toks
  refine ⟨(spell toks ++ tail).length - toks.length, ?_⟩
  have hfuel : (spell toks ++ tail).length + 1 =
      toks.length + ((spell toks ++ tail).length - toks.length + 1) := by
    rw [List.length_append]
    omega
  rw [parse, hfuel, readFrom_tokens hfits, Nat.zero_add]
  cases readFrom _ (Utf8.byteLength (spell toks)) tail <;> rfl

/-! ### The meaning of the tokens -/

/-- Segments with one literal for each run of characters. -/
def assemble (atoms : List Atom) : List Segment :=
  atoms.foldr Atom.cons []

theorem parse_tokens {source : List Char} {toks : List Token} (h : Reads source toks []) :
    parse source = .ok ⟨assemble (toks.map Token.atom)⟩ := by
  obtain ⟨fuel, hparse⟩ := parse_of_reads h
  rw [hparse]
  rfl

theorem parse_offence {source rest : List Char} {toks : List Token} {report : Nat → TemplateError}
    (h : Reads source toks ('$' :: '\x7b' :: rest)) (hreport : Offence rest report) :
    parse source = .error (report (Utf8.encode (spell toks)).length) := by
  obtain ⟨fuel, hparse⟩ := parse_of_reads h
  rw [hparse, readFrom_offence fuel _ hreport, Utf8.length_encode]
  rfl

/-- The characters and references of a segment. -/
def segmentAtoms : Segment → List Atom
  | .literal text => text.map .char
  | .group ref transform => [.group ref transform]

def IsText : Segment → Prop
  | .literal _ => True
  | .group _ _ => False

/-- No literal is empty, and none follows another. -/
def Merged (segments : List Segment) : Prop :=
  .literal [] ∉ segments ∧ segments.IsChain fun s s' => ¬ (IsText s ∧ IsText s')

theorem merged_cons (a : Atom) {segments : List Segment} (h : Merged segments) :
    Merged (a.cons segments) := by
  cases a with
  | group ref transform =>
    cases segments <;> simp_all [Merged, Atom.cons, IsText]
  | char c =>
    match segments with
    | [] => simp [Merged, Atom.cons, consChar]
    | .group ref transform :: segments => simp_all [Merged, Atom.cons, consChar, IsText]
    | [.literal text] => simp [Merged, Atom.cons, consChar]
    | .literal text :: s :: segments => simp_all [Merged, Atom.cons, consChar, IsText]

theorem merged_assemble (atoms : List Atom) : Merged (assemble atoms) := by
  induction atoms with
  | nil => simp [Merged, assemble]
  | cons a atoms ih => exact merged_cons a ih

theorem atoms_cons (a : Atom) (segments : List Segment) :
    (a.cons segments).flatMap segmentAtoms = a :: segments.flatMap segmentAtoms := by
  cases a with
  | group ref transform => rfl
  | char c =>
    match segments with
    | [] => rfl
    | .group ref transform :: segments => rfl
    | .literal text :: segments => rfl

theorem atoms_assemble (atoms : List Atom) : (assemble atoms).flatMap segmentAtoms = atoms := by
  induction atoms with
  | nil => rfl
  | cons a atoms ih => rw [assemble, List.foldr_cons, atoms_cons, ← assemble, ih]

theorem foldr_char {text : List Char} (hne : text ≠ []) {segments : List Segment}
    (h : ∀ s ∈ segments.head?, ¬ IsText s) :
    (text.map Atom.char).foldr Atom.cons segments = .literal text :: segments := by
  induction text with
  | nil => exact absurd rfl hne
  | cons c text ih =>
    rw [List.map_cons, List.foldr_cons]
    match text with
    | [] =>
      match segments with
      | [] => rfl
      | .group ref transform :: segments => rfl
      | .literal other :: segments => exact absurd trivial (h _ rfl)
    | d :: text =>
      rw [ih (List.cons_ne_nil d text)]
      rfl

/-- Merged segments are known by what they stand for. -/
theorem assemble_atoms {segments : List Segment} (h : Merged segments) :
    assemble (segments.flatMap segmentAtoms) = segments := by
  induction segments with
  | nil => rfl
  | cons s segments ih =>
    have hrest : Merged segments :=
      ⟨fun hmem => h.1 (List.mem_cons_of_mem s hmem), h.2.of_cons⟩
    rw [assemble, List.flatMap_cons, List.foldr_append, ← assemble, ih hrest]
    cases s with
    | group ref transform => rfl
    | literal text =>
      have hne : text ≠ [] := by
        rintro rfl
        exact h.1 List.mem_cons_self
      refine foldr_char hne fun s hs htext => ?_
      cases segments with
      | nil => cases hs
      | cons s' segments =>
        cases hs
        exact (List.isChain_cons_cons.mp h.2).1 ⟨trivial, htext⟩

theorem parse_eq_ok_iff {source : List Char} {toks : List Token} (h : Reads source toks [])
    (t : Template) : parse source = .ok t ↔
      Merged t.segments ∧ t.segments.flatMap segmentAtoms = toks.map Token.atom := by
  rw [parse_tokens h]
  constructor
  · rintro ⟨⟩
    exact ⟨merged_assemble _, atoms_assemble _⟩
  · rintro ⟨hmerged, hatoms⟩
    rw [← hatoms, assemble_atoms hmerged]

/-! ### References to the groups of a pattern -/

/-- A reference is to a group of the pattern. -/
def Atom.Known (p : Pattern) : Atom → Prop
  | .char _ => True
  | .group ref _ => (ref.resolve? p).isSome

/-- The group that an atom refers to and the pattern does not have. -/
def Atom.missing? (p : Pattern) : Atom → Option GroupRef
  | .char _ => none
  | .group ref _ => if (ref.resolve? p).isSome then none else some ref

theorem Atom.missing?_eq_none_iff {p : Pattern} {a : Atom} : a.missing? p = none ↔ a.Known p := by
  cases a with
  | char c => simp [missing?, Known]
  | group ref transform => cases hres : ref.resolve? p <;> simp [missing?, Known, hres]

theorem Atom.missing?_eq_some_iff {p : Pattern} {a : Atom} {ref : GroupRef} :
    a.missing? p = some ref ↔ ∃ transform, a = .group ref transform ∧ ref.resolve? p = none := by
  cases a with
  | char c => simp [missing?]
  | group ref' transform =>
    cases hres : ref'.resolve? p <;> simp [missing?, hres] <;> grind

theorem unknownGroup?_eq (p : Pattern) (t : Template) :
    unknownGroup? p t = (t.segments.flatMap segmentAtoms).findSome? (Atom.missing? p) := by
  obtain ⟨segments⟩ := t
  induction segments with
  | nil => rfl
  | cons s segments ih =>
    rw [unknownGroup?] at ih ⊢
    rw [List.findSome?_cons, List.flatMap_cons, List.findSome?_append, ih]
    cases s with
    | literal text =>
      have hchars : (text.map Atom.char).findSome? (Atom.missing? p) = none := by
        simp [Atom.missing?]
      rw [segmentAtoms, hchars, Option.none_or]
    | group ref transform =>
      cases hres : ref.resolve? p <;> simp [segmentAtoms, Atom.missing?, hres]

/-- The first token that refers to a group which the pattern does not have. -/
theorem unknownGroup?_eq_some_iff {p : Pattern} {t : Template} {toks : List Token}
    (h : t.segments.flatMap segmentAtoms = toks.map Token.atom) (ref : GroupRef) :
    unknownGroup? p t = some ref ↔
      ∃ before tok after transform, toks = before ++ tok :: after ∧
        (∀ b ∈ before, b.atom.Known p) ∧ tok.atom = .group ref transform ∧
          ref.resolve? p = none := by
  rw [unknownGroup?_eq, h, List.findSome?_map, List.findSome?_eq_some_iff]
  constructor
  · rintro ⟨before, tok, after, htoks, hmissing, hbefore⟩
    obtain ⟨transform, hatom, hnone⟩ := Atom.missing?_eq_some_iff.mp hmissing
    exact ⟨before, tok, after, transform, htoks,
      fun b hb => Atom.missing?_eq_none_iff.mp (hbefore b hb), hatom, hnone⟩
  · rintro ⟨before, tok, after, transform, htoks, hbefore, hatom, hnone⟩
    exact ⟨before, tok, after, htoks, Atom.missing?_eq_some_iff.mpr ⟨transform, hatom, hnone⟩,
      fun b hb => Atom.missing?_eq_none_iff.mpr (hbefore b hb)⟩

theorem unknownGroup?_eq_none_iff {p : Pattern} {t : Template} {toks : List Token}
    (h : t.segments.flatMap segmentAtoms = toks.map Token.atom) :
    unknownGroup? p t = none ↔ ∀ tok ∈ toks, tok.atom.Known p := by
  rw [unknownGroup?_eq, h, List.findSome?_map, List.findSome?_eq_none_iff]
  simp only [Function.comp_apply, Atom.missing?_eq_none_iff]

theorem compile_of_parse_error {source : List Char} {e : TemplateError}
    (h : parse source = .error e) (p : Pattern) : compile p source = .error e := by
  rw [compile, h]
  rfl

theorem compile_of_parse_ok {source : List Char} {t : Template} (h : parse source = .ok t)
    (p : Pattern) :
    compile p source = match unknownGroup? p t with
      | some ref => .error (.unknownGroup ref.label)
      | none => .ok t := by
  rw [compile, h]
  rfl

/-- A text is no template because of its first brace at fault. -/
theorem parse_eq_error_iff (source : List Char) (e : TemplateError) :
    parse source = .error e ↔
      ∃ toks rest report, Reads source toks ('$' :: '\x7b' :: rest) ∧ Offence rest report ∧
        e = report (Utf8.encode (spell toks)).length := by
  constructor
  · intro herror
    obtain ⟨toks, hreads⟩ | ⟨toks, rest, report, hreads, hreport⟩ := exists_reads source
    · rw [parse_tokens hreads] at herror
      cases herror
    · rw [parse_offence hreads hreport] at herror
      cases herror
      exact ⟨toks, rest, report, hreads, hreport, rfl⟩
  · rintro ⟨toks, rest, report, hreads, hreport, rfl⟩
    exact parse_offence hreads hreport

theorem exists_reads_of_parse {source : List Char} {t : Template} (h : parse source = .ok t) :
    ∃ toks, Reads source toks [] := by
  obtain hreads | ⟨toks, rest, report, hreads, hreport⟩ := exists_reads source
  · exact hreads
  · rw [parse_offence hreads hreport] at h
    cases h

theorem compile_eq_unknownGroup_iff (p : Pattern) (source : List Char) (label : String) :
    compile p source = .error (.unknownGroup label) ↔
      ∃ before tok after ref transform, Reads source (before ++ tok :: after) [] ∧
        (∀ b ∈ before, b.atom.Known p) ∧ tok.atom = .group ref transform ∧
          ref.resolve? p = none ∧ label = ref.label := by
  constructor
  · intro herror
    cases hparse : parse source with
    | error e =>
      rw [compile_of_parse_error hparse] at herror
      cases herror
      obtain ⟨toks, rest, report, hreads, hreport, herror⟩ := (parse_eq_error_iff _ _).mp hparse
      cases hreport <;> cases herror
    | ok t =>
      obtain ⟨toks, hreads⟩ := exists_reads_of_parse hparse
      have hatoms := ((parse_eq_ok_iff hreads t).mp hparse).2
      rw [compile_of_parse_ok hparse] at herror
      cases hunknown : unknownGroup? p t with
      | none =>
        rw [hunknown] at herror
        cases herror
      | some ref =>
        rw [hunknown] at herror
        cases herror
        obtain ⟨before, tok, after, transform, rfl, hbefore, hatom, hnone⟩ :=
          (unknownGroup?_eq_some_iff hatoms ref).mp hunknown
        exact ⟨before, tok, after, ref, transform, hreads, hbefore, hatom, hnone, rfl⟩
  · rintro ⟨before, tok, after, ref, transform, hreads, hbefore, hatom, hnone, rfl⟩
    have hparse := parse_tokens hreads
    have hatoms := ((parse_eq_ok_iff hreads _).mp hparse).2
    have hunknown := (unknownGroup?_eq_some_iff hatoms ref).mpr
      ⟨before, tok, after, transform, rfl, hbefore, hatom, hnone⟩
    rw [compile_of_parse_ok hparse, hunknown]

theorem compile_eq_ok_iff {p : Pattern} {source : List Char} {toks : List Token}
    (h : Reads source toks []) (t : Template) :
    compile p source = .ok t ↔ parse source = .ok t ∧ ∀ tok ∈ toks, tok.atom.Known p := by
  have hparse := parse_tokens h
  rw [← unknownGroup?_eq_none_iff ((parse_eq_ok_iff h _).mp hparse).2, compile_of_parse_ok hparse,
    hparse]
  cases unknownGroup? p ⟨assemble (toks.map Token.atom)⟩ <;> simp

/-- The parser accepts the texts of the grammar and no others. Such a text is a sequence of tokens
in one way, and its segments are what they stand for. Any other text has a first brace at fault, and
its fault is reported. A group that the pattern does not have is reported if the text is of the
grammar, and then the first one. -/
theorem parse_accepts_grammar (p : Pattern) (source : List Char) :
    ((∃ t, parse source = .ok t) ↔ ∃ toks, Reads source toks []) ∧
    (∀ toks, Reads source toks [] →
      (∀ toks', Reads source toks' [] → toks' = toks) ∧
      (∀ t, parse source = .ok t ↔
        Merged t.segments ∧ t.segments.flatMap segmentAtoms = toks.map Token.atom) ∧
      ∀ t, compile p source = .ok t ↔ parse source = .ok t ∧ ∀ tok ∈ toks, tok.atom.Known p) ∧
    (∀ e, parse source = .error e ↔
      ∃ toks rest report, Reads source toks ('$' :: '\x7b' :: rest) ∧ Offence rest report ∧
        e = report (Utf8.encode (spell toks)).length) ∧
    (∀ toks rest report, Reads source toks ('$' :: '\x7b' :: rest) → Offence rest report →
      ∀ toks' tail, Reads source toks' tail → toks' <+: toks) ∧
    (∀ e, parse source = .error e → compile p source = .error e) ∧
    ∀ label, compile p source = .error (.unknownGroup label) ↔
      ∃ before tok after ref transform, Reads source (before ++ tok :: after) [] ∧
        (∀ b ∈ before, b.atom.Known p) ∧ tok.atom = .group ref transform ∧
          ref.resolve? p = none ∧ label = ref.label := by
  have haccepts : (∃ t, parse source = .ok t) ↔ ∃ toks, Reads source toks [] := by
    constructor
    · rintro ⟨t, hparse⟩
      exact exists_reads_of_parse hparse
    · rintro ⟨toks, hreads⟩
      exact ⟨_, parse_tokens hreads⟩
  refine ⟨haccepts, ?_, parse_eq_error_iff source, ?_, ?_, compile_eq_unknownGroup_iff p source⟩
  · intro toks hreads
    exact ⟨fun _ => reads_unique hreads, parse_eq_ok_iff hreads, compile_eq_ok_iff hreads⟩
  · intro toks rest report hreads hreport toks' tail hreads'
    exact isPrefix_of_stuck (stuck_offence hreport) hreads hreads'
  · intro e hparse
    exact compile_of_parse_error hparse p

/-- A text of the grammar whose first reference is not to a group of the pattern, and one where the
first brace at fault stands behind four bytes. -/
theorem parse_accepts_grammar_texts :
    let p : Pattern := ⟨[], .empty⟩
    let good := "é$$$\x7bname:upper\x7d→$x1 $".toList
    let toks : List Token := [.plain 'é', .dollars, .braced "name".toList (some .upper), .plain '→',
      .bare "x1".toList, .plain ' ', .lone]
    let bad := "é$0$\x7b:lower\x7d$\x7b".toList
    (∀ toks', Reads good toks' [] → toks' = toks) ∧
      parse good = .ok ⟨[.literal "é$".toList, .group (.name "name") (some .upper),
        .literal "→".toList, .group (.name "x1") none, .literal " $".toList]⟩ ∧
      compile p good = .error (.unknownGroup "name") ∧
      parse bad = .error (.emptyGroup 4) ∧ compile p bad = .error (.emptyGroup 4) := by
  intro p good toks bad
  have hgood : Reads good toks [] := by decide
  have hbad : Reads bad [.plain 'é', .bare "0".toList] "$\x7b:lower\x7d$\x7b".toList := by decide
  obtain ⟨-, hread, -, -, -, hunknown⟩ := parse_accepts_grammar p good
  obtain ⟨-, -, herror, -, hcompile, -⟩ := parse_accepts_grammar p bad
  have hparse : parse bad = .error (.emptyGroup 4) :=
    (herror (.emptyGroup 4)).mpr ⟨_, _, _, hbad, .emptyGroup (some .lower) _ rfl, rfl⟩
  refine ⟨(hread toks hgood).1, ?_, ?_, hparse, hcompile _ hparse⟩
  · refine ((hread toks hgood).2.1 _).mpr ⟨?_, rfl⟩
    simp [Merged, IsText]
  · have hfront : ∀ b ∈ [Token.plain 'é', .dollars], b.atom.Known p := by
      simp [Token.atom, Atom.Known]
    exact (hunknown "name").mpr ⟨[.plain 'é', .dollars], .braced "name".toList (some .upper), _,
      .name "name", some .upper, hgood, hfront, by decide, rfl, rfl⟩

end Codemod.Template
