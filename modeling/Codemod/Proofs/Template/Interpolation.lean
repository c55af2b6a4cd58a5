import Codemod.Proofs.Template.Grammar

/-! Expansion as one pass over the text of a template.
`interpolate` reads the text once, from left to right, and puts in the text of a group wherever it
comes to a reference. It knows no segments and refuses nothing. On the templates that a pattern
accepts it gives what expansion gives. -/

namespace Codemod.Template

/-- What a dollar sign before the text refers to, and what follows that: the text between braces, up
to the first one that closes, or else the longest run of name characters. -/
def reference? : List Char → Option (List Char × List Char)
  | '\x7b' :: rest =>
    match rest.dropWhile (· != '\x7d') with
    | [] => none
    | _ :: tail => some (rest.takeWhile (· != '\x7d'), tail)
  | text =>
    match text.takeWhile isGroupChar with
    | [] => none
    | name => some (name, text.dropWhile isGroupChar)

theorem length_reference?_le {text name tail : List Char} (h : reference? text = some (name, tail)) :
    tail.length ≤ text.length := by
  unfold reference? at h
  split at h
  · next rest =>
    split at h
    · cases h
    · next closing after hdrop =>
      cases h
      have hle := List.length_dropWhile_le (· != '\x7d') rest
      rw [hdrop] at hle
      simp only [List.length_cons] at hle ⊢
      omega
  · split at h
    · cases h
    · cases h
      exact List.length_dropWhile_le isGroupChar text

/-- The text with each reference replaced by what `look` gives for it. Two dollar signs are one, and a
dollar sign that refers to nothing stands for itself. -/
def interpolate (look : List Char → List Char) : List Char → List Char
  | [] => []
  | '$' :: '$' :: rest => '$' :: interpolate look rest
  | '$' :: rest =>
    match _ : reference? rest with
    | some (name, tail) => look name ++ interpolate look tail
    | none => '$' :: interpolate look rest
  | c :: rest => c :: interpolate look rest
termination_by text => text.length
decreasing_by
  · simp only [List.length_cons]
    omega
  · have hle := length_reference?_le ‹reference? rest = some (name, tail)›
    simp only [List.length_cons]
    omega
  · simp
  · simp

/-- The number that decimal digits denote, behind a plus sign or without one, if it fits 64 bits. -/
def machineInteger? (text : List Char) : Option Nat :=
  let digits := if text.head? = some '+' then text.tail else text
  if digits ≠ [] ∧ digits.all Char.isDigit ∧ Nat.ofDigitChars 10 digits 0 < UInt64.size then
    some (Nat.ofDigitChars 10 digits 0)
  else none

/-- The text of the group with a number or else with a name; empty if the group took no part, or if
there is none. -/
def captured (p : Pattern) (m : Pattern.Match) (name : List Char) : List Char :=
  match machineInteger? name with
  | some n => (m.group? n).getD []
  | none => ((p.groupNamed? (String.ofList name)).bind m.group?).getD []

/-- What `look` gives for the text before a colon, transformed as the text behind it says. -/
def transformed (look : List Char → List Char) (text : List Char) : List Char :=
  match Transform.ofName? (text.dropWhile (· != ':')).tail with
  | some t => t.apply (look (text.takeWhile (· != ':')))
  | none => look text

/-- No colon stands between the braces of a reference. -/
def ColonFree (source : List Char) : Prop :=
  ∀ toks body tail, Reads source toks ('$' :: '\x7b' :: (body ++ '\x7d' :: tail)) →
    '\x7d' ∉ body → ':' ∉ body

theorem colonFree_of_not_mem {source : List Char} (h : ':' ∉ source) : ColonFree source := by
  rintro toks body tail ⟨rfl, -⟩ - hcolon
  exact h (by simp [hcolon])

/-! ### One token at a time -/

section Tokens

variable {look : List Char → List Char} {name body rest : List Char}

theorem reference?_braces (hbody : '\x7d' ∉ body) :
    reference? ('\x7b' :: (body ++ '\x7d' :: rest)) = some (body, rest) := by
  have hrun := Text.all_ne hbody
  have hstop : ∀ c ∈ ('\x7d' :: rest).head?, (c != '\x7d') = false := by simp
  simp only [reference?, Text.takeWhile_run hrun hstop, Text.dropWhile_run hrun hstop]

theorem reference?_name (h : (Token.bare name).Fits rest) :
    reference? (name ++ rest) = some (name, rest) := by
  obtain ⟨c, more, rfl⟩ := List.exists_cons_of_ne_nil h.1
  have hbrace : c ≠ '\x7b' := ne_of_isGroupChar (h.2.1 c (by simp)) (by decide)
  have htake := Text.takeWhile_run h.2.1 h.2.2
  have hdrop := Text.dropWhile_run h.2.1 h.2.2
  rw [List.cons_append] at htake hdrop ⊢
  rw [reference?]
  · simp only [htake, hdrop]
  · simp [hbrace]

theorem reference?_lone (h : Token.lone.Fits rest) : reference? rest = none := by
  cases rest with
  | nil => rfl
  | cons c rest =>
    obtain ⟨-, hbrace, hname⟩ := h c rfl
    rw [reference?]
    · simp [hname]
    · simp [hbrace]

/-- What the pass puts in the place of a token. -/
def Token.text (look : List Char → List Char) : Token → List Char
  | .plain c => [c]
  | .dollars => ['$']
  | .lone => ['$']
  | .bare name => look name
  | .braced name transform => look (name ++ Transform.suffix transform)

theorem interpolate_dollar (hhead : rest.head? ≠ some '$') :
    interpolate look ('$' :: rest) =
      match reference? rest with
      | some (name, tail) => look name ++ interpolate look tail
      | none => '$' :: interpolate look rest := by
  rw [interpolate]
  · split <;> simp_all
  · rintro tail rfl
    exact hhead rfl

theorem interpolate_token {tok : Token} (h : tok.Fits rest) :
    interpolate look (tok.spelling ++ rest) = tok.text look ++ interpolate look rest := by
  cases tok with
  | plain c =>
    have hc : c ≠ '$' := h
    simp [Token.spelling, Token.text, interpolate, hc]
  | dollars => simp [Token.spelling, Token.text, interpolate]
  | lone =>
    have hhead : rest.head? ≠ some '$' := fun hdollar => (h '$' hdollar).1 rfl
    rw [Token.spelling, List.singleton_append, interpolate_dollar hhead, reference?_lone h]
    rfl
  | bare name =>
    obtain ⟨c, hc, hgroup⟩ := bare_head h
    have hhead : (name ++ rest).head? ≠ some '$' := by
      rw [hc, ne_eq, Option.some_inj]
      exact ne_of_isGroupChar hgroup (by decide)
    rw [Token.spelling, List.cons_append, interpolate_dollar hhead, reference?_name h]
    rfl
  | braced name transform =>
    have hbody := closing_not_mem_body (not_mem_of_groupChars h.2 (by decide)) transform
    rw [Token.spelling, List.cons_append, List.cons_append, List.append_assoc,
      List.singleton_append, interpolate_dollar (by simp), reference?_braces hbody]
    rfl

variable (look) in
theorem interpolate_tokens {toks : List Token} {tail : List Char} (h : Fits toks tail) :
    interpolate look (spell toks ++ tail) =
      toks.flatMap (Token.text look) ++ interpolate look tail := by
  induction toks with
  | nil => rfl
  | cons tok toks ih =>
    rw [spell_cons, List.append_assoc, interpolate_token h.1, ih h.2, List.flatMap_cons,
      List.append_assoc]

end Tokens

/-! ### What references stand for -/

theorem value_eq_ofDigitChars (digits : List Char) :
    GroupRef.value digits = Nat.ofDigitChars 10 digits 0 := by
  simp only [GroupRef.value, Nat.ofDigitChars, Nat.mul_comm]
  rfl

/-- The characters and references of a template, each expanded for itself. -/
def Atom.text (p : Pattern) (m : Pattern.Match) : Atom → List Char
  | .char c => [c]
  | .group ref transform => expandSegment p m (.group ref transform)

theorem expandSegment_eq (p : Pattern) (m : Pattern.Match) (s : Segment) :
    expandSegment p m s = (segmentAtoms s).flatMap (Atom.text p m) := by
  cases s with
  | literal text => simp [expandSegment, segmentAtoms, List.flatMap_map, Atom.text]
  | group ref transform => simp [segmentAtoms, Atom.text]

theorem expand_eq_atoms (t : Template) (p : Pattern) (m : Pattern.Match) :
    t.expand p m = (t.segments.flatMap segmentAtoms).flatMap (Atom.text p m) := by
  rw [expand, List.flatMap_assoc]
  exact congrArg t.segments.flatMap (funext (expandSegment_eq p m))

section References

variable {p : Pattern} {name : List Char} (m : Pattern.Match) (hne : name ≠ [])
  (hname : ∀ c ∈ name, isGroupChar c)
include hne hname

theorem machineInteger?_name :
    machineInteger? name = match GroupRef.ofName name with
      | .index n => some n
      | .name _ => none := by
  have hplus : name.head? ≠ some '+' := fun hhead =>
    ne_of_isGroupChar (hname '+' (List.mem_of_head? hhead)) (by decide) rfl
  have hempty : name.isEmpty = false := by simpa using hne
  simp only [machineInteger?, GroupRef.ofName, hplus, if_false, hne, ne_eq, not_false_eq_true,
    true_and, hempty, Bool.not_false, Bool.and_true, Bool.and_eq_true, decide_eq_true_eq,
    value_eq_ofDigitChars]
  split_ifs <;> rfl

/-- A known reference and its name denote the same text. -/
theorem captured_name (hknown : ((GroupRef.ofName name).resolve? p).isSome) :
    captured p m name = (((GroupRef.ofName name).resolve? p).bind m.group?).getD [] := by
  have hofName : (∃ n, GroupRef.ofName name = .index n) ∨
      GroupRef.ofName name = .name (String.ofList name) := by
    rw [GroupRef.ofName]
    split_ifs
    · exact .inl ⟨_, rfl⟩
    · exact .inr rfl
  rw [captured, machineInteger?_name hne hname]
  obtain ⟨n, hindex⟩ | hindex := hofName
  · rw [hindex, GroupRef.resolve?] at hknown
    have hbelow : n < p.groupCount := by
      by_contra hge
      simp [hge] at hknown
    simp [hindex, GroupRef.resolve?, hbelow]
  · simp [hindex, GroupRef.resolve?]

omit hne in
theorem transformed_name (transform : Option Transform) (look : List Char → List Char) :
    transformed look (name ++ Transform.suffix transform) =
      transform.elim (look name) fun t => t.apply (look name) := by
  have hrun := Text.all_ne (not_mem_of_groupChars hname (d := ':') (by decide))
  have hstop : ∀ c ∈ (Transform.suffix transform).head?, (c != ':') = false := by
    intro c hc
    simp [Transform.head_suffix transform c hc]
  rw [transformed, Text.takeWhile_run hrun hstop, Text.dropWhile_run hrun hstop]
  cases transform with
  | none => simp [Transform.suffix, Transform.ofName?]
  | some t => simp [Transform.suffix, Transform.ofName?_name]

end References

/-- What the pass puts in for a token is what its atom expands to. -/
theorem text_atom {p : Pattern} {tok : Token} {rest : List Char} (m : Pattern.Match)
    (hfits : tok.Fits rest) (hknown : tok.atom.Known p) :
    tok.atom.text p m = tok.text (transformed (captured p m)) := by
  cases tok with
  | plain c => rfl
  | dollars => rfl
  | lone => rfl
  | bare name =>
    have hplain := transformed_name hfits.2.1 none (captured p m)
    rw [Transform.suffix, List.append_nil] at hplain
    rw [Token.text, hplain]
    exact (captured_name m hfits.1 hfits.2.1 hknown).symm
  | braced name transform =>
    rw [Token.text, transformed_name hfits.2, captured_name m hfits.1 hfits.2 hknown]
    cases transform <;> rfl

theorem fits_of_mem {toks : List Token} {tail : List Char} (h : Fits toks tail) {tok : Token}
    (htok : tok ∈ toks) : ∃ rest, tok.Fits rest := by
  induction toks with
  | nil => cases htok
  | cons first toks ih =>
    rcases List.mem_cons.mp htok with rfl | htok
    · exact ⟨_, h.1⟩
    · exact ih h.2 htok

theorem expand_tokens {p : Pattern} {t : Template} {source : List Char} {toks : List Token}
    (hreads : Reads source toks []) (h : compile p source = .ok t) (m : Pattern.Match) :
    t.expand p m = toks.flatMap (Token.text (transformed (captured p m))) := by
  obtain ⟨hparse, hknown⟩ := (compile_eq_ok_iff hreads t).mp h
  rw [expand_eq_atoms, ((parse_eq_ok_iff hreads t).mp hparse).2, List.flatMap_map]
  refine List.flatMap_congr fun tok htok => ?_
  obtain ⟨rest, hfits⟩ := fits_of_mem hreads.2 htok
  exact text_atom m hfits (hknown tok htok)

theorem interpolate_of_reads {source : List Char} {toks : List Token} (h : Reads source toks [])
    (look : List Char → List Char) : interpolate look source = toks.flatMap (Token.text look) := by
  have hpass := interpolate_tokens look h.2
  rwa [← h.1, interpolate, List.append_nil] at hpass

theorem fits_append {before after : List Token} {tail : List Char}
    (h : Fits (before ++ after) tail) : Fits before (spell after ++ tail) := by
  induction before with
  | nil => trivial
  | cons tok before ih =>
    have hspell : spell (before ++ after) = spell before ++ spell after := List.flatMap_append
    rw [List.cons_append, Fits, hspell, List.append_assoc] at h
    exact ⟨h.1, ih h.2⟩

/-- Without colons no reference asks for a transform. -/
theorem ColonFree.text_eq {source : List Char} (hfree : ColonFree source) {toks : List Token}
    (hreads : Reads source toks []) {tok : Token} (htok : tok ∈ toks)
    (look : List Char → List Char) : tok.text (transformed look) = tok.text look := by
  obtain ⟨rest, hfits⟩ := fits_of_mem hreads.2 htok
  cases tok with
  | plain c => rfl
  | dollars => rfl
  | lone => rfl
  | bare name =>
    have hplain := transformed_name hfits.2.1 none look
    rwa [Transform.suffix, List.append_nil] at hplain
  | braced name transform =>
    cases transform with
    | none =>
      rw [Token.text, transformed_name hfits.2, Token.text, Transform.suffix, List.append_nil]
      rfl
    | some t =>
      obtain ⟨before, after, rfl⟩ := List.append_of_mem htok
      have hbody := closing_not_mem_body (not_mem_of_groupChars hfits.2 (by decide)) (some t)
      refine absurd ?_ (hfree before _ (spell after) ⟨?_, ?_⟩ hbody)
      · simp [Transform.suffix]
      · rw [hreads.1]
        simp [spell, Token.spelling]
      · have hbefore := fits_append hreads.2
        rw [spell_cons, Token.spelling] at hbefore
        simpa using hbefore

/-- Expanding an accepted template gives what one pass over its text gives, with the named transforms
applied to the texts of their groups, and so without any transform if no colon stands in a
reference. -/
theorem expand_eq_interpolate {p : Pattern} {source : List Char} {t : Template}
    (h : compile p source = .ok t) (m : Pattern.Match) :
    t.expand p m = interpolate (transformed (captured p m)) source ∧
      (ColonFree source → t.expand p m = interpolate (captured p m) source) := by
  obtain ⟨toks, hreads⟩ : ∃ toks, Reads source toks [] := by
    cases hparse : parse source with
    | error e =>
      rw [compile_of_parse_error hparse] at h
      cases h
    | ok t' => exact exists_reads_of_parse hparse
  rw [interpolate_of_reads hreads, interpolate_of_reads hreads, expand_tokens hreads h]
  refine ⟨rfl, fun hfree => ?_⟩
  exact List.flatMap_congr fun tok htok => hfree.text_eq hreads htok _

/-- An optional group that took no part, a number with a leading zero and a dollar sign at the end; and
a template in which one of two references to a group is transformed. -/
theorem expand_eq_interpolate_optional :
    let p : Pattern := ⟨"(?<a>x)(y)?".toList, .cat (.group 1 (some "a") (.literal ['x']))
      (.repeated 0 (some 1) true (.group 2 none (.literal ['y'])))⟩
    let m : Pattern.Match := ⟨0, 1, ['x'], [.opened 0 0, .opened 1 0, .closed 1 1, .closed 0 1]⟩
    let plain := "$$${a}${02}-$0$".toList
    let cased := "${a:upper}$1".toList
    p.findAll "x".toList = [m] ∧ ColonFree plain ∧
      interpolate (captured p m) plain = "$x-x$".toList ∧
      interpolate (transformed (captured p m)) cased = "Xx".toList := by
  intro p m plain cased
  have hplain : compile p plain = .ok ⟨[.literal ['$'], .group (.name "a") none,
      .group (.index 2) none, .literal ['-'], .group (.index 0) none, .literal ['$']]⟩ := by
    decide
  have hcased : compile p cased = .ok ⟨[.group (.name "a") (some .upper),
      .group (.index 1) none]⟩ := by
    decide
  have hfree : ColonFree plain := colonFree_of_not_mem (by decide)
  refine ⟨by decide, hfree, ?_, ?_⟩
  · rw [← (expand_eq_interpolate hplain m).2 hfree]
    decide
  · rw [← (expand_eq_interpolate hcased m).1]
    decide

end Codemod.Template
