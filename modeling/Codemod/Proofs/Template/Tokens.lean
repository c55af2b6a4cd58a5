import Codemod.Template
import Mathlib.Data.List.TakeWhile
import Mathlib.Tactic.Common

/-! The tokens of replacement templates.
A token is a character, a doubled dollar sign, a dollar sign on its own, a name behind a dollar
sign, or a name between braces. Every text is a sequence of tokens up to its end or up to a brace
that opens no reference, and it is one in just one way. -/

namespace Codemod

namespace Text

variable {p : Char → Bool} {run rest : List Char}

theorem takeWhile_run (hrun : ∀ c ∈ run, p c) (hstop : ∀ c ∈ rest.head?, p c = false) :
    (run ++ rest).takeWhile p = run := by
  rw [List.takeWhile_append_of_pos hrun]
  cases rest with
  | nil => simp
  | cons c rest => simp [hstop c rfl]

theorem dropWhile_run (hrun : ∀ c ∈ run, p c) (hstop : ∀ c ∈ rest.head?, p c = false) :
    (run ++ rest).dropWhile p = rest := by
  have hsplit : (run ++ rest).takeWhile p ++ (run ++ rest).dropWhile p = run ++ rest :=
    List.takeWhile_append_dropWhile
  rw [takeWhile_run hrun hstop] at hsplit
  exact List.append_cancel_left hsplit

theorem all_ne {c : Char} (h : c ∉ run) : ∀ d ∈ run, (d != c) = true := by
  intro d hd
  simpa using fun heq : d = c => h (heq ▸ hd)

end Text

namespace Transform

/-- The name by which a template asks for a transform. -/
def name : Transform → List Char
  | .lower => "lower".toList
  | .upper => "upper".toList
  | .htmlQuotes => "html_quotes".toList

theorem ofName?_eq_some_iff {text : List Char} {t : Transform} :
    ofName? text = some t ↔ text = t.name := by
  constructor
  · intro h
    rw [ofName?] at h
    split_ifs at h with hlower hupper hquotes
    · cases h; exact hlower
    · cases h; exact hupper
    · cases h; exact hquotes
  · rintro rfl
    cases t <;> decide

theorem ofName?_name (t : Transform) : ofName? t.name = some t :=
  ofName?_eq_some_iff.mpr rfl

theorem ofName?_eq_none {text : List Char} (h : ∀ t : Transform, text ≠ t.name) :
    ofName? text = none := by
  cases hname : ofName? text with
  | none => rfl
  | some t => exact absurd (ofName?_eq_some_iff.mp hname) (h t)

/-- What stands between a group's name and the closing brace. -/
def suffix : Option Transform → List Char
  | none => []
  | some t => ':' :: t.name

theorem suffix_injective {t t' : Option Transform} (h : suffix t = suffix t') : t = t' := by
  revert h
  rcases t with _ | _ | _ | _ <;> rcases t' with _ | _ | _ | _ <;> decide

theorem head_suffix (t : Option Transform) : ∀ c ∈ (suffix t).head?, c = ':' := by
  cases t <;> simp [suffix]

theorem closing_not_mem_suffix (t : Option Transform) : '\x7d' ∉ suffix t := by
  rcases t with _ | _ | _ | _ <;> decide

end Transform

namespace Template

inductive Token where
  | plain (c : Char)
  | dollars
  | lone
  | bare (name : List Char)
  | braced (name : List Char) (transform : Option Transform)
deriving DecidableEq

/-- What a token stands for. -/
inductive Atom where
  | char (c : Char)
  | group (ref : GroupRef) (transform : Option Transform)
deriving DecidableEq

namespace Token

def spelling : Token → List Char
  | .plain c => [c]
  | .dollars => ['$', '$']
  | .lone => ['$']
  | .bare name => '$' :: name
  | .braced name transform => '$' :: '\x7b' :: (name ++ Transform.suffix transform ++ ['\x7d'])

def atom : Token → Atom
  | .plain c => .char c
  | .dollars => .char '$'
  | .lone => .char '$'
  | .bare name => .group (.ofName name) none
  | .braced name transform => .group (.ofName name) transform

/-- The token is well formed and the text behind it does not change how it is read. -/
def Fits (rest : List Char) : Token → Prop
  | .plain c => c ≠ '$'
  | .dollars => True
  | .lone => ∀ c ∈ rest.head?, c ≠ '$' ∧ c ≠ '\x7b' ∧ isGroupChar c = false
  | .bare name =>
    name ≠ [] ∧ (∀ c ∈ name, isGroupChar c) ∧ ∀ c ∈ rest.head?, isGroupChar c = false
  | .braced name _ => name ≠ [] ∧ ∀ c ∈ name, isGroupChar c

instance (rest : List Char) (tok : Token) : Decidable (tok.Fits rest) :=
  match tok with
  | .plain c => inferInstanceAs (Decidable (c ≠ '$'))
  | .dollars => .isTrue trivial
  | .lone => decidable_of_iff
      (rest.head?.all fun c => c != '$' && c != '\x7b' && !isGroupChar c)
      (by simp [Fits, Option.all_eq_true, and_assoc])
  | .bare name => decidable_of_iff
      (name ≠ [] ∧ name.all isGroupChar ∧ rest.head?.all (!isGroupChar ·))
      (by simp [Fits, Option.all_eq_true])
  | .braced name _ => decidable_of_iff (name ≠ [] ∧ name.all isGroupChar) (by simp [Fits])

end Token

def spell (toks : List Token) : List Char :=
  toks.flatMap Token.spelling

theorem Token.length_spelling_pos (tok : Token) : 0 < tok.spelling.length := by
  cases tok <;> exact Nat.succ_pos _

theorem spell_cons (tok : Token) (toks : List Token) :
    spell (tok :: toks) = tok.spelling ++ spell toks :=
  List.flatMap_cons

/-- Each token of a sequence fits what comes behind it, and the last one the text `tail`. -/
def Fits : List Token → List Char → Prop
  | [], _ => True
  | tok :: toks, tail => tok.Fits (spell toks ++ tail) ∧ Fits toks tail

instance decidableFits : (toks : List Token) → (tail : List Char) → Decidable (Fits toks tail)
  | [], _ => .isTrue trivial
  | tok :: toks, tail =>
    have := decidableFits toks tail
    inferInstanceAs (Decidable (tok.Fits (spell toks ++ tail) ∧ Fits toks tail))

/-- The text is a sequence of tokens and then `tail`. -/
def Reads (source : List Char) (toks : List Token) (tail : List Char) : Prop :=
  source = spell toks ++ tail ∧ Fits toks tail

instance (source : List Char) (toks : List Token) (tail : List Char) :
    Decidable (Reads source toks tail) :=
  inferInstanceAs (Decidable (source = spell toks ++ tail ∧ Fits toks tail))

theorem Reads.cons {tok : Token} {rest tail : List Char} {toks : List Token}
    (h : Reads rest toks tail) (hfits : tok.Fits rest) :
    Reads (tok.spelling ++ rest) (tok :: toks) tail := by
  obtain ⟨rfl, htoks⟩ := h
  exact ⟨by rw [spell_cons, List.append_assoc], hfits, htoks⟩

/-- The fault of a brace before the text `rest`, as an error that may name the offset of the dollar
sign. The closing brace is missed first, then the transform is at fault, then the name. -/
inductive Offence (rest : List Char) : (Nat → TemplateError) → Prop
  | unterminated (hopen : '\x7d' ∉ rest) : Offence rest .unterminated
  | unknownTransform (name text tail : List Char)
      (hrest : rest = name ++ ':' :: text ++ '\x7d' :: tail)
      (hbody : '\x7d' ∉ name ++ ':' :: text) (hname : ':' ∉ name)
      (htext : ∀ t : Transform, text ≠ t.name) :
      Offence rest fun _ => .unknownTransform (String.ofList text)
  | emptyGroup (transform : Option Transform) (tail : List Char)
      (hrest : rest = Transform.suffix transform ++ '\x7d' :: tail) : Offence rest .emptyGroup
  | invalidGroupName (name : List Char) (transform : Option Transform) (tail : List Char)
      (hrest : rest = name ++ Transform.suffix transform ++ '\x7d' :: tail)
      (hbody : '\x7d' ∉ name) (hname : ':' ∉ name) (hne : name ≠ [])
      (hinvalid : ∃ c ∈ name, isGroupChar c = false) :
      Offence rest fun _ => .invalidGroupName (String.ofList name)

theorem ne_of_isGroupChar {c d : Char} (hc : isGroupChar c) (hd : isGroupChar d = false) :
    c ≠ d := by
  rintro rfl
  rw [hc] at hd
  cases hd

theorem not_mem_of_groupChars {name : List Char} (h : ∀ c ∈ name, isGroupChar c)
    {d : Char} (hd : isGroupChar d = false) : d ∉ name := by
  intro hmem
  exact ne_of_isGroupChar (h d hmem) hd rfl

theorem closing_not_mem_body {name : List Char} (h : '\x7d' ∉ name) (t : Option Transform) :
    '\x7d' ∉ name ++ Transform.suffix t := by
  rw [List.mem_append, not_or]
  exact ⟨h, Transform.closing_not_mem_suffix t⟩

/-! ### Every text has one decomposition -/

/-- No token can be read at the front of the text. -/
def Stuck (text : List Char) : Prop :=
  ∀ (tok : Token) (rest : List Char), text = tok.spelling ++ rest → ¬ tok.Fits rest

theorem stuck_nil : Stuck [] := by
  intro tok rest htext
  cases tok <;> simp [Token.spelling] at htext

theorem bare_head {name rest : List Char} (h : (Token.bare name).Fits rest) :
    ∃ c, (name ++ rest).head? = some c ∧ isGroupChar c := by
  obtain ⟨c, name, rfl⟩ := List.exists_cons_of_ne_nil h.1
  exact ⟨c, rfl, h.2.1 c (by simp)⟩

/-- The name behind a dollar sign goes on as long as it can. -/
theorem bare_fits {d : Char} (hd : isGroupChar d) (rest : List Char) :
    (Token.bare ((d :: rest).takeWhile isGroupChar)).Fits
      ((d :: rest).dropWhile isGroupChar) := by
  refine ⟨by simp [hd], fun c => List.mem_takeWhile_imp, ?_⟩
  intro c hc
  simpa [Option.mem_def.mp hc] using List.head?_dropWhile_not isGroupChar (d :: rest)

theorem bare_unique {name name' rest rest' : List Char} (htext : name ++ rest = name' ++ rest')
    (h : (Token.bare name).Fits rest) (h' : (Token.bare name').Fits rest') :
    name = name' ∧ rest = rest' := by
  have hname : name = name' := by
    rw [← Text.takeWhile_run h.2.1 h.2.2, htext, Text.takeWhile_run h'.2.1 h'.2.2]
  subst hname
  exact ⟨rfl, List.append_cancel_left htext⟩

theorem braced_unique {name name' rest rest' : List Char} {transform transform' : Option Transform}
    (htext : name ++ Transform.suffix transform ++ '\x7d' :: rest =
      name' ++ Transform.suffix transform' ++ '\x7d' :: rest')
    (hname : ∀ c ∈ name, isGroupChar c) (hname' : ∀ c ∈ name', isGroupChar c) :
    name = name' ∧ transform = transform' ∧ rest = rest' := by
  have hclosing := closing_not_mem_body (not_mem_of_groupChars hname (by decide)) transform
  have hclosing' := closing_not_mem_body (not_mem_of_groupChars hname' (by decide)) transform'
  have hbrace : ∀ rest : List Char, ∀ c ∈ ('\x7d' :: rest).head?, (c != '\x7d') = false := by simp
  have hbody : name ++ Transform.suffix transform = name' ++ Transform.suffix transform' := by
    rw [← Text.takeWhile_run (Text.all_ne hclosing) (hbrace rest), htext,
      Text.takeWhile_run (Text.all_ne hclosing') (hbrace rest')]
  -- The name ends at the colon or with the text between the braces.
  have hstop : ∀ t : Option Transform, ∀ c ∈ (Transform.suffix t).head?, isGroupChar c = false := by
    intro t c hc
    rw [Transform.head_suffix t c hc]
    decide
  have hnames : name = name' := by
    rw [← Text.takeWhile_run hname (hstop transform), hbody,
      Text.takeWhile_run hname' (hstop transform')]
  subst hnames
  rw [hbody] at htext
  exact ⟨rfl, Transform.suffix_injective (List.append_cancel_left hbody),
    (List.cons.inj (List.append_cancel_left htext)).2⟩

/-- Behind a dollar sign the next character tells the tokens apart. -/
theorem token_unique {tok tok' : Token} {rest rest' : List Char}
    (htext : tok.spelling ++ rest = tok'.spelling ++ rest') (h : tok.Fits rest)
    (h' : tok'.Fits rest') : tok = tok' ∧ rest = rest' := by
  have hdollar : isGroupChar '$' = false := by decide
  have hbrace : isGroupChar '\x7b' = false := by decide
  cases tok with
  | plain c => cases tok' <;> simp_all [Token.spelling, Token.Fits]
  | dollars => cases tok' <;> grind [Token.spelling, Token.Fits, bare_head]
  | lone => cases tok' <;> grind [Token.spelling, Token.Fits, bare_head]
  | bare name =>
    cases tok' with
    | bare name' =>
      obtain ⟨rfl, rfl⟩ := bare_unique (List.cons.inj htext).2 h h'
      exact ⟨rfl, rfl⟩
    | _ => grind [Token.spelling, Token.Fits, bare_head]
  | braced name transform =>
    cases tok' with
    | braced name' transform' =>
      simp only [Token.spelling, List.cons_append, List.append_assoc, List.nil_append,
        List.cons.injEq, true_and] at htext
      rw [← List.append_assoc, ← List.append_assoc name'] at htext
      obtain ⟨rfl, rfl, rfl⟩ := braced_unique htext h.2 h'.2
      exact ⟨rfl, rfl⟩
    | _ => grind [Token.spelling, Token.Fits, bare_head]

/-- Tokens are read one by one, so no reading goes beyond one that is stuck, or another way. -/
theorem isPrefix_of_stuck {source tail tail' : List Char} {toks toks' : List Token}
    (hstuck : Stuck tail) (h : Reads source toks tail) (h' : Reads source toks' tail') :
    toks' <+: toks := by
  induction toks' generalizing source toks with
  | nil => exact List.nil_prefix
  | cons tok' toks' ih =>
    obtain ⟨hsource, hfits⟩ := h
    obtain ⟨hsource', hfit', hfits'⟩ := h'
    rw [spell_cons, List.append_assoc] at hsource'
    cases toks with
    | nil =>
      rw [spell, List.flatMap_nil, List.nil_append] at hsource
      exact absurd hfit' (hstuck tok' _ (hsource.symm.trans hsource'))
    | cons tok toks =>
      rw [spell_cons, List.append_assoc] at hsource
      obtain ⟨rfl, hrest⟩ := token_unique (hsource.symm.trans hsource') hfits.1 hfit'
      exact List.cons_prefix_cons.mpr ⟨rfl, ih ⟨rfl, hfits.2⟩ ⟨hrest, hfits'⟩⟩

/-- Between braces stands a name with a transform that is known or not. -/
theorem body_cases (body : List Char) :
    (∃ name text, body = name ++ ':' :: text ∧ ':' ∉ name ∧ ∀ t : Transform, text ≠ t.name) ∨
      ∃ name transform, body = name ++ Transform.suffix transform ∧ ':' ∉ name := by
  by_cases hcolon : ':' ∈ body
  · obtain ⟨name, text, rfl, hname⟩ := List.eq_append_cons_of_mem hcolon
    cases htext : Transform.ofName? text with
    | none =>
      refine .inl ⟨name, text, rfl, hname, ?_⟩
      rintro t rfl
      rw [Transform.ofName?_name] at htext
      cases htext
    | some t =>
      exact .inr ⟨name, some t, by rw [Transform.ofName?_eq_some_iff.mp htext]; rfl, hname⟩
  · exact .inr ⟨body, none, (List.append_nil body).symm, hcolon⟩

/-- At a brace stands a reference, or the brace is at fault. -/
theorem brace_cases (rest : List Char) :
    (∃ name transform tail, rest = name ++ Transform.suffix transform ++ '\x7d' :: tail ∧
      (Token.braced name transform).Fits tail) ∨ ∃ report, Offence rest report := by
  by_cases hclosing : '\x7d' ∈ rest
  · obtain ⟨body, tail, rfl, hbody⟩ := List.eq_append_cons_of_mem hclosing
    obtain ⟨name, text, rfl, hname, htext⟩ | ⟨name, transform, rfl, hname⟩ := body_cases body
    · exact .inr ⟨_, .unknownTransform name text tail rfl hbody hname htext⟩
    · by_cases hne : name = []
      · exact .inr ⟨_, .emptyGroup transform tail (by rw [hne, List.nil_append])⟩
      · by_cases hvalid : ∀ c ∈ name, isGroupChar c
        · exact .inl ⟨name, transform, tail, rfl, hne, hvalid⟩
        · have hinvalid : ∃ c ∈ name, isGroupChar c = false := by simpa using hvalid
          have hclosed : '\x7d' ∉ name := fun hmem => hbody (List.mem_append_left _ hmem)
          exact .inr ⟨_, .invalidGroupName name transform tail rfl hclosed hname hne hinvalid⟩
  · exact .inr ⟨_, .unterminated hclosing⟩

theorem dollar_cases (rest : List Char) :
    (∃ tok tail, '$' :: rest = Token.spelling tok ++ tail ∧ tok.Fits tail) ∨
      ∃ tail report, rest = '\x7b' :: tail ∧ Offence tail report := by
  cases rest with
  | nil => exact .inl ⟨.lone, [], rfl, by simp [Token.Fits]⟩
  | cons d rest =>
    by_cases hdollar : d = '$'
    · subst hdollar
      exact .inl ⟨.dollars, rest, rfl, trivial⟩
    by_cases hbrace : d = '\x7b'
    · subst hbrace
      obtain ⟨name, transform, tail, rfl, hfits⟩ | ⟨report, hreport⟩ := brace_cases rest
      · exact .inl ⟨.braced name transform, tail, by simp [Token.spelling], hfits⟩
      · exact .inr ⟨rest, report, rfl, hreport⟩
    cases hd : isGroupChar d with
    | true =>
      refine .inl ⟨.bare ((d :: rest).takeWhile isGroupChar), (d :: rest).dropWhile isGroupChar, ?_,
        bare_fits hd rest⟩
      rw [Token.spelling, List.cons_append, List.takeWhile_append_dropWhile]
    | false => exact .inl ⟨.lone, d :: rest, rfl, by simp [Token.Fits, hdollar, hbrace, hd]⟩

theorem token_cases (c : Char) (text : List Char) :
    (∃ tok rest, c :: text = Token.spelling tok ++ rest ∧ tok.Fits rest) ∨
      ∃ rest report, c :: text = '$' :: '\x7b' :: rest ∧ Offence rest report := by
  by_cases hc : c = '$'
  · subst hc
    obtain htoken | ⟨rest, report, rfl, hreport⟩ := dollar_cases text
    · exact .inl htoken
    · exact .inr ⟨rest, report, rfl, hreport⟩
  · exact .inl ⟨.plain c, text, rfl, hc⟩

/-- Every text is a sequence of tokens up to its end or up to a brace at fault. -/
theorem exists_reads (source : List Char) :
    (∃ toks, Reads source toks []) ∨
      ∃ toks rest report, Reads source toks ('$' :: '\x7b' :: rest) ∧ Offence rest report := by
  match source with
  | [] => exact .inl ⟨[], rfl, trivial⟩
  | c :: cs =>
    obtain ⟨tok, rest, htext, hfits⟩ | ⟨rest, report, htext, hreport⟩ := token_cases c cs
    · have hshorter : rest.length < (c :: cs).length := by
        have hpos := tok.length_spelling_pos
        rw [htext, List.length_append]
        omega
      obtain ⟨toks, hreads⟩ | ⟨toks, brace, report, hreads, hreport⟩ := exists_reads rest
      · exact .inl ⟨tok :: toks, htext ▸ hreads.cons hfits⟩
      · exact .inr ⟨tok :: toks, brace, report, htext ▸ hreads.cons hfits, hreport⟩
    · exact .inr ⟨[], rest, report, ⟨htext, trivial⟩, hreport⟩
termination_by source.length
decreasing_by exact hshorter

theorem reads_unique {source : List Char} {toks toks' : List Token} (h : Reads source toks [])
    (h' : Reads source toks' []) : toks' = toks :=
  (isPrefix_of_stuck stuck_nil h h').eq_of_length_le (isPrefix_of_stuck stuck_nil h' h).length_le

end Template

end Codemod
