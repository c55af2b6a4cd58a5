import Codemod.Proofs.Pattern.Groups
import Codemod.Proofs.Template.Interpolation

/-! References to the groups of a pattern.
A reference in digits is to the group with that number, however many digits it takes, and any other
one to the group with that name. A template is accepted if there is such a group for each of its
references, and then every reference is resolved to it in every match. -/

namespace Codemod.Template

/-- The name by which a token refers to a group. -/
def Token.name? : Token → Option (List Char)
  | .bare name => some name
  | .braced name _ => some name
  | _ => none

/-- The group of the pattern that a reference is to. -/
def Denotes (p : Pattern) (name : List Char) (n : Nat) : Prop :=
  if name.all Char.isDigit then n = Nat.ofDigitChars 10 name 0 ∧ n < p.groupCount
  else (n, some (String.ofList name)) ∈ p.expr.groups

theorem Denotes.lt_groupCount {p : Pattern} {name : List Char} {n : Nat} (h : Denotes p name n) :
    n < p.groupCount := by
  unfold Denotes at h
  split_ifs at h
  · exact h.2
  · exact Pattern.lt_groupCount h

theorem Token.name_ne_nil {tok : Token} {rest name : List Char} (h : tok.Fits rest)
    (hname : tok.name? = some name) : name ≠ [] := by
  cases tok with
  | bare text =>
    cases hname
    exact h.1
  | braced text transform =>
    cases hname
    exact h.1
  | _ => cases hname

section Resolving

variable {pattern : List Char} {p : Pattern} (hp : Pattern.compile pattern = .ok p)
  {name : List Char} (hne : name ≠ [])
include hp hne

/-- A number that takes more than 64 bits is read as a name, but no group has it as its name, and
there are not so many groups either. -/
theorem resolve?_ofName :
    (GroupRef.ofName name).resolve? p =
      if name.all Char.isDigit then
        if Nat.ofDigitChars 10 name 0 < p.groupCount then some (Nat.ofDigitChars 10 name 0) else none
      else p.groupNamed? (String.ofList name) := by
  have hempty : name.isEmpty = false := by simpa using hne
  have hcount := Pattern.groupCount_le_of_compile hp
  rw [GroupRef.ofName, value_eq_ofDigitChars]
  by_cases hdigits : name.all Char.isDigit
  · by_cases hfits : Nat.ofDigitChars 10 name 0 < 0x10000000000000000
    · simp [hdigits, hempty, hfits, GroupRef.resolve?]
    · have hbeyond : ¬ Nat.ofDigitChars 10 name 0 < p.groupCount := by
        rw [Pattern.groupLimit] at hcount
        omega
      obtain ⟨c, more, rfl⟩ := List.exists_cons_of_ne_nil hne
      have hc : c.isDigit := List.all_eq_true.mp hdigits c List.mem_cons_self
      rw [if_neg (by simp [hfits]), if_pos hdigits, if_neg hbeyond]
      exact Pattern.groupNamed?_of_digit hp hc more
  · simp [hdigits, GroupRef.resolve?]

theorem denotes_of_resolve? {n : Nat} (h : (GroupRef.ofName name).resolve? p = some n) :
    Denotes p name n := by
  rw [resolve?_ofName hp hne] at h
  unfold Denotes
  split_ifs at h ⊢ with hdigits hbelow
  · cases h
    exact ⟨rfl, hbelow⟩
  · exact Pattern.mem_groups_of_groupNamed h

theorem isSome_resolve?_iff :
    ((GroupRef.ofName name).resolve? p).isSome ↔ ∃ n, Denotes p name n := by
  rw [resolve?_ofName hp hne]
  unfold Denotes
  split_ifs with hdigits hbelow
  · simp [hbelow]
  · simp [hbelow]
  · exact Pattern.isSome_groupNamed_iff

end Resolving

theorem known_iff {pattern : List Char} {p : Pattern} (hp : Pattern.compile pattern = .ok p)
    {tok : Token} {rest : List Char} (hfits : tok.Fits rest) :
    tok.atom.Known p ↔ ∀ name ∈ tok.name?, ∃ n, Denotes p name n := by
  cases tok with
  | bare name => simp [Token.name?, Token.atom, Atom.Known, isSome_resolve?_iff hp hfits.1]
  | braced name transform =>
    simp [Token.name?, Token.atom, Atom.Known, isSome_resolve?_iff hp hfits.1]
  | _ => simp [Token.name?, Token.atom, Atom.Known]

/-- A template comes to nothing at a reference only where its group does. -/
theorem expandSegment_eq_nil {p : Pattern} {ref : GroupRef} {n : Nat} (h : ref.resolve? p = some n)
    {transform : Option Transform} {m : Pattern.Match}
    (hnil : expandSegment p m (.group ref transform) = []) :
    m.group? n = none ∨ m.group? n = some [] ∨
      ∃ t ∈ transform, ∃ text, m.group? n = some text ∧ t.apply text = [] := by
  cases hgroup : m.group? n with
  | none => exact .inl rfl
  | some text =>
    refine .inr ?_
    cases transform with
    | none => exact .inl (by simpa [expandSegment, h, hgroup] using hnil)
    | some t => exact .inr ⟨t, rfl, text, rfl, by simpa [expandSegment, h, hgroup] using hnil⟩

/-- A segment with a reference comes from a token that names the group. -/
theorem exists_token_of_group {t : Template} {toks : List Token} {ref : GroupRef}
    {transform : Option Transform} (h : t.segments.flatMap segmentAtoms = toks.map Token.atom)
    (hmem : .group ref transform ∈ t.segments) :
    ∃ tok ∈ toks, tok.atom = .group ref transform ∧
      ∃ name, tok.name? = some name ∧ ref = .ofName name := by
  have hatom : Atom.group ref transform ∈ toks.map Token.atom := by
    rw [← h]
    exact List.mem_flatMap.mpr ⟨_, hmem, by simp [segmentAtoms]⟩
  obtain ⟨tok, htok, hatom⟩ := List.mem_map.mp hatom
  refine ⟨tok, htok, hatom, ?_⟩
  cases tok with
  | bare name =>
    cases hatom
    exact ⟨name, rfl, rfl⟩
  | braced name transform =>
    cases hatom
    exact ⟨name, rfl, rfl⟩
  | _ => cases hatom

/-- A template of the grammar is accepted exactly if each of its references is to a group of the
pattern: one in digits to the group with this number, any other to one with this name. Then every
reference is resolved to such a group, and in no match does it come to nothing unless the group took
no part, captured nothing, or is transformed to nothing. -/
theorem compile_resolves {pattern source : List Char} {p : Pattern} {toks : List Token}
    (hp : Pattern.compile pattern = .ok p) (hreads : Reads source toks []) :
    ((∃ t, compile p source = .ok t) ↔
      ∀ tok ∈ toks, ∀ name ∈ tok.name?, ∃ n, Denotes p name n) ∧
    ∀ t, compile p source = .ok t → ∀ ref transform, .group ref transform ∈ t.segments →
      ∃ n, ref.resolve? p = some n ∧ n < p.groupCount ∧
        (∃ tok ∈ toks, ∃ name ∈ tok.name?, ref = .ofName name ∧ Denotes p name n) ∧
        ∀ m, expandSegment p m (.group ref transform) = [] →
          m.group? n = none ∨ m.group? n = some [] ∨
            ∃ tr ∈ transform, ∃ text, m.group? n = some text ∧ tr.apply text = [] := by
  have hknown : (∀ tok ∈ toks, tok.atom.Known p) ↔
      ∀ tok ∈ toks, ∀ name ∈ tok.name?, ∃ n, Denotes p name n := by
    refine forall₂_congr fun tok htok => ?_
    obtain ⟨rest, hfits⟩ := fits_of_mem hreads.2 htok
    exact known_iff hp hfits
  refine ⟨?_, ?_⟩
  · rw [← hknown]
    constructor
    · rintro ⟨t, ht⟩
      exact ((compile_eq_ok_iff hreads t).mp ht).2
    · intro h
      exact ⟨_, (compile_eq_ok_iff hreads _).mpr ⟨parse_tokens hreads, h⟩⟩
  · intro t ht ref transform hmem
    obtain ⟨hparse, hall⟩ := (compile_eq_ok_iff hreads t).mp ht
    obtain ⟨tok, htok, hatom, name, hname, rfl⟩ :=
      exists_token_of_group ((parse_eq_ok_iff hreads t).mp hparse).2 hmem
    obtain ⟨rest, hfits⟩ := fits_of_mem hreads.2 htok
    have hresolved := hall tok htok
    rw [hatom] at hresolved
    obtain ⟨n, hn⟩ := Option.isSome_iff_exists.mp hresolved
    have hdenotes := denotes_of_resolve? hp (tok.name_ne_nil hfits hname) hn
    exact ⟨n, hn, hdenotes.lt_groupCount, ⟨tok, htok, name, hname, rfl, hdenotes⟩,
      fun m => expandSegment_eq_nil hn⟩

/-- Leading zeros do not count, and the least number that takes more than 64 bits is no group. -/
theorem compile_resolves_limits :
    let source := "(?<_>x)|(y)".toList
    let p : Pattern := ⟨source, .alt (.group 1 (some "_") (.literal ['x']))
      (.group 2 none (.literal ['y']))⟩
    let t : Template := ⟨[.group (.name "_") none, .literal ['-'], .group (.index 2) none]⟩
    Pattern.compile source = .ok p ∧ compile p "$_-${002}".toList = .ok t ∧
      (∃ n, (GroupRef.name "_").resolve? p = some n ∧ n < p.groupCount) ∧
      ¬ ∃ t, compile p "$18446744073709551616".toList = .ok t := by
  intro source p t
  have hparse : Pattern.parse source = some p.expr := by decide +kernel
  have hfits : p.expr.fits := by decide +kernel
  have hp : Pattern.compile source = .ok p := by
    rw [Pattern.compile, hparse]
    exact if_pos hfits
  have ht : compile p "$_-${002}".toList = .ok t := by decide
  have hgood : Reads "$_-${002}".toList
      [.bare ['_'], .plain '-', .braced ['0', '0', '2'] none] [] := by
    decide
  have hgreat : Reads "$18446744073709551616".toList [.bare "18446744073709551616".toList] [] := by
    decide
  refine ⟨hp, ht, ?_, ?_⟩
  · obtain ⟨n, hn, hbelow, -⟩ := (compile_resolves hp hgood).2 t ht (.name "_") none (by decide)
    exact ⟨n, hn, hbelow⟩
  · intro h
    obtain ⟨n, hn⟩ := (compile_resolves hp hgreat).1.mp h _ (List.mem_singleton.mpr rfl) _ rfl
    have hvalue : n = 18446744073709551616 := hn.1
    have hbelow : n < 3 := hn.2
    omega

end Codemod.Template
