import Codemod.Catalog
import Mathlib.Data.List.Nodup

/-! What is wrong with a catalog.
A catalog is rejected just if some definition in it is defective, wherever it stands and whatever
the others are, or two have the same name. Compiling keeps the definitions in order, under their
trimmed names. -/

namespace Codemod

section Fails

variable {ε ε' α β : Type}

/-- Ends with an error, whichever it is. -/
def Fails (x : Except ε α) : Prop :=
  ∃ e, x = .error e

instance : (x : Except ε α) → Decidable (Fails x)
  | .error e => .isTrue ⟨e, rfl⟩
  | .ok _ => .isFalse fun h => nomatch h.choose_spec

@[simp] theorem fails_error (e : ε) : Fails (.error e : Except ε α) :=
  ⟨e, rfl⟩

@[simp] theorem fails_throw (e : ε) : Fails (throw e : Except ε α) :=
  ⟨e, rfl⟩

@[simp] theorem not_fails_ok (a : α) : ¬ Fails (.ok a : Except ε α) := by
  rintro ⟨e, h⟩
  cases h

@[simp] theorem not_fails_pure (a : α) : ¬ Fails (pure a : Except ε α) :=
  not_fails_ok a

theorem fails_or_ok (x : Except ε α) : Fails x ∨ ∃ a, x = .ok a := by
  cases x <;> simp

@[simp] theorem fails_mapError {f : ε → ε'} {x : Except ε α} :
    Fails (x.mapError f) ↔ Fails x := by
  cases x <;> simp [Except.mapError]

@[simp] theorem mapError_eq_ok_iff {f : ε → ε'} {x : Except ε α} {a : α} :
    x.mapError f = .ok a ↔ x = .ok a := by
  cases x <;> simp [Except.mapError]

@[simp] theorem fails_map {f : α → β} {x : Except ε α} : Fails (x.map f) ↔ Fails x := by
  cases x <;> simp [Except.map]

/-- A sequence fails where its first step does, or after it. -/
theorem fails_bind_iff {x : Except ε α} {f : α → Except ε β} :
    Fails (x >>= f) ↔ Fails x ∨ ∃ a, x = .ok a ∧ Fails (f a) := by
  cases x <;> simp [bind, Except.bind]

theorem bind_eq_ok_iff {x : Except ε α} {f : α → Except ε β} {b : β} :
    x >>= f = .ok b ↔ ∃ a, x = .ok a ∧ f a = .ok b := by
  cases x <;> simp [bind, Except.bind]

theorem toOption_map_eq_some_iff {x : Except ε α} {f : α → β} {b : β} :
    x.toOption.map f = some b ↔ ∃ a, x = .ok a ∧ f a = b := by
  cases x <;> simp [Except.toOption]

/-- The rest of a sequence may fail for reasons of its own. -/
theorem fails_bind_iff_or {x : Except ε α} {f : α → Except ε β} {rest : Prop}
    (h : ∀ a, x = .ok a → (Fails (f a) ↔ rest)) : Fails (x >>= f) ↔ Fails x ∨ rest := by
  cases x with
  | error e => exact iff_of_true (fails_error e) (.inl (fails_error e))
  | ok a => exact (h a rfl).trans (or_iff_right (not_fails_ok a)).symm

/-- The last step of a sequence may not fail. -/
theorem fails_bind_pure_iff {x : Except ε α} {f : α → β} :
    Fails (x >>= fun a => pure (f a)) ↔ Fails x := by
  rw [fails_bind_iff_or fun a _ => iff_false_intro (not_fails_pure (f a)), or_false]

end Fails

/-- A rule that does not say one thing to look for, or none that can be looked for, or whose
replacement refers to what its pattern does not capture. -/
inductive RuleDef.Defective (d : RuleDef) : Prop
  | unclear (kinds : d.find.isSome = d.pattern.isSome)
  | emptyFind (find : d.find = some "")
  | pattern {source : String} (used : d.pattern = some source)
      (malformed : Fails (Pattern.compile source.toList))
  | template {source : String} {p : Pattern} (used : d.pattern = some source)
      (compiled : Pattern.compile source.toList = .ok p)
      (malformed : Fails (Template.compile p d.replace.toList))

/-- A guard without a marker, with an empty one, or with a malformed pattern. -/
def GuardDef.Defective : GuardDef → Prop
  | .contains markers => markers = [] ∨ "" ∈ markers
  | .pattern source => Fails (Pattern.compile source.toList)

/-- A rule set with a defect of its own. -/
inductive RuleSetDef.Defective (d : RuleSetDef) : Prop
  | name (empty : d.trimmedName = "")
  | rules (none : d.rules = [])
  | rule {r : RuleDef} (mem : r ∈ d.rules) (defective : r.Defective)
  | guard {g : GuardDef} (used : d.guard? = some g) (defective : g.Defective)
  | extensions {extensions : List String} (used : d.extensions? = some extensions)
      (blank : ∀ e ∈ extensions, Extension.normalize e = "")

/-- Some definition is defective, or two have the same name. -/
def Catalog.Defective (defs : List RuleSetDef) : Prop :=
  (∃ d ∈ defs, d.Defective) ∨ ¬ (defs.map RuleSetDef.trimmedName).Nodup

theorem RuleDef.fails_compile_iff (set : String) (index : Nat) (d : RuleDef) :
    Fails (d.compile set index) ↔ d.Defective := by
  constructor
  · intro h
    rw [compile] at h
    split at h
    case h_1 find hfind hpattern =>
      split_ifs at h with hempty
      · exact .emptyFind (by rw [hfind, String.isEmpty_iff.mp hempty])
      · exact absurd h (not_fails_ok _)
    case h_2 source hfind hpattern =>
      cases hcompile : Pattern.compile source.toList with
      | error cause => exact .pattern hpattern ⟨cause, hcompile⟩
      | ok p =>
        cases htemplate : Template.compile p d.replace.toList with
        | error cause => exact .template hpattern hcompile ⟨cause, htemplate⟩
        | ok template => simp [hcompile, htemplate] at h
    case h_3 hliteral hpattern =>
      apply Defective.unclear
      cases hf : d.find <;> cases hp : d.pattern <;> simp_all
  · rintro (kinds | find | ⟨used, cause, malformed⟩ | ⟨used, compiled, cause, malformed⟩)
    · rw [compile]
      cases hf : d.find <;> cases hp : d.pattern <;> simp_all
    all_goals
      rw [compile]
      cases hf : d.find <;> cases hp : d.pattern <;> simp_all

theorem RuleDef.fails_compileAll_iff (set : String) (index : Nat) (rules : List RuleDef) :
    Fails (compileAll set index rules) ↔ ∃ r ∈ rules, r.Defective := by
  induction rules generalizing index with
  | nil => simp [compileAll]
  | cons r rest ih =>
    rw [compileAll, fails_bind_iff_or fun rule _ => fails_bind_pure_iff.trans (ih (index + 1)),
      fails_compile_iff, List.exists_mem_cons_iff]

theorem GuardDef.fails_compile_iff (set : String) (g : GuardDef) :
    Fails (g.compile set) ↔ g.Defective := by
  cases g with
  | contains markers =>
    have blank : (∃ m ∈ markers, m.isEmpty) ↔ "" ∈ markers := by
      simp [String.isEmpty_iff]
    rw [compile, Defective, ← blank]
    split_ifs with h
    · simpa using h
    · simpa using h
  | pattern source =>
    rw [compile, Defective]
    cases Pattern.compile source.toList <;> simp

namespace RuleSetDef

theorem fails_compileExtensions_iff (s : RuleSet) (extensions? : Option (List String)) :
    Fails (compileExtensions s extensions?) ↔
      ∃ extensions, extensions? = some extensions ∧
        ∀ e ∈ extensions, Extension.normalize e = "" := by
  cases extensions? with
  | none => simp [compileExtensions]
  | some extensions =>
    have kept : ((extensions.map Extension.normalize).filter (!·.isEmpty)).isEmpty ↔
        ∀ e ∈ extensions, Extension.normalize e = "" := by
      simp
    simp only [compileExtensions, Option.some.injEq, exists_eq_left', ← kept]
    split_ifs with h
    · exact iff_of_true (fails_error _) h
    · exact iff_of_false (not_fails_ok _) h

theorem fails_compileBody_iff (d : RuleSetDef) (name : String) :
    Fails (d.compileBody name) ↔ d.rules = [] ∨ (∃ r ∈ d.rules, r.Defective) ∨
      (∃ g, d.guard? = some g ∧ g.Defective) ∨
      ∃ extensions, d.extensions? = some extensions ∧
        ∀ e ∈ extensions, Extension.normalize e = "" := by
  by_cases hrules : d.rules = []
  · simp [compileBody, hrules, fails_bind_iff]
  · rw [compileBody]
    simp only [List.isEmpty_iff, hrules, if_false, false_or, pure_bind]
    rw [fails_bind_iff_or, RuleDef.fails_compileAll_iff]
    intro rules _
    cases d.guard? with
    | none =>
      dsimp only
      rw [fails_compileExtensions_iff]
      simp
    | some g =>
      dsimp only
      rw [fails_bind_iff_or fun guard? _ => fails_compileExtensions_iff _ _, fails_map,
        GuardDef.fails_compile_iff]
      simp

/-- The names that are taken are all that a definition may fail for besides its own defects. -/
theorem fails_compile_iff (taken : List String) (d : RuleSetDef) :
    Fails (d.compile taken) ↔ d.Defective ∨ d.trimmedName ∈ taken := by
  have own : d.Defective ↔ d.trimmedName = "" ∨ Fails (d.compileBody d.trimmedName) := by
    rw [fails_compileBody_iff]
    constructor
    · rintro (empty | none | ⟨mem, defective⟩ | ⟨used, defective⟩ | ⟨used, blank⟩)
      · exact .inl empty
      · exact .inr (.inl none)
      · exact .inr (.inr (.inl ⟨_, mem, defective⟩))
      · exact .inr (.inr (.inr (.inl ⟨_, used, defective⟩)))
      · exact .inr (.inr (.inr (.inr ⟨_, used, blank⟩)))
    · rintro (empty | none | ⟨r, mem, defective⟩ | ⟨g, used, defective⟩ | ⟨es, used, blank⟩)
      · exact .name empty
      · exact .rules none
      · exact .rule mem defective
      · exact .guard used defective
      · exact .extensions used blank
  rw [own, compile]
  simp only [String.isEmpty_iff, List.contains_iff_mem]
  split_ifs with hempty htaken
  · simp [hempty]
  · simp [htaken]
  · simp [hempty, htaken]

theorem name_of_compileExtensions {bare s : RuleSet} {extensions? : Option (List String)}
    (h : compileExtensions bare extensions? = .ok s) : s.name = bare.name := by
  cases extensions? with
  | none =>
    obtain rfl := Except.ok.inj h
    rfl
  | some extensions =>
    rw [compileExtensions] at h
    split_ifs at h
    obtain rfl := Except.ok.inj h
    rfl

/-- A set has the name of its definition, and its scope is the last that is compiled. -/
theorem parts_of_compile {taken : List String} {d : RuleSetDef} {s : RuleSet}
    (h : d.compile taken = .ok s) :
    s.name = d.trimmedName ∧
      ∃ bare : RuleSet, bare.extensions? = none ∧ compileExtensions bare d.extensions? = .ok s := by
  rw [compile] at h
  split_ifs at h
  rw [compileBody] at h
  split_ifs at h with hrules
  · cases h
  · cases hguard : d.guard? with
    | none =>
      simp only [hguard, pure_bind, bind_eq_ok_iff] at h
      obtain ⟨rules, -, h⟩ := h
      exact ⟨name_of_compileExtensions h, _, rfl, h⟩
    | some g =>
      simp only [hguard, bind_eq_ok_iff] at h
      obtain ⟨rules, -, guard?, -, h⟩ := h
      exact ⟨name_of_compileExtensions h, _, rfl, h⟩

end RuleSetDef

namespace Catalog

theorem fails_compileFrom_iff (taken : List String) (defs : List RuleSetDef) :
    Fails (compileFrom taken defs) ↔
      Defective defs ∨ ∃ d ∈ defs, d.trimmedName ∈ taken := by
  induction defs generalizing taken with
  | nil => simp [compileFrom, Defective]
  | cons d rest ih =>
    rw [compileFrom, fails_bind_iff_or fun s _ => fails_bind_pure_iff.trans (ih _),
      RuleSetDef.fails_compile_iff]
    have again : (∃ e ∈ rest, e.trimmedName ∈ d.trimmedName :: taken) ↔
        d.trimmedName ∈ rest.map RuleSetDef.trimmedName ∨ ∃ e ∈ rest, e.trimmedName ∈ taken := by
      simp [and_or_left, exists_or]
    simp only [Defective, List.exists_mem_cons_iff, List.map_cons, List.nodup_cons, again,
      not_and_or, not_not]
    rw [iff_iff_eq]
    ac_rfl

/-- A catalog is rejected just if it has a defect. -/
theorem fails_compile_iff (defs : List RuleSetDef) : Fails (compile defs) ↔ Defective defs := by
  rw [compile, fails_compileFrom_iff]
  simp

theorem names_of_compileFrom {taken : List String} {defs : List RuleSetDef} {sets : List RuleSet}
    (h : compileFrom taken defs = .ok sets) :
    sets.map RuleSet.name = defs.map RuleSetDef.trimmedName := by
  induction defs generalizing taken sets with
  | nil =>
    obtain rfl := Except.ok.inj h
    rfl
  | cons d rest ih =>
    simp only [compileFrom, bind_eq_ok_iff] at h
    obtain ⟨s, hs, others, hothers, hsets⟩ := h
    obtain rfl := Except.ok.inj hsets
    rw [List.map_cons, List.map_cons, (RuleSetDef.parts_of_compile hs).1, ih hothers]

section Compiled

variable {defs : List RuleSetDef} {sets : List RuleSet} (h : compile defs = .ok sets)
include h

theorem names_of_compile : sets.map RuleSet.name = defs.map RuleSetDef.trimmedName :=
  names_of_compileFrom h

theorem not_defective_of_compile : ¬ Defective defs := by
  rw [← fails_compile_iff, h]
  exact not_fails_ok sets

/-- No two sets of a catalog have the same name. -/
theorem nodup_names_of_compile : (sets.map RuleSet.name).Nodup := by
  rw [names_of_compile h]
  by_contra twice
  exact not_defective_of_compile h (.inr twice)

end Compiled

end Catalog

end Codemod
