import Codemod.Proofs.Walk.Scope

/-! Extensions of which nothing is left.
A list of extensions is turned away if each is nothing but dots with blanks around them. What is
left of the others is brought into normal form again, and not looked at any more. Of dots, blanks
and dots again something is left the first time and nothing the second time: then the scope holds
the empty extension, and the set is also for files whose names end with a dot. -/

namespace Codemod

namespace Extension

/-- Nothing but dots, with blanks around them. -/
def Bare (e : String) : Prop :=
  ∃ n, Text.trim e.toList = List.replicate n '.'

/-- Dots, blanks and dots again, with blanks around them. -/
def Hollow (e : String) : Prop :=
  ∃ m blanks n, blanks ≠ [] ∧ (∀ c ∈ blanks, isBlank c) ∧
    Text.trim e.toList = List.replicate (m + 1) '.' ++ (blanks ++ List.replicate (n + 1) '.')

theorem dropWhile_dots_eq_nil_iff {cs : List Char} :
    cs.dropWhile (· == '.') = [] ↔ ∃ n, cs = List.replicate n '.' := by
  rw [List.dropWhile_eq_nil_iff]
  constructor
  · intro h
    exact ⟨cs.length, List.eq_replicate_iff.mpr ⟨rfl, by simpa using h⟩⟩
  · rintro ⟨n, rfl⟩
    simp

theorem core_eq_nil_iff (e : String) : core e = [] ↔ normalize e = "" := by
  rw [← isBlankExtension_iff, ← List.isEmpty_iff]
  rfl

theorem normalize_eq_empty_iff (e : String) : normalize e = "" ↔ Bare e := by
  rw [← core_eq_nil_iff, core, dropWhile_dots_eq_nil_iff, Bare]

theorem normalize_normalize_eq_empty_iff (e : String) :
    normalize (normalize e) = "" ↔ ∃ n, Text.trim (core e) = List.replicate n '.' := by
  rw [normalize_eq_empty_iff, Bare, normalize_eq, String.toList_ofList, Text.trim_lowerAscii]
  simp [List.eq_replicate_iff, Text.lowerAscii, Text.toLower_eq_iff]

theorem exists_dots_append_core (e : String) :
    ∃ m, Text.trim e.toList = List.replicate m '.' ++ core e := by
  obtain ⟨m, hm⟩ : ∃ m, (Text.trim e.toList).takeWhile (· == '.') = List.replicate m '.' := by
    refine ⟨_, List.eq_replicate_iff.mpr ⟨rfl, fun c hc => ?_⟩⟩
    simpa using List.mem_takeWhile_imp hc
  exact ⟨m, by rw [← hm, core, List.takeWhile_append_dropWhile]⟩

theorem core_of_hollow {e : String} {m n : Nat} {blanks : List Char} (hne : blanks ≠ [])
    (hblanks : ∀ c ∈ blanks, isBlank c)
    (h : Text.trim e.toList =
      List.replicate (m + 1) '.' ++ (blanks ++ List.replicate (n + 1) '.')) :
    core e = blanks ++ List.replicate (n + 1) '.' := by
  rw [core, h, List.dropWhile_append_of_pos (by simp)]
  apply Text.dropWhile_of_head
  intro c hc
  have hc : c ∈ blanks := by
    rw [List.head?_append_of_ne_nil _ hne] at hc
    exact List.mem_of_head? hc
  by_contra hdot
  have hblank := hblanks c hc
  simp only [Bool.not_eq_false, beq_iff_eq] at hdot
  rw [hdot] at hblank
  exact absurd hblank (by decide)

/-- Of dots, blanks and dots again something is left once and nothing twice, and of nothing else. -/
theorem hollow_iff (e : String) : Hollow e ↔ normalize e ≠ "" ∧ normalize (normalize e) = "" := by
  rw [Ne, ← core_eq_nil_iff, normalize_normalize_eq_empty_iff]
  constructor
  · rintro ⟨m, blanks, n, hne, hblanks, htrim⟩
    have hcore := core_of_hollow hne hblanks htrim
    refine ⟨by simp [hcore], n + 1, ?_⟩
    rw [Text.trim_of_last (last_core e), hcore, Text.trimStart,
      List.dropWhile_append_of_pos hblanks]
    exact Text.dropWhile_of_head (by simp [List.replicate_succ]; decide)
  · rintro ⟨hne, n, hn⟩
    obtain ⟨m, hm⟩ := exists_dots_append_core e
    have hcore : core e = (core e).takeWhile isBlank ++ List.replicate n '.' := by
      rw [← hn, Text.trim_of_last (last_core e)]
      exact List.takeWhile_append_dropWhile.symm
    have hblanks : ∀ c ∈ (core e).takeWhile isBlank, isBlank c :=
      fun c hc => List.mem_takeWhile_imp hc
    have hfirst := head_core e
    have hlast := last_core e
    generalize (core e).takeWhile isBlank = blanks at hcore hblanks
    rw [hcore] at hne hm hfirst hlast
    cases n with
    | zero =>
      rw [List.replicate_zero, List.append_nil] at hne hlast
      have hblank := hblanks _ (List.getLast_mem hne)
      rw [hlast _ (List.getLast?_eq_some_getLast hne)] at hblank
      cases hblank
    | succ n =>
      cases blanks with
      | nil => exact absurd (hfirst '.' rfl) (by decide)
      | cons c rest =>
        cases m with
        | zero =>
          have hblank := hblanks c (List.mem_cons_self ..)
          rw [Text.head_trim c (by rw [hm]; rfl)] at hblank
          cases hblank
        | succ m => exact ⟨m, c :: rest, n, List.cons_ne_nil c rest, hblanks, hm⟩

instance (e : String) : Decidable (Bare e) :=
  decidable_of_iff _ (normalize_eq_empty_iff e)

instance (e : String) : Decidable (Hollow e) :=
  decidable_of_iff _ (hollow_iff e).symm

theorem scoped_empty_iff (listed : List String) : Scoped listed "" ↔ ∃ e ∈ listed, Hollow e := by
  simp only [Scoped, hollow_iff]

end Extension

open Extension

namespace RuleSetDef

/-- The extensions of a definition are compiled last, and the rest does not depend on them. -/
theorem compile_eq_bind_extensions (taken : List String) (d : RuleSetDef) :
    d.compile taken = (do
      let s ← { d with extensions? := none }.compile taken
      compileExtensions s d.extensions?) := by
  have name : { d with extensions? := none }.trimmedName = d.trimmedName := rfl
  simp only [compile, name]
  split_ifs
  · rfl
  · rfl
  · simp only [compileBody]
    split_ifs
    · rfl
    · cases RuleDef.compileAll d.trimmedName 0 d.rules with
      | error e => rfl
      | ok rules =>
        cases d.guard? with
        | none => rfl
        | some g => cases hg : g.compile d.trimmedName <;> simp only [hg] <;> rfl

theorem compileExtensions_some (s : RuleSet) (listed : List String) :
    compileExtensions s (some listed) =
      if ∀ e ∈ listed, Bare e then .error (.emptyExtensions s.name)
      else .ok (s.withExtensions ((listed.map normalize).filter (!·.isEmpty))) := by
  have none : ((listed.map normalize).filter (!·.isEmpty)).isEmpty ↔ ∀ e ∈ listed, Bare e := by
    simp [normalize_eq_empty_iff]
  exact if_congr none rfl rfl

/-- Where a scope comes from, and what it holds. -/
theorem scoped_of_compile {taken : List String} {d : RuleSetDef} {s : RuleSet}
    (h : d.compile taken = .ok s) {scope : List String} (hscope : s.extensions? = some scope) :
    ∃ listed, d.extensions? = some listed ∧ (∃ e ∈ listed, ¬ Bare e) ∧
      ∀ x, x ∈ scope ↔ Scoped listed x := by
  obtain ⟨-, bare, hbare, hextensions⟩ := parts_of_compile h
  cases hlisted : d.extensions? with
  | none =>
    rw [hlisted] at hextensions
    obtain rfl := Except.ok.inj hextensions
    cases hbare.symm.trans hscope
  | some listed =>
    rw [hlisted, compileExtensions_some] at hextensions
    split_ifs at hextensions with hnone
    obtain rfl := Except.ok.inj hextensions
    obtain rfl := Option.some.inj hscope
    exact ⟨listed, rfl, by simpa using hnone, fun x => mem_scope_kept⟩

end RuleSetDef

namespace Catalog

theorem exists_zip_of_compile {defs : List RuleSetDef} {sets : List RuleSet}
    (h : compile defs = .ok sets) {s : RuleSet} (hs : s ∈ sets) : ∃ d, (d, s) ∈ defs.zip sets := by
  have hlength := (compile_eq_ok_iff.mp h).1.length_eq
  obtain ⟨i, hi, rfl⟩ := List.getElem_of_mem hs
  refine ⟨defs[i], List.mem_iff_getElem.mpr ⟨i, ?_, List.getElem_zip⟩⟩
  rw [List.length_zip]
  omega

/-- If the rest of a last definition is in order, its extensions decide. -/
theorem compile_concat_extensions {front : List RuleSetDef} {d : RuleSetDef}
    (h : ¬ Fails (compile (front ++ [{ d with extensions? := none }]))) :
    ∃ (sets : List RuleSet) (s : RuleSet), s.name = d.trimmedName ∧ compile (front ++ [d]) =
      (RuleSetDef.compileExtensions s d.extensions?).map fun s => sets ++ [s] := by
  cases hfront : compile front with
  | error e => exact absurd ⟨e, compile_append_of_error hfront _⟩ h
  | ok sets =>
    rw [compile_concat hfront, fails_map] at h
    obtain ⟨s, hs⟩ := (fails_or_ok _).resolve_left h
    refine ⟨sets, s, (RuleSetDef.parts_of_compile hs).1, ?_⟩
    rw [compile_concat hfront, RuleSetDef.compile_eq_bind_extensions, hs]
    rfl

/-- The scope of a rule set holds some extension. It holds the empty one just if the definition
lists dots, blanks and dots again, and then the set accepts paths with an empty extension; a path
without an extension is never accepted. A definition in order but for its extensions is turned away,
for them, just if each is nothing but dots with blanks around them. -/
theorem empty_extension_iff (defs : List RuleSetDef) :
    (∀ sets, compile defs = .ok sets → ∀ s ∈ sets, ∀ scope, s.extensions? = some scope →
      ∃ d listed, (d, s) ∈ defs.zip sets ∧ d.extensions? = some listed ∧ scope ≠ [] ∧
        ("" ∈ scope ↔ ∃ e ∈ listed, Hollow e) ∧
        ∀ p, (p.extension? = none → s.acceptsPath p = false) ∧
          (p.extension? = some "" → (s.acceptsPath p ↔ ∃ e ∈ listed, Hollow e))) ∧
    ∀ d listed more, d.extensions? = some listed →
      ¬ Fails (compile (defs ++ [{ d with extensions? := none }])) →
      ((∀ e ∈ listed, Bare e) →
        compile (defs ++ d :: more) = .error (.emptyExtensions d.trimmedName)) ∧
      ((∃ e ∈ listed, ¬ Bare e) → ¬ Fails (compile (defs ++ [d]))) := by
  constructor
  · intro sets hsets s hs scope hscope
    obtain ⟨d, hmem⟩ := exists_zip_of_compile hsets hs
    have hd := compile_of_mem_zip hsets hmem
    obtain ⟨listed, hlisted, ⟨e, he, hleft⟩, hheld⟩ := RuleSetDef.scoped_of_compile hd hscope
    refine ⟨d, listed, hmem, hlisted, ?_, by rw [hheld, scoped_empty_iff], fun p => ⟨?_, ?_⟩⟩
    · rw [← normalize_eq_empty_iff] at hleft
      exact List.ne_nil_of_mem ((hheld _).mpr ⟨e, he, hleft, rfl⟩)
    · intro hp
      rw [← Bool.not_eq_true, acceptsPath_iff hd hlisted, hp]
      simp
    · intro hp
      rw [acceptsPath_iff hd hlisted, hp, ← scoped_empty_iff]
      simp [Text.lowerAscii]
  · intro d listed more hlisted hrest
    obtain ⟨sets, s, hname, hcompile⟩ := compile_concat_extensions hrest
    rw [hlisted, RuleSetDef.compileExtensions_some, hname] at hcompile
    constructor
    · intro bare
      rw [if_pos bare] at hcompile
      rw [List.append_cons]
      exact compile_append_of_error hcompile more
    · rintro ⟨e, he, hleft⟩
      rw [if_neg fun bare => hleft (bare e he)] at hcompile
      rw [hcompile]
      exact not_fails_ok _

/-- One of two extensions leaves the empty one in the scope; a definition that lists nothing but
dots and blanks around them is turned away after it. -/
theorem empty_extension_iff_mixed :
    let rules : List RuleDef := [⟨some "x", none, "y"⟩]
    let mixed : RuleSetDef := ⟨"mixed", none, some [" . .", ".TSX"], rules⟩
    let bare : RuleSetDef := ⟨"bare", none, some [" .. ", ""], rules⟩
    let s : RuleSet := ⟨"mixed", [.literal ['x'] ['y']], none, some ["", "tsx"]⟩
    compile [mixed] = .ok [s] ∧ Hollow " . ." ∧ (⟨"src/a."⟩ : Path).extension? = some "" ∧
      s.acceptsPath ⟨"src/a."⟩ = true ∧ (⟨"src/a"⟩ : Path).extension? = none ∧
      s.acceptsPath ⟨"src/a"⟩ = false ∧ (∀ e ∈ [" .. ", ""], Bare e) ∧
      ¬ Fails (compile ([mixed] ++ [{ bare with extensions? := none }])) ∧
      ∀ more, compile ([mixed] ++ bare :: more) = .error (.emptyExtensions "bare") := by
  intro rules mixed bare s
  have hcompile : compile [mixed] = .ok [s] := by decide +kernel
  have hollow : Hollow " . ." := by decide +kernel
  have hempty : (⟨"src/a."⟩ : Path).extension? = some "" := by decide +kernel
  have hnone : (⟨"src/a"⟩ : Path).extension? = none := by decide +kernel
  have hbare : ∀ e ∈ [" .. ", ""], Bare e := by decide +kernel
  have hrest : ¬ Fails (compile ([mixed] ++ [{ bare with extensions? := none }])) := by
    decide +kernel
  have hname : bare.trimmedName = "bare" := by decide +kernel
  obtain ⟨hscope, hrejected⟩ := empty_extension_iff [mixed]
  obtain ⟨d, listed, hmem, hlisted, -, -, hpaths⟩ :=
    hscope [s] hcompile s (List.mem_singleton_self s) _ rfl
  have hd : d = mixed := by simpa using hmem
  have hmember : " . ." ∈ listed := by
    rw [hd] at hlisted
    simp [← Option.some.inj hlisted]
  refine ⟨hcompile, hollow, hempty, ((hpaths _).2 hempty).mpr ⟨_, hmember, hollow⟩, hnone,
    (hpaths _).1 hnone, hbare, hrest, fun more => ?_⟩
  rw [← hname]
  exact (hrejected bare _ more rfl hrest).1 hbare

/-- A list that denotes no extension is accepted: the scope holds the empty extension alone, and a
file whose name ends with a dot lies in it. -/
theorem empty_extension_in_scope :
    let d : RuleSetDef := ⟨"a", none, some [". ."], [⟨some "x", none, "y"⟩]⟩
    let s : RuleSet := ⟨"a", [.literal ['x'] ['y']], none, some [""]⟩
    compile [d] = .ok [s] ∧ (⟨"src/a."⟩ : Path).extension? = some "" ∧
      s.acceptsPath ⟨"src/a."⟩ = true := by
  decide +kernel

end Catalog

end Codemod
