import Codemod.Proofs.Program.Startup
import Codemod.Proofs.Walk.Scope
import Mathlib.Data.List.Dedup

/-! What a batch has to do when it begins.
A batch that gets as far as its files has walked some root with some extension to look for, and has
some rule set to apply. The sets have names of their own, without blanks around them, and come in
the order of the configuration. If names are given, they are the sets with these names, in
whatever order and however often the names are given. -/

namespace Codemod

theorem Config.problem?_eq_none_iff {c : Config} :
    c.problem? = none ↔ c.files.roots ≠ [] ∧
      (∃ e ∈ c.files.extensions, Extension.normalize e ≠ "") ∧ c.ruleSets ≠ [] := by
  have blank : c.files.extensions.all isBlankExtension ↔
      ¬ ∃ e ∈ c.files.extensions, Extension.normalize e ≠ "" := by
    simp [Extension.isBlankExtension_iff]
  rw [problem?]
  split_ifs with hroots hblank hsets
  · simp_all
  · simp [blank.mp hblank]
  · simp_all
  · rw [blank, not_not] at hblank
    rw [List.isEmpty_iff] at hroots hsets
    exact iff_of_true rfl ⟨hroots, hblank, hsets⟩

theorem WalkFilter.mem_extensions_ofLists {listed excluded : List String} {x : String} :
    x ∈ (ofLists listed excluded).extensions ↔ Extension.Sought listed x := by
  simp only [ofLists, List.mem_filter, Extension.mem_scope, Extension.Sought, Bool.not_eq_true',
    ← Bool.not_eq_true, String.isEmpty_iff]
  constructor
  · rintro ⟨⟨e, he, rfl⟩, hne⟩
    exact ⟨e, he, hne, rfl⟩
  · rintro ⟨e, he, hne, rfl⟩
    exact ⟨⟨e, he, rfl⟩, hne⟩

/-- A compiled set has a name, without blanks around it. -/
theorem Catalog.name_of_compile {defs : List RuleSetDef} {sets : List RuleSet}
    (h : compile defs = .ok sets) {s : RuleSet} (hs : s ∈ sets) :
    s.name ≠ "" ∧ Text.trim s.name.toList = s.name.toList := by
  have hname : s.name ∈ defs.map RuleSetDef.trimmedName :=
    names_of_compile h ▸ List.mem_map_of_mem hs
  obtain ⟨d, hd, heq⟩ := List.mem_map.mp hname
  rw [← heq]
  constructor
  · intro hempty
    exact not_defective_of_compile h (.inl ⟨d, hd, .name hempty⟩)
  · rw [RuleSetDef.trimmedName, String.toList_ofList, Text.trim_trim]

namespace Program

open FileTree Pipeline

/-- A walk over some roots, all of which exist, with some extension to look for. -/
structure Walked (t : FileTree) (f : FileSelection) (found : Candidates) : Prop where
  roots_ne_nil : f.roots ≠ []
  exists_root : ∀ root ∈ f.roots, t.exists? ⟨root⟩
  extensions_ne_nil : (WalkFilter.ofLists f.extensions f.excludeDirs).extensions ≠ []
  empty_not_mem : "" ∉ (WalkFilter.ofLists f.extensions f.excludeDirs).extensions
  collected : t.collect (.ofLists f.extensions f.excludeDirs) (f.roots.map Path.mk) ⟨[], []⟩ =
    .ok found

/-- Some rule sets of a catalog, by the names that are given. -/
structure Chosen (all : List RuleSet) (only : List String) (sets : List RuleSet) : Prop where
  ne_nil : sets ≠ []
  nodup_names : (sets.map RuleSet.name).Nodup
  has_name : ∀ s ∈ sets, s.name ≠ "" ∧ Text.trim s.name.toList = s.name.toList
  in_order : sets.Sublist all
  eq_all : only = [] → sets = all
  mem_iff : only ≠ [] → ∀ s, s ∈ sets ↔ s ∈ all ∧ s.name ∈ only
  each_once : only ≠ [] → (sets.map RuleSet.name).Perm only.dedup

theorem walked_of_candidates {t : FileTree} {c : Config} {found : Candidates}
    (husable : c.problem? = none)
    (h : t.candidates (c.files.roots.map Path.mk) c.files.extensions c.files.excludeDirs =
      .ok found) : Walked t c.files found := by
  obtain ⟨hroots, ⟨e, he, hne⟩, -⟩ := Config.problem?_eq_none_iff.mp husable
  refine ⟨hroots, fun root hroot => ?_, ?_, ?_, h⟩
  · by_contra missing
    have hfails : Fails (t.candidates (c.files.roots.map Path.mk) c.files.extensions
        c.files.excludeDirs) :=
      fails_candidates_iff.mpr ⟨⟨root⟩, List.mem_map_of_mem hroot, missing⟩
    rw [h] at hfails
    exact not_fails_ok found hfails
  · exact List.ne_nil_of_mem (WalkFilter.mem_extensions_ofLists.mpr ⟨e, he, hne, rfl⟩)
  · rw [WalkFilter.mem_extensions_ofLists]
    rintro ⟨e, -, hne, hempty⟩
    exact hne hempty

theorem chosen_of_select {defs : List RuleSetDef} {all sets : List RuleSet} {only : List String}
    (hne : defs ≠ []) (hcompile : Catalog.compile defs = .ok all)
    (h : selectRuleSets all only = .ok sets) : Chosen all only sets := by
  obtain ⟨known, rfl⟩ := selectRuleSets_eq_ok_iff.mp h
  have hnodup := Catalog.nodup_names_of_compile hcompile
  have hnames := fun s hs => Catalog.name_of_compile (s := s) hcompile hs
  by_cases honly : only = []
  · have hall : all ≠ [] := by
      rintro rfl
      exact hne (List.map_eq_nil_iff.mp (Catalog.names_of_compile hcompile).symm)
    rw [if_pos honly]
    exact ⟨hall, hnodup, hnames, .refl all, fun _ => rfl, absurd honly, absurd honly⟩
  · have members (name : String) : name ∈ (named only all).map RuleSet.name ↔ name ∈ only := by
      constructor
      · intro hname
        obtain ⟨s, hs, rfl⟩ := List.mem_map.mp hname
        exact (mem_named.mp hs).2
      · intro hname
        obtain ⟨s, hs, rfl⟩ := List.mem_map.mp (known name hname)
        exact List.mem_map_of_mem (mem_named.mpr ⟨hs, hname⟩)
    have hsublist : (named only all).Sublist all := List.filter_sublist
    have hdistinct := hnodup.sublist (hsublist.map RuleSet.name)
    rw [if_neg honly]
    refine ⟨?_, hdistinct, fun s hs => hnames s (hsublist.subset hs), hsublist,
      fun hnone => absurd hnone honly, fun _ s => mem_named, fun _ => ?_⟩
    · obtain ⟨name, hname⟩ := List.exists_mem_of_ne_nil only honly
      obtain ⟨s, hs, -⟩ := List.mem_map.mp ((members name).mpr hname)
      exact List.ne_nil_of_mem hs
    · rw [List.perm_ext_iff_of_nodup hdistinct (List.nodup_dedup only)]
      simp only [members, List.mem_dedup, implies_true]

/-- Which names are given counts, and not how. -/
theorem selectRuleSets_of_same_names {all sets : List RuleSet} {only only' : List String}
    (h : selectRuleSets all only = .ok sets) (same : ∀ name, name ∈ only' ↔ name ∈ only) :
    selectRuleSets all only' = .ok sets := by
  obtain ⟨known, rfl⟩ := selectRuleSets_eq_ok_iff.mp h
  have none : only' = [] ↔ only = [] := by
    simp only [List.eq_nil_iff_forall_not_mem, same]
  have chosen : named only' all = named only all := by
    simp only [named, List.contains_eq_mem, same]
  refine selectRuleSets_eq_ok_iff.mpr ⟨fun name hname => known name ((same name).mp hname), ?_⟩
  simp only [none, chosen]

/-- A batch that gets as far as its files has walked roots that exist, with extensions to look for,
and has rule sets to apply: those with the names that are given, each once, in the order of the
configuration, or all of them. It is the same batch in whatever order and however often the names
are given, and what it does is to run these sets over the files found. -/
theorem prepared_has_work {t : FileTree} {a : BatchArgs} {sets : List RuleSet}
    {found : Candidates} (h : prepare t a = .ok (sets, found)) :
    ∃ c all, loaded t a.config? = .ok c ∧ Catalog.compile c.ruleSets = .ok all ∧
      Walked t (override c a).files found ∧ Chosen all a.only sets ∧
      (sets.map RuleSet.name).Sublist (c.ruleSets.map RuleSetDef.trimmedName) ∧
      (∀ only, (∀ name, name ∈ only ↔ name ∈ a.only) →
        prepare t { a with only } = .ok (sets, found)) ∧
      ∀ schedule check, execute schedule (.batch check a) t =
        let done := Batch.run (storeOf check) sets ⟨a.parallel, check⟩ schedule found t
        (report check done.1, done.2) := by
  obtain ⟨c, all, hloaded, husable, hcompile, hselect, hfound⟩ := prepare_eq_ok_iff.mp h
  obtain ⟨-, -, hdefs⟩ := Config.problem?_eq_none_iff.mp husable
  have hchosen := chosen_of_select hdefs hcompile hselect
  refine ⟨c, all, hloaded, hcompile, walked_of_candidates husable hfound, hchosen, ?_,
    fun only same => ?_, runBatch_of_prepared h⟩
  · rw [← Catalog.names_of_compile hcompile]
    exact hchosen.in_order.map RuleSet.name
  · exact prepare_eq_ok_iff.mpr ⟨c, all, hloaded, husable, hcompile,
      selectRuleSets_of_same_names hselect same, hfound⟩

/-- Two of three sets by their names, the later one first and twice; a root and extensions of the
command line, of which one says nothing. -/
theorem prepared_has_work_two :
    let rules := "', rules = [\x7bfind = 'x', replace = ''\x7d]\x7d"
    let config := "rule_sets = [\x7bname = 'first" ++ rules ++ ", \x7bname = ' second " ++ rules ++
      ", \x7bname = 'third " ++ rules ++ "]"
    let t : FileTree := ⟨[(["srcfix.toml"], .file (Utf8.encode config.toList) 0o644),
      (["lib"], .dir), (["lib", "a.ts"], .file (Utf8.encode "x".toList) 0o644)], [], {}⟩
    let a : BatchArgs :=
      { roots := ["lib"], extensions := [".", "TS"], only := ["third", "first", "third"] }
    CommandLine.parse ["check", "lib", "--ext", ".,TS", "--only", "third,first", "--only=third"] =
        some (.batch true a) ∧
      ∃ sets found c all, prepare t a = .ok (sets, found) ∧
        sets.map RuleSet.name = ["first", "third"] ∧ found.files = [⟨"lib/a.ts"⟩] ∧
        Catalog.compile c.ruleSets = .ok all ∧ Walked t (override c a).files found ∧
        Chosen all a.only sets ∧
        prepare t { a with only := ["first", "third"] } = .ok (sets, found) := by
  intro rules config t a
  have same (name : String) :
      name ∈ ["first", "third"] ↔ name ∈ ["third", "first", "third"] := by
    simp only [List.mem_cons, List.not_mem_nil, or_false]
    tauto
  have hparse : CommandLine.parse ["check", "lib", "--ext", ".,TS", "--only", "third,first",
      "--only=third"] = some (.batch true a) := by decide +kernel
  have hprepared : (prepare t a).toOption.map (fun batch =>
      (batch.1.map RuleSet.name, batch.2.files)) =
        some (["first", "third"], [⟨"lib/a.ts"⟩]) := by decide +kernel
  obtain ⟨⟨sets, found⟩, hok, hbatch⟩ := toOption_map_eq_some_iff.mp hprepared
  obtain ⟨hnames, hfiles⟩ := Prod.mk.inj hbatch
  obtain ⟨c, all, -, hcompile, hwalked, hchosen, -, hagain, -⟩ := prepared_has_work hok
  exact ⟨hparse, sets, found, c, all, hok, hnames, hfiles, hcompile, hwalked, hchosen,
    hagain ["first", "third"] same⟩

end Program

end Codemod
