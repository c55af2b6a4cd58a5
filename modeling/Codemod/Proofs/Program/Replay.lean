import Codemod.Proofs.Program.Startup

/-! Running a command again for a file that it changed.
What is printed about such a file are the names of the rule sets that changed it. The same command
with these names selected does the same to the file, unless a name cannot be given because it
holds a comma. -/

namespace Codemod

namespace CommandLine

/-- Arguments with further names of rule sets, before the others. -/
def withOnly (names : List String) (a : BatchArgs) : BatchArgs :=
  { a with only := names ++ a.only }

/-- Names that were given before do not matter to how the arguments after them are read. -/
theorem batchArgs_withOnly (names : List String) (fuel : Nat) (a : BatchArgs)
    (words : List String) :
    batchArgs fuel (withOnly names a) words =
      (batchArgs fuel a words).map (Option.map (withOnly names)) := by
  fun_induction batchArgs fuel a words <;> simp_all [batchArgs, withOnly]

theorem commaSeparated_intercalate {names : List String} (hne : names ≠ [])
    (h : ∀ name ∈ names, ',' ∉ name.toList) :
    commaSeparated (",".intercalate names) = names := by
  have hsplit : List.splitOn ',' ([','].intercalate (names.map String.toList)) =
      names.map String.toList :=
    List.splitOn_intercalate ',' (by simpa using h) (by simpa using hne)
  have hcomma : ",".toList = [','] := rfl
  rw [commaSeparated, String.toList_intercalate, hcomma, hsplit, List.map_map]
  simp [Function.comp_def]

theorem ofString_only (value : String) :
    Word.ofString ("--only=" ++ value) = .long "only" (some value) := by
  have htext : ("--only=" ++ value).toList =
      '-' :: '-' :: 'o' :: 'n' :: 'l' :: 'y' :: '=' :: value.toList := by
    simp
  simp [Word.ofString, htext, List.dropWhile, List.takeWhile]

theorem parse_of_batch {command : String} {words : List String} {check : Bool} {a : BatchArgs}
    (h : parse (command :: words) = some (.batch check a)) :
    ∃ check, ∀ words, parse (command :: words) = batch check words := by
  unfold parse at h
  split at h
  case h_1 => cases h
  case h_2 arg rest heq =>
    obtain ⟨rfl, rfl⟩ := List.cons.inj heq
    split at h
    case h_1 hword => exact ⟨false, fun words => by simp [parse, hword]⟩
    case h_2 hword => exact ⟨true, fun words => by simp [parse, hword]⟩
    case h_3 =>
      obtain ⟨config?, -, hrules⟩ := Option.map_eq_some_iff.mp h
      cases config? <;> cases hrules
    case h_4 =>
      split at h
      · cases h
      · split_ifs at h
        cases h
      · cases h
    all_goals cases h

section Only

variable {names : List String} (hne : names ≠ []) (hcomma : ∀ name ∈ names, ',' ∉ name.toList)
include hne hcomma

/-- The option is read before the arguments that follow it. -/
theorem batchArgs_only (fuel : Nat) (words : List String) :
    batchArgs (fuel + 1) {} (("--only=" ++ ",".intercalate names) :: words) =
      (batchArgs fuel {} words).map (Option.map (withOnly names)) := by
  have hfirst : withOnly names {} =
      { only := [] ++ commaSeparated (",".intercalate names) } := by
    rw [commaSeparated_intercalate hne hcomma]
    simp [withOnly]
  rw [batchArgs, ofString_only, ← batchArgs_withOnly, hfirst]
  rfl

theorem batch_only {check : Bool} {words : List String} {i : Invocation}
    (h : batch check words = some i) :
    batch check (("--only=" ++ ",".intercalate names) :: words) =
      some (match i with
        | .batch check a => .batch check (withOnly names a)
        | i => i) := by
  rw [batch, Option.map_eq_some_iff] at h
  obtain ⟨args?, hargs, rfl⟩ := h
  rw [batch, List.length_cons, batchArgs_only hne hcomma, hargs]
  cases args? <;> rfl

theorem parse_only {command : String} {words : List String} {check : Bool} {a : BatchArgs}
    (h : parse (command :: words) = some (.batch check a)) :
    parse (command :: ("--only=" ++ ",".intercalate names) :: words) =
      some (.batch check (withOnly names a)) := by
  obtain ⟨check', hparse⟩ := parse_of_batch h
  rw [hparse] at h ⊢
  rw [batch_only hne hcomma h]

end Only

end CommandLine

namespace Batch

open FileTree

variable {t : FileTree} {paths : List Path}

theorem process_path {σ : Type} (store : Store σ) (sets : List RuleSet) (o : Options) (p : Path)
    (s : σ) : (process store sets o p s).1.path = p := by
  rw [process]
  cases readSource store p s <;> rfl

/-- Each file holds in the end what it holds after its own path was processed. -/
theorem get?_run_disk (ht : t.WellFormed) {c : Candidates} (hfiles : Independent t c.files)
    (sets : List RuleSet) (o : Options) (schedule : Schedule) {p : Path} (hp : p ∈ c.files)
    {loc : Location} (hleads : t.LeadsToFile p loc) :
    (run Store.disk sets o schedule c t).2.get? loc =
      (process Store.disk sets o p t).2.get? loc := by
  obtain ⟨r, consistent, complete, hrun⟩ := exists_consistent_run ht hfiles sets o schedule
  have hafter : (run Store.disk sets o schedule c t).2 = r.state := congrArg Prod.snd hrun
  have hprocess (event : Event) (s : FileTree)
      (h : finish Store.disk sets o p (readSource Store.disk p t) t = (event, s)) :
      process Store.disk sets o p t = (event, s) := h
  obtain ⟨event, ⟨hquiet, hfinish⟩ | ⟨hchanged, loc', entry, hrevises, hfinish⟩⟩ :=
    finish_cases ht (hfiles.clear p hp) sets o
  · have halone := hprocess event t (hfinish t (.refl t))
    rw [hafter, halone]
    apply consistent.get?_of_kept complete
    intro q hq hchanged hother
    obtain rfl := eq_of_pairwise_apart hfiles.apart hp hq hleads hother
    rw [halone] at hchanged
    exact hquiet hchanged
  · have halone := hprocess event _ (hfinish t (.refl t))
    obtain rfl := hleads.unique hrevises.leadsToFile
    have htop : loc ≠ [] := by
      rintro rfl
      obtain ⟨bytes, mode, hfile⟩ := hleads.2
      cases hfile
    have hresult : (process Store.disk sets o p t).1.result = .changed := by
      rw [halone]
      exact hchanged
    rw [hafter, halone, consistent.get?_of_changed complete hp hresult hrevises,
      get?_put _ _ htop, if_pos rfl]

end Batch

namespace Program

open FileTree Batch Pipeline

/-- Arguments with other names of rule sets. -/
def reselect (names : List String) (a : BatchArgs) : BatchArgs :=
  { a with only := names }

/-- The same files are processed again, by those of the rule sets that have the names. -/
theorem prepare_reselect {t : FileTree} {a : BatchArgs} {sets : List RuleSet} {found : Candidates}
    (h : prepare t a = .ok (sets, found)) {names : List String} (hne : names ≠ [])
    (hknown : ∀ name ∈ names, name ∈ sets.map RuleSet.name) :
    prepare t (reselect names a) = .ok (named names sets, found) := by
  obtain ⟨c, all, hconfig, husable, hcompile, hselect, hfound⟩ := prepare_eq_ok_iff.mp h
  exact prepare_eq_ok_iff.mpr ⟨c, all, hconfig, husable, hcompile,
    selectRuleSets_again hselect hne hknown, hfound⟩

section Run

variable {t : FileTree} {check : Bool} {c : Candidates}
  (hfiles : check ∨ t.WellFormed ∧ Independent t c.files)
include hfiles

/-- Each path has the event that it has alone. -/
theorem run_storeOf_fst (sets : List RuleSet) (o : Options) (schedule : Schedule) :
    (Batch.run (storeOf check) sets o schedule c t).1 =
      c.unreadable.map Event.failed ++
        c.files.map fun p => (process (storeOf check) sets o p t).1 := by
  cases check with
  | true => exact congrArg Prod.fst (run_dryRun sets o schedule c t)
  | false =>
    obtain ⟨ht, hindependent⟩ := hfiles.resolve_left Bool.false_ne_true
    exact run_disk_fst ht hindependent sets o schedule

/-- Each file holds in the end what it holds after its own path was processed. -/
theorem get?_run_storeOf (sets : List RuleSet) (o : Options) (schedule : Schedule) {p : Path}
    (hp : p ∈ c.files) {loc : Location} (hleads : t.LeadsToFile p loc) :
    (Batch.run (storeOf check) sets o schedule c t).2.get? loc =
      (process (storeOf check) sets o p t).2.get? loc := by
  cases check with
  | true =>
    have hrun : (Batch.run (storeOf true) sets o schedule c t).2 = t :=
      congrArg Prod.snd (run_dryRun sets o schedule c t)
    have hprocess : (process (storeOf true) sets o p t).2 = t :=
      process_still Store.still_dryRun p t
    rw [hrun, hprocess]
  | false =>
    obtain ⟨ht, hindependent⟩ := hfiles.resolve_left Bool.false_ne_true
    exact get?_run_disk ht hindependent sets o schedule hp hleads

/-- An event with applied sets is the same if only these are selected, and so is the file. -/
theorem run_storeOf_named {sets : List RuleSet} {o : Options} {schedule : Schedule} {i : Nat}
    {e : Event} (h : (Batch.run (storeOf check) sets o schedule c t).1[i]? = some e)
    (hne : e.applied ≠ []) (schedule' : Schedule) :
    (Batch.run (storeOf check) (named e.applied sets) o schedule' c t).1[i]? = some e ∧
      ∀ loc, t.LeadsToFile e.path loc →
        (Batch.run (storeOf check) (named e.applied sets) o schedule' c t).2.get? loc =
          (Batch.run (storeOf check) sets o schedule c t).2.get? loc := by
  rw [run_storeOf_fst hfiles] at h ⊢
  rw [List.getElem?_append] at h ⊢
  split_ifs at h ⊢ with hbefore
  · obtain ⟨cause, -, rfl⟩ := List.mem_map.mp (List.mem_of_getElem? h)
    exact absurd rfl hne
  · rw [List.getElem?_map, Option.map_eq_some_iff] at h
    obtain ⟨p, hitem, rfl⟩ := h
    have hp := List.mem_of_getElem? hitem
    have hsame : process (storeOf check)
        (named (process (storeOf check) sets o p t).1.applied sets) o p t =
        process (storeOf check) sets o p t := process_named fun name hname => hname
    refine ⟨?_, fun loc hleads => ?_⟩
    · rw [List.getElem?_map, hitem, Option.map_some, hsame]
    · rw [process_path] at hleads
      rw [get?_run_storeOf hfiles _ o schedule' hp hleads,
        get?_run_storeOf hfiles _ o schedule hp hleads, hsame]

end Run

theorem applied_known {σ : Type} (store : Store σ) (sets : List RuleSet) (o : Options) (p : Path)
    (s : σ) : ∀ name ∈ (process store sets o p s).1.applied, name ∈ sets.map RuleSet.name := by
  rw [process]
  cases readSource store p s with
  | error cause => simp [finish]
  | ok text =>
    rw [finish_ok]
    exact fun name hname => mem_names_of_mem_revise hname

theorem applied_known_of_event {t : FileTree} {check : Bool} {c : Candidates}
    (hfiles : check ∨ t.WellFormed ∧ Independent t c.files) {sets : List RuleSet} {o : Options}
    {schedule : Schedule} {i : Nat} {e : Event}
    (h : (Batch.run (storeOf check) sets o schedule c t).1[i]? = some e) :
    ∀ name ∈ e.applied, name ∈ sets.map RuleSet.name := by
  rw [run_storeOf_fst hfiles] at h
  rcases List.mem_append.mp (List.mem_of_getElem? h) with hbefore | hfile
  · obtain ⟨cause, -, rfl⟩ := List.mem_map.mp hbefore
    simp [Event.failed]
  · obtain ⟨p, -, rfl⟩ := List.mem_map.mp hfile
    exact applied_known (storeOf check) sets o p t

/-- For the sets of every catalog, those that changed a file can be selected, and do the same to the
file again. In a batch that is so for each file, whatever state it is processed in. The file has the
same event and the same content in the end of the whole batch, if nothing is written or the files do
not concern each other, in whatever order the workers of the two batches take their turns. The
command line for that batch has the names as one more word, if it has no others and no name holds a
comma. -/
theorem applied_replay (t : FileTree) :
    (∀ defs sets, Catalog.compile defs = .ok sets → ∀ path content,
      ∃ selected, selectRuleSets sets (revise sets (.ofContent path content)).2 = .ok selected ∧
        revise selected (.ofContent path content) = revise sets (.ofContent path content)) ∧
    ∀ a sets found, prepare t a = .ok (sets, found) →
      (∀ (σ : Type) (store : Store σ) o p s, (process store sets o p s).1.applied ≠ [] →
        ∃ selected,
          prepare t (reselect (process store sets o p s).1.applied a) = .ok (selected, found) ∧
          process store selected o p s = process store sets o p s) ∧
      ∀ check : Bool, (check ∨ t.WellFormed ∧ Independent t found.files) →
        ∀ (schedule : Schedule) (i : Nat) (e : Event),
          (Batch.run (storeOf check) sets ⟨a.parallel, check⟩ schedule found t).1[i]? = some e →
          e.applied ≠ [] →
          (∀ command words, CommandLine.parse (command :: words) = some (.batch check a) →
            a.only = [] → (∀ name ∈ e.applied, ',' ∉ name.toList) →
            CommandLine.parse (command :: ("--only=" ++ ",".intercalate e.applied) :: words) =
              some (.batch check (reselect e.applied a))) ∧
          ∃ selected, prepare t (reselect e.applied a) = .ok (selected, found) ∧
            ∀ schedule' : Schedule,
              (Batch.run (storeOf check) selected ⟨a.parallel, check⟩ schedule' found t).1[i]? =
                  some e ∧
                ∀ loc, t.LeadsToFile e.path loc →
                  (runBatch schedule' check (reselect e.applied a) t).2.get? loc =
                    (runBatch schedule check a t).2.get? loc := by
  refine ⟨?_, ?_⟩
  · intro defs sets _ path content
    by_cases hne : (revise sets (.ofContent path content)).2 = []
    · exact ⟨sets, by rw [hne, selectRuleSets_nil], rfl⟩
    · exact ⟨_, selectRuleSets_of_known hne fun name => mem_names_of_mem_revise,
        revise_named fun name hname => hname⟩
  · intro a sets found h
    refine ⟨?_, ?_⟩
    · intro σ store o p s hne
      exact ⟨_, prepare_reselect h hne (applied_known store sets o p s),
        process_named fun name hname => hname⟩
    · intro check hfiles schedule i e hevent hne
      have hagain := prepare_reselect h hne (applied_known_of_event hfiles hevent)
      refine ⟨?_, _, hagain, fun schedule' => ?_⟩
      · intro command words hparse honly hcomma
        rw [CommandLine.parse_only hne hcomma hparse]
        simp [CommandLine.withOnly, reselect, honly]
      · rw [runBatch_of_prepared hagain, runBatch_of_prepared h]
        exact run_storeOf_named hfiles hevent hne schedule'

/-- One of two sets changes the file. -/
theorem applied_replay_one :
    let idle := "\x7bname = 'idle', rules = [\x7bfind = 'q', replace = ''\x7d]\x7d"
    let shorten := "\x7bname = 'shorten', rules = [\x7bfind = 'x', replace = ''\x7d]\x7d"
    let config := "rule_sets = [" ++ idle ++ ", " ++ shorten ++ "]"
    let t : FileTree := ⟨[(["srcfix.toml"], .file (Utf8.encode config.toList) 0o644),
      (["src"], .dir), (["src", "a.ts"], .file (Utf8.encode "xy".toList) 0o644)], [], {}⟩
    let a : BatchArgs := { parallel := true }
    let e : Event := { path := ⟨"src/a.ts"⟩, result := .changed, applied := ["shorten"] }
    let defs : List RuleSetDef := [{ name := "idle", rules := [{ find := "q", replace := "" }] },
      { name := "shorten", rules := [{ find := "x", replace := "" }] }]
    let f : SourceFile := .ofContent ⟨"src/a.ts"⟩ "xy".toList
    (∃ all selected, Catalog.compile defs = .ok all ∧
      selectRuleSets all ["shorten"] = .ok selected ∧ revise selected f = revise all f) ∧
      CommandLine.parse ["run", "--parallel"] = some (.batch false a) ∧
      CommandLine.parse ["run", "--only=shorten", "--parallel"] =
        some (.batch false (reselect ["shorten"] a)) ∧
      t.LeadsToFile ⟨"src/a.ts"⟩ ["src", "a.ts"] ∧
      (runBatch .allRead false (reselect ["shorten"] a) t).2.get? ["src", "a.ts"] =
        (runBatch .lastFirst false a t).2.get? ["src", "a.ts"] ∧
      ∃ sets found selected, Independent t found.files ∧
        prepare t a = .ok (sets, found) ∧ sets.length = 2 ∧
        (Batch.run (storeOf false) sets ⟨true, false⟩ .lastFirst found t).1[0]? = some e ∧
        prepare t (reselect ["shorten"] a) = .ok (selected, found) ∧
        (Batch.run (storeOf false) selected ⟨true, false⟩ .allRead found t).1[0]? = some e := by
  intro idle shorten config t a e defs f
  obtain ⟨hcatalog, hbatch⟩ := applied_replay t
  obtain ⟨all, hall⟩ : ∃ all, Catalog.compile defs = .ok all := ⟨_, rfl⟩
  have happlied : (revise all f).2 = ["shorten"] := by
    obtain rfl := Except.ok.inj hall
    decide +kernel
  obtain ⟨kept, hkept, hsame⟩ := hcatalog defs all hall ⟨"src/a.ts"⟩ "xy".toList
  have hparse : CommandLine.parse ["run", "--parallel"] = some (.batch false a) := by
    decide +kernel
  have hformed : t.WellFormed := by decide +kernel
  have hleads : t.LeadsToFile ⟨"src/a.ts"⟩ ["src", "a.ts"] :=
    ⟨by decide +kernel, _, _, rfl⟩
  have hprepared : (prepare t a).toOption.map (fun batch => (batch.1.length, batch.2.files,
      (Batch.run (storeOf false) batch.1 ⟨true, false⟩ .lastFirst batch.2 t).1[0]?)) =
        some (2, [⟨"src/a.ts"⟩], some e) := by decide +kernel
  obtain ⟨⟨sets, found⟩, hok⟩ : ∃ batch, prepare t a = .ok batch := by
    refine (fails_or_ok (prepare t a)).resolve_left fun hfails => ?_
    obtain ⟨cause, hcause⟩ := hfails
    simp [hcause, Except.toOption] at hprepared
  simp only [hok, Except.toOption, Option.map_some, Option.some.injEq, Prod.mk.injEq] at hprepared
  obtain ⟨hlength, hfiles, hevent⟩ := hprepared
  have hindependent : Independent t found.files := by
    rw [hfiles]
    decide +kernel
  obtain ⟨-, hcommand⟩ := hbatch a sets found hok
  obtain ⟨hreplay, selected, hok', hagain⟩ :=
    hcommand false (.inr ⟨hformed, hindependent⟩) .lastFirst 0 e hevent (List.cons_ne_nil _ _)
  obtain ⟨hevent', hloc⟩ := hagain .allRead
  have hparse' := hreplay "run" ["--parallel"] hparse rfl (by decide)
  exact ⟨⟨all, _, hall, happlied ▸ hkept, hsame⟩, hparse, hparse', hleads, hloc _ hleads, sets,
    found, selected, hindependent, hok, hlength, hevent, hok', hevent'⟩

/-- A name with a comma is printed, but is read back as two names, so that the command fails. And a
file that is found twice can be changed twice, by one set each time, of which neither does alone
what both do. -/
theorem applied_not_replayed :
    let comma := "\x7bname = 'a,b', rules = [\x7bfind = 'x', replace = 'y'\x7d]\x7d"
    let late := "\x7bname = 'late', rules = [\x7bfind = 'y', replace = 'z'\x7d]\x7d"
    let early := "\x7bname = 'early', rules = [\x7bfind = 'x', replace = 'y'\x7d]\x7d"
    let tree (ruleSets : String) : FileTree :=
      let config := "rule_sets = [" ++ ruleSets ++ "]"
      ⟨[(["srcfix.toml"], .file (Utf8.encode config.toList) 0o644), (["src"], .dir),
        (["src", "x.ts"], .file (Utf8.encode "x".toList) 0o644)], [], {}⟩
    let content (t : FileTree) := t.get? ["src", "x.ts"]
    let command (words : List String) (t : FileTree) :=
      (CommandLine.parse words).map fun i =>
        ((execute .inOrder i t).1, content (execute .inOrder i t).2)
    let entry (text : String) : Entry := .file (Utf8.encode text.toList) 0o644
    command ["run"] (tree comma) =
        some (⟨0, "changed: src/x.ts (a,b)\nsummary: changed=1 unchanged=0 failed=0\n", none⟩,
          some (entry "y")) ∧
      command ["run", "--only=a,b"] (tree comma) =
        some (⟨1, "", some "unknown rule set 'a'"⟩, some (entry "x")) ∧
      command ["run", ".", "src"] (tree (late ++ ", " ++ early)) =
        some (⟨0, "changed: ./src/x.ts (early)\nchanged: src/x.ts (late)\n" ++
          "summary: changed=2 unchanged=0 failed=0\n", none⟩, some (entry "z")) ∧
      (command ["run", "--only=early", ".", "src"] (tree (late ++ ", " ++ early))).map Prod.snd =
        some (some (entry "y")) ∧
      (command ["run", "--only=late", ".", "src"] (tree (late ++ ", " ++ early))).map Prod.snd =
        some (some (entry "x")) := by
  decide +kernel

end Program

end Codemod
