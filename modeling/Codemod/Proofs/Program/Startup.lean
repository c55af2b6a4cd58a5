import Codemod.Proofs.Batch.Selection
import Codemod.Proofs.Catalog.Compiled
import Codemod.Proofs.Program.Check
import Codemod.Proofs.Walk.Reach

/-! What stops a command before it has any effect.
Every command loads a configuration and compiles its catalog; a batch then selects rule sets and
collects files. Each of these steps fails just if something is wrong with what it is given, and a
command with something wrong prints and writes nothing. Without that, the only reason to exit
with 1 is a file that failed. -/

namespace Codemod

namespace FileTree

theorem fails_candidates_iff {t : FileTree} {roots : List Path}
    {extensions excluded : List String} :
    Fails (t.candidates roots extensions excluded) ↔ ∃ root ∈ roots, ¬ t.exists? root := by
  simp only [Fails, candidates, collect_eq_error_iff, ← Option.isSome_iff_exists,
    List.find?_isSome, Bool.not_eq_true']
  simp

/-- A file that holds no configuration, or one that cannot be used. -/
inductive ConfigDefect (t : FileTree) (p : Path) : Prop
  | unreadable (failed : Fails (t.readFile p))
  | notText {bytes : List UInt8} (read : t.readFile p = .ok bytes)
      (failed : Fails (Utf8.decode bytes))
  | malformed {bytes : List UInt8} {source : List Char} (read : t.readFile p = .ok bytes)
      (decoded : Utf8.decode bytes = .ok source)
      (rejected : (Toml.parse source).bind Config.ofTable? = none)
  | unusable {bytes : List UInt8} {source : List Char} {c : Config}
      (read : t.readFile p = .ok bytes) (decoded : Utf8.decode bytes = .ok source)
      (parsed : (Toml.parse source).bind Config.ofTable? = some c) (problem : c.problem?.isSome)

theorem fails_readConfig_iff {t : FileTree} {p : Path} :
    Fails (t.readConfig p) ↔ t.ConfigDefect p := by
  constructor
  · intro h
    rw [readConfig] at h
    split at h
    case h_1 cause hread => exact .unreadable ⟨cause, hread⟩
    case h_2 bytes hread =>
      split at h
      case h_1 cause hdecode => exact .notText hread ⟨cause, hdecode⟩
      case h_2 source hdecode =>
        rw [Config.parse] at h
        split at h
        case h_1 hparse => exact .malformed hread hdecode hparse
        case h_2 c hparse =>
          split at h
          case h_1 problem hproblem =>
            exact .unusable hread hdecode hparse (Option.isSome_of_eq_some hproblem)
          case h_2 => exact absurd h (not_fails_ok c)
  · rintro (⟨cause, hread⟩ | ⟨hread, cause, hdecode⟩ | ⟨hread, hdecode, hparse⟩ |
      ⟨hread, hdecode, hparse, hproblem⟩)
    · simp [readConfig, hread]
    · simp [readConfig, hread, hdecode]
    · simp [readConfig, hread, hdecode, Config.parse, hparse]
    · obtain ⟨problem, hproblem⟩ := Option.isSome_iff_exists.mp hproblem
      simp [readConfig, hread, hdecode, Config.parse, hparse, hproblem]

end FileTree

namespace Program

open FileTree

/-- The configuration that a command is given, or finds. -/
def loaded (t : FileTree) (config? : Option String) : Except ConfigError Config :=
  t.loadConfig (config?.map Path.mk) (absolute t.cwd)

/-- The file that a command reads its configuration from, if there is one. -/
def configFile? (t : FileTree) (config? : Option String) : Option Path :=
  match config? with
  | some p => some ⟨p⟩
  | none =>
    let found := (absolute t.cwd).join configName
    if t.exists? found then some found else none

theorem fails_loaded_iff {t : FileTree} {config? : Option String} :
    Fails (loaded t config?) ↔ ∃ p, configFile? t config? = some p ∧ t.ConfigDefect p := by
  cases config? with
  | some p => simp [loaded, loadConfig, configFile?, fails_readConfig_iff]
  | none =>
    simp only [loaded, loadConfig, configFile?, Option.map_none]
    split_ifs with h
    · simp [fails_readConfig_iff]
    · simp [Config.parse_builtinText]

/-- Something is wrong with a command before any file is processed. -/
inductive StartDefect (t : FileTree) : Invocation → Prop
  | config {check : Bool} {a : BatchArgs} {p : Path} (used : configFile? t a.config? = some p)
      (defect : t.ConfigDefect p) : StartDefect t (.batch check a)
  | unusable {check : Bool} {a : BatchArgs} {c : Config} (config : loaded t a.config? = .ok c)
      (problem : (override c a).problem?.isSome) : StartDefect t (.batch check a)
  | catalog {check : Bool} {a : BatchArgs} {c : Config} (config : loaded t a.config? = .ok c)
      (defective : Catalog.Defective c.ruleSets) : StartDefect t (.batch check a)
  | unknownRuleSet {check : Bool} {a : BatchArgs} {c : Config} {name : String}
      (config : loaded t a.config? = .ok c) (selected : name ∈ a.only)
      (unknown : name ∉ c.ruleSets.map RuleSetDef.trimmedName) : StartDefect t (.batch check a)
  | missingRoot {check : Bool} {a : BatchArgs} {c : Config} {root : String}
      (config : loaded t a.config? = .ok c) (used : root ∈ (override c a).files.roots)
      (missing : ¬ t.exists? ⟨root⟩) : StartDefect t (.batch check a)
  | rulesConfig {config? : Option String} {p : Path} (used : configFile? t config? = some p)
      (defect : t.ConfigDefect p) : StartDefect t (.rules config?)
  | rulesCatalog {config? : Option String} {c : Config} (config : loaded t config? = .ok c)
      (defective : Catalog.Defective c.ruleSets) : StartDefect t (.rules config?)

theorem prepare_of_unloaded {t : FileTree} {a : BatchArgs} {cause : ConfigError}
    (h : loaded t a.config? = .error cause) : prepare t a = .error (.config cause) := by
  rw [loaded] at h
  simp only [prepare, h]
  rfl

section Loaded

variable {t : FileTree} {a : BatchArgs} {c : Config} (h : loaded t a.config? = .ok c)
include h

theorem prepare_of_problem {problem : ConfigProblem}
    (hproblem : (override c a).problem? = some problem) :
    prepare t a = .error (.unusable problem) := by
  rw [loaded] at h
  simp only [prepare, h, Except.mapError, bind, Except.bind, hproblem]
  rfl

theorem prepare_of_usable (husable : (override c a).problem? = none) :
    prepare t a = do
      let all ← compile c
      let sets ← (selectRuleSets all a.only).mapError .unknownRuleSet
      let found ← (t.candidates ((override c a).files.roots.map Path.mk)
        (override c a).files.extensions c.files.excludeDirs).mapError .missingRoot
      return (sets, found) := by
  rw [loaded] at h
  simp only [prepare, h, Except.mapError, bind, Except.bind, husable]
  rfl

theorem fails_prepare_of_loaded :
    Fails (prepare t a) ↔ (override c a).problem?.isSome ∨ Catalog.Defective c.ruleSets ∨
      (∃ name ∈ a.only, name ∉ c.ruleSets.map RuleSetDef.trimmedName) ∨
      ∃ root ∈ (override c a).files.roots, ¬ t.exists? ⟨root⟩ := by
  cases hproblem : (override c a).problem? with
  | some problem => simp [prepare_of_problem h hproblem]
  | none =>
    have collecting (sets : List RuleSet) : Fails (do
        let found ← (t.candidates ((override c a).files.roots.map Path.mk)
          (override c a).files.extensions c.files.excludeDirs).mapError StartError.missingRoot
        return (sets, found)) ↔ ∃ root ∈ (override c a).files.roots, ¬ t.exists? ⟨root⟩ := by
      rw [fails_bind_pure_iff, fails_mapError, fails_candidates_iff]
      simp
    rw [prepare_of_usable h hproblem, compile, fails_bind_iff_or, fails_mapError,
      Catalog.fails_compile_iff, Option.isSome_none, or_iff_right Bool.false_ne_true]
    intro all hall
    rw [fails_bind_iff_or fun sets _ => collecting sets, fails_mapError, fails_selectRuleSets_iff,
      Catalog.names_of_compile (mapError_eq_ok_iff.mp hall)]

end Loaded

theorem prepare_eq_ok_iff {t : FileTree} {a : BatchArgs} {sets : List RuleSet}
    {found : Candidates} :
    prepare t a = .ok (sets, found) ↔ ∃ c all, loaded t a.config? = .ok c ∧
      (override c a).problem? = none ∧ Catalog.compile c.ruleSets = .ok all ∧
      selectRuleSets all a.only = .ok sets ∧
      t.candidates ((override c a).files.roots.map Path.mk) (override c a).files.extensions
        c.files.excludeDirs = .ok found := by
  cases hconfig : loaded t a.config? with
  | error cause => simp [prepare_of_unloaded hconfig]
  | ok c =>
    cases hproblem : (override c a).problem? with
    | some problem => simp [prepare_of_problem hconfig hproblem, hproblem]
    | none =>
      simp only [prepare_of_usable hconfig hproblem, bind_eq_ok_iff, mapError_eq_ok_iff, compile]
      constructor
      · rintro ⟨all, hall, selected, hselected, files, hfiles, h⟩
        obtain ⟨rfl, rfl⟩ := Prod.mk.inj (Except.ok.inj h)
        exact ⟨c, all, rfl, hproblem, hall, hselected, hfiles⟩
      · rintro ⟨c', all, hc, -, hall, hselected, hfiles⟩
        obtain rfl := Except.ok.inj hc
        exact ⟨all, hall, sets, hselected, found, hfiles, rfl⟩

/-- A batch does not get as far as its files just if something is wrong with it. -/
theorem fails_prepare_iff {t : FileTree} {a : BatchArgs} (check : Bool) :
    Fails (prepare t a) ↔ StartDefect t (.batch check a) := by
  cases hconfig : loaded t a.config? with
  | error cause =>
    obtain ⟨p, used, defect⟩ := fails_loaded_iff.mp ⟨cause, hconfig⟩
    exact iff_of_true ⟨_, prepare_of_unloaded hconfig⟩ (.config used defect)
  | ok c =>
    rw [fails_prepare_of_loaded hconfig]
    constructor
    · rintro (problem | defective | ⟨name, selected, unknown⟩ | ⟨root, used, missing⟩)
      · exact .unusable hconfig problem
      · exact .catalog hconfig defective
      · exact .unknownRuleSet hconfig selected unknown
      · exact .missingRoot hconfig used missing
    · intro h
      cases h with
      | config used defect =>
        obtain ⟨cause, hcause⟩ := fails_loaded_iff.mpr ⟨_, used, defect⟩
        cases hconfig.symm.trans hcause
      | unusable config problem =>
        obtain rfl := Except.ok.inj (hconfig.symm.trans config)
        exact .inl problem
      | catalog config defective =>
        obtain rfl := Except.ok.inj (hconfig.symm.trans config)
        exact .inr (.inl defective)
      | unknownRuleSet config selected unknown =>
        obtain rfl := Except.ok.inj (hconfig.symm.trans config)
        exact .inr (.inr (.inl ⟨_, selected, unknown⟩))
      | missingRoot config used missing =>
        obtain rfl := Except.ok.inj (hconfig.symm.trans config)
        exact .inr (.inr (.inr ⟨_, used, missing⟩))

/-- The rule sets that `rules` lists. -/
def listing (t : FileTree) (config? : Option String) : Except StartError (List RuleSet) := do
  let c ← (loaded t config?).mapError .config
  compile c

theorem fails_listing_iff {t : FileTree} {config? : Option String} :
    Fails (listing t config?) ↔ StartDefect t (.rules config?) := by
  rw [listing, fails_bind_iff, fails_mapError, fails_loaded_iff]
  simp only [mapError_eq_ok_iff, compile, fails_mapError, Catalog.fails_compile_iff]
  constructor
  · rintro (⟨p, used, defect⟩ | ⟨c, config, defective⟩)
    · exact .rulesConfig used defect
    · exact .rulesCatalog config defective
  · intro h
    cases h with
    | rulesConfig used defect => exact .inl ⟨_, used, defect⟩
    | rulesCatalog config defective => exact .inr ⟨_, config, defective⟩

theorem listRules_eq (config? : Option String) (t : FileTree) :
    listRules config? t =
      match listing t config? with
      | .error e => failure e
      | .ok sets =>
        { exit := 0, stdout := Console.unlines (sets.mapIdx fun i s => ruleSetLine (i + 1) s) } :=
  rfl

theorem exit_report_eq_one_iff (check : Bool) (events : List Event) :
    (report check events).exit = 1 ↔ ∃ e ∈ events, e.result.isFailed := by
  have counted : 0 < (Summary.ofEvents events).failed ↔ ∃ e ∈ events, e.result.isFailed := by
    rw [Summary.ofEvents_eq, List.countP_pos_iff]
  rw [report, exitCode, ← counted]
  split_ifs <;> simp_all

theorem execute_of_defect {i : Invocation} {t : FileTree} (h : StartDefect t i)
    (schedule : Batch.Schedule) : ∃ e, execute schedule i t = (failure e, t) := by
  cases i with
  | batch check a =>
    obtain ⟨e, he⟩ := (fails_prepare_iff check).mpr h
    exact ⟨e, runBatch_of_error he schedule check⟩
  | rules config? =>
    obtain ⟨e, he⟩ := fails_listing_iff.mpr h
    refine ⟨e, ?_⟩
    rw [execute, listRules_eq, he]
  | help => cases h
  | version => cases h

/-- A command with something wrong exits with 1 and a message, and prints and writes nothing. One
defective definition is enough, wherever in the catalog it stands and whichever rule sets are
selected. A command with nothing wrong has no message, and exits with 1 just if it is a batch and
a file of it failed. That is so in whatever order the workers of a batch take their turns. -/
theorem start_defect (schedule : Batch.Schedule) (i : Invocation) (t : FileTree) :
    let done := execute schedule i t
    (StartDefect t i →
      done.1.exit = 1 ∧ done.1.stdout = "" ∧ done.1.error? ≠ none ∧ done.2 = t) ∧
    (∀ check a c, i = .batch check a → loaded t a.config? = .ok c →
      (∃ d ∈ c.ruleSets, d.Defective) → StartDefect t i ∧ done.2 = t) ∧
    (¬ StartDefect t i → done.1.error? = none ∧
      (done.1.exit = 1 ↔ ∃ check a sets found, i = .batch check a ∧
        prepare t a = .ok (sets, found) ∧
        ∃ e ∈ (Batch.run (storeOf check) sets ⟨a.parallel, check⟩ schedule found t).1,
          e.result.isFailed)) := by
  intro done
  have stopped (h : StartDefect t i) :
      done.1.exit = 1 ∧ done.1.stdout = "" ∧ done.1.error? ≠ none ∧ done.2 = t := by
    obtain ⟨e, he⟩ : ∃ e, done = (failure e, t) := execute_of_defect h schedule
    simp [he, failure]
  refine ⟨stopped, ?_, fun h => ?_⟩
  · rintro check a c rfl config hdefective
    have h : StartDefect t (.batch check a) := .catalog config (.inl hdefective)
    exact ⟨h, (stopped h).2.2.2⟩
  · cases i with
    | batch check a =>
      rcases fails_or_ok (prepare t a) with hfails | ⟨⟨sets, found⟩, hok⟩
      · exact absurd ((fails_prepare_iff check).mp hfails) h
      · have hdone : done = _ := runBatch_of_prepared hok schedule check
        rw [hdone, exit_report_eq_one_iff]
        refine ⟨rfl, ?_⟩
        constructor
        · exact fun hfailed => ⟨check, a, sets, found, rfl, hok, hfailed⟩
        · rintro ⟨check', a', sets', found', hi, hok', hfailed⟩
          obtain ⟨rfl, rfl⟩ := Invocation.batch.inj hi
          obtain ⟨rfl, rfl⟩ := Prod.mk.inj (Except.ok.inj (hok.symm.trans hok'))
          exact hfailed
    | rules config? =>
      rcases fails_or_ok (listing t config?) with hfails | ⟨sets, hok⟩
      · exact absurd (fails_listing_iff.mp hfails) h
      · simp [done, execute, listRules_eq, hok]
    | help => simp [done, execute]
    | version => simp [done, execute]

/-- The second rule set is malformed though only the first is selected; with another configuration
one file is no text. -/
theorem start_defect_unselected :
    let first := "rule_sets = [\x7bname = 'first', rules = [\x7bfind = 'x', replace = ''\x7d]\x7d"
    let second := ", \x7bname = 'second', rules = [\x7bpattern = '(', replace = ''\x7d]\x7d"
    let t : FileTree := ⟨[
      (["srcfix.toml"], .file (Utf8.encode (first ++ second ++ "]").toList) 0o644),
      (["good.toml"], .file (Utf8.encode (first ++ "]").toList) 0o644), (["src"], .dir),
      (["src", "a.ts"], .file (Utf8.encode "x".toList) 0o644),
      (["src", "b.ts"], .file [0xFF] 0o644)], [], {}⟩
    let only : Invocation := .batch false { only := ["first"] }
    let good : Invocation := .batch true { config? := some "good.toml", parallel := true }
    CommandLine.parse ["run", "--only", "first"] = some only ∧ StartDefect t only ∧
      (execute .lastFirst only t).1 =
        ⟨1, "", some "compile rule catalog: rule set 'second' rules[0]: invalid pattern"⟩ ∧
      (execute .lastFirst only t).2 = t ∧
      CommandLine.parse ["check", "-c", "good.toml", "--parallel"] = some good ∧
      ¬ StartDefect t good ∧
      (execute .lastFirst good t).1.exit = 1 ∧ (execute .lastFirst good t).1.error? = none := by
  intro first second t only good
  have hruns : CommandLine.parse ["run", "--only", "first"] = some only ∧
      (execute .lastFirst only t).1 =
        ⟨1, "", some "compile rule catalog: rule set 'second' rules[0]: invalid pattern"⟩ ∧
      CommandLine.parse ["check", "-c", "good.toml", "--parallel"] = some good ∧
      (execute .lastFirst good t).1.exit = 1 ∧
      loaded t none = .ok ⟨{}, [⟨"first", none, none, [⟨some "x", none, ""⟩]⟩,
        ⟨"second", none, none, [⟨none, some "(", ""⟩]⟩]⟩ := by decide +kernel
  obtain ⟨hparse, houtcome, hparse', hexit, hloaded⟩ := hruns
  have hmalformed : RuleSetDef.Defective ⟨"second", none, none, [⟨none, some "(", ""⟩]⟩ :=
    .rule (List.mem_singleton_self _) (.pattern rfl (by decide +kernel))
  obtain ⟨hdefect, -⟩ :=
    (start_defect .lastFirst only t).2.1 false { only := ["first"] } _ rfl hloaded
      ⟨_, by simp, hmalformed⟩
  obtain ⟨-, -, -, hkept⟩ := (start_defect .lastFirst only t).1 hdefect
  have hgood : ¬ StartDefect t good := by
    rw [← fails_prepare_iff true]
    decide +kernel
  exact ⟨hparse, hdefect, houtcome, hkept, hparse', hgood, hexit,
    ((start_defect .lastFirst good t).2.2 hgood).1⟩

end Program

end Codemod
