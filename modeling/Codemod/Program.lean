import Codemod.Batch.Workers
import Codemod.CommandLine
import Codemod.Config
import Codemod.Console

/-! The program: from a command line and a file tree to what is printed, how it exits and
the tree that it leaves. All that can fail before the first file is processed is done
before anything is printed or written. -/

namespace Codemod

/-- The file that is looked for in the working directory. -/
def configName : String := "srcfix.toml"

/-- Reads a configuration file. -/
def FileTree.readConfig (t : FileTree) (p : Path) : Except ConfigError Config :=
  match t.readFile p with
  | .error e => .error (.unreadable p.spelling e.message)
  | .ok bytes =>
    match Utf8.decode bytes with
    | .error _ => .error (.unreadable p.spelling IoError.notText.message)
    | .ok source => Config.parse p.spelling source

/-- The configuration of a given file; else of the one in a directory; else the built-in. -/
def FileTree.loadConfig (t : FileTree) (explicit? : Option Path) (dir : Path) :
    Except ConfigError Config :=
  match explicit? with
  | some p => t.readConfig p
  | none =>
    let found := dir.join configName
    if t.exists? found then t.readConfig found
    else Config.parse "built-in catalog" Catalog.builtinText.toList

/-- What stops the program before any file is processed. -/
inductive StartError where
  | config (cause : ConfigError)
  | unusable (problem : ConfigProblem)
  | catalog (cause : CatalogError)
  | unknownRuleSet (name : String)
  | missingRoot (root : Path)
deriving DecidableEq

namespace StartError

/-- A defect of a catalog, followed by its cause if that has a text of its own. -/
def catalogMessage (e : CatalogError) : String :=
  match e with
  | .ruleTemplate _ _ cause => e.message ++ ": " ++ cause.message
  | _ => e.message

def message : StartError → String
  | .config cause => cause.message
  | .unusable problem => problem.message
  | .catalog cause => "compile rule catalog: " ++ catalogMessage cause
  | .unknownRuleSet name => "unknown rule set '" ++ name ++ "'"
  | .missingRoot root => "root " ++ root.spelling ++ " does not exist"

end StartError

namespace Program

/-- How a run of the program ends. -/
structure Outcome where
  exit : Nat
  stdout : String := ""
  error? : Option String := none
deriving DecidableEq

/-- Roots and extensions of the command line replace those of the configuration. -/
def override (c : Config) (a : BatchArgs) : Config :=
  let roots := if a.roots.isEmpty then c.files.roots else a.roots
  let extensions := if a.extensions.isEmpty then c.files.extensions else a.extensions
  { c with files := { c.files with roots, extensions } }

def compile (c : Config) : Except StartError (List RuleSet) :=
  (Catalog.compile c.ruleSets).mapError .catalog

/-- The rule sets and files of a batch. -/
def prepare (t : FileTree) (a : BatchArgs) : Except StartError (List RuleSet × Candidates) := do
  let loaded ← (t.loadConfig (a.config?.map Path.mk) (FileTree.absolute t.cwd)).mapError .config
  let c := override loaded a
  if let some problem := c.problem? then throw (.unusable problem)
  let sets ← compile c
  let sets ← (selectRuleSets sets a.only).mapError .unknownRuleSet
  let found ← (t.candidates (c.files.roots.map Path.mk) c.files.extensions
    c.files.excludeDirs).mapError .missingRoot
  return (sets, found)

/-- A failed file counts more than files that would change. -/
def exitCode (check : Bool) (s : Summary) : Nat :=
  if 0 < s.failed then 1 else if check && 0 < s.changed then 2 else 0

def failure (e : StartError) : Outcome :=
  { exit := 1, error? := some e.message }

/-- Runs a batch; files that are processed at the same time follow a schedule. -/
def runBatch (schedule : Batch.Schedule) (check : Bool) (a : BatchArgs) (t : FileTree) :
    Outcome × FileTree :=
  match prepare t a with
  | .error e => (failure e, t)
  | .ok (sets, found) =>
    let store := if check then Store.dryRun else Store.disk
    let o : Batch.Options := { parallel := a.parallel, verify := check }
    let (summary, stdout, t) := Batch.drive store (Console.reporter check) sets o
      (schedule.workers store sets o) found t ""
    ({ exit := exitCode check summary, stdout }, t)

/-- The line about a rule set at a position. -/
def ruleSetLine (position : Nat) (s : RuleSet) : String :=
  let extensions := match s.extensions? with
    | some scope => " extensions=" ++ ",".intercalate scope
    | none => ""
  let guarded := match s.guard? with
    | some g => " guard=[" ++ g.describe ++ "]"
    | none => ""
  toString position ++ ". " ++ s.name ++ " rules=" ++ toString s.rules.length ++
    extensions ++ guarded

def listRules (config? : Option String) (t : FileTree) : Outcome :=
  let sets : Except StartError (List RuleSet) := do
    let c ← (t.loadConfig (config?.map Path.mk) (FileTree.absolute t.cwd)).mapError .config
    compile c
  match sets with
  | .error e => failure e
  | .ok sets =>
    { exit := 0, stdout := Console.unlines (sets.mapIdx fun i s => ruleSetLine (i + 1) s) }

def helpText : String :=
  Console.unlines [
    "Usage: srcfix <COMMAND>",
    "",
    "Commands:",
    "  run    Apply the rule sets to matching files",
    "  check  Report files that would change and rule sets that are not stable",
    "  rules  List the rule sets in order",
    "",
    "Options of run and check:",
    "  [ROOTS]...           Directories or files to process",
    "  -c, --config <FILE>  Configuration file",
    "      --ext <LIST>     Extensions to include",
    "      --only <LIST>    Rule sets to apply",
    "      --parallel       Process files at the same time"]

/-- Carries out a command on a file tree. -/
def execute (schedule : Batch.Schedule) : Invocation → FileTree → Outcome × FileTree
  | .batch check args, t => runBatch schedule check args t
  | .rules config?, t => (listRules config? t, t)
  | .help, t => ({ exit := 0, stdout := helpText }, t)
  | .version, t => ({ exit := 0, stdout := "srcfix 0.1.0\n" }, t)

end Program

end Codemod
