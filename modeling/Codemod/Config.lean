import Codemod.Catalog.Builtin
import Codemod.Toml.Document

/-! Configurations: which files are considered and which rule sets are applied.
A record is written as a table without further keys, or as the array of its fields in
order. What is left out of the file selection has a default. -/

namespace Codemod

/-- Which files are considered. -/
structure FileSelection where
  roots : List String := ["src"]
  extensions : List String := ["ts", "tsx", "js", "jsx"]
  excludeDirs : List String := ["node_modules", ".git", ".next", "dist", "build"]
deriving DecidableEq

structure Config where
  files : FileSelection := {}
  ruleSets : List RuleSetDef
deriving DecidableEq

/-- Why a well-formed configuration cannot be used. -/
inductive ConfigProblem where
  | noRoots
  | noExtensions
  | noRuleSets
deriving DecidableEq

def ConfigProblem.message : ConfigProblem → String
  | .noRoots => "files.roots must not be empty"
  | .noExtensions => "files.extensions must list at least one extension"
  | .noRuleSets => "rule_sets must not be empty"

namespace Config

open Toml (Value Table)

/-- The fields of a record, in the order of their names; an array must give them all
unless `partly` is set. -/
def fields (names : List String) (partly : Bool) : Value → Option (List (Option Value))
  | .table _ entries =>
    if entries.all fun e => names.contains e.1 then some (names.map fun n => entries.lookup n)
    else none
  | .array items =>
    if items.length < names.length && !partly then none
    else some ((List.range names.length).map (items[·]?))
  | _ => none

def string? : Value → Option String
  | .string s => some s
  | _ => none

def strings? : Value → Option (List String)
  | .array items => items.mapM string?
  | _ => none

/-- Decodes an optional field. -/
def optional {α : Type} (decode : Value → Option α) : Option Value → Option (Option α)
  | none => some none
  | some v => (decode v).map some

/-- Decodes the items of a list, which may also be given as rows. -/
def each {α : Type} (decode : Value → Option α) : Value → Option (List α)
  | .array items => items.mapM decode
  | .rows tables => tables.mapM fun t => decode (.table .header t)
  | _ => none

def files? (v : Value) : Option FileSelection :=
  match fields ["roots", "extensions", "exclude_dirs"] true v with
  | some [roots, extensions, excludeDirs] => do
    let defaults : FileSelection := {}
    return {
      roots := (← optional strings? roots).getD defaults.roots
      extensions := (← optional strings? extensions).getD defaults.extensions
      excludeDirs := (← optional strings? excludeDirs).getD defaults.excludeDirs }
  | _ => none

def rule? (v : Value) : Option RuleDef :=
  match fields ["find", "pattern", "replace"] false v with
  | some [find, pattern, some replacement] => do
    return {
      find := ← optional string? find
      pattern := ← optional string? pattern
      replace := ← string? replacement }
  | _ => none

def guard? : Value → Option GuardDef
  | .table _ [("contains", v)] => (strings? v).map .contains
  | .table _ [("pattern", v)] => (string? v).map .pattern
  | _ => none

def ruleSet? (v : Value) : Option RuleSetDef :=
  match fields ["name", "guard", "extensions", "rules"] false v with
  | some [some name, guard, extensions, some rules] => do
    return {
      name := ← string? name
      guard? := ← optional guard? guard
      extensions? := ← optional strings? extensions
      rules := ← each rule? rules }
  | _ => none

/-- The configuration that a document describes. -/
def ofTable? (t : Table) : Option Config :=
  match fields ["files", "rule_sets"] false (.table .header t) with
  | some [files, some ruleSets] => do
    return { files := (← optional files? files).getD {}, ruleSets := ← each ruleSet? ruleSets }
  | _ => none

/-- Nothing is left of an extension without blanks and dots around it. -/
def isBlankExtension (extension : String) : Bool :=
  ((Text.trim extension.toList).dropWhile (· == '.')).isEmpty

/-- The first reason why a configuration cannot be used. -/
def problem? (c : Config) : Option ConfigProblem :=
  if c.files.roots.isEmpty then some .noRoots
  else if c.files.extensions.all isBlankExtension then some .noExtensions
  else if c.ruleSets.isEmpty then some .noRuleSets
  else none

/-- The built-in configuration. -/
def builtin : Config :=
  { ruleSets := Catalog.builtin }

end Config

/-- Why a configuration could not be had; `place` says where it was looked for. -/
inductive ConfigError where
  | unreadable (place : String) (cause : String)
  | malformed (place : String)
  | unusable (place : String) (problem : ConfigProblem)
deriving DecidableEq

def ConfigError.message : ConfigError → String
  | .unreadable place cause => "read " ++ place ++ ": " ++ cause
  | .malformed place => "parse " ++ place
  | .unusable place problem => "validate " ++ place ++ ": " ++ problem.message

/-- Reads a configuration and checks that it can be used. -/
def Config.parse (place : String) (source : List Char) : Except ConfigError Config :=
  match (Toml.parse source).bind Config.ofTable? with
  | none => .error (.malformed place)
  | some c =>
    match c.problem? with
    | some problem => .error (.unusable place problem)
    | none => .ok c

end Codemod
