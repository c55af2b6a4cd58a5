import Codemod.RuleSet

/-! Catalogs: the definitions of rule sets and how they are compiled.
Compiling checks the definitions in order and stops at the first defect. -/

namespace Codemod

structure RuleDef where
  find : Option String := none
  pattern : Option String := none
  replace : String
deriving DecidableEq

inductive GuardDef where
  | contains (markers : List String)
  | pattern (source : String)
deriving DecidableEq

structure RuleSetDef where
  name : String
  guard? : Option GuardDef := none
  extensions? : Option (List String) := none
  rules : List RuleDef
deriving DecidableEq

/-- A defect of a catalog. -/
inductive CatalogError where
  | emptyName
  | duplicateRuleSet (set : String)
  | noRules (set : String)
  | emptyExtensions (set : String)
  | markerMissing (set : String)
  | guardPattern (set : String) (cause : PatternError)
  | kindUnclear (set : String) (rule : Nat)
  | emptyFind (set : String) (rule : Nat)
  | rulePattern (set : String) (rule : Nat) (cause : PatternError)
  | ruleTemplate (set : String) (rule : Nat) (cause : TemplateError)
deriving DecidableEq

namespace CatalogError

def inSet (set : String) : String := "rule set '" ++ set ++ "'"

def inRule (set : String) (rule : Nat) : String :=
  inSet set ++ " rules[" ++ toString rule ++ "]"

/-- What a defect says; the cause of a malformed pattern is not spelled out. -/
def message : CatalogError → String
  | .emptyName => "rule set name must not be empty"
  | .duplicateRuleSet set => "duplicate " ++ inSet set
  | .noRules set => inSet set ++ " has no rules"
  | .emptyExtensions set => inSet set ++ " has an empty extensions list"
  | .markerMissing set => inSet set ++ " guard: `contains` needs at least one non-empty marker"
  | .guardPattern set _ => inSet set ++ " guard: invalid pattern"
  | .kindUnclear set rule => inRule set rule ++ ": set exactly one of `find` or `pattern`"
  | .emptyFind set rule => inRule set rule ++ ": `find` must not be empty"
  | .rulePattern set rule _ => inRule set rule ++ ": invalid pattern"
  | .ruleTemplate set rule cause =>
    inRule set rule ++ ": invalid replacement: " ++ cause.message

end CatalogError

namespace RuleDef

def compile (set : String) (index : Nat) (d : RuleDef) : Except CatalogError Rule :=
  match d.find, d.pattern with
  | some find, none =>
    if find.isEmpty then .error (.emptyFind set index)
    else .ok (.literal find.toList d.replace.toList)
  | none, some source =>
    match Pattern.compile source.toList with
    | .error cause => .error (.rulePattern set index cause)
    | .ok p => match Template.compile p d.replace.toList with
      | .error cause => .error (.ruleTemplate set index cause)
      | .ok t => .ok (.pattern p t)
  | _, _ => .error (.kindUnclear set index)

/-- Compiles the rules of a set, the first of which has the given number. -/
def compileAll (set : String) : Nat → List RuleDef → Except CatalogError (List Rule)
  | _, [] => .ok []
  | index, d :: rest => do
    let rule ← d.compile set index
    return rule :: (← compileAll set (index + 1) rest)

end RuleDef

def GuardDef.compile (set : String) : GuardDef → Except CatalogError Guard
  | .contains markers =>
    if markers.isEmpty || markers.any String.isEmpty then .error (.markerMissing set)
    else .ok (.contains markers)
  | .pattern source =>
    match Pattern.compile source.toList with
    | .error cause => .error (.guardPattern set cause)
    | .ok p => .ok (.pattern p)

namespace RuleSetDef

/-- The name without surrounding blanks. -/
def trimmedName (d : RuleSetDef) : String :=
  String.ofList (Text.trim d.name.toList)

/-- Limits a set to a list of extensions, if there is one; some of them must say something. -/
def compileExtensions (s : RuleSet) : Option (List String) → Except CatalogError RuleSet
  | none => .ok s
  | some extensions =>
    let kept := (extensions.map Extension.normalize).filter (!·.isEmpty)
    if kept.isEmpty then .error (.emptyExtensions s.name) else .ok (s.withExtensions kept)

/-- Compiles a definition under its trimmed name. -/
def compileBody (d : RuleSetDef) (name : String) : Except CatalogError RuleSet := do
  if d.rules.isEmpty then throw (.noRules name)
  let rules ← RuleDef.compileAll name 0 d.rules
  let guard? ← match d.guard? with
    | none => pure none
    | some g => (g.compile name).map some
  compileExtensions { name, rules, guard? } d.extensions?

/-- Compiles a definition; the names of the sets before it are taken. -/
def compile (taken : List String) (d : RuleSetDef) : Except CatalogError RuleSet :=
  let name := d.trimmedName
  if name.isEmpty then .error .emptyName
  else if taken.contains name then .error (.duplicateRuleSet name)
  else d.compileBody name

end RuleSetDef

namespace Catalog

def compileFrom (taken : List String) : List RuleSetDef → Except CatalogError (List RuleSet)
  | [] => .ok []
  | d :: rest => do
    let set ← d.compile taken
    return set :: (← compileFrom (d.trimmedName :: taken) rest)

/-- Compiles the definitions of a catalog in order. -/
def compile (defs : List RuleSetDef) : Except CatalogError (List RuleSet) :=
  compileFrom [] defs

end Catalog

end Codemod
