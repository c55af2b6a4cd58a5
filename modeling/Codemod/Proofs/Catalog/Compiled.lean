import Codemod.Config
import Mathlib.Control.Monad.Basic

/-! The built-in catalog as it is read from its document and compiled: four rule sets, with the
expressions that their patterns are read into. -/

namespace Codemod

deriving instance DecidableEq for Pattern
deriving instance DecidableEq for Rule
deriving instance DecidableEq for Guard
deriving instance DecidableEq for RuleSet

namespace Catalog

open Pattern (Expr)

/-- Spaces and tabs. -/
def spaces : CharSet := ⟨[(9, 9), (32, 32)]⟩

/-- Either quote character. -/
def quotes : CharSet := ⟨[(34, 34), (39, 39)]⟩

/-- What may stand before the semicolon of an import. -/
def importPath : CharSet := ⟨[(0, 9), (11, 58), (60, 0xD7FF), (0xE000, 0x10FFFF)]⟩

/-- What the text between two tags may hold: no angle bracket, brace, parenthesis or `=`. -/
def nodeText : CharSet :=
  ⟨[(0, 39), (42, 59), (63, 122), (124, 124), (126, 0xD7FF), (0xE000, 0x10FFFF)]⟩

def many (s : CharSet) : Expr := .repeated 0 none true (.set s)

def maybe (c : Char) : Expr := .repeated 0 (some 1) true (.literal [c])

/-- Blanks and the end of a line. -/
def lineEnd : Expr := .cat (many spaces) (.cat (maybe '\r') (.literal ['\n']))

/-- The components whose module names are written in lower case. -/
def components : List String :=
  ["Alert", "Avatar", "Badge", "Button", "Card", "Dialog", "Input", "Label", "Popover",
    "Progress", "Select", "Separator", "Slider", "Switch", "Table", "Tabs", "Textarea", "Toast",
    "Tooltip"]

/-- What stands before the component name in an import of a component module. -/
def importHead (quote : Char) : List Char :=
  "from ".toList ++ quote :: "@/components/ui/".toList

def componentImport (quote : Char) : Expr :=
  .cat (.group 1 none (.literal (importHead quote)))
    (.cat (.group 2 none (.ofBranches (components.map fun name => .literal name.toList)))
      (.group 3 none (.literal [quote])))

def capitalImport : Expr :=
  .cat (.literal "from ".toList) (.cat (.set quotes)
    (.cat (.literal "@/components/ui/".toList) (.set (.range 'A' 'Z'))))

def reactImport : Expr :=
  .cat (.look .lineStart) (.cat (.literal "import React from ".toList) (.cat (.set quotes)
    (.cat (.literal "react".toList) (.cat (.set quotes) (.cat (maybe ';') lineEnd)))))

def emptyImport : Expr :=
  .cat (.look .lineStart) (.cat (.literal "import \x7b".toList) (.cat (many spaces)
    (.cat (.literal "\x7d from ".toList) (.cat (many importPath)
      (.cat (.literal [';']) lineEnd)))))

def emptyBraces : Expr :=
  .cat (.literal "import \x7b".toList) (.cat (many .blank) (.literal ['\x7d']))

def quotedNode : Expr :=
  .cat (.literal ['>']) (.cat (many nodeText) (.cat (.literal ['"'])
    (.cat (many nodeText) (.literal ['<']))))

/-- Three groups, the second of them lowered. -/
def loweringTemplate : Template :=
  ⟨[.group (.index 1) none, .group (.index 2) (some .lower), .group (.index 3) none]⟩

def loweringRule (source : String) (e : Expr) : Rule :=
  .pattern ⟨source.toList, e⟩ loweringTemplate

def removingRule (source : String) (e : Expr) : Rule :=
  .pattern ⟨source.toList, e⟩ ⟨[]⟩

def importCasing : RuleSet where
  name := "ui-import-casing"
  guard? := some (.pattern ⟨"from [\"']@/components/ui/[A-Z]".toList, capitalImport⟩)
  rules :=
    [loweringRule ("(from \"@/components/ui/)" ++ componentNames ++ "(\")") (componentImport '"'),
     loweringRule ("(from '@/components/ui/)" ++ componentNames ++ "(')") (componentImport '\'')]

def reactRemoval : RuleSet where
  name := "client-react-import"
  guard? := some (.contains ["'use client'", "\"use client\""])
  rules := [removingRule "(?m)^import React from [\"']react[\"'];?[ \\t]*\\r?\\n" reactImport]

def emptyImportRemoval : RuleSet where
  name := "empty-imports"
  guard? := some (.pattern ⟨"import \\\x7b\\s*\\\x7d".toList, emptyBraces⟩)
  rules := [removingRule "(?m)^import \\\x7b[ \\t]*\\\x7d from [^;\\n]*;[ \\t]*\\r?\\n" emptyImport]

def quoteEscaping : RuleSet where
  name := "jsx-text-quotes"
  extensions? := some ["jsx", "tsx"]
  rules :=
    [.pattern ⟨">[^<>\x7b\x7d()=]*\"[^<>\x7b\x7d()=]*<".toList, quotedNode⟩
      ⟨[.group (.index 0) (some .htmlQuotes)]⟩]

/-- The compiled rule sets of the built-in catalog. -/
def shipped : List RuleSet :=
  [importCasing, reactRemoval, emptyImportRemoval, quoteEscaping]

/-- The choice between the components as it is written in the patterns. -/
def nameChoice : List Char :=
  '(' :: (['|'].intercalate (components.map String.toList) ++ [')'])

-- Unfolding a long literal costs the kernel time quadratic in its length, so the characters of the
-- names are read off the literal by a lemma.
theorem toList_componentNames : componentNames.toList = nameChoice := by
  have spelled : componentNames.toList = _ :=
    (String.toList_append ..).trans
      (congr (congrArg HAppend.hAppend String.toList_ofList) String.toList_ofList)
  exact spelled.trans (by decide +kernel)

theorem compile_of_parse {source : List Char} {e : Expr} (h : Pattern.parse source = some e)
    (hfits : e.fits) : Pattern.compile source = .ok ⟨source, e⟩ := by
  simp [Pattern.compile, h, hfits]

theorem compile_loweringTemplate {p : Pattern} (h : p.groupCount = 4) :
    Template.compile p "$\x7b1\x7d$\x7b2:lower\x7d$\x7b3\x7d".toList = .ok loweringTemplate := by
  have hparse : Template.parse "$\x7b1\x7d$\x7b2:lower\x7d$\x7b3\x7d".toList =
      .ok loweringTemplate := by
    decide
  have hknown : Template.unknownGroup? p loweringTemplate = none := by
    simp [Template.unknownGroup?, loweringTemplate, GroupRef.resolve?, h]
  rw [Template.compile, hparse]
  simp only [bind, Except.bind, hknown]
  rfl

theorem compile_loweringRule (set : String) (index : Nat) {front back : String} {e : Expr}
    (hparse : Pattern.parse (front.toList ++ nameChoice ++ back.toList) = some e) (hfits : e.fits)
    (hgroups : (e.groups.map (·.1)).foldl max 0 = 3) :
    RuleDef.compile set index
        { pattern := some (front ++ componentNames ++ back)
          replace := "$\x7b1\x7d$\x7b2:lower\x7d$\x7b3\x7d" } =
      .ok (loweringRule (front ++ componentNames ++ back) e) := by
  have hsource : (front ++ componentNames ++ back).toList =
      front.toList ++ nameChoice ++ back.toList := by
    rw [String.toList_append, String.toList_append, toList_componentNames]
  have hpattern := compile_of_parse (hsource ▸ hparse) hfits
  have hcount : Pattern.groupCount ⟨(front ++ componentNames ++ back).toList, e⟩ = 4 := by
    rw [Pattern.groupCount, hgroups]
  simp only [RuleDef.compile, hpattern, compile_loweringTemplate hcount, loweringRule]

theorem compileAll_cons {set : String} {index : Nat} {d : RuleDef} {defs : List RuleDef}
    {rule : Rule} {rules : List Rule} (h : d.compile set index = .ok rule)
    (hrest : RuleDef.compileAll set (index + 1) defs = .ok rules) :
    RuleDef.compileAll set index (d :: defs) = .ok (rule :: rules) := by
  rw [RuleDef.compileAll, h, hrest]
  rfl

theorem compileBody_of_guard {d : RuleSetDef} {name source : String} {rules : List Rule}
    {p : Pattern} (hne : d.rules.isEmpty = false)
    (hrules : RuleDef.compileAll name 0 d.rules = .ok rules)
    (hguard : d.guard? = some (.pattern source)) (hpattern : Pattern.compile source.toList = .ok p)
    (hscope : d.extensions? = none) :
    d.compileBody name = .ok { name, rules, guard? := some (.pattern p) } := by
  rw [RuleSetDef.compileBody, hrules, hguard, hscope, hne]
  simp only [GuardDef.compile, hpattern]
  rfl

theorem compileFrom_cons {taken : List String} {d : RuleSetDef} {defs : List RuleSetDef}
    {set : RuleSet} {sets : List RuleSet} (h : d.compile taken = .ok set)
    (hrest : compileFrom (d.trimmedName :: taken) defs = .ok sets) :
    compileFrom taken (d :: defs) = .ok (set :: sets) := by
  rw [compileFrom, h, hrest]
  rfl

theorem compile_builtin : compile builtin = .ok shipped := by
  have hname : uiImportCasing.trimmedName = "ui-import-casing" := by decide
  have hrules : RuleDef.compileAll "ui-import-casing" 0 uiImportCasing.rules =
      .ok importCasing.rules :=
    compileAll_cons
      (compile_loweringRule _ _ (by decide +kernel) (by decide +kernel) (by decide +kernel))
      (compileAll_cons
        (compile_loweringRule _ _ (by decide +kernel) (by decide +kernel) (by decide +kernel)) rfl)
  have hbody : uiImportCasing.compileBody "ui-import-casing" = .ok importCasing :=
    compileBody_of_guard rfl hrules rfl (by decide +kernel) rfl
  have hfirst : uiImportCasing.compile [] = .ok importCasing := by
    rw [RuleSetDef.compile, hname, if_neg (by decide), if_neg (by simp), hbody]
  have hrest : compileFrom [uiImportCasing.trimmedName]
      [clientReactImport, emptyImports, jsxTextQuotes] =
        .ok [reactRemoval, emptyImportRemoval, quoteEscaping] := by
    decide +kernel
  exact compileFrom_cons hfirst hrest

end Catalog

-- The characters are read off the lines of the document, as those of the component names are. Each
-- line stands to the left of the rest, so that none is passed more than once.
set_option maxRecDepth 10000 in
theorem Config.parse_builtinText :
    Config.parse "built-in catalog" Catalog.builtinText.toList = .ok Config.builtin := by
  delta Catalog.builtinText
  repeat rw [String.toList_append]
  repeat rw [List.append_assoc]
  repeat rw [String.toList_ofList]
  decide +kernel

end Codemod
