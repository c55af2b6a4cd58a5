import Codemod.Catalog

/-! The built-in catalog: clean-ups for component projects. -/

namespace Codemod.Catalog

/-- The components whose module names are written in lower case. -/
def componentNames : String :=
  "(Alert|Avatar|Badge|Button|Card|Dialog|Input|Label|Popover|Progress|Select|Separator|" ++
    "Slider|Switch|Table|Tabs|Textarea|Toast|Tooltip)"

/-- Lowers the component name in imports of component modules. -/
def uiImportCasing : RuleSetDef where
  name := "ui-import-casing"
  guard? := some (.pattern "from [\"']@/components/ui/[A-Z]")
  rules :=
    [{ pattern := some ("(from \"@/components/ui/)" ++ componentNames ++ "(\")")
       replace := "$\x7b1\x7d$\x7b2:lower\x7d$\x7b3\x7d" },
     { pattern := some ("(from '@/components/ui/)" ++ componentNames ++ "(')")
       replace := "$\x7b1\x7d$\x7b2:lower\x7d$\x7b3\x7d" }]

/-- Removes the default import of React from client components. -/
def clientReactImport : RuleSetDef where
  name := "client-react-import"
  guard? := some (.contains ["'use client'", "\"use client\""])
  rules :=
    [{ pattern := some "(?m)^import React from [\"']react[\"'];?[ \\t]*\\r?\\n", replace := "" }]

/-- Removes imports of nothing. -/
def emptyImports : RuleSetDef where
  name := "empty-imports"
  guard? := some (.pattern "import \\\x7b\\s*\\\x7d")
  rules :=
    [{ pattern := some "(?m)^import \\\x7b[ \\t]*\\\x7d from [^;\\n]*;[ \\t]*\\r?\\n"
       replace := "" }]

/-- Writes double quotes between tags as entities. -/
def jsxTextQuotes : RuleSetDef where
  name := "jsx-text-quotes"
  extensions? := some ["tsx", "jsx"]
  rules :=
    [{ pattern := some ">[^<>\x7b\x7d()=]*\"[^<>\x7b\x7d()=]*<"
       replace := "$\x7b0:html_quotes\x7d" }]

def builtin : List RuleSetDef :=
  [uiImportCasing, clientReactImport, emptyImports, jsxTextQuotes]

/-- The document that describes the built-in configuration. -/
def builtinText : String :=
  "# Built-in srcfix catalog.\n" ++
  "#\n" ++
  "# Rule sets run top to bottom; each sees the output of the ones above it.\n" ++
  "# Copy this file to `srcfix.toml` at the project root to customize it.\n" ++
  "\n" ++
  "[files]\n" ++
  "roots = [\"src\"]\n" ++
  "extensions = [\"ts\", \"tsx\", \"js\", \"jsx\"]\n" ++
  "exclude_dirs = [\"node_modules\", \".git\", \".next\", \"dist\", \"build\"]\n" ++
  "\n" ++
  "# Component files under `@/components/ui` are lowercase on disk; uppercase\n" ++
  "# import paths only resolve on case-insensitive filesystems.\n" ++
  "[[rule_sets]]\n" ++
  "name = \"ui-import-casing\"\n" ++
  "guard = \x7b pattern = '''from [\"']@/components/ui/[A-Z]''' \x7d\n" ++
  "\n" ++
  "[[rule_sets.rules]]\n" ++
  "pattern = '''(from \"@/components/ui/)(Alert|Avatar|Badge|Button|Card|Dialog|Input|Label|" ++
  "Popover|Progress|Select|Separator|Slider|Switch|Table|Tabs|Textarea|Toast|Tooltip)(\")'''\n" ++
  "replace = \"$\x7b1\x7d$\x7b2:lower\x7d$\x7b3\x7d\"\n" ++
  "\n" ++
  "[[rule_sets.rules]]\n" ++
  "pattern = '''(from '@/components/ui/)(Alert|Avatar|Badge|Button|Card|Dialog|Input|Label|" ++
  "Popover|Progress|Select|Separator|Slider|Switch|Table|Tabs|Textarea|Toast|Tooltip)(')'''\n" ++
  "replace = \"$\x7b1\x7d$\x7b2:lower\x7d$\x7b3\x7d\"\n" ++
  "\n" ++
  "# The automatic JSX runtime makes the default React import dead weight in\n" ++
  "# client components.\n" ++
  "[[rule_sets]]\n" ++
  "name = \"client-react-import\"\n" ++
  "guard = \x7b contains = [\"'use client'\", '\"use client\"'] \x7d\n" ++
  "\n" ++
  "[[rule_sets.rules]]\n" ++
  "pattern = '''(?m)^import React from [\"']react[\"'];?[ \\t]*\\r?\\n'''\n" ++
  "replace = \"\"\n" ++
  "\n" ++
  "# Only single-line imports match, so removing one line never joins its\n" ++
  "# neighbours into a new match.\n" ++
  "[[rule_sets]]\n" ++
  "name = \"empty-imports\"\n" ++
  "guard = \x7b pattern = '''import \\\x7b\\s*\\\x7d''' \x7d\n" ++
  "\n" ++
  "[[rule_sets.rules]]\n" ++
  "pattern = '''(?m)^import \\\x7b[ \\t]*\\\x7d from [^;\\n]*;[ \\t]*\\r?\\n'''\n" ++
  "replace = \"\"\n" ++
  "\n" ++
  "# Whole text nodes are rewritten in one match so a second run finds nothing.\n" ++
  "# Text containing braces, parentheses or `=` is left alone: it is more likely\n" ++
  "# to be an expression than markup.\n" ++
  "[[rule_sets]]\n" ++
  "name = \"jsx-text-quotes\"\n" ++
  "extensions = [\"tsx\", \"jsx\"]\n" ++
  "\n" ++
  "[[rule_sets.rules]]\n" ++
  "pattern = '''>[^<>\x7b\x7d()=]*\"[^<>\x7b\x7d()=]*<'''\n" ++
  "replace = \"$\x7b0:html_quotes\x7d\"\n"

end Codemod.Catalog
