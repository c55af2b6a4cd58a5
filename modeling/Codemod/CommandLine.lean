/-! Command lines. The program has three commands: `run` and `check` process files, and
`rules` lists the rule sets. Arguments are taken from left to right, and the first one
that has no place makes the command line invalid. -/

namespace Codemod

/-- Arguments of the commands that process files. -/
structure BatchArgs where
  roots : List String := []
  config? : Option String := none
  extensions : List String := []
  only : List String := []
  parallel : Bool := false
deriving DecidableEq

inductive Invocation where
  /-- Process files; with `check` nothing is written. -/
  | batch (check : Bool) (args : BatchArgs)
  | rules (config? : Option String)
  | help
  | version
deriving DecidableEq

namespace CommandLine

/-- One argument on the command line. -/
inductive Word where
  | plain (text : String)
  | long (name : String) (value? : Option String)
  /-- One letter behind a hyphen and what is attached to it. -/
  | short (letter : Char) (rest : List Char)
  | escape
deriving DecidableEq

def Word.ofString (arg : String) : Word :=
  match arg.toList with
  | ['-', '-'] => .escape
  | '-' :: '-' :: cs =>
    match cs.dropWhile (· != '=') with
    | [] => .long (String.ofList cs) none
    | _ :: value => .long (String.ofList (cs.takeWhile (· != '='))) (some (String.ofList value))
  | '-' :: c :: rest => .short c rest
  | _ => .plain arg

/-- The value attached to a letter, with or without an equals sign. -/
def attached : List Char → Option String
  | [] => none
  | '=' :: rest => some (String.ofList rest)
  | rest => some (String.ofList rest)

/-- The value of an option: attached to it, or the next argument if that is a plain one. -/
def optionValue (value? : Option String) (rest : List String) : Option (String × List String) :=
  match value?, rest with
  | some v, rest => some (v, rest)
  | none, [] => none
  | none, arg :: rest =>
    match Word.ofString arg with
    | .plain v => some (v, rest)
    | _ => none

/-- The values between commas. -/
def commaSeparated (value : String) : List String :=
  (value.toList.splitOn ',').map String.ofList

/-- A path must not be empty, and an option must not be given twice. -/
def setConfig (config? : Option String) (value : String) : Option (Option String) :=
  if value.isEmpty || config?.isSome then none else some (some value)

/-- Reads the arguments of `run` and `check`; none within the result asks for help. Each
round consumes an argument. -/
def batchArgs : (fuel : Nat) → BatchArgs → List String → Option (Option BatchArgs)
  | 0, _, _ => none
  | _, a, [] => some (some a)
  | fuel + 1, a, arg :: rest =>
    match Word.ofString arg with
    | .plain root =>
      if root.isEmpty then none else batchArgs fuel { a with roots := a.roots ++ [root] } rest
    | .escape =>
      if rest.any String.isEmpty then none else some (some { a with roots := a.roots ++ rest })
    | .long "help" none => some none
    | .short 'h' _ => some none
    | .long "parallel" none =>
      if a.parallel then none else batchArgs fuel { a with parallel := true } rest
    | .long "ext" value? => do
      let (v, rest) ← optionValue value? rest
      batchArgs fuel { a with extensions := a.extensions ++ commaSeparated v } rest
    | .long "only" value? => do
      let (v, rest) ← optionValue value? rest
      batchArgs fuel { a with only := a.only ++ commaSeparated v } rest
    | .long "config" value? => do
      let (v, rest) ← optionValue value? rest
      batchArgs fuel { a with config? := ← setConfig a.config? v } rest
    | .short 'c' letters => do
      let (v, rest) ← optionValue (attached letters) rest
      batchArgs fuel { a with config? := ← setConfig a.config? v } rest
    | _ => none

/-- Reads the arguments of `rules`; none within the result asks for help. -/
def rulesArgs : (fuel : Nat) → Option String → List String → Option (Option (Option String))
  | 0, _, _ => none
  | _, config?, [] => some (some config?)
  | fuel + 1, config?, arg :: rest =>
    match Word.ofString arg with
    | .escape => if rest.isEmpty then some (some config?) else none
    | .long "help" none => some none
    | .short 'h' _ => some none
    | .long "config" value? => do
      let (v, rest) ← optionValue value? rest
      rulesArgs fuel (← setConfig config? v) rest
    | .short 'c' letters => do
      let (v, rest) ← optionValue (attached letters) rest
      rulesArgs fuel (← setConfig config? v) rest
    | _ => none

def batch (check : Bool) (args : List String) : Option Invocation :=
  (batchArgs (args.length + 1) {} args).map fun
    | some a => .batch check a
    | none => .help

/-- Reads a command line, without the name of the program. -/
def parse : List String → Option Invocation
  | [] => none
  | arg :: rest =>
    match Word.ofString arg with
    | .plain "run" => batch false rest
    | .plain "check" => batch true rest
    | .plain "rules" =>
      (rulesArgs (rest.length + 1) none rest).map fun
        | some config? => .rules config?
        | none => .help
    | .plain "help" =>
      match rest with
      | [] => some .help
      | [name] => if ["run", "check", "rules", "help"].contains name then some .help else none
      | _ => none
    | .long "help" none => some .help
    | .short 'h' _ => some .help
    | .long "version" none => some .version
    | .short 'V' _ => some .version
    | _ => none

end CommandLine

end Codemod
