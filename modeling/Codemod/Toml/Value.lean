/-! Values of configuration documents and the rules for building tables.
A table remembers how it came about, because that decides who may add to it: a header may
take over a table that other headers only passed through, dotted keys may add to tables
made by dotted keys, and nothing may be added to a value written out in one piece. -/

namespace Codemod.Toml

inductive Origin where
  /-- Opened by a header of its own. -/
  | header
  /-- Passed through by the headers of its tables. -/
  | passage
  /-- Made by a dotted key. -/
  | dotted
  /-- Written between braces. -/
  | braces
deriving DecidableEq

inductive Value where
  | string (text : String)
  /-- A truth value, a number, a date or a time. -/
  | plain
  | array (items : List Value)
  | table (origin : Origin) (entries : List (String × Value))
  /-- The tables opened by double-bracketed headers of one name. -/
  | rows (tables : List (List (String × Value)))
deriving Inhabited

abbrev Table := List (String × Value)

namespace Table

/-- Sets an entry, in its place if there is one. -/
def set (t : Table) (key : String) (v : Value) : Table :=
  if (t.lookup key).isSome then t.map fun e => if e.1 = key then (key, v) else e
  else t ++ [(key, v)]

/-- Adds an entry under a dotted key; no key may be given twice. -/
def insert (key : String) (v : Value) : (path : List String) → Table → Option Table
  | [], t => if (t.lookup key).isSome then none else some (t.set key v)
  | step :: path, t =>
    match t.lookup step with
    | none => (insert key v path []).map fun sub => t.set step (.table .dotted sub)
    | some (.table .dotted entries) =>
      (insert key v path entries).map fun sub => t.set step (.table .dotted sub)
    | some _ => none

/-- Changes the table that a header path leads to; of rows, the last one is meant. -/
def under (change : Table → Option Table) : (path : List String) → Table → Option Table
  | [], t => change t
  | step :: path, t =>
    match t.lookup step with
    | none => (under change path []).map fun sub => t.set step (.table .passage sub)
    | some (.table origin entries) =>
      if origin = .braces then none
      else (under change path entries).map fun sub => t.set step (.table origin sub)
    | some (.rows tables) =>
      match tables.getLast? with
      | none => none
      | some last =>
        (under change path last).map fun sub => t.set step (.rows (tables.dropLast ++ [sub]))
    | some _ => none

/-- Opens the table of a header. -/
def openTable (key : String) (t : Table) : Option Table :=
  match t.lookup key with
  | none => some (t.set key (.table .header []))
  | some (.table .passage entries) => some (t.set key (.table .header entries))
  | some _ => none

/-- Opens one more row of a double-bracketed header. -/
def openRow (key : String) (t : Table) : Option Table :=
  match t.lookup key with
  | none => some (t.set key (.rows [[]]))
  | some (.rows tables) => some (t.set key (.rows (tables ++ [[]])))
  | some _ => none

end Table

end Codemod.Toml
