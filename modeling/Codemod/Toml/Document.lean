import Codemod.Toml.Scalar
import Codemod.Toml.Value
import Codemod.Toml.Word

/-! Configuration documents: values, statements line by line, and the table they build. -/

namespace Codemod.Toml

/-- Arrays and braced tables within one another, at most. -/
def nestLimit : Nat := 80

mutual

/-- Reads a value within which `room` arrays and braced tables may be nested. -/
def value : (fuel room : Nat) → Reader Value
  | 0, _ => fun _ => none
  | fuel + 1, room => fun
    | '[' :: rest =>
      match room with
      | 0 => none
      | room + 1 => (arrayItems fuel room [] rest).map fun r => (.array r.1, r.2)
    | '\x7b' :: rest =>
      match room with
      | 0 => none
      | room + 1 => (bracedFields fuel room [] rest).map fun r => (.table .braces r.1, r.2)
    | '"' :: rest => (string ('"' :: rest)).map fun r => (.string r.1, r.2)
    | '\'' :: rest => (string ('\'' :: rest)).map fun r => (.string r.1, r.2)
    | cs => (word cs).map fun rest => (.plain, rest)

/-- The items of an array up to its bracket; they are held last first. -/
def arrayItems : (fuel room : Nat) → List Value → Reader (List Value)
  | 0, _, _ => fun _ => none
  | fuel + 1, room, items => fun cs =>
    (skipLines false cs).bind fun
      | ']' :: rest => some (items.reverse, rest)
      | cs =>
        (value fuel room cs).bind fun r =>
          (skipLines false r.2).bind fun
            | ',' :: rest => arrayItems fuel room (r.1 :: items) rest
            | ']' :: rest => some ((r.1 :: items).reverse, rest)
            | _ => none

/-- The fields of a braced table up to its brace. Line ends and comments may stand between
any two parts, but not within a dotted key. -/
def bracedFields : (fuel room : Nat) → Table → Reader Table
  | 0, _, _ => fun _ => none
  | fuel + 1, room, t => fun cs =>
    (skipLines false cs).bind fun
      | '\x7d' :: rest => some (t, rest)
      | cs =>
        (key cs).bind fun k =>
          (skipLines false k.2).bind fun
            | '=' :: rest =>
              ((skipLines false rest).bind (value fuel room)).bind fun r =>
                (t.insert k.1.2 r.1 k.1.1).bind fun t =>
                  (skipLines false r.2).bind fun
                    | ',' :: rest => bracedFields fuel room t rest
                    | '\x7d' :: rest => some (t, rest)
                    | _ => none
            | _ => none

end

inductive Statement where
  /-- Opens the table of a name below a path. -/
  | table (path : List String) (name : String)
  /-- Opens one more row of a name below a path. -/
  | row (path : List String) (name : String)
  | entry (path : List String) (name : String) (v : Value)

/-- Reads one statement, without the end of its line. -/
def statement (cs : List Char) : Option (Statement × List Char) :=
  match cs with
  | '[' :: '[' :: rest =>
    (key rest).bind fun k =>
      match k.2 with
      | ']' :: ']' :: rest => some (.row k.1.1 k.1.2, rest)
      | _ => none
  | '[' :: rest =>
    (key rest).bind fun k =>
      match k.2 with
      | ']' :: rest => some (.table k.1.1 k.1.2, rest)
      | _ => none
  | cs =>
    (key cs).bind fun k =>
      match k.2 with
      | '=' :: rest =>
        (value (rest.length + 1) nestLimit (skipSpace rest)).map fun r =>
          (.entry k.1.1 k.1.2 r.1, r.2)
      | _ => none

/-- Reads the statements of a document; each stands on lines of its own. -/
def statements : (fuel : Nat) → List Char → Option (List Statement)
  | 0, _ => none
  | fuel + 1, cs =>
    (skipLines false cs).bind fun
      | [] => some []
      | cs =>
        (statement cs).bind fun r =>
          (endLine false r.2).bind fun rest =>
            (statements fuel rest).map (r.1 :: ·)

/-- A document being built: its table and the path of the header in force. -/
structure Draft where
  root : Table := []
  header : List String := []

def Draft.add (d : Draft) : Statement → Option Draft
  | .table path name =>
    (d.root.under (Table.openTable name) path).map fun root => ⟨root, path ++ [name]⟩
  | .row path name =>
    (d.root.under (Table.openRow name) path).map fun root => ⟨root, path ++ [name]⟩
  | .entry path name v =>
    (d.root.under (Table.insert name v path) d.header).map fun root => { d with root }

/-- Reads a document; a byte order mark before it does not count. -/
def parse (source : List Char) : Option Table := do
  let source := if source.head? = some '\uFEFF' then source.drop 1 else source
  let ss ← statements (source.length + 1) source
  let d ← ss.foldlM Draft.add ({} : Draft)
  return d.root

end Codemod.Toml
