/-! Space, strings and keys of configuration documents. Readers take the characters that
are left and give back what follows; none says that the text is malformed. -/

namespace Codemod.Toml

abbrev Reader (α : Type) := List Char → Option (α × List Char)

def isSpace (c : Char) : Bool :=
  c == ' ' || c == '\t'

def skipSpace (cs : List Char) : List Char :=
  cs.dropWhile isSpace

/-- Control characters other than a tab have no place in comments and strings. -/
def isControl (c : Char) : Bool :=
  (c.toNat < 32 && c != '\t') || c.toNat == 127

/-- Drops space, line ends and comments. -/
def skipLines : (comment : Bool) → List Char → Option (List Char)
  | _, [] => some []
  | comment, c :: rest =>
    if c = '\n' then skipLines false rest
    else if c = '\r' then if rest.head? = some '\n' then skipLines comment rest else none
    else if comment then if isControl c then none else skipLines true rest
    else if isSpace c then skipLines false rest
    else if c = '#' then skipLines true rest
    else some (c :: rest)

/-- Drops space and a comment up to the end of the line, where nothing else may stand. -/
def endLine : (comment : Bool) → List Char → Option (List Char)
  | _, [] => some []
  | comment, c :: rest =>
    if c = '\n' then some rest
    else if c = '\r' then if rest.head? = some '\n' then endLine comment rest else none
    else if comment then if isControl c then none else endLine true rest
    else if isSpace c then endLine false rest
    else if c = '#' then endLine true rest
    else none

def hexValue? (c : Char) : Option Nat :=
  if '0' ≤ c ∧ c ≤ '9' then some (c.toNat - 48)
  else if 'a' ≤ c ∧ c ≤ 'f' then some (c.toNat - 87)
  else if 'A' ≤ c ∧ c ≤ 'F' then some (c.toNat - 55)
  else none

/-- A character given by a number of hexadecimal digits. -/
def codePoint (width : Nat) : Reader Char := fun cs => do
  let digits := cs.take width
  if digits.length < width then none
  let n ← digits.foldlM (fun n c => (hexValue? c).map (n * 16 + ·)) 0
  if n.isValidChar then some (Char.ofNat n, cs.drop width) else none

/-- The character that an escape stands for, read after the backslash. -/
def escaped : Reader Char
  | 'b' :: rest => some ('\x08', rest)
  | 't' :: rest => some ('\t', rest)
  | 'n' :: rest => some ('\n', rest)
  | 'f' :: rest => some ('\x0c', rest)
  | 'r' :: rest => some ('\r', rest)
  | 'e' :: rest => some ('\x1b', rest)
  | '"' :: rest => some ('"', rest)
  | '\\' :: rest => some ('\\', rest)
  | 'x' :: rest => codePoint 2 rest
  | 'u' :: rest => codePoint 4 rest
  | 'U' :: rest => codePoint 8 rest
  | _ => none

/-- The rest of a string on one line, up to its closing quote. -/
def lineString (quote : Char) : (fuel : Nat) → (taken : List Char) → Reader String
  | 0, _ => fun _ => none
  | fuel + 1, taken => fun
    | [] => none
    | c :: rest =>
      if c = quote then some (String.ofList taken.reverse, rest)
      else if c = '\\' ∧ quote = '"' then
        (escaped rest).bind fun r => lineString quote fuel (r.1 :: taken) r.2
      else if isControl c then none
      else lineString quote fuel (c :: taken) rest

/-- Drops space and line ends. -/
def skipBlankLines : List Char → List Char
  | [] => []
  | c :: rest =>
    if isSpace c ∨ c = '\n' ∨ (c = '\r' ∧ rest.head? = some '\n') then skipBlankLines rest
    else c :: rest

/-- Past a backslash at the end of a line: the line end and all space behind it. -/
def skipFold (cs : List Char) : Option (List Char) :=
  match skipSpace cs with
  | '\n' :: rest => some (skipBlankLines rest)
  | '\r' :: '\n' :: rest => some (skipBlankLines rest)
  | _ => none

/-- The rest of a string over several lines, up to three closing quotes. Up to two quotes
right before them belong to the text. -/
def blockString (quote : Char) : (fuel : Nat) → (taken : List Char) → Reader String
  | 0, _ => fun _ => none
  | fuel + 1, taken => fun
    | [] => none
    | c :: rest =>
      if c = quote then
        let run := ((c :: rest).takeWhile (· == quote)).length
        if run < 3 then blockString quote fuel (c :: taken) rest
        else
          let extra := min (run - 3) 2
          some (String.ofList (taken.reverse ++ List.replicate extra quote),
            (c :: rest).drop (extra + 3))
      else if c = '\\' ∧ quote = '"' then
        match skipFold rest with
        | some rest => blockString quote fuel taken rest
        | none => (escaped rest).bind fun r => blockString quote fuel (r.1 :: taken) r.2
      else if c = '\r' then
        if rest.head? = some '\n' then blockString quote fuel (c :: taken) rest else none
      else if c = '\n' then blockString quote fuel (c :: taken) rest
      else if isControl c then none
      else blockString quote fuel (c :: taken) rest

/-- A line end right behind the opening quotes is not part of the text. -/
def dropFirstLineEnd : List Char → List Char
  | '\n' :: rest => rest
  | '\r' :: '\n' :: rest => rest
  | cs => cs

def string (cs : List Char) : Option (String × List Char) :=
  match cs with
  | '"' :: '"' :: '"' :: rest => blockString '"' (rest.length + 1) [] (dropFirstLineEnd rest)
  | '\'' :: '\'' :: '\'' :: rest => blockString '\'' (rest.length + 1) [] (dropFirstLineEnd rest)
  | '"' :: rest => lineString '"' (rest.length + 1) [] rest
  | '\'' :: rest => lineString '\'' (rest.length + 1) [] rest
  | _ => none

def isBareKeyChar (c : Char) : Bool :=
  c.isAlphanum || c == '_' || c == '-'

def simpleKey (cs : List Char) : Option (String × List Char) :=
  match cs with
  | '"' :: rest => lineString '"' (rest.length + 1) [] rest
  | '\'' :: rest => lineString '\'' (rest.length + 1) [] rest
  | _ =>
    let name := cs.takeWhile isBareKeyChar
    if name.isEmpty then none else some (String.ofList name, cs.dropWhile isBareKeyChar)

/-- A dotted key as the steps before its last part and that part. -/
def dottedKey : (fuel : Nat) → (path : List String) → Reader (List String × String)
  | 0, _ => fun _ => none
  | fuel + 1, path => fun cs =>
    (simpleKey (skipSpace cs)).bind fun r =>
      match skipSpace r.2 with
      | '.' :: rest => dottedKey fuel (r.1 :: path) rest
      | rest => some ((path.reverse, r.1), rest)

def key (cs : List Char) : Option ((List String × String) × List Char) :=
  dottedKey (cs.length + 1) [] cs

end Codemod.Toml
