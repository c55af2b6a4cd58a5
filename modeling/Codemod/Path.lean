/-! Paths as they are spelled and the components they consist of.
Paths are compared by components: repeated separators, a final separator and a `.` that is
not first do not count. -/

namespace Codemod

inductive Component where
  | root
  | here
  | parent
  | name (text : String)
deriving DecidableEq

/-- Order of kinds of components; names come last and by their characters. -/
def Component.rank : Component → Nat
  | .root => 0
  | .here => 1
  | .parent => 2
  | .name _ => 3

def Component.text : Component → String
  | .root => "/"
  | .here => "."
  | .parent => ".."
  | .name s => s

def Component.lt (a b : Component) : Bool :=
  a.rank < b.rank || (a.rank == b.rank && decide (a.text < b.text))

structure Path where
  spelling : String
deriving DecidableEq, Inhabited

namespace Path

/-- The pieces between separators. -/
def pieces : List Char → List (List Char)
  | [] => [[]]
  | c :: rest =>
    if c = '/' then [] :: pieces rest
    else match pieces rest with
      | [] => [[c]]
      | p :: ps => (c :: p) :: ps

def component? (piece : List Char) : Option Component :=
  if piece = [] ∨ piece = ['.'] then none
  else if piece = ['.', '.'] then some .parent
  else some (.name (String.ofList piece))

def components (p : Path) : List Component :=
  match p.spelling.toList with
  | '/' :: rest => .root :: (pieces rest).filterMap component?
  | cs =>
    match pieces cs with
    | ['.'] :: rest => .here :: rest.filterMap component?
    | ps => ps.filterMap component?

def ltComponents : List Component → List Component → Bool
  | [], [] => false
  | [], _ :: _ => true
  | _ :: _, [] => false
  | a :: as, b :: bs => a.lt b || (a == b && ltComponents as bs)

/-- Order by components. -/
def lt (p q : Path) : Bool :=
  ltComponents p.components q.components

/-- The same components, however spelled. -/
def same (p q : Path) : Bool :=
  p.components == q.components

/-- The last component, if it is a name. -/
def fileName? (p : Path) : Option String :=
  match p.components.getLast? with
  | some (.name s) => some s
  | _ => none

/-- What follows the last dot of a name, unless that dot is its first character. -/
def extensionOf (name : List Char) : Option (List Char) :=
  let tail := name.reverse.takeWhile (· != '.')
  if tail.length + 1 < name.length then some tail.reverse else none

def extension? (p : Path) : Option String :=
  p.fileName?.bind fun name => (extensionOf name.toList).map String.ofList

/-- The path of an entry of a directory. -/
def join (p : Path) (name : String) : Path :=
  if p.spelling.isEmpty || p.spelling.toList.getLast? == some '/' then ⟨p.spelling ++ name⟩
  else ⟨p.spelling ++ "/" ++ name⟩

end Path

end Codemod
