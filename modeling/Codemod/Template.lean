import Codemod.Pattern

/-! Replacement templates.
A template is text in which `$name`, `$1`, `${name}` and `${name:transform}` stand for
groups of a match, and `$$` for a dollar sign. A dollar sign before anything else stands
for itself. -/

namespace Codemod

inductive Transform where
  | lower
  | upper
  | htmlQuotes
deriving DecidableEq

/-- Writes each double quote as an entity. -/
def escapeQuotes (text : List Char) : List Char :=
  text.flatMap fun c => if c = '"' then "&quot;".toList else [c]

namespace Transform

def apply : Transform → List Char → List Char
  | .lower => Unicode.lower
  | .upper => Unicode.upper
  | .htmlQuotes => escapeQuotes

def ofName? (name : List Char) : Option Transform :=
  if name = "lower".toList then some .lower
  else if name = "upper".toList then some .upper
  else if name = "html_quotes".toList then some .htmlQuotes
  else none

end Transform

inductive GroupRef where
  | index (n : Nat)
  | name (s : String)
deriving DecidableEq

inductive TemplateError where
  | unterminated (offset : Nat)
  | emptyGroup (offset : Nat)
  | invalidGroupName (name : String)
  | unknownTransform (name : String)
  | unknownGroup (label : String)
deriving DecidableEq

def TemplateError.message : TemplateError → String
  | .unterminated offset => "unterminated `$\x7b` at byte " ++ toString offset
  | .emptyGroup offset => "empty group reference at byte " ++ toString offset
  | .invalidGroupName name => "invalid group name '" ++ name ++ "'"
  | .unknownTransform name =>
    "unknown transform '" ++ name ++ "' (expected lower, upper or html_quotes)"
  | .unknownGroup label => "group '" ++ label ++ "' does not exist in pattern"

inductive Segment where
  | literal (text : List Char)
  | group (ref : GroupRef) (transform : Option Transform)
deriving DecidableEq

structure Template where
  segments : List Segment
deriving DecidableEq

/-- Characters of group names. -/
def isGroupChar (c : Char) : Bool :=
  c.isAlphanum || c == '_'

namespace GroupRef

def value (digits : List Char) : Nat :=
  digits.foldl (fun n c => n * 10 + (c.toNat - 48)) 0

/-- A number that fits 64 bits is an index, and all else a name. -/
def ofName (name : List Char) : GroupRef :=
  if name.all Char.isDigit && !name.isEmpty && value name < 0x10000000000000000 then
    .index (value name)
  else .name (String.ofList name)

def label : GroupRef → String
  | .index n => toString n
  | .name s => s

/-- The group of a pattern that a reference denotes. -/
def resolve? (p : Pattern) : GroupRef → Option Nat
  | .index n => if n < p.groupCount then some n else none
  | .name s => p.groupNamed? s

end GroupRef

namespace Template

/-- Puts a character before segments, joining literal text. -/
def consChar (c : Char) : List Segment → List Segment
  | .literal text :: rest => .literal (c :: text) :: rest
  | rest => .literal [c] :: rest

/-- The reference between braces; `offset` is where its dollar sign stands. -/
def braced (offset : Nat) (body : List Char) : Except TemplateError Segment := do
  let name := body.takeWhile (· != ':')
  let transform ← match body.dropWhile (· != ':') with
    | _ :: text => match Transform.ofName? text with
      | some t => pure (some t)
      | none => throw (.unknownTransform (String.ofList text))
    | [] => pure none
  if name.isEmpty then throw (.emptyGroup offset)
  if name.all isGroupChar then return .group (.ofName name) transform
  throw (.invalidGroupName (String.ofList name))

/-- Reads the text that begins at a byte offset. Each step consumes a character, so `fuel`
beyond the length of the text is never used up. -/
def readFrom : (fuel offset : Nat) → List Char → Except TemplateError (List Segment)
  | 0, _, _ => .ok []
  | fuel + 1, offset, cs =>
    match cs with
    | [] => .ok []
    | '$' :: '$' :: rest => (readFrom fuel (offset + 2) rest).map (consChar '$')
    | '$' :: '\x7b' :: rest =>
      let body := rest.takeWhile (· != '\x7d')
      match rest.dropWhile (· != '\x7d') with
      | [] => .error (.unterminated offset)
      | _ :: tail => do
        let segment ← braced offset body
        return segment :: (← readFrom fuel (offset + Utf8.byteLength body + 3) tail)
    | '$' :: rest =>
      let name := rest.takeWhile isGroupChar
      if name.isEmpty then (readFrom fuel (offset + 1) rest).map (consChar '$')
      else do
        let tail ← readFrom fuel (offset + 1 + name.length) (rest.dropWhile isGroupChar)
        return .group (.ofName name) none :: tail
    | c :: rest => (readFrom fuel (offset + c.utf8Size) rest).map (consChar c)

def parse (source : List Char) : Except TemplateError Template :=
  (readFrom (source.length + 1) 0 source).map Template.mk

/-- The first reference to a group that a pattern does not have. -/
def unknownGroup? (p : Pattern) (t : Template) : Option GroupRef :=
  t.segments.findSome? fun
    | .literal _ => none
    | .group ref _ => if (ref.resolve? p).isSome then none else some ref

/-- Reads a template whose references must be groups of a pattern. -/
def compile (p : Pattern) (source : List Char) : Except TemplateError Template := do
  let t ← parse source
  match unknownGroup? p t with
  | some ref => throw (.unknownGroup ref.label)
  | none => return t

/-- The text of a segment for a match; a group that took no part is empty. -/
def expandSegment (p : Pattern) (m : Pattern.Match) : Segment → List Char
  | .literal s => s
  | .group ref transform =>
    let captured := ((ref.resolve? p).bind m.group?).getD []
    match transform with
    | some t => t.apply captured
    | none => captured

def expand (t : Template) (p : Pattern) (m : Pattern.Match) : List Char :=
  t.segments.flatMap (expandSegment p m)

/-- No group is referred to. -/
def isLiteral (t : Template) : Bool :=
  t.segments.all fun
    | .literal _ => true
    | .group _ _ => false

end Template

end Codemod
