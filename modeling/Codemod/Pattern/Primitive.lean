import Codemod.Pattern.Expr
import Codemod.Text.Blank
import Codemod.Unicode.Casing

/-! The smallest pieces of pattern notation: characters, escapes and named classes, and
what they mean under the flags in force. Readers take the characters that are left and
give back what follows the piece. -/

namespace Codemod.Pattern

structure Flags where
  caseless : Bool := false
  multiline : Bool := false
  dotAll : Bool := false
  swapGreed : Bool := false
  unicode : Bool := true
  crlf : Bool := false
  extended : Bool := false
deriving DecidableEq

/-- Drops blanks, and comments from `#` to the end of the line. -/
def dropSpace : (comment : Bool) → List Char → List Char
  | _, [] => []
  | true, c :: rest => dropSpace (c != '\n') rest
  | false, c :: rest =>
    if isBlank c then dropSpace false rest
    else if c = '#' then dropSpace true rest
    else c :: rest

/-- What follows the insignificant space, which only extended notation has. -/
def Flags.skip (f : Flags) (cs : List Char) : List Char :=
  if f.extended then dropSpace false cs else cs

inductive ClassName where
  | digit
  | space
  | word
deriving DecidableEq

inductive Primitive where
  | char (c : Char)
  /-- A character given by two hexadecimal digits, which names a byte without Unicode. -/
  | byte (c : Char)
  | dot
  | look (l : Look)
  | named (name : ClassName) (negated : Bool)
  | property (chars : CharSet) (negated : Bool)
deriving DecidableEq

def asciiRuns (pairs : List (Char × Char)) : CharSet :=
  .ofRuns (pairs.map fun r => (r.1.toNat, r.2.toNat))

def ClassName.unicodeSet : ClassName → CharSet
  | .digit => Unicode.digit
  | .space => .blank
  | .word => Unicode.wordSet

def ClassName.asciiSet : ClassName → CharSet
  | .digit => asciiRuns [('0', '9')]
  | .space => asciiRuns [('\t', '\r'), (' ', ' ')]
  | .word => asciiRuns [('0', '9'), ('A', 'Z'), ('_', '_'), ('a', 'z')]

/-- Without Unicode a class holds ASCII characters only, so it has no complement. -/
def Flags.negateIf (f : Flags) (negated : Bool) (s : CharSet) : Option CharSet :=
  if negated then if f.unicode then some s.complement else none else some s

def Flags.fold (f : Flags) (s : CharSet) : CharSet :=
  if f.caseless then if f.unicode then Unicode.foldCase s else Unicode.foldAsciiCase s else s

def Flags.namedSet? (f : Flags) (name : ClassName) (negated : Bool) : Option CharSet :=
  f.negateIf negated (if f.unicode then name.unicodeSet else name.asciiSet)

def Flags.propertySet? (f : Flags) (chars : CharSet) (negated : Bool) : Option CharSet :=
  if f.unicode then f.negateIf negated (f.fold chars) else none

/-- A literal character, or the set of its variants where case does not matter. -/
def Flags.charExpr (f : Flags) (c : Char) : Expr :=
  if f.caseless then .ofSet (f.fold (.single c)) else .literal [c]

def Flags.dotSet? (f : Flags) : Option CharSet :=
  if f.unicode then
    if f.dotAll then some .all
    else if f.crlf then some (CharSet.complement (asciiRuns [('\n', '\n'), ('\r', '\r')]))
    else some (CharSet.complement (.single '\n'))
  else none

/-- The expression a primitive stands for; none if it could match part of a character. -/
def Primitive.expr? (f : Flags) : Primitive → Option Expr
  | .char c => some (f.charExpr c)
  | .byte c => if f.unicode || c.toNat < 128 then some (f.charExpr c) else none
  | .dot => f.dotSet?.map .ofSet
  | .look l => some (.look l)
  | .named name negated => (f.namedSet? name negated).map .ofSet
  | .property chars negated => (f.propertySet? chars negated).map .ofSet

def Flags.lineStart (f : Flags) : Look :=
  if f.multiline then if f.crlf then .anyLineStart else .lineStart else .textStart

def Flags.lineEnd (f : Flags) : Look :=
  if f.multiline then if f.crlf then .anyLineEnd else .lineEnd else .textEnd

def isMeta (c : Char) : Bool :=
  "\\.+*?()|[]\x7b\x7d^$#&-~".toList.contains c

/-- ASCII characters that stand for themselves after a backslash. -/
def isEscapable (c : Char) : Bool :=
  isMeta c || (c.toNat < 128 && !c.isAlphanum && c != '<' && c != '>')

def hexValue? (c : Char) : Option Nat :=
  if '0' ≤ c ∧ c ≤ '9' then some (c.toNat - 48)
  else if 'a' ≤ c ∧ c ≤ 'f' then some (c.toNat - 87)
  else if 'A' ≤ c ∧ c ≤ 'F' then some (c.toNat - 55)
  else none

/-- The character with a code point, if there is one. -/
def scalar? (n : Nat) : Option Char :=
  if n.isValidChar then some (Char.ofNat n) else none

/-- Reads a fixed number of hexadecimal digits. -/
def hexDigits (f : Flags) : Nat → Nat → List Char → Option (Nat × List Char)
  | 0, value, cs => some (value, cs)
  | n + 1, value, cs =>
    match cs with
    | [] => none
    | c :: rest => (hexValue? c).bind fun d => hexDigits f n (value * 16 + d) (f.skip rest)

/-- Takes the characters up to a closing brace, without the insignificant space. -/
def bracedWith (f : Flags) : (fuel : Nat) → List Char → List Char → Option (List Char × List Char)
  | 0, _, _ => none
  | fuel + 1, taken, cs =>
    match f.skip cs with
    | [] => none
    | c :: rest =>
      if c = '\x7d' then some (taken.reverse, rest) else bracedWith f fuel (c :: taken) rest

def braced (f : Flags) (cs : List Char) : Option (List Char × List Char) :=
  bracedWith f (cs.length + 1) [] cs

def hexEscape (f : Flags) (width : Nat) (cs : List Char) : Option (Primitive × List Char) :=
  match f.skip cs with
  | [] => none
  | '\x7b' :: rest => do
    let (digits, rest) ← braced f rest
    if digits.isEmpty then none
    let value ← digits.foldlM (fun n c => (hexValue? c).map (n * 16 + ·)) 0
    return (.char (← scalar? value), f.skip rest)
  | cs => do
    let (value, rest) ← hexDigits f width 0 cs
    let c ← scalar? value
    return (if width = 2 then .byte c else .char c, rest)

/-- The text before and after the first occurrence of a separator. -/
def splitAt? (sep : List Char) : List Char → Option (List Char × List Char)
  | [] => none
  | c :: rest =>
    if sep.isPrefixOf (c :: rest) then some ([], (c :: rest).drop sep.length)
    else (splitAt? sep rest).map fun r => (c :: r.1, r.2)

/-- The property a braced text names; the flag says that the value is excluded. -/
def propertyOf (body : List Char) : Option (CharSet × Bool) :=
  match splitAt? ['!', '='] body with
  | some (kind, value) => (Unicode.valued? kind value).map (·, true)
  | none => match splitAt? [':'] body with
    | some (kind, value) => (Unicode.valued? kind value).map (·, false)
    | none => match splitAt? ['='] body with
      | some (kind, value) => (Unicode.valued? kind value).map (·, false)
      | none => (Unicode.named? body).map (·, false)

def propertyEscape (f : Flags) (negated : Bool) (cs : List Char) :
    Option (Primitive × List Char) :=
  match f.skip cs with
  | [] => none
  | '\x7b' :: rest => do
    let (body, rest) ← braced f rest
    let (chars, excluded) ← propertyOf body
    return (.property chars (negated != excluded), rest)
  | c :: rest =>
    if c = '\\' then none
    else (Unicode.named? [c]).map fun chars => (.property chars negated, f.skip rest)

def isEdgeChar (c : Char) : Bool :=
  c.isAlpha || c == '-'

def edgeNamed (name : List Char) : Option WordEdge :=
  if name = "start".toList then some .start
  else if name = "end".toList then some .finish
  else if name = "start-half".toList then some .startHalf
  else if name = "end-half".toList then some .finishHalf
  else none

/-- What follows `\b`: a kind of word edge in braces, or nothing that belongs to it. -/
def wordEscape (f : Flags) (cs : List Char) : Option (Primitive × List Char) :=
  match cs with
  | '\x7b' :: rest =>
    match f.skip rest with
    | [] => none
    | c :: body =>
      if isEdgeChar c then do
        let (name, rest) ← braced f (c :: body)
        let edge ← edgeNamed name
        return (.look (.word edge f.unicode), rest)
      else some (.look (.word .boundary f.unicode), cs)
  | _ => some (.look (.word .boundary f.unicode), cs)

/-- Reads what follows a backslash. -/
def escape (f : Flags) (cs : List Char) : Option (Primitive × List Char) :=
  match cs with
  | [] => none
  | c :: rest =>
    if isEscapable c then some (.char c, rest)
    else match c with
    | 'x' => hexEscape f 2 rest
    | 'u' => hexEscape f 4 rest
    | 'U' => hexEscape f 8 rest
    | 'p' => propertyEscape f false rest
    | 'P' => propertyEscape f true rest
    | 'd' => some (.named .digit false, rest)
    | 'D' => some (.named .digit true, rest)
    | 's' => some (.named .space false, rest)
    | 'S' => some (.named .space true, rest)
    | 'w' => some (.named .word false, rest)
    | 'W' => some (.named .word true, rest)
    | 'a' => some (.char '\x07', rest)
    | 'f' => some (.char '\x0c', rest)
    | 't' => some (.char '\t', rest)
    | 'n' => some (.char '\n', rest)
    | 'r' => some (.char '\r', rest)
    | 'v' => some (.char '\x0b', rest)
    | 'A' => some (.look .textStart, rest)
    | 'z' => some (.look .textEnd, rest)
    | 'b' => wordEscape f rest
    | 'B' => some (.look (.word .interior f.unicode), rest)
    | '<' => some (.look (.word .start f.unicode), rest)
    | '>' => some (.look (.word .finish f.unicode), rest)
    | _ => none

end Codemod.Pattern
