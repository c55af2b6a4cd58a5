/-! Values without quotes: truth values, numbers, dates and times.
No record of a configuration holds one, so that only their form matters and nobody asks
for what they stand for. Readers of parts take the characters that are left and give back
what follows; none says that the part is malformed. -/

namespace Codemod.Toml

/-- Characters that end a word. -/
def isBreak (c : Char) : Bool :=
  "=,[]\x7b\x7d \t#\r\n".toList.contains c

def isHexDigit (c : Char) : Bool :=
  c.isDigit || ('a' ≤ c && c ≤ 'f') || ('A' ≤ c && c ≤ 'F')

/-- Every underscore has a digit on either side; `behind` says whether there is one before
the text. -/
def isSpaced (digit : Char → Bool) : (behind : Bool) → List Char → Bool
  | _, [] => true
  | behind, c :: rest =>
    if c = '_' then behind && rest.head?.any digit && isSpaced digit false rest
    else isSpaced digit (digit c) rest

def startsWithZero (cs : List Char) : Bool :=
  cs.head? == some '0'

/-- Digits, with underscores among them. -/
def digits (leadingZero : Bool) (cs : List Char) : Option (List Char) :=
  let run := cs.takeWhile fun c => c.isDigit || c == '_'
  let count := run.countP Char.isDigit
  if count = 0 ∨ (1 < count ∧ startsWithZero run ∧ !leadingZero) then none
  else some (cs.drop run.length)

def fraction (cs : List Char) : Option (List Char) :=
  match cs with
  | '.' :: rest => digits true rest
  | _ => some cs

def exponent (cs : List Char) : Option (List Char) :=
  match cs with
  | e :: rest =>
    if e = 'e' ∨ e = 'E' then
      match rest with
      | '+' :: rest => digits true rest
      | '-' :: rest => digits true rest
      | _ => digits true rest
    else some cs
  | [] => some []

/-- A decimal number without its sign. One with a fraction or an exponent is checked to its
end, one without them only up to its first underscore; beyond, its underscores must stand
between hexadecimal digits. -/
def isDecimal (signed : Bool) (cs : List Char) : Bool :=
  let rest := cs.dropWhile Char.isDigit
  if rest.isEmpty then cs.length == 1 || (!cs.isEmpty && !startsWithZero cs)
  else if rest.any fun c => c == '.' || c == 'e' || c == 'E' then
    (((digits false cs).bind fraction).bind exponent) == some [] && isSpaced Char.isDigit signed cs
  else rest.head? == some '_' && !startsWithZero cs && isSpaced isHexDigit signed cs

/-- A number in another base, without its sign; there need not be a digit. -/
def isBased (digit : Char → Bool) (cs : List Char) : Bool :=
  cs.all (fun c => digit c || c == '_') && isSpaced digit false cs

def isUnsigned (signed : Bool) (cs : List Char) : Bool :=
  match cs with
  | '0' :: 'x' :: rest => !signed && isBased isHexDigit rest
  | '0' :: 'o' :: rest => !signed && isBased (fun c => '0' ≤ c && c ≤ '7') rest
  | '0' :: 'b' :: rest => !signed && isBased (fun c => c == '0' || c == '1') rest
  | _ => cs == "inf".toList || cs == "nan".toList || isDecimal signed cs

def isNumber (cs : List Char) : Bool :=
  match cs with
  | '+' :: rest => isUnsigned true rest
  | '-' :: rest => isUnsigned true rest
  | _ => isUnsigned false cs

/-- A number of just so many digits between two bounds, with its value. -/
def field (width least most : Nat) (cs : List Char) : Option (Nat × List Char) :=
  let run := cs.takeWhile Char.isDigit
  let n := run.foldl (fun n c => n * 10 + (c.toNat - 48)) 0
  if run.length = width ∧ least ≤ n ∧ n ≤ most then some (n, cs.drop width) else none

def mark (c : Char) (cs : List Char) : Option (List Char) :=
  match cs with
  | d :: rest => if d = c then some rest else none
  | [] => none

def isLeapYear (year : Nat) : Bool :=
  year % 4 == 0 && (year % 100 != 0 || year % 400 == 0)

def daysInMonth (year month : Nat) : Nat :=
  if month = 2 then if isLeapYear year then 29 else 28
  else if [4, 6, 9, 11].contains month then 30
  else 31

def date (cs : List Char) : Option (List Char) := do
  let (year, cs) ← field 4 0 9999 cs
  let (month, cs) ← field 2 1 12 (← mark '-' cs)
  let (_, cs) ← field 2 1 (daysInMonth year month) (← mark '-' cs)
  return cs

/-- The digits behind the point of a second, if there is a point. -/
def secondFraction (cs : List Char) : Option (List Char) :=
  match cs with
  | '.' :: rest => if rest.head?.any Char.isDigit then some (rest.dropWhile Char.isDigit) else none
  | _ => some cs

/-- A time of day; the seconds may be left out. -/
def time (cs : List Char) : Option (List Char) := do
  let (_, cs) ← field 2 0 23 cs
  let (_, cs) ← field 2 0 59 (← mark ':' cs)
  match cs with
  | ':' :: rest => secondFraction (← field 2 0 60 rest).2
  | _ => return cs

/-- The distance from universal time, which may be left out. -/
def zone (cs : List Char) : Option (List Char) :=
  match cs with
  | [] => some []
  | c :: rest =>
    if c = 'Z' ∨ c = 'z' then some rest
    else if c = '+' ∨ c = '-' then do
      let (_, cs) ← field 2 0 23 rest
      let (_, cs) ← field 2 0 59 (← mark ':' cs)
      return cs
    else none

/-- A date, a time, or both with a `T` or a space between them. -/
def isMoment (cs : List Char) : Bool :=
  match date cs with
  | some [] => true
  | some (c :: rest) => (c == 'T' || c == 't' || c == ' ') && (time rest).bind zone == some []
  | none => time cs == some []

def isPlain (cs : List Char) : Bool :=
  cs == "true".toList || cs == "false".toList || isNumber cs || isMoment cs

/-- What follows a word. A space belongs to it if it stands between a date and a time. -/
def word (cs : List Char) : Option (List Char) :=
  let front := cs.takeWhile fun c => !isBreak c
  let rest := cs.drop front.length
  match rest with
  | ' ' :: d :: more =>
    if date front == some [] && d.isDigit then
      let back := (d :: more).takeWhile fun c => !isBreak c
      if isMoment (front ++ ' ' :: back) then some ((d :: more).drop back.length) else none
    else if isPlain front then some rest else none
  | _ => if isPlain front then some rest else none

end Codemod.Toml
