import Codemod.Unicode.Property

/-! Conditions on a place between two characters. Each is settled by the character before
the place and the one after it; none stands for either end of the text. -/

namespace Codemod.Pattern

inductive WordEdge where
  | boundary
  | interior
  | start
  | finish
  | startHalf
  | finishHalf
deriving DecidableEq

inductive Look where
  | textStart
  | textEnd
  | lineStart
  | lineEnd
  /-- Line start where a line ends with a carriage return, a line feed or both. -/
  | anyLineStart
  /-- Line end where a line ends with a carriage return, a line feed or both. -/
  | anyLineEnd
  | word (edge : WordEdge) (unicode : Bool)
deriving DecidableEq

def isAsciiWord (c : Char) : Bool :=
  c.isAlphanum || c == '_'

def isWord (unicode : Bool) (c : Char) : Bool :=
  if unicode then Unicode.wordSet.mem c else isAsciiWord c

def WordEdge.holds (before after : Bool) : WordEdge → Bool
  | .boundary => before != after
  | .interior => before == after
  | .start => !before && after
  | .finish => before && !after
  | .startHalf => !before
  | .finishHalf => !after

def Look.holds (before after : Option Char) : Look → Bool
  | .textStart => before.isNone
  | .textEnd => after.isNone
  | .lineStart => before.isNone || before == some '\n'
  | .lineEnd => after.isNone || after == some '\n'
  | .anyLineStart =>
    before.isNone || before == some '\n' || (before == some '\r' && after != some '\n')
  | .anyLineEnd =>
    after.isNone || after == some '\r' || (after == some '\n' && before != some '\r')
  | .word edge unicode => edge.holds (before.any (isWord unicode)) (after.any (isWord unicode))

end Codemod.Pattern
