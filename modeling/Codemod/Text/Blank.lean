import Codemod.Text.CharSet

/-! White space and trimming. White space is the Unicode property of that name. -/

namespace Codemod

/-- The characters with the property White_Space. -/
def CharSet.blank : CharSet :=
  ⟨[(0x9, 0xD), (0x20, 0x20), (0x85, 0x85), (0xA0, 0xA0), (0x1680, 0x1680), (0x2000, 0x200A),
    (0x2028, 0x2029), (0x202F, 0x202F), (0x205F, 0x205F), (0x3000, 0x3000)]⟩

def isBlank (c : Char) : Bool :=
  CharSet.blank.mem c

namespace Text

def trimStart (cs : List Char) : List Char :=
  cs.dropWhile isBlank

def trimEnd (cs : List Char) : List Char :=
  (cs.reverse.dropWhile isBlank).reverse

def trim (cs : List Char) : List Char :=
  trimEnd (trimStart cs)

def lowerAscii (cs : List Char) : List Char :=
  cs.map Char.toLower

end Text

end Codemod
