/-! Runs of code points as sequences of byte ranges.
A character lies in a run exactly if its bytes lie, one by one, in the ranges of one of the
sequences. The sequences come in the order of the characters. -/

namespace Codemod.Utf8

/-- A range of bytes, both ends included. -/
abbrev ByteRange := Nat × Nat

/-- The number of values that a number of following bytes can take. -/
def span : Nat → Nat
  | 0 => 1
  | tails + 1 => 64 * span tails

def tailRange : ByteRange := (0x80, 0xBF)

/-- The sequences for the values from `lo` to `hi` that are written as one byte counted
from `base` and a number of following bytes. -/
def splitRange : (tails base lo hi : Nat) → List (List ByteRange)
  | 0, base, lo, hi => [[(base + lo, base + hi)]]
  | tails + 1, base, lo, hi =>
    let unit := span (tails + 1)
    let under (head lo hi : Nat) : List (List ByteRange) :=
      (splitRange tails 0x80 lo hi).map ((base + head, base + head) :: ·)
    if lo / unit = hi / unit then under (lo / unit) (lo % unit) (hi % unit)
    else
      let whole := if lo % unit = 0 then lo / unit else lo / unit + 1
      let stop := if hi % unit = unit - 1 then hi / unit + 1 else hi / unit
      (if whole = lo / unit then [] else under (lo / unit) (lo % unit) (unit - 1)) ++
        (if whole < stop then
          [(base + whole, base + stop - 1) :: List.replicate (tails + 1) tailRange] else []) ++
        (if stop = hi / unit then under stop 0 (hi % unit) else [])

/-- The code points of each length: first, last, number of following bytes and what the
first byte counts from. The surrogates are left out. -/
def bands : List (Nat × Nat × Nat × Nat) :=
  [(0, 0x7F, 0, 0), (0x80, 0x7FF, 1, 0xC0), (0x800, 0xD7FF, 2, 0xE0),
    (0xE000, 0xFFFF, 2, 0xE0), (0x10000, 0x10FFFF, 3, 0xF0)]

/-- The sequences for the characters from `lo` to `hi`. -/
def sequences (lo hi : Nat) : List (List ByteRange) :=
  bands.flatMap fun (first, last, tails, base) =>
    if max lo first ≤ min hi last then splitRange tails base (max lo first) (min hi last) else []

end Codemod.Utf8
