/-! Text as bytes. Decoding stops at the first byte that no text can hold and says where
that is and how many bytes are at fault, or that the text ends inside a character. -/

namespace Codemod.Utf8

/-- The first place where bytes are no text; `fault` is none if they end too early. -/
structure DecodeError where
  offset : Nat
  fault : Option Nat
deriving DecidableEq

def DecodeError.message (e : DecodeError) : String :=
  match e.fault with
  | some n =>
    "invalid utf-8 sequence of " ++ toString n ++ " bytes from index " ++ toString e.offset
  | none => "incomplete utf-8 byte sequence from index " ++ toString e.offset

def encodeChar (c : Char) : List UInt8 :=
  let n := c.toNat
  if n < 0x80 then [.ofNat n]
  else if n < 0x800 then [.ofNat (0xC0 + n / 64), .ofNat (0x80 + n % 64)]
  else if n < 0x10000 then
    [.ofNat (0xE0 + n / 4096), .ofNat (0x80 + n / 64 % 64), .ofNat (0x80 + n % 64)]
  else
    [.ofNat (0xF0 + n / 262144), .ofNat (0x80 + n / 4096 % 64), .ofNat (0x80 + n / 64 % 64),
      .ofNat (0x80 + n % 64)]

def encode (text : List Char) : List UInt8 :=
  text.flatMap encodeChar

/-- Bytes that a text takes. -/
def byteLength : List Char → Nat
  | [] => 0
  | c :: rest => c.utf8Size + byteLength rest

def within (lo hi : Nat) (b : UInt8) : Bool :=
  decide (lo ≤ b.toNat) && decide (b.toNat ≤ hi)

def isTail (b : UInt8) : Bool :=
  within 0x80 0xBF b

/-- The range of the second byte of a character of three or four bytes. -/
def secondRange (a : Nat) : Nat × Nat :=
  if a = 0xE0 then (0xA0, 0xBF)
  else if a = 0xED then (0x80, 0x9F)
  else if a = 0xF0 then (0x90, 0xBF)
  else if a = 0xF4 then (0x80, 0x8F)
  else (0x80, 0xBF)

def isSecond (a b : UInt8) : Bool :=
  within (secondRange a.toNat).1 (secondRange a.toNat).2 b

/-- The value of a following byte. -/
def low (b : UInt8) : Nat := b.toNat - 0x80

def decodeFrom (offset : Nat) : List UInt8 → Except DecodeError (List Char)
  | [] => .ok []
  | a :: rest =>
    if a.toNat < 0x80 then (decodeFrom (offset + 1) rest).map (Char.ofNat a.toNat :: ·)
    else if a.toNat < 0xC2 then .error ⟨offset, some 1⟩
    else if a.toNat < 0xE0 then
      match rest with
      | [] => .error ⟨offset, none⟩
      | b :: rest =>
        if isTail b then
          (decodeFrom (offset + 2) rest).map (Char.ofNat ((a.toNat - 0xC0) * 64 + low b) :: ·)
        else .error ⟨offset, some 1⟩
    else if a.toNat < 0xF0 then
      match rest with
      | [] => .error ⟨offset, none⟩
      | b :: rest =>
        if isSecond a b then
          match rest with
          | [] => .error ⟨offset, none⟩
          | c :: rest =>
            if isTail c then
              (decodeFrom (offset + 3) rest).map
                (Char.ofNat ((a.toNat - 0xE0) * 4096 + low b * 64 + low c) :: ·)
            else .error ⟨offset, some 2⟩
        else .error ⟨offset, some 1⟩
    else if a.toNat < 0xF5 then
      match rest with
      | [] => .error ⟨offset, none⟩
      | b :: rest =>
        if isSecond a b then
          match rest with
          | [] => .error ⟨offset, none⟩
          | c :: rest =>
            if isTail c then
              match rest with
              | [] => .error ⟨offset, none⟩
              | d :: rest =>
                if isTail d then
                  (decodeFrom (offset + 4) rest).map
                    (Char.ofNat
                      ((a.toNat - 0xF0) * 262144 + low b * 4096 + low c * 64 + low d) :: ·)
                else .error ⟨offset, some 3⟩
            else .error ⟨offset, some 2⟩
        else .error ⟨offset, some 1⟩
    else .error ⟨offset, some 1⟩

def decode (bytes : List UInt8) : Except DecodeError (List Char) :=
  decodeFrom 0 bytes

end Codemod.Utf8
