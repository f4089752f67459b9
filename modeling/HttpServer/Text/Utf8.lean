import HttpServer.Text.Basic

/-!
# UTF-8

Encoding is total. Decoding cuts a byte string into *parts*: a well-formed sequence stands for
its character, and a maximal ill-formed part, that is the longest start of some well-formed
sequence, or a single byte where no sequence starts, stands for nothing. Strict decoding wants
every part to be a character; lossy decoding shows each ill-formed part as U+FFFD.

## Main definitions

* `Utf8.encode`: the bytes of a text.
* `Utf8.parts`: the parts of a byte string, `none` for an ill-formed one.
* `Utf8.decode?`, `Utf8.decodeLossy`: the strict and the lossy reading.
* `Utf8.latin1`: the reading of each byte as the character of the same number.
-/

namespace HttpServer

namespace Utf8

/-- The one to four bytes of a character. -/
def encodeChar (c : Char) : Bytes :=
  let n := c.toNat
  if n < 0x80 then [UInt8.ofNat n]
  else if n < 0x800 then [UInt8.ofNat (0xC0 + n / 64), UInt8.ofNat (0x80 + n % 64)]
  else if n < 0x10000 then
    [UInt8.ofNat (0xE0 + n / 4096), UInt8.ofNat (0x80 + n / 64 % 64), UInt8.ofNat (0x80 + n % 64)]
  else
    [UInt8.ofNat (0xF0 + n / 262144), UInt8.ofNat (0x80 + n / 4096 % 64),
      UInt8.ofNat (0x80 + n / 64 % 64), UInt8.ofNat (0x80 + n % 64)]

/-- The bytes of a text. -/
def encode (t : Text) : Bytes :=
  t.flatMap encodeChar

/-- The byte continues a sequence. -/
def isTail (b : UInt8) : Bool :=
  0x80 ≤ b && b ≤ 0xBF

/-- The byte may come second after the lead byte `a`. The bounds keep out overlong forms,
surrogates and numbers above U+10FFFF. -/
def isSecond (a b : UInt8) : Bool :=
  (if a = 0xE0 then 0xA0 else if a = 0xF0 then 0x90 else 0x80) ≤ b &&
    b ≤ (if a = 0xED then 0x9F else if a = 0xF4 then 0x8F else 0xBF)

/-- The low six bits of a byte that continues a sequence. -/
def tailBits (b : UInt8) : Nat :=
  b.toNat - 0x80

/-- The parts of a byte string: the character of each well-formed sequence, and `none` for each
maximal ill-formed part. -/
def parts : Bytes → List (Option Char)
  | [] => []
  | a :: s =>
    if a < 0x80 then some (Char.ofNat a.toNat) :: parts s
    else if 0xC2 ≤ a && a ≤ 0xDF then
      match s with
      | [] => [none]
      | b :: t =>
        if isTail b then some (Char.ofNat ((a.toNat - 0xC0) * 64 + tailBits b)) :: parts t
        else none :: parts (b :: t)
    else if 0xE0 ≤ a && a ≤ 0xEF then
      match s with
      | [] => [none]
      | b :: t =>
        if isSecond a b then
          match t with
          | [] => [none]
          | c :: u =>
            if isTail c then
              some (Char.ofNat ((a.toNat - 0xE0) * 4096 + tailBits b * 64 + tailBits c)) :: parts u
            else none :: parts (c :: u)
        else none :: parts (b :: t)
    else if 0xF0 ≤ a && a ≤ 0xF4 then
      match s with
      | [] => [none]
      | b :: t =>
        if isSecond a b then
          match t with
          | [] => [none]
          | c :: u =>
            if isTail c then
              match u with
              | [] => [none]
              | d :: v =>
                if isTail d then
                  some (Char.ofNat
                    ((a.toNat - 0xF0) * 262144 + tailBits b * 4096 + tailBits c * 64 +
                      tailBits d)) :: parts v
                else none :: parts (d :: v)
            else none :: parts (c :: u)
        else none :: parts (b :: t)
    else none :: parts s

/-- The text that a byte string encodes, if every part of it is well formed. -/
def decode? (s : Bytes) : Option Text :=
  let ps := parts s
  if ps.all Option.isSome then some (ps.filterMap id) else none

/-- The text of a byte string with U+FFFD for each maximal ill-formed part. -/
def decodeLossy (s : Bytes) : Text :=
  (parts s).map fun p => p.getD (Char.ofNat 0xFFFD)

/-- Each byte as the character of the same number. -/
def latin1 (s : Bytes) : Text :=
  s.map fun b => Char.ofNat b.toNat

@[simp] theorem encode_nil : encode [] = [] := rfl

@[simp] theorem encode_cons (c : Char) (t : Text) : encode (c :: t) = encodeChar c ++ encode t := by
  simp [encode]

@[simp] theorem encode_append (s t : Text) : encode (s ++ t) = encode s ++ encode t := by
  simp [encode]

/-- An ASCII character is its own byte. -/
theorem encodeChar_ascii {c : Char} (h : c.toNat < 0x80) :
    encodeChar c = [UInt8.ofNat c.toNat] := by
  simp [encodeChar, h]

end Utf8

/-- The UTF-8 bytes of a text. -/
abbrev Text.bytes (t : Text) : Bytes := Utf8.encode t

end HttpServer
