import HttpServer.Encoding.MultiByte
import HttpServer.Text.Numeral

/-!
# ISO-2022-JP

Escape sequences select one of three character sets: ASCII, the Roman set, which has the yen sign
and the overline in place of the backslash and the tilde, and the two-byte set of JIS X 0208. The
output starts and ends in ASCII. A character that no set has is written as a numeric reference, and
so are the three characters that would themselves select a set, as references to U+FFFD.
-/

namespace HttpServer

namespace Encoding

namespace Iso2022Jp

/-- The selected character set. -/
inductive Charset where
  /-- ASCII. -/
  | ascii
  /-- ASCII with a yen sign and an overline. -/
  | roman
  /-- The two-byte set. -/
  | jis0208
  deriving DecidableEq, Repr

/-- The escape sequence that selects a set. -/
def Charset.escape : Charset → Bytes
  | ascii => [0x1B, 0x28, 0x42]
  | roman => [0x1B, 0x28, 0x4A]
  | jis0208 => [0x1B, 0x24, 0x42]

/-- The escape sequence that is needed to get from one set to another. -/
def Charset.select (old new : Charset) : Bytes :=
  if old = new then [] else new.escape

/-- The fullwidth characters of the halfwidth katakana forms U+FF61 to U+FF9F. -/
def katakana : Text :=
  ("。「」、・ヲァィゥェォャュョッーアイウエオカキクケコサシスセソタ" ++
    "チツテトナニヌネノハヒフヘホマミムメモヤユヨラリルレロワン゛゜").toList

/-- A halfwidth katakana form as its fullwidth character, and the minus sign as its fullwidth
form. -/
def widen (c : Char) : Char :=
  if isHalfwidth c then katakana.getD (c.toNat - 0xFF61) c else widenMinus c

/-- A numeric character reference. -/
def reference (n : Nat) : Bytes :=
  ('&' :: '#' :: decimal n ++ [';']).map fun c => UInt8.ofNat c.toNat

/-- The character would change the selected set if it were written. -/
def isControl (c : Char) : Bool :=
  c.toNat == 0x0E || c.toNat == 0x0F || c.toNat == 0x1B

/-- The bytes of a character after those of the set `state`, and the set that is selected then. -/
def encodeChar (state : Charset) (c : Char) : Bytes × Charset :=
  let n := c.toNat
  let plain := if state = .jis0208 then .ascii else state
  if isControl c then (state.select plain ++ reference 0xFFFD, plain)
  else if n < 0x80 then
    let set := if state = .roman ∧ c ≠ '\\' ∧ c ≠ '~' then .roman else .ascii
    (state.select set ++ [UInt8.ofNat n], set)
  else if n = 0xA5 then (state.select .roman ++ [0x5C], .roman)
  else if n = 0x203E then (state.select .roman ++ [0x7E], .roman)
  else
    match jis0208Pointers[(widen c).toNat]? with
    | some p => (state.select .jis0208 ++ bytesOf [p / 94 + 0x21, p % 94 + 0x21], .jis0208)
    | none => (state.select plain ++ reference n, plain)

/-- The bytes of a text after those of the set `state`. -/
def encodeFrom (state : Charset) : Text → Bytes
  | [] => state.select .ascii
  | c :: t =>
    let (s, next) := encodeChar state c
    s ++ encodeFrom next t

/-- The bytes of a text. -/
def encode (t : Text) : Bytes :=
  encodeFrom .ascii t

end Iso2022Jp

end Encoding

end HttpServer
