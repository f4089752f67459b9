import HttpServer.Text.Utf8
import HttpServer.Text.Numeral

/-!
# Percent-encoding

In a request target, a query string or a form, `+` stands for a space and `%XX` for the byte with
that hexadecimal number. Decoding is strict: a `%` without two hexadecimal digits is an error that
names the byte where it stands. The decoded bytes are read as UTF-8 if they are valid, and
otherwise each byte as the character of the same number, so decoding never loses a byte.

Encoding keeps ASCII letters and digits, `*`, `-`, `.`, `_` and the slash, writes a space as `+`
and every other byte as an escape with upper-case digits.

## Main definitions

* `Percent.DecodeError`: what is wrong with an escape, and where.
* `Percent.decodeBytes`, `Percent.decode`: decoding, before and after the reading as text.
* `Percent.encode`: encoding.
-/

namespace HttpServer

namespace Percent

/-- A malformed escape; `offset` is the byte at which its `%` stands. -/
inductive DecodeError where
  /-- Fewer than two bytes follow the `%`. -/
  | truncated (offset : Nat)
  /-- The two bytes that follow the `%`, shown as text, are not both hexadecimal digits. -/
  | invalidHex (offset : Nat) (shown : Text)
  deriving DecidableEq, Repr

/-- The wording of a decoding error. -/
def DecodeError.message : DecodeError → Text
  | .truncated i => "truncated escape at byte ".toList ++ decimal i
  | .invalidHex i shown =>
    "invalid escape `%".toList ++ shown ++ "` at byte ".toList ++ decimal i

/-- The value of a byte that is an ASCII hexadecimal digit. -/
def hexValue? (b : UInt8) : Option Nat :=
  hexDigit? (Char.ofNat b.toNat)

/-- The byte image of a percent-encoded byte string; `offset` counts the bytes before it. -/
def decodeBytes (offset : Nat) : Bytes → Except DecodeError Bytes
  | [] => .ok []
  | b :: s =>
    if b = 0x25 then
      match s with
      | h :: l :: t =>
        match hexValue? h, hexValue? l with
        | some x, some y => (UInt8.ofNat (16 * x + y) :: ·) <$> decodeBytes (offset + 3) t
        | _, _ => .error (.invalidHex offset (Utf8.decodeLossy [h, l]))
      | _ => .error (.truncated offset)
    else ((if b = 0x2B then 0x20 else b) :: ·) <$> decodeBytes (offset + 1) s

/-- Bytes read as UTF-8 if they are valid, and otherwise byte by byte. -/
def toText (s : Bytes) : Text :=
  (Utf8.decode? s).getD (Utf8.latin1 s)

/-- The text that a percent-encoded text stands for. -/
def decode (t : Text) : Except DecodeError Text :=
  toText <$> decodeBytes 0 t.bytes

/-- The upper-case hexadecimal digit of a number below sixteen. -/
def upperDigit (n : Nat) : Char :=
  if n < 10 then Char.ofNat (0x30 + n) else Char.ofNat (0x37 + n)

/-- The byte stands for itself in encoded text. -/
def isUnreserved (b : UInt8) : Bool :=
  (0x30 ≤ b && b ≤ 0x39) || (0x41 ≤ b && b ≤ 0x5A) || (0x61 ≤ b && b ≤ 0x7A) ||
    b == 0x2A || b == 0x2D || b == 0x2E || b == 0x5F

/-- One byte in encoded form. The slash separates segments and is left alone. -/
def encodeByte (b : UInt8) : Text :=
  if isUnreserved b || b == 0x2F then [Char.ofNat b.toNat]
  else if b = 0x20 then ['+']
  else ['%', upperDigit (b.toNat / 16), upperDigit (b.toNat % 16)]

/-- The text with each slash-separated segment encoded. -/
def encode (t : Text) : Text :=
  t.bytes.flatMap encodeByte

@[simp] theorem encode_nil : encode [] = [] := rfl

theorem encode_append (s t : Text) : encode (s ++ t) = encode s ++ encode t := by
  simp [encode]

end Percent

end HttpServer
