import HttpServer.Encoding.Iso2022Jp
import HttpServer.Encoding.Label
import HttpServer.Text.Utf8

/-!
# Writing text in an encoding

Text responses are written in the encoding that an output label names. Without a label that is
UTF-8; under a label that names no encoding a text has no bytes at all. UTF-16 and the replacement
encoding are never written: UTF-8 takes their place. A character that the encoding lacks is written
as a decimal character reference, and no byte order mark is added.

The label belongs to the process. It can be set again at any time, and each text is written under
the label that is set then.

## Main definitions

* `Encoding.encode`: a text in an encoding.
* `OutputEncoding`, `OutputEncoding.encode`: a text under an output label.
* `OutputEncoding.results`: what calls give that set labels and write texts.
-/

namespace HttpServer

namespace Encoding

/-- The byte of a character beyond ASCII in a single-byte encoding. U+FFFD marks a gap. -/
def single? (index : SingleByte) (c : Char) : Option Bytes :=
  if c.toNat = 0xFFFD then none
  else (index.index.findIdx? (· == c)).map fun p => bytesOf [p + 0x80]

/-- The bytes of a character beyond ASCII in an encoding that writes each character for itself. -/
def encodeWide? : Encoding → Char → Option Bytes
  | utf8, c | utf16, c | replacement, c => some (Utf8.encodeChar c)
  | userDefined, c =>
    if 0xF780 ≤ c.toNat && c.toNat ≤ 0xF7FF then some (bytesOf [c.toNat - 0xF780 + 0x80])
    else none
  | single index, c => single? index c
  | big5, c => big5? c
  | eucJp, c => eucJp? c
  | eucKr, c => eucKr? c
  | gbk, c => gbk? c
  | gb18030, c => gb18030? c
  | iso2022Jp, _ => none
  | shiftJis, c => shiftJis? c

/-- The decimal reference of a character. -/
def reference (c : Char) : Bytes :=
  Iso2022Jp.reference c.toNat

/-- The bytes of a character in an encoding that writes each character for itself. -/
def encodeChar (e : Encoding) (c : Char) : Bytes :=
  if c.toNat < 0x80 then [UInt8.ofNat c.toNat] else (encodeWide? e c).getD (reference c)

/-- The bytes of a text in an encoding. -/
def encode (e : Encoding) (t : Text) : Bytes :=
  match e with
  | iso2022Jp => Iso2022Jp.encode t
  | e => t.flatMap (encodeChar e)

/-- The encoding whose label is trimmed and then looked up. -/
def ofOutputLabel? (label : Text) : Option Encoding :=
  ofLabel? label.trim

end Encoding

/-- The label of the encoding for text responses, if one is set. -/
abbrev OutputEncoding := Option Text

/-- The bytes of a text under an output label. -/
def OutputEncoding.encode (output : OutputEncoding) (t : Text) : Bytes :=
  match output with
  | none => Utf8.encode t
  | some label =>
    match Encoding.ofOutputLabel? label with
    | some e => e.encode t
    | none => []

/-- Something that is done with the output label of a process. -/
inductive OutputCall where
  /-- Another label is set, or none. -/
  | set (label : Option Text)
  /-- A text is written. -/
  | encode (t : Text)
  deriving DecidableEq, Repr

/-- What calls give in turn: bytes for a text, and nothing for a label. -/
def OutputEncoding.results (output : OutputEncoding) : List OutputCall → List (Option Bytes)
  | [] => []
  | .set label :: calls => none :: results label calls
  | .encode t :: calls => some (output.encode t) :: results output calls

end HttpServer
