import HttpServer.Encoding.SingleByte
import HttpServer.Text.Blank

/-!
# Encodings and their labels

The character encodings of the web, each with the labels that name it. A label is looked up without
the ASCII white space around it and without regard to the case of its letters.

## Main definitions

* `Encoding`: the encodings.
* `Encoding.labels`: the names of each.
* `Encoding.ofLabel?`: the encoding that a label names.
-/

namespace HttpServer

/-- A character encoding. -/
inductive Encoding where
  /-- UTF-8. -/
  | utf8
  /-- UTF-16 of either byte order, in which nothing is ever written. -/
  | utf16
  /-- The stand-in for encodings that are not safe to read, in which nothing is ever written. -/
  | replacement
  /-- The encoding x-user-defined. -/
  | userDefined
  /-- An encoding with one byte for each character. -/
  | single (index : Encoding.SingleByte)
  /-- Big5 with the Hong Kong extensions. -/
  | big5
  /-- EUC-JP. -/
  | eucJp
  /-- EUC-KR with the remaining Hangul syllables. -/
  | eucKr
  /-- GBK. -/
  | gbk
  /-- GB 18030. -/
  | gb18030
  /-- ISO-2022-JP. -/
  | iso2022Jp
  /-- Shift_JIS. -/
  | shiftJis
  deriving DecidableEq, Repr

namespace Encoding

/-- The labels of each encoding, in lower case. -/
def labels : List (Encoding × List String) :=
  [(.utf8, ["unicode-1-1-utf-8", "unicode11utf8", "unicode20utf8", "utf-8", "utf8",
      "x-unicode20utf8"]),
    (.single .ibm866, ["866", "cp866", "csibm866", "ibm866"]),
    (.single .iso88592, ["csisolatin2", "iso-8859-2", "iso-ir-101", "iso8859-2", "iso88592",
      "iso_8859-2", "iso_8859-2:1987", "l2", "latin2"]),
    (.single .iso88593, ["csisolatin3", "iso-8859-3", "iso-ir-109", "iso8859-3", "iso88593",
      "iso_8859-3", "iso_8859-3:1988", "l3", "latin3"]),
    (.single .iso88594, ["csisolatin4", "iso-8859-4", "iso-ir-110", "iso8859-4", "iso88594",
      "iso_8859-4", "iso_8859-4:1988", "l4", "latin4"]),
    (.single .iso88595, ["csisolatincyrillic", "cyrillic", "iso-8859-5", "iso-ir-144",
      "iso8859-5", "iso88595", "iso_8859-5", "iso_8859-5:1988"]),
    (.single .iso88596, ["arabic", "asmo-708", "csiso88596e", "csiso88596i", "csisolatinarabic",
      "ecma-114", "iso-8859-6", "iso-8859-6-e", "iso-8859-6-i", "iso-ir-127", "iso8859-6",
      "iso88596", "iso_8859-6", "iso_8859-6:1987"]),
    (.single .iso88597, ["csisolatingreek", "ecma-118", "elot_928", "greek", "greek8",
      "iso-8859-7", "iso-ir-126", "iso8859-7", "iso88597", "iso_8859-7", "iso_8859-7:1987",
      "sun_eu_greek"]),
    (.single .iso88598, ["csiso88598e", "csisolatinhebrew", "hebrew", "iso-8859-8",
      "iso-8859-8-e", "iso-ir-138", "iso8859-8", "iso88598", "iso_8859-8", "iso_8859-8:1988",
      "visual", "csiso88598i", "iso-8859-8-i", "logical"]),
    (.single .iso885910, ["csisolatin6", "iso-8859-10", "iso-ir-157", "iso8859-10", "iso885910",
      "l6", "latin6"]),
    (.single .iso885913, ["iso-8859-13", "iso8859-13", "iso885913"]),
    (.single .iso885914, ["iso-8859-14", "iso8859-14", "iso885914"]),
    (.single .iso885915, ["csisolatin9", "iso-8859-15", "iso8859-15", "iso885915", "iso_8859-15",
      "l9"]),
    (.single .iso885916, ["iso-8859-16"]),
    (.single .koi8r, ["cskoi8r", "koi", "koi8", "koi8-r", "koi8_r"]),
    (.single .koi8u, ["koi8-ru", "koi8-u"]),
    (.single .macintosh, ["csmacintosh", "mac", "macintosh", "x-mac-roman"]),
    (.single .windows874, ["dos-874", "iso-8859-11", "iso8859-11", "iso885911", "tis-620",
      "windows-874"]),
    (.single .windows1250, ["cp1250", "windows-1250", "x-cp1250"]),
    (.single .windows1251, ["cp1251", "windows-1251", "x-cp1251"]),
    (.single .windows1252, ["ansi_x3.4-1968", "ascii", "cp1252", "cp819", "csisolatin1", "ibm819",
      "iso-8859-1", "iso-ir-100", "iso8859-1", "iso88591", "iso_8859-1", "iso_8859-1:1987", "l1",
      "latin1", "us-ascii", "windows-1252", "x-cp1252"]),
    (.single .windows1253, ["cp1253", "windows-1253", "x-cp1253"]),
    (.single .windows1254, ["cp1254", "csisolatin5", "iso-8859-9", "iso-ir-148", "iso8859-9",
      "iso88599", "iso_8859-9", "iso_8859-9:1989", "l5", "latin5", "windows-1254", "x-cp1254"]),
    (.single .windows1255, ["cp1255", "windows-1255", "x-cp1255"]),
    (.single .windows1256, ["cp1256", "windows-1256", "x-cp1256"]),
    (.single .windows1257, ["cp1257", "windows-1257", "x-cp1257"]),
    (.single .windows1258, ["cp1258", "windows-1258", "x-cp1258"]),
    (.single .macCyrillic, ["x-mac-cyrillic", "x-mac-ukrainian"]),
    (.gbk, ["chinese", "csgb2312", "csiso58gb231280", "gb2312", "gb_2312", "gb_2312-80", "gbk",
      "iso-ir-58", "x-gbk"]),
    (.gb18030, ["gb18030"]),
    (.big5, ["big5", "big5-hkscs", "cn-big5", "csbig5", "x-x-big5"]),
    (.eucJp, ["cseucpkdfmtjapanese", "euc-jp", "x-euc-jp"]),
    (.iso2022Jp, ["csiso2022jp", "iso-2022-jp"]),
    (.shiftJis, ["csshiftjis", "ms932", "ms_kanji", "shift-jis", "shift_jis", "sjis",
      "windows-31j", "x-sjis"]),
    (.eucKr, ["cseuckr", "csksc56011987", "euc-kr", "iso-ir-149", "korean", "ks_c_5601-1987",
      "ks_c_5601-1989", "ksc5601", "ksc_5601", "windows-949"]),
    (.replacement, ["csiso2022kr", "hz-gb-2312", "iso-2022-cn", "iso-2022-cn-ext", "iso-2022-kr",
      "replacement"]),
    (.utf16, ["unicodefffe", "utf-16be", "csunicode", "iso-10646-ucs-2", "ucs-2", "unicode",
      "unicodefeff", "utf-16", "utf-16le"]),
    (.userDefined, ["x-user-defined"])]

/-- Characters that may stand around a label: tab, LF, FF, CR and space. -/
def isLabelSpace (c : Char) : Bool :=
  c == '\t' || c == '\n' || c == '\x0c' || c == '\r' || c == ' '

/-- A label as it is looked up: without ASCII white space around it, in lower case. -/
def normalLabel (label : Text) : Text :=
  Text.lower ((label.dropWhile isLabelSpace).reverse.dropWhile isLabelSpace).reverse

/-- The encoding that a label names. -/
def ofLabel? (label : Text) : Option Encoding :=
  let name := String.ofList (normalLabel label)
  (labels.find? fun entry => entry.2.contains name).map Prod.fst

end Encoding

end HttpServer
