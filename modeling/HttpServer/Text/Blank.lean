import HttpServer.Text.Basic

/-!
# White space

The characters with the Unicode property `White_Space`, and the two operations that look for
them: trimming a text, and taking its first word. U+200B, U+FEFF, U+180E and the
separators U+001C to U+001F do not have the property.

## Main definitions

* `isBlank`: the property itself.
* `Text.trim`: a text without the white space at its two ends.
* `Text.nextWord`: the first run of other characters, and the rest.
-/

namespace HttpServer

/-- The character has the Unicode property `White_Space`. -/
def isBlank (c : Char) : Bool :=
  let n := c.toNat
  (9 ≤ n && n ≤ 13) || n == 0x20 || n == 0x85 || n == 0xA0 || n == 0x1680 ||
    (0x2000 ≤ n && n ≤ 0x200A) || n == 0x2028 || n == 0x2029 || n == 0x202F || n == 0x205F ||
    n == 0x3000

namespace Text

/-- The text without the white space at its start. -/
def trimStart (t : Text) : Text :=
  t.dropWhile isBlank

/-- The text without the white space at its end. -/
def trimEnd (t : Text) : Text :=
  (t.reverse.dropWhile isBlank).reverse

/-- The text without the white space at its two ends. -/
def trim (t : Text) : Text :=
  trimEnd (trimStart t)

/-- Nothing but white space. -/
def isBlank (t : Text) : Bool :=
  t.all HttpServer.isBlank

/-- The first word of a text, that is its first longest run of characters that are no white space,
and what follows it. The word is empty if the text has none. -/
def nextWord (t : Text) : Text × Text :=
  let t := trimStart t
  (t.takeWhile fun c => !HttpServer.isBlank c, t.dropWhile fun c => !HttpServer.isBlank c)

end Text

end HttpServer
