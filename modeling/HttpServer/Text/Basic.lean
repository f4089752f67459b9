/-!
# Text and bytes

A request arrives as bytes and is understood as text. `Bytes` is a list of octets and `Text` a
list of Unicode scalar values; the encoding that joins them is in `HttpServer.Text.Utf8`.

Case is folded for ASCII letters only: header names, file extensions and encoding labels are
compared that way, and every other character stands for itself.

## Main definitions

* `Bytes`, `Text`: the two kinds of string.
* `Text.lower`: ASCII letters in lower case.
* `Text.sameIgnoringCase`: equality up to the case of ASCII letters.
-/

namespace HttpServer

/-- A string of octets, as it travels on a connection or lies in a file. -/
abbrev Bytes := List UInt8

/-- A string of Unicode scalar values. -/
abbrev Text := List Char

/-- An ASCII capital letter becomes its small letter; every other character is kept. -/
def lowerChar (c : Char) : Char :=
  if 'A' ≤ c ∧ c ≤ 'Z' then Char.ofNat (c.toNat + 32) else c

namespace Text

/-- The text with its ASCII letters in lower case. -/
def lower (t : Text) : Text :=
  t.map lowerChar

/-- Two texts are the same up to the case of their ASCII letters. -/
def sameIgnoringCase (s t : Text) : Bool :=
  lower s == lower t

/-- The text with every `old` replaced by `new`. -/
def replaceChar (old new : Char) (t : Text) : Text :=
  t.map fun c => if c = old then new else c

/-- The texts one after another with `sep` between neighbours. -/
def join (sep : Text) : List Text → Text
  | [] => []
  | [t] => t
  | t :: ts => t ++ sep ++ join sep ts

@[simp] theorem length_lower (t : Text) : (lower t).length = t.length := by
  simp [lower]

@[simp] theorem lower_append (s t : Text) : lower (s ++ t) = lower s ++ lower t := by
  simp [lower]

end Text

end HttpServer
