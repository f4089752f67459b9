import HttpServer.Text.Numeral

/-!
# Scalars

A YAML scalar is written plain, in single quotes or in double quotes. In all three a line break and
the blanks around it fold to one space, or to the empty lines that follow it. A plain scalar ends
where its line structure or an indicator ends it; a quoted one ends at its quote and may hold
escapes.

## Main definitions

* `Yaml.Pos`: a position in a document.
* `Yaml.scanPlain`, `Yaml.scanSingle`, `Yaml.scanDouble`: the three styles.
-/

namespace HttpServer

namespace Yaml

/-- A line feed or one of the two Unicode separators. Other line ends are turned into line feeds
before a document is read. -/
def isBreak (c : Char) : Bool :=
  c == '\n' || c == '\u2028' || c == '\u2029'

/-- A space or a tab. -/
def isSpace (c : Char) : Bool :=
  c == ' ' || c == '\t'

/-- A text is over, or goes on with a space, a tab or a line break. -/
def atBlank : Text → Bool
  | [] => true
  | c :: _ => isSpace c || isBreak c

/-- `---` or `...`, standing alone. -/
def atMarker : Text → Bool
  | a :: b :: c :: t => (a == '-' || a == '.') && b == a && c == a && atBlank t
  | _ => false

/-- A position: the bytes, the lines and the characters of the line before it. -/
structure Pos where
  /-- The bytes of the text in UTF-8 before the position. -/
  index : Nat := 0
  /-- The lines before the position. -/
  line : Nat := 0
  /-- The characters before the position in its line. -/
  column : Nat := 0
  deriving DecidableEq, Repr

/-- The position behind a character. -/
def Pos.next (p : Pos) (c : Char) : Pos :=
  let index := p.index + c.utf8Size
  if isBreak c then ⟨index, p.line + 1, 0⟩ else ⟨index, p.line, p.column + 1⟩

/-- A scalar while it is read. -/
structure Folding where
  /-- The text so far, last character first. -/
  out : Text := []
  /-- Blanks that have been read since, last first, unless a line has ended. -/
  spaces : Text := []
  /-- A line has ended since the last character of the text. -/
  broken : Bool := false
  /-- The first line break since, unless it was escaped. -/
  first : Option Char := none
  /-- The line breaks behind it, last first. -/
  more : Text := []

namespace Folding

/-- Reads a blank. -/
def space (f : Folding) (c : Char) : Folding :=
  if f.broken then f else { f with spaces := c :: f.spaces }

/-- Reads a line break. -/
def lineBreak (f : Folding) (c : Char) : Folding :=
  if f.broken then { f with more := c :: f.more }
  else { f with spaces := [], broken := true, first := some c }

/-- Reads a line break that is escaped, and leaves no trace itself. -/
def escapedBreak (f : Folding) : Folding :=
  { f with spaces := [], broken := true, first := none }

/-- Turns what has been read since the last character into text. -/
def settle (f : Folding) : Folding :=
  if f.broken then
    match f.first with
    | some '\n' => { out := if f.more.isEmpty then ' ' :: f.out else f.more ++ f.out }
    | some c => { out := f.more ++ c :: f.out }
    | none => { out := f.more ++ f.out }
  else { out := f.spaces ++ f.out }

/-- Adds a character to the text. -/
def push (f : Folding) (c : Char) : Folding :=
  { f.settle with out := c :: f.settle.out }

/-- The text that was read. -/
def text (f : Folding) : Text :=
  f.out.reverse

end Folding

/-- A scalar that has been read. -/
structure Scanned where
  /-- Its text. -/
  text : Text
  /-- A line ended behind it. -/
  broken : Bool
  /-- Where it ended. -/
  pos : Pos
  /-- What follows it. -/
  rest : Text

/-- The scalar that ends here. -/
def Folding.scanned (f : Folding) (pos : Pos) (rest : Text) : Scanned :=
  ⟨f.text, f.broken, pos, rest⟩

/-- Reads a plain scalar inside or outside a flow collection. Outside, its lines start at least at
the column `least`. -/
def scanPlain (flow : Bool) (least : Int) (f : Folding) (blank : Bool) (pos : Pos) :
    Text → Option Scanned
  | [] => some (f.scanned pos [])
  | c :: t =>
    if isSpace c then
      if f.broken && c == '\t' && pos.column < least then none
      else scanPlain flow least (f.space c) true (pos.next c) t
    else if isBreak c then scanPlain flow least (f.lineBreak c) true (pos.next c) t
    else
      let outside := !flow && pos.column < least
      let marked := pos.column == 0 && atMarker (c :: t)
      if blank && (outside || marked || c == '#') then some (f.scanned pos (c :: t))
      else if flow && c == ':' && t.head?.any (",?[]\x7b\x7d".toList.contains ·) then none
      else if c == ':' && atBlank t || flow && ",[]\x7b\x7d".toList.contains c then
        some (f.scanned pos (c :: t))
      else scanPlain flow least (f.push c) false (pos.next c) t

/-- Reads a scalar behind its opening single quote. A quote inside it is written twice. -/
def scanSingle (f : Folding) (blank : Bool) (pos : Pos) : Text → Option Scanned
  | [] => none
  | c :: t =>
    if isSpace c then scanSingle (f.space c) true (pos.next c) t
    else if isBreak c then scanSingle (f.lineBreak c) true (pos.next c) t
    else if blank && pos.column == 0 && atMarker (c :: t) then none
    else if c == '\'' then
      match t with
      | '\'' :: t => scanSingle (f.push c) false ((pos.next c).next c) t
      | t => some ⟨f.settle.text, false, pos.next c, t⟩
    else scanSingle (f.push c) false (pos.next c) t

/-- What an escape of one letter stands for. -/
def simpleEscape? (c : Char) : Option Char :=
  [('0', '\x00'), ('a', '\x07'), ('b', '\x08'), ('t', '\t'), ('\t', '\t'), ('n', '\n'),
    ('v', '\x0b'), ('f', '\x0c'), ('r', '\r'), ('e', '\x1b'), (' ', ' '), ('"', '"'), ('/', '/'),
    ('\\', '\\'), ('N', '\u0085'), ('_', '\u00a0'), ('L', '\u2028'), ('P', '\u2029')].lookup c

/-- The number of digits of a numeric escape. -/
def escapeDigits? (c : Char) : Option Nat :=
  [('x', 2), ('u', 4), ('U', 8)].lookup c

/-- What is being read inside double quotes. -/
inductive Escape where
  /-- Plain characters. -/
  | none
  /-- The letter behind a backslash. -/
  | letter
  /-- So many digits more of a numeric escape with this value so far. -/
  | digits (left value : Nat)

/-- The character of a number, if there is one. -/
def charOf? (n : Nat) : Option Char :=
  if n.isValidChar then some (Char.ofNat n) else .none

/-- Reads a scalar behind its opening double quote. -/
def scanDouble (f : Folding) (escape : Escape) (blank : Bool) (pos : Pos) : Text → Option Scanned
  | [] => .none
  | c :: t =>
    match escape with
    | .digits left value =>
      match hexDigit? c with
      | .none => .none
      | some d =>
        let value := value * 16 + d
        match left with
        | 0 | 1 =>
          match charOf? value with
          | .none => .none
          | some x => scanDouble (f.push x) .none false (pos.next c) t
        | left + 1 => scanDouble f (.digits left value) false (pos.next c) t
    | .letter =>
      if isBreak c then scanDouble f.escapedBreak .none true (pos.next c) t
      else
        match simpleEscape? c with
        | some x => scanDouble (f.push x) .none false (pos.next c) t
        | .none =>
          match escapeDigits? c with
          | some n => scanDouble f (.digits n 0) false (pos.next c) t
          | .none => .none
    | .none =>
      if isSpace c then scanDouble (f.space c) .none true (pos.next c) t
      else if isBreak c then scanDouble (f.lineBreak c) .none true (pos.next c) t
      else if blank && pos.column == 0 && atMarker (c :: t) then .none
      else if c == '"' then some ⟨f.settle.text, false, pos.next c, t⟩
      else if c == '\\' then scanDouble f.settle .letter false (pos.next c) t
      else scanDouble (f.push c) .none false (pos.next c) t

end Yaml

end HttpServer
