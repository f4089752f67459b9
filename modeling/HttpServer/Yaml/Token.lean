import HttpServer.Yaml.Scalar

/-!
# Tokens

A YAML document is cut into tokens. The scanner keeps the columns of the open block collections, the
depth of flow collections, and for each depth the place of a scalar that may turn out to be a key: a
colon behind it turns it into one, and opens a block mapping at its column if none is open there. A
line that starts further left closes the block collections that start further right.

The accepted language has block and flow collections, the three styles of scalars, comments and
document markers. Anchors, aliases, tags, directives and block scalars are refused.

## Main definitions

* `Yaml.Token`: the tokens.
* `Yaml.Scanner`, `Yaml.Scanner.step`: the state and the reading of one token.
* `Yaml.tokens?`: the tokens of a text.
-/

namespace HttpServer

namespace Yaml

/-- A token of a document. -/
inductive Token where
  /-- `---` -/
  | documentStart
  /-- `...` -/
  | documentEnd
  /-- A block sequence starts here. -/
  | sequenceStart
  /-- A block mapping starts here. -/
  | mappingStart
  /-- A block collection ends here. -/
  | blockEnd
  /-- `[` -/
  | flowSequenceStart
  /-- `]` -/
  | flowSequenceEnd
  /-- `\x7b` -/
  | flowMappingStart
  /-- `\x7d` -/
  | flowMappingEnd
  /-- `-` -/
  | blockEntry
  /-- `,` -/
  | flowEntry
  /-- A key follows. -/
  | key
  /-- A value follows. -/
  | value
  /-- A scalar, and whether it is plain. -/
  | scalar (plain : Bool) (text : Text)
  deriving DecidableEq, Repr

/-- A place where a key may have started. -/
structure PossibleKey where
  /-- Only a key can stand here. -/
  required : Bool
  /-- The number of tokens before it. -/
  token : Nat
  /-- The position of its start. -/
  pos : Pos

/-- The state of the scanner. -/
structure Scanner where
  /-- What has not been read. -/
  rest : Text
  /-- The position. -/
  pos : Pos := {}
  /-- The column of the innermost open block collection, or -1. -/
  indent : Int := -1
  /-- The columns of those around it. -/
  indents : List Int := []
  /-- A key may start here. -/
  keyAllowed : Bool := true
  /-- The possible key of each open flow collection, the innermost first, and of the block around
  them. -/
  keys : List (Option PossibleKey) := [none]
  /-- The tokens so far, the last one first. -/
  tokens : List Token := []
  /-- The number of tokens so far. -/
  count : Nat := 0

namespace Scanner

/-- Some flow collection is open. -/
def inFlow (s : Scanner) : Bool :=
  match s.keys with
  | _ :: _ :: _ => true
  | _ => false

/-- Skips blanks, comments and line ends. Outside of flow collections a key may start after a line
end, and where one may start a tab is no blank. A byte order mark at the start of a line is a blank;
it takes up a column. -/
def skipBlank (flow allowed : Bool) (comment : Bool) (pos : Pos) : Text → Bool × Pos × Text
  | [] => (allowed, pos, [])
  | c :: t =>
    if isBreak c then skipBlank flow (allowed || !flow) false (pos.next c) t
    else if comment then skipBlank flow allowed true (pos.next c) t
    else if c == ' ' || c == '\ufeff' && pos.column == 0 || c == '\t' && (flow || !allowed) then
      skipBlank flow allowed false (pos.next c) t
    else if c == '#' then skipBlank flow allowed true (pos.next c) t
    else (allowed, pos, c :: t)

/-- Adds a token behind the others. -/
def emit (s : Scanner) (t : Token) : Scanner :=
  { s with tokens := t :: s.tokens, count := s.count + 1 }

/-- Puts a token behind the first `place` ones. -/
def insert (s : Scanner) (place : Nat) (t : Token) : Scanner :=
  { s with tokens := s.tokens.insertIdx (s.count - place) t, count := s.count + 1 }

/-- Drops the possible key of the innermost collection. -/
def dropKey (s : Scanner) : Option Scanner :=
  match s.keys with
  | some k :: keys => if k.required then none else some { s with keys := none :: keys }
  | _ => some s

/-- Drops the possible key of the innermost collection if it is not on this line or more than 1024
bytes away. Those of the collections around it have their turn when it is closed. -/
def expire (s : Scanner) : Option Scanner :=
  match s.keys with
  | some k :: _ =>
    if k.pos.line < s.pos.line || k.pos.index + 1024 < s.pos.index then s.dropKey else some s
  | _ => some s

/-- Notes that a key may start here. -/
def noteKey (s : Scanner) : Option Scanner :=
  if s.keyAllowed then
    (dropKey s).map fun s =>
      { s with
        keys := some ⟨!s.inFlow && s.indent == s.pos.column, s.count, s.pos⟩ :: s.keys.drop 1 }
  else some s

/-- Closes the block collections that start to the right of a column: how many these are, the column
of the innermost one that is left, and the columns of those around it. -/
def closeTo (column : Int) (closed : Nat) (indent : Int) : List Int → Nat × Int × List Int
  | [] => (closed, indent, [])
  | outer :: indents =>
    if indent > column then closeTo column (closed + 1) outer indents
    else (closed, indent, outer :: indents)

/-- Closes the block collections that start to the right of a column, outside of flow
collections. -/
def unroll (s : Scanner) (column : Int) : Scanner :=
  if s.inFlow then s
  else
    let (closed, indent, indents) := closeTo column 0 s.indent s.indents
    { s with
      tokens := List.replicate closed .blockEnd ++ s.tokens
      count := s.count + closed
      indent
      indents }

/-- Opens a block collection at a column, in front of the token number `place`, unless one is open
there already or a flow collection is open. -/
def roll (s : Scanner) (column : Nat) (place : Nat) (t : Token) : Scanner :=
  if !s.inFlow && s.indent < column then
    { s.insert place t with indent := column, indents := s.indent :: s.indents }
  else s

/-- Moves over one character. -/
def skip (s : Scanner) : Scanner :=
  match s.rest with
  | [] => s
  | c :: t => { s with rest := t, pos := s.pos.next c }

/-- Reads `---` or `...`. -/
def marker (s : Scanner) (t : Token) : Option Scanner :=
  (s.unroll (-1)).dropKey.map fun s => { s.skip.skip.skip.emit t with keyAllowed := false }

/-- Reads an opening bracket. -/
def openFlow (s : Scanner) (t : Token) : Option Scanner :=
  s.noteKey.map fun s => { s.skip.emit t with keys := none :: s.keys, keyAllowed := true }

/-- Reads a closing bracket. -/
def closeFlow (s : Scanner) (t : Token) : Option Scanner :=
  s.dropKey.map fun s =>
    { s.skip.emit t with
      keys := if s.inFlow then s.keys.drop 1 else s.keys, keyAllowed := false }

/-- Reads a comma. -/
def flowEntry (s : Scanner) : Option Scanner :=
  s.dropKey.map fun s => { s.skip.emit .flowEntry with keyAllowed := true }

/-- Reads a hyphen that stands alone. -/
def blockEntry (s : Scanner) : Option Scanner :=
  if !s.inFlow && !s.keyAllowed then none
  else
    (s.roll s.pos.column s.count .sequenceStart).dropKey.map fun s =>
      { s.skip.emit .blockEntry with keyAllowed := true }

/-- Reads a question mark that stands alone. -/
def explicitKey (s : Scanner) : Option Scanner :=
  if !s.inFlow && !s.keyAllowed then none
  else
    (s.roll s.pos.column s.count .mappingStart).dropKey.map fun s =>
      { s.skip.emit .key with keyAllowed := !s.inFlow }

/-- Reads a colon: the possible key before it becomes a key. Without one, a value may only stand
where a key may. -/
def value (s : Scanner) : Option Scanner :=
  match s.keys with
  | some k :: keys =>
    let s := { s.insert k.token .key with keys := none :: keys }
    let s := s.roll k.pos.column k.token .mappingStart
    some { s.skip.emit .value with keyAllowed := false }
  | _ =>
    if !s.inFlow && !s.keyAllowed then none
    else
      let s := s.roll s.pos.column s.count .mappingStart
      some { s.skip.emit .value with keyAllowed := !s.inFlow }

/-- Takes over a scalar. -/
def scalar (s : Scanner) (plain : Bool) (r : Option Scanned) : Option Scanner :=
  match r with
  | none => none
  | some r =>
    some { s.emit (.scalar plain r.text) with
      rest := r.rest, pos := r.pos, keyAllowed := r.broken }

/-- A plain scalar may start with this text. -/
def startsPlain (flow : Bool) : Text → Bool
  | [] => false
  | c :: t =>
    if c == '-' then !(t.head?.any isSpace)
    else if c == '?' || c == ':' then !flow && !atBlank t
    else !"-?:,[]\x7b\x7d#&*!|>\x27\"%@\x60".toList.contains c && !isSpace c && !isBreak c

/-- Reads the token at the start of `rest`. -/
def token (s : Scanner) (c : Char) (t : Text) : Option Scanner :=
  if s.pos.column == 0 && c == '%' then none
  else if s.pos.column == 0 && atMarker (c :: t) then
    s.marker (if c == '-' then .documentStart else .documentEnd)
  else if c == '[' then s.openFlow .flowSequenceStart
  else if c == '\x7b' then s.openFlow .flowMappingStart
  else if c == ']' then s.closeFlow .flowSequenceEnd
  else if c == '\x7d' then s.closeFlow .flowMappingEnd
  else if c == ',' then s.flowEntry
  else if c == '-' && atBlank t then s.blockEntry
  else if c == '?' && (s.inFlow || atBlank t) then s.explicitKey
  else if c == ':' && (s.inFlow || atBlank t) then s.value
  else if c == '\'' then
    s.noteKey.bind fun s => s.scalar false (scanSingle {} false (s.pos.next c) t)
  else if c == '"' then
    s.noteKey.bind fun s => s.scalar false (scanDouble {} .none false (s.pos.next c) t)
  else if startsPlain s.inFlow (c :: t) then
    s.noteKey.bind fun s =>
      s.scalar true (scanPlain s.inFlow (s.indent + 1) {} false s.pos (c :: t))
  else none

/-- Reads one token, or the end of the text, which is told by the flag. -/
def step (s : Scanner) : Option (Bool × Scanner) :=
  let (keyAllowed, pos, rest) := skipBlank s.inFlow s.keyAllowed false s.pos s.rest
  let s := { s with keyAllowed, pos, rest }
  match s.expire with
  | none => none
  | some s =>
    let s := s.unroll pos.column
    match rest with
    | [] => (s.unroll (-1)).dropKey.map fun s => (true, s)
    | c :: t => (s.token c t).map fun s => (false, s)

/-- Reads at most a number of tokens up to the end of the text. -/
def run : Nat → Scanner → Option (List Token)
  | 0, _ => none
  | fuel + 1, s =>
    match s.step with
    | none => none
    | some (true, s) => some s.tokens.reverse
    | some (false, s) => run fuel s

end Scanner

/-- CR, CR LF and U+0085 end a line just as LF does. -/
def unifyBreaks : Text → Text
  | [] => []
  | '\r' :: '\n' :: t => '\n' :: unifyBreaks t
  | '\r' :: t => '\n' :: unifyBreaks t
  | '\u0085' :: t => '\n' :: unifyBreaks t
  | c :: t => c :: unifyBreaks t

/-- The character may occur in a document. -/
def isAllowed (c : Char) : Bool :=
  let n := c.toNat
  n == 9 || n == 10 || n == 13 || (0x20 ≤ n && n ≤ 0x7E) || n == 0x85 ||
    (0xA0 ≤ n && n ≤ 0xFFFD) || 0x10000 ≤ n

/-- The tokens of a text. Every token takes at least one character, so the length of the text bounds
their reading. -/
def tokens? (t : Text) : Option (List Token) :=
  if t.all isAllowed then
    let t := unifyBreaks t
    Scanner.run (t.length + 1) { rest := t }
  else none

end Yaml

end HttpServer
