import HttpServer.Yaml.Token

/-!
# Documents

The tokens of a text make up at most one document, and a document is one node: a scalar, a sequence
or a mapping. What is left out, such as the value of a key without one, is an empty plain scalar.

## Main definitions

* `Yaml.Value`: the nodes.
* `Yaml.document?`: the document of a text.
-/

namespace HttpServer

namespace Yaml

/-- A node of a document. -/
inductive Value where
  /-- A scalar, and whether it is plain. -/
  | scalar (plain : Bool) (text : Text)
  /-- A sequence. -/
  | sequence (items : List Value)
  /-- A mapping, as a list of keys with their values. -/
  | mapping (entries : List (Value × Value))

namespace Value

/-- What is left out. -/
def absent : Value := .scalar true []

/-- The first token is one of these, or there is none. -/
def endsAt (ends : List Token) (ts : List Token) : Bool :=
  match ts with
  | [] => true
  | t :: _ => ends.contains t

/-- A node that may be left out before one of these tokens. -/
def optional (ends : List Token) (read : List Token → Option (Value × List Token))
    (ts : List Token) : Option (Value × List Token) :=
  if endsAt ends ts then some (absent, ts) else read ts

/-- The tokens before which a part of a block mapping may be left out. -/
def mappingEnds : List Token := [.key, .value, .blockEnd]

mutual

/-- Reads a node. In a block, collections by indentation are allowed, and in a mapping also a
sequence that is not indented. -/
def read (fuel : Nat) (block indentless : Bool) (ts : List Token) : Option (Value × List Token) :=
  match fuel, ts with
  | fuel + 1, .blockEntry :: _ =>
    if indentless then
      (readItems fuel true ts).map fun (items, ts) => (sequence items, ts)
    else none
  | _, .scalar plain text :: ts => some (scalar plain text, ts)
  | fuel + 1, .flowSequenceStart :: ts =>
    (readFlowItems fuel true ts).map fun (items, ts) => (sequence items, ts)
  | fuel + 1, .flowMappingStart :: ts =>
    (readFlowEntries fuel true ts).map fun (entries, ts) => (mapping entries, ts)
  | fuel + 1, .sequenceStart :: ts =>
    if block then (readItems fuel false ts).map fun (items, ts) => (sequence items, ts) else none
  | fuel + 1, .mappingStart :: ts =>
    if block then (readEntries fuel ts).map fun (entries, ts) => (mapping entries, ts) else none
  | _, _ => none

/-- Reads the items of a block sequence. One that is not indented ends before anything else. -/
def readItems (fuel : Nat) (indentless : Bool) (ts : List Token) :
    Option (List Value × List Token) :=
  match fuel, ts with
  | fuel + 1, .blockEntry :: ts =>
    let ends := if indentless then .blockEntry :: mappingEnds else [.blockEntry, .blockEnd]
    match optional ends (read fuel true false) ts with
    | none => none
    | some (item, ts) => (readItems fuel indentless ts).map fun (items, ts) => (item :: items, ts)
  | _, ts =>
    if indentless then some ([], ts)
    else
      match ts with
      | .blockEnd :: ts => some ([], ts)
      | _ => none

/-- Reads the entries of a block mapping. -/
def readEntries (fuel : Nat) (ts : List Token) : Option (List (Value × Value) × List Token) :=
  match fuel, ts with
  | fuel + 1, .key :: ts =>
    match optional mappingEnds (read fuel true true) ts with
    | none => none
    | some (key, ts) =>
      let value := match ts with
        | .value :: ts => optional mappingEnds (read fuel true true) ts
        | ts => some (absent, ts)
      match value with
      | none => none
      | some (value, ts) =>
        (readEntries fuel ts).map fun (entries, ts) => ((key, value) :: entries, ts)
  | _, .blockEnd :: ts => some ([], ts)
  | _, _ => none

/-- Reads the items of a flow sequence; behind the first one each needs a comma. An item may be a
single entry of a mapping. Where the key of such an entry is left out, the token that shows this is
taken with it, so only a second colon brings a value. -/
def readFlowItems (fuel : Nat) (first : Bool) (ts : List Token) :
    Option (List Value × List Token) :=
  match fuel, ts with
  | _, .flowSequenceEnd :: ts => some ([], ts)
  | 0, _ => none
  | fuel + 1, ts =>
    let start := if first then some ts else
      match ts with
      | .flowEntry :: ts => some ts
      | _ => none
    match start with
    | none => none
    | some (.flowSequenceEnd :: ts) => some ([], ts)
    | some (.key :: ts) =>
      let key :=
        if endsAt [.value, .flowEntry, .flowSequenceEnd] ts then some (absent, ts.drop 1)
        else read fuel false false ts
      match key with
      | none => none
      | some (key, ts) =>
        let value := match ts with
          | .value :: ts => optional [.flowEntry, .flowSequenceEnd] (read fuel false false) ts
          | ts => some (absent, ts)
        match value with
        | none => none
        | some (value, ts) =>
          (readFlowItems fuel false ts).map fun (items, ts) =>
            (mapping [(key, value)] :: items, ts)
    | some ts =>
      match read fuel false false ts with
      | none => none
      | some (item, ts) =>
        (readFlowItems fuel false ts).map fun (items, ts) => (item :: items, ts)

/-- Reads the entries of a flow mapping; behind the first one each needs a comma. -/
def readFlowEntries (fuel : Nat) (first : Bool) (ts : List Token) :
    Option (List (Value × Value) × List Token) :=
  match fuel, ts with
  | _, .flowMappingEnd :: ts => some ([], ts)
  | 0, _ => none
  | fuel + 1, ts =>
    let start := if first then some ts else
      match ts with
      | .flowEntry :: ts => some ts
      | _ => none
    match start with
    | none => none
    | some (.flowMappingEnd :: ts) => some ([], ts)
    | some (.key :: ts) =>
      match optional [.value, .flowEntry, .flowMappingEnd] (read fuel false false) ts with
      | none => none
      | some (key, ts) =>
        let value := match ts with
          | .value :: ts => optional [.flowEntry, .flowMappingEnd] (read fuel false false) ts
          | ts => some (absent, ts)
        match value with
        | none => none
        | some (value, ts) =>
          (readFlowEntries fuel false ts).map fun (entries, ts) => ((key, value) :: entries, ts)
    | some ts =>
      match read fuel false false ts with
      | none => none
      | some (key, ts) =>
        (readFlowEntries fuel false ts).map fun (entries, ts) => ((key, absent) :: entries, ts)

end

end Value

/-- The node of a stream of tokens that holds at most one document. The reading of a node and of
what it consists of takes turns, so twice the number of tokens bounds their depth. -/
def ofTokens? (ts : List Token) : Option Value :=
  let fuel := 2 * ts.length + 2
  let body := match ts with
    | .documentStart :: rest =>
      if Value.endsAt [.documentStart, .documentEnd] rest then some (Value.absent, rest)
      else Value.read fuel true false rest
    | [] => some (Value.absent, [])
    | ts => Value.read fuel true false ts
  match body with
  | none => none
  | some (node, rest) =>
    if (rest.dropWhile fun t => t == .documentEnd).isEmpty then some node else none

/-- The document of a text; an empty text is an empty document. -/
def document? (t : Text) : Option Value :=
  (tokens? t).bind ofTokens?

end Yaml

end HttpServer
