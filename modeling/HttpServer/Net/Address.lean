import HttpServer.Text.Numeral

/-!
# Socket addresses

An address to listen on is `1.2.3.4:80` or `[::1]:80`. Reading is strict: four decimal octets
without leading zeros; or eight groups of one to four hexadecimal digits, of which one run may be
left out as `::` and the last two may be written as four octets, with an optional numeric scope
behind `%`. Printing uses the shortest form: the first of the longest runs of at least two zero
groups becomes `::`, and only a mapped IPv4 address shows octets.

## Main definitions

* `IpAddress`, `SocketAddress`: addresses.
* `IpAddress.parse?`, `SocketAddress.parse?`: reading.
* `IpAddress.text`, `SocketAddress.text`: printing.
-/

namespace HttpServer

/-- An address of a host. -/
inductive IpAddress where
  /-- Four octets. -/
  | v4 (a b c d : Nat)
  /-- Eight groups of sixteen bits. -/
  | v6 (groups : List Nat)
  deriving DecidableEq, Repr

/-- An address of a host with a port; a scope other than zero narrows an IPv6 address to a link. -/
structure SocketAddress where
  /-- The host; unless given, all addresses. -/
  ip : IpAddress := .v4 0 0 0 0
  /-- The port; unless given, a free one. -/
  port : Nat := 0
  /-- The scope. -/
  scope : Nat := 0
  deriving DecidableEq, Repr

namespace Address

/-- What reads something at the start of a text and leaves the rest. -/
abbrev Reader (α : Type) := Text → Option (α × Text)

/-- This character. -/
def char (c : Char) : Reader Unit
  | [] => none
  | d :: t => if d = c then some ((), t) else none

/-- Decimal digits, at least one, that spell a number of at most `bound`. -/
def number (bound : Nat) : Reader Nat := fun t =>
  let digits := t.takeWhile fun c => (decimalDigit? c).isSome
  (readDecimal? bound digits).map fun n => (n, t.drop digits.length)

/-- An octet: at most three digits, without a leading zero. -/
def octet : Reader Nat := fun t =>
  let digits := t.takeWhile fun c => (decimalDigit? c).isSome
  if digits.length > 3 ∨ (digits.length > 1 ∧ digits.head? = some '0') then none
  else number 255 t

/-- A group of one to four hexadecimal digits. -/
def group : Reader Nat := fun t =>
  let digits := t.takeWhile fun c => (hexDigit? c).isSome
  if digits.isEmpty ∨ digits.length > 4 then none
  else (digitsUpTo? 65535 16 hexDigit? 0 digits).map fun n => (n, t.drop digits.length)

/-- An octet behind a dot. -/
def dottedOctet : Reader Nat := fun t =>
  (char '.' t).bind fun (_, t) => octet t

/-- Four octets with dots between them. -/
def octets : Reader (Nat × Nat × Nat × Nat) := fun t =>
  match octet t with
  | none => none
  | some (a, t) =>
    match dottedOctet t with
    | none => none
    | some (b, t) =>
      match dottedOctet t with
      | none => none
      | some (c, t) =>
        match dottedOctet t with
        | none => none
        | some (d, t) => some ((a, b, c, d), t)

/-- The separator before a group: nothing before the first one, a colon before the others. -/
def separator (first : Bool) : Reader Unit := fun t =>
  if first then some ((), t) else char ':' t

/-- As many groups as there are, up to a limit, the last two possibly as octets; the flag tells
whether they were. -/
def groups (first : Bool) : Nat → Text → List Nat × Bool × Text
  | 0, t => ([], false, t)
  | limit + 1, t =>
    let embedded := if limit = 0 then none else (separator first t).bind fun (_, t) => octets t
    match embedded with
    | some ((a, b, c, d), t) => ([a * 256 + b, c * 256 + d], true, t)
    | none =>
      match (separator first t).bind fun (_, t) => group t with
      | none => ([], false, t)
      | some (g, t) =>
        let (gs, dotted, t) := groups false limit t
        (g :: gs, dotted, t)

/-- The eight groups of an IPv6 address. -/
def ipv6 : Reader (List Nat) := fun t =>
  let (front, dotted, t) := groups true 8 t
  if front.length = 8 then some (front, t)
  else if dotted then none
  else
    match (char ':' t).bind fun (_, t) => char ':' t with
    | none => none
    | some (_, t) =>
      let (back, _, t) := groups true (7 - front.length) t
      some (front ++ List.replicate (8 - front.length - back.length) 0 ++ back, t)

/-- A colon and a port. -/
def port : Reader Nat := fun t =>
  (char ':' t).bind fun (_, t) => number 65535 t

/-- A scope behind a percent sign, or zero without reading anything. -/
def scope (t : Text) : Nat × Text :=
  match (char '%' t).bind fun (_, t) => number 4294967295 t with
  | some (n, t) => (n, t)
  | none => (0, t)

/-- An IPv4 address with a port. -/
def socketV4 : Reader SocketAddress := fun t =>
  match octets t with
  | none => none
  | some ((a, b, c, d), t) => (port t).map fun (p, t) => (⟨.v4 a b c d, p, 0⟩, t)

/-- A bracketed IPv6 address with a port. -/
def socketV6 : Reader SocketAddress := fun t =>
  match (char '[' t).bind fun (_, t) => ipv6 t with
  | none => none
  | some (gs, t) =>
    let (s, t) := scope t
    match (char ']' t).bind fun (_, t) => port t with
    | none => none
    | some (p, t) => some (⟨.v6 gs, p, s⟩, t)

/-- The longest run of zeros in a list of groups, as its place and its length; of several the
first. -/
def longestZeros (groups : List Nat) : Nat × Nat :=
  let runs := (List.range groups.length).map fun i =>
    (i, ((groups.drop i).takeWhile (· == 0)).length)
  runs.foldl (fun best run => if run.2 > best.2 then run else best) (0, 0)

/-- Groups with colons between them. -/
def groupsText (gs : List Nat) : Text :=
  Text.join [':'] (gs.map hexadecimal)

/-- Four octets with dots between them. -/
def octetsText (a b c d : Nat) : Text :=
  Text.join ['.'] ([a, b, c, d].map decimal)

end Address

namespace IpAddress

/-- The address that a whole text spells. -/
def parse? (t : Text) : Option IpAddress :=
  match Address.octets t with
  | some ((a, b, c, d), []) => some (v4 a b c d)
  | some (_, _ :: _) => none
  | none =>
    match Address.ipv6 t with
    | some (gs, []) => some (v6 gs)
    | _ => none

/-- The address in its shortest form. -/
def text : IpAddress → Text
  | v4 a b c d => Address.octetsText a b c d
  | v6 [0, 0, 0, 0, 0, 0xFFFF, g, h] =>
    "::ffff:".toList ++ Address.octetsText (g / 256) (g % 256) (h / 256) (h % 256)
  | v6 gs =>
    let (start, length) := Address.longestZeros gs
    if length > 1 then
      Address.groupsText (gs.take start) ++ [':', ':'] ++
        Address.groupsText (gs.drop (start + length))
    else Address.groupsText gs

end IpAddress

namespace SocketAddress

/-- The address that a whole text spells. -/
def parse? (t : Text) : Option SocketAddress :=
  match Address.socketV4 t with
  | some (a, []) => some a
  | some (_, _ :: _) => none
  | none =>
    match Address.socketV6 t with
    | some (a, []) => some a
    | _ => none

/-- The address with its port; an IPv6 address stands in brackets, with its scope if that is not
zero. -/
def text (a : SocketAddress) : Text :=
  match a.ip with
  | .v4 .. => a.ip.text ++ ':' :: decimal a.port
  | .v6 _ =>
    let scope := if a.scope = 0 then [] else '%' :: decimal a.scope
    '[' :: a.ip.text ++ scope ++ ']' :: ':' :: decimal a.port

end SocketAddress

end HttpServer
