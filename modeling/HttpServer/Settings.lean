import HttpServer.Files.Resolve
import HttpServer.Net.Address
import HttpServer.Request.Read
import HttpServer.Text.Quoted
import HttpServer.Yaml.Value

/-!
# Settings

The settings of a server come from a YAML document with two sections and one setting of its own. A
section or a setting that is not given has its default, unknown keys are ignored, and a known key
may be given only once. The address to listen on is kept as text and read when it is needed. Loading
starts from the defaults or from a file, and an address from the environment overrides both.

## Main definitions

* `Settings`, `SettingsError`: the settings, and what can be wrong with them.
* `Settings.ofYaml`: the settings of a document.
* `Settings.load`: the settings of a file and the environment.
* `Settings.address`: the address to listen on.
-/

namespace HttpServer

/-- The settings of the server itself. -/
structure ServerSettings where
  /-- The address to listen on, as it was written. -/
  listenAddr : Text := "127.0.0.1:8080".toList
  /-- The idle limit in milliseconds, if there is one. -/
  idleTimeout : Option Nat := none
  /-- The limit for the head of a request in milliseconds. -/
  headerTimeout : Nat := 5000
  deriving DecidableEq, Repr

/-- The settings of the files that are served. -/
structure FileSettings where
  /-- The path of the directory. -/
  root : Text := ".".toList
  /-- Directories without an index file are listed. -/
  listing : Bool := true
  deriving DecidableEq, Repr

/-- The settings. -/
structure Settings where
  /-- The settings of the server itself. -/
  server : ServerSettings := {}
  /-- The settings of the files that are served. -/
  files : FileSettings := {}
  /-- The label of the encoding for text responses. -/
  outputEncoding : Option Text := none
  deriving DecidableEq, Repr

/-- What is wrong with the settings. -/
inductive SettingsError where
  /-- The document is no YAML, or does not hold settings. -/
  | invalid
  /-- The file at this path cannot be read as text. -/
  | unreadable (path : Text)
  /-- The document in the file at this path is invalid. -/
  | invalidFile (path : Text)
  /-- This is no address to listen on. -/
  | address (text : Text)
  deriving DecidableEq, Repr

/-- The wording of a settings error. -/
def SettingsError.message : SettingsError → Text
  | invalid => "invalid configuration".toList
  | unreadable path => "failed to read config file ".toList ++ path
  | invalidFile path => "in config file ".toList ++ path
  | address t =>
    "invalid listen address ".toList ++ quoted t ++ ": invalid socket address syntax".toList

namespace Settings

open Yaml (Value)

/-- The entries of a section by the texts of their keys; a section without a value has none. -/
def section? : Value → Option (List (Text × Value))
  | .mapping entries =>
    entries.mapM fun (key, value) =>
      match key with
      | .scalar _ name => some (name, value)
      | _ => none
  | .scalar true [] => some []
  | _ => none

/-- The value of a known key, or its default if the key is not given. A key that is given twice, or
whose value does not read, is refused. -/
def setting? {α : Type} (entries : List (Text × Value)) (name : String) (default : α)
    (read : Value → Option α) : Option α :=
  match entries.filter fun e => e.1 == name.toList with
  | [] => some default
  | [(_, value)] => read value
  | _ => none

/-- Any scalar as its text. -/
def text? : Value → Option Text
  | .scalar _ t => some t
  | _ => none

/-- The value stands for nothing. -/
def isNull : Value → Bool
  | .scalar true t => t.isEmpty || ["~", "null", "Null", "NULL"].contains (String.ofList t)
  | _ => false

/-- A value that may stand for nothing. -/
def orNull? {α : Type} (read : Value → Option α) (n : Value) : Option (Option α) :=
  if isNull n then some none else (read n).map some

/-- A plain truth value. -/
def bool? : Value → Option Bool
  | .scalar true t =>
    if ["true", "True", "TRUE"].contains (String.ofList t) then some true
    else if ["false", "False", "FALSE"].contains (String.ofList t) then some false
    else none
  | _ => none

/-- The value of an octal digit. -/
def octalDigit? (c : Char) : Option Nat :=
  (decimalDigit? c).filter (· < 8)

/-- The value of a binary digit. -/
def binaryDigit? (c : Char) : Option Nat :=
  (decimalDigit? c).filter (· < 2)

/-- An unsigned number of at most 64 bits: decimal without leading zeros, or hexadecimal, octal or
binary behind `0x`, `0o` or `0b`. -/
def unsigned? : Text → Option Nat
  | '0' :: 'x' :: c :: t => digitsUpTo? maxU64 16 hexDigit? 0 (c :: t)
  | '0' :: 'o' :: c :: t => digitsUpTo? maxU64 8 octalDigit? 0 (c :: t)
  | '0' :: 'b' :: c :: t => digitsUpTo? maxU64 2 binaryDigit? 0 (c :: t)
  | '0' :: _ :: _ => none
  | t => readDecimal? maxU64 t

/-- A plain unsigned number of at most 64 bits, with an optional `+`. -/
def number? : Value → Option Nat
  | .scalar true t => unsigned? (dropPlus t)
  | _ => none

/-- The settings of the server itself. -/
def serverOf? (n : Value) : Option ServerSettings := do
  let entries ← section? n
  let listenAddr ← setting? entries "listen_addr" ({} : ServerSettings).listenAddr text?
  let idleTimeout ← setting? entries "idle_timeout_ms" none (orNull? number?)
  let headerTimeout ← setting? entries "header_timeout_ms" 5000 number?
  return ⟨listenAddr, idleTimeout, headerTimeout⟩

/-- The settings of the files that are served. -/
def filesOf? (n : Value) : Option FileSettings := do
  let entries ← section? n
  let root ← setting? entries "root" ({} : FileSettings).root text?
  let listing ← setting? entries "directory_listing" true bool?
  return ⟨root, listing⟩

/-- The settings of a document. -/
def ofValue? (n : Value) : Option Settings := do
  let entries ← section? n
  let server ← setting? entries "server" {} serverOf?
  let files ← setting? entries "static_files" {} filesOf?
  let outputEncoding ← setting? entries "output_encoding" none (orNull? text?)
  return ⟨server, files, outputEncoding⟩

/-- The settings of a YAML text. -/
def ofYaml (t : Text) : Except SettingsError Settings :=
  match (Yaml.document? t).bind ofValue? with
  | some s => .ok s
  | none => .error .invalid

/-- The settings of a file. -/
def ofFile (fs : FileSystem) (path : Text) : Except SettingsError Settings :=
  match fs.stat path.bytes with
  | .ok (.file content) =>
    match Utf8.decode? content.bytes with
    | none => .error (.unreadable path)
    | some t =>
      match ofYaml t with
      | .ok s => .ok s
      | .error _ => .error (.invalidFile path)
  | _ => .error (.unreadable path)

/-- The defaults or the settings of the file that the environment names, with the address that the
environment gives. A value of the environment that is no text counts as not given. -/
def load (fs : FileSystem) (file listen : Option Bytes) : Except SettingsError Settings :=
  let base : Except SettingsError Settings := match file.bind Utf8.decode? with
    | none => .ok {}
    | some path => ofFile fs path
  match base with
  | .error e => .error e
  | .ok s =>
    match listen.bind Utf8.decode? with
    | none => .ok s
    | some t => .ok { s with server := { s.server with listenAddr := t } }

/-- The address to listen on. -/
def address (s : Settings) : Except SettingsError SocketAddress :=
  match SocketAddress.parse? s.server.listenAddr with
  | some a => .ok a
  | none => .error (.address s.server.listenAddr)

/-- The deadlines for requests. -/
def deadlines (s : Settings) : Deadlines where
  head := s.server.headerTimeout
  idle := s.server.idleTimeout

end Settings

end HttpServer
