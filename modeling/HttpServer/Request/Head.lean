import HttpServer.Input.Basic
import HttpServer.Request.Basic

/-!
# The head of a request

The first line is `METHOD TARGET [VERSION]`, in words; whatever follows the second word is ignored.
The target is a path and, behind the first `?`, a query string; both are percent-decoded, the query
string first. A header line is `Name: value`; a line without a colon is skipped. Names are trimmed
and stored in lower case, values are trimmed, and the last of several fields with one name counts.

## Main definitions

* `RequestError`: why no request was read, with its wording.
* `RequestLine.split`, `Target.decode`: the first line.
* `Fields.ofBlock`: the header lines.
-/

namespace HttpServer

/-- Why no request was read. -/
inductive RequestError where
  /-- The first line has no word. -/
  | missingMethod
  /-- The first line has only one word. -/
  | missingTarget
  /-- The path, the query string or the form has a malformed escape. -/
  | decode (error : Percent.DecodeError)
  /-- The deadline of a stage passed. -/
  | timedOut (stage : Stage)
  /-- The input ended before its first byte. -/
  | closed
  /-- A read failed. -/
  | io (fault : Fault)
  /-- No deadline applies, and the input neither goes on nor ends. -/
  | abandoned
  deriving DecidableEq, Repr

namespace RequestError

/-- The wording of a request error. -/
def message : RequestError → Text
  | missingMethod => "missing method in request line".toList
  | missingTarget => "missing URI in request line".toList
  | decode e => "bad percent-encoding: ".toList ++ e.message
  | timedOut stage => "timed out reading ".toList ++ stage.message
  | closed => "connection closed before a request line was sent".toList
  | io fault => fault.message
  | abandoned => "gave up waiting".toList

/-- The client sent something malformed, as opposed to the read having failed. -/
def isBadRequest : RequestError → Bool
  | missingMethod | missingTarget | decode _ => true
  | timedOut _ | closed | io _ | abandoned => false

/-- The error that an interrupted read amounts to. -/
def ofInterruption : Interruption → RequestError
  | .late stage => timedOut stage
  | .failed fault => io fault
  | .abandoned => abandoned

end RequestError

/-- The first two words of a request line: the method and the raw target. -/
def RequestLine.split (line : Text) : Except RequestError (Method × Text) :=
  let (method, rest) := line.nextWord
  let (target, _) := Text.nextWord rest
  if method.isEmpty then .error .missingMethod
  else if target.isEmpty then .error .missingTarget
  else .ok (.ofToken method, target)

/-- Decodes a raw target: its query string into `params`, then its path. The parameters that were
decoded before an error are kept. -/
def Target.decode (raw : Text) (params : Params) : Except Percent.DecodeError Text × Params :=
  match splitOnce? '?' raw with
  | none => (Percent.decode raw, params)
  | some (path, query) =>
    match params.decodeInto query with
    | (.error e, params) => (.error e, params)
    | (.ok (), params) => (Percent.decode path, params)

namespace Fields

/-- The name and the value of a header line, if it has a colon. -/
def parseLine? (line : Text) : Option (Text × Text) :=
  (splitOnce? ':' line).map fun (name, value) => (Text.lower (Text.trim name), Text.trim value)

/-- The lines of a header block before its first blank one. -/
def blockLines (block : Bytes) : List Text :=
  ((splitOn 0x0A block).map lineText).takeWhile fun line => !line.isBlank

/-- The fields of a header block. -/
def ofBlock (block : Bytes) : Fields :=
  ofList ((blockLines block).filterMap parseLine?)

end Fields

/-- What the head of a request says: everything but the body. -/
structure Head where
  /-- The method of the first line. -/
  method : Method
  /-- The decoded path. -/
  path : Text
  /-- The parameters of the query string. -/
  params : Params
  /-- The header fields. -/
  fields : Fields

namespace Head

/-- The method, the path and the parameters of a first line, without its end. -/
def parseLine (line : Text) : Except RequestError (Method × Text × Params) :=
  match RequestLine.split line with
  | .error e => .error e
  | .ok (method, raw) =>
    match Target.decode raw Params.empty with
    | (.error e, _) => .error (.decode e)
    | (.ok path, params) => .ok (method, path, params)

/-- The head as a request without a body. -/
def bodiless (h : Head) : Request :=
  ⟨h.method, h.path, h.params, h.fields, []⟩

/-- The body that follows the head of a form: as many bytes as the header announces, or else
everything through the first CR LF. -/
def bodyPart (h : Head) : Part :=
  match h.fields.contentLength? with
  | some n => .count n
  | none => .crlf false

/-- The request of a form: its parameters follow those of the query string. The body is decoded
from its lenient reading as text, trimmed. -/
def withForm (h : Head) (body : Bytes) : Except RequestError Request :=
  match h.params.decodeInto (Utf8.decodeLossy body).trim with
  | (.error e, _) => .error (.decode e)
  | (.ok (), params) => .ok ⟨h.method, h.path, params, h.fields, body⟩

end Head

end HttpServer
