import HttpServer.Encoding.Basic
import HttpServer.Files.Tree
import HttpServer.Text.Markup
import HttpServer.Text.Numeral

/-!
# Responses

A response has a status, an optional media type, header fields in the order in which they were
added, and a body: nothing, some bytes, or an open file from a position on. Text bodies are written
in the output encoding. A status is one of the seven that the server answers with; on the wire it is
its number and its phrase, as in `404 Not Found`.

## Main definitions

* `Status`: the statuses.
* `Body`, `Response`: what a handler answers.
* `Response.text`, `Response.error`, `Response.redirect`: the usual answers.
* `Response.header?`: the first field of a name, whatever its case.
* `Response.head`: everything that goes out before the body.
-/

namespace HttpServer

/-- The status of a response. -/
inductive Status where
  /-- 200 -/
  | ok
  /-- 301 -/
  | movedPermanently
  /-- 400 -/
  | badRequest
  /-- 403 -/
  | forbidden
  /-- 404 -/
  | notFound
  /-- 500 -/
  | internalServerError
  /-- 501 -/
  | notImplemented
  deriving DecidableEq, Repr

namespace Status

/-- The three-digit number of a status. -/
def code : Status → Nat
  | ok => 200
  | movedPermanently => 301
  | badRequest => 400
  | forbidden => 403
  | notFound => 404
  | internalServerError => 500
  | notImplemented => 501

/-- The phrase of a status. -/
def reason : Status → Text
  | ok => "OK".toList
  | movedPermanently => "Moved Permanently".toList
  | badRequest => "Bad Request".toList
  | forbidden => "Forbidden".toList
  | notFound => "Not Found".toList
  | internalServerError => "Internal Server Error".toList
  | notImplemented => "Not Implemented".toList

/-- The number and the phrase, as they stand in the first line of a response. -/
def line (s : Status) : Text :=
  decimal s.code ++ ' ' :: s.reason

theorem code_injective {s t : Status} (h : s.code = t.code) : s = t := by
  cases s <;> cases t <;> simp_all [code]

end Status

/-- The body of a response. -/
inductive Body where
  /-- Nothing. -/
  | empty
  /-- Bytes in memory. -/
  | bytes (s : Bytes)
  /-- An open file, to be sent from this position on, which may lie past its end. -/
  | file (content : Content) (position : Nat)
  deriving DecidableEq, Repr

namespace Body

/-- The body is known to have no bytes; an open file never is. -/
def isEmpty : Body → Bool
  | empty => true
  | bytes s => s.isEmpty
  | file _ _ => false

/-- All bytes of the body. -/
def all : Body → Bytes
  | empty => []
  | bytes s => s
  | file content position => content.bytesFrom position

/-- The body is an open file. -/
def isFile : Body → Bool
  | file _ _ => true
  | _ => false

end Body

/-- What a handler answers. -/
structure Response where
  /-- The status. -/
  status : Status
  /-- The media type, if one is to be announced. -/
  mime : Option Text := none
  /-- The header fields in order. -/
  headers : List (Text × Text) := []
  /-- The body. -/
  body : Body := .empty
  deriving DecidableEq, Repr

namespace Response

/-- The response with one more header field behind the others. -/
def addHeader (r : Response) (name value : Text) : Response :=
  { r with headers := r.headers ++ [(name, value)] }

/-- The response with this media type. -/
def withMime (r : Response) (mime : Text) : Response :=
  { r with mime := some mime }

/-- The response with this body. -/
def withBody (r : Response) (body : Body) : Response :=
  { r with body }

/-- The response with a text body in the output encoding. -/
def withText (r : Response) (output : OutputEncoding) (t : Text) : Response :=
  { r with body := .bytes (output.encode t) }

/-- A text response. -/
def text (output : OutputEncoding) (status : Status) (mime t : Text) : Response :=
  ⟨status, some mime, [], .bytes (output.encode t)⟩

/-- A plain message. -/
def error (output : OutputEncoding) (status : Status) (message : Text) : Response :=
  text output status "text/plain".toList message

/-- The page that a redirect shows. -/
def redirectPage (location : Text) : Text :=
  "<html><body>Redirected: <a href=\"".toList ++ Markup.escape location ++ "\">".toList ++
    Markup.escape location ++ "</a></body></html>".toList

/-- A permanent redirect to a location that is already encoded; the page shows it escaped. -/
def redirect (output : OutputEncoding) (location : Text) : Response :=
  (text output .movedPermanently "text/html".toList (redirectPage location)).addHeader
    "Location".toList location

/-- The value of the first header field of this name, whatever its case. -/
def header? (r : Response) (name : Text) : Option Text :=
  (r.headers.find? fun field => Text.sameIgnoringCase field.1 name).map Prod.snd

/-- One header line, with its end. -/
def headerLine (field : Text × Text) : Text :=
  field.1 ++ ": ".toList ++ field.2 ++ "\r\n".toList

/-- The media type as a header field. -/
def mimeField (r : Response) : List (Text × Text) :=
  match r.mime with
  | none => []
  | some mime => [("Content-Type".toList, mime)]

/-- The date as a header field, unless the handler has set one. -/
def dateField (r : Response) (date : Text) : List (Text × Text) :=
  match r.header? "Date".toList with
  | none => [("Date".toList, date)]
  | some _ => []

/-- All header fields as they are sent on a given date. -/
def sentFields (r : Response) (date : Text) : List (Text × Text) :=
  r.mimeField ++ r.dateField date ++ r.headers

/-- What goes out before the body: the status line, the header lines and a blank line. -/
def headText (r : Response) (date : Text) : Text :=
  "HTTP/1.0 ".toList ++ r.status.line ++ "\r\n".toList ++
    (r.sentFields date).flatMap headerLine ++ "\r\n".toList

/-- The bytes that go out before the body. -/
def head (r : Response) (date : Text) : Bytes :=
  Utf8.encode (r.headText date)

/-- Everything that goes out. -/
def bytes (r : Response) (date : Text) : Bytes :=
  r.head date ++ r.body.all

end Response

end HttpServer
