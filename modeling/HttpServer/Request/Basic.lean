import HttpServer.Request.Fields
import HttpServer.Request.Params
import HttpServer.Text.Numeral

/-!
# Requests

A request has a method, a decoded path, parameters, header fields and a body. The methods that the
protocol names are constructors; any other token is kept as it was sent, because it is the handler
that decides which methods it serves.

## Main definitions

* `Method`, `Request`: what is handed to a handler.
* `Request.header?`: the value of a field, whatever the case of its name.
* `Request.contentLength?`: the announced length of the body.
* `Request.Draft`: a request under construction, which may still lack its method or its path.
-/

namespace HttpServer

/-- The method of a request. -/
inductive Method where
  /-- Retrieve a resource. -/
  | get
  /-- Submit a form. -/
  | post
  /-- Like `get`, without the body of the answer. -/
  | head
  /-- Replace a resource. -/
  | put
  /-- Delete a resource. -/
  | delete
  /-- Any other token. -/
  | other (token : Text)
  deriving DecidableEq, Repr

namespace Method

/-- The method that a token names; case matters. -/
def ofToken (t : Text) : Method :=
  if t = "GET".toList then get
  else if t = "POST".toList then post
  else if t = "HEAD".toList then head
  else if t = "PUT".toList then put
  else if t = "DELETE".toList then delete
  else other t

/-- The token of a method. -/
def token : Method → Text
  | get => "GET".toList
  | post => "POST".toList
  | head => "HEAD".toList
  | put => "PUT".toList
  | delete => "DELETE".toList
  | other t => t

@[simp] theorem token_ofToken (t : Text) : (ofToken t).token = t := by
  unfold ofToken
  split
  next h => exact h.symm
  split
  next h => exact h.symm
  split
  next h => exact h.symm
  split
  next h => exact h.symm
  split
  next h => exact h.symm
  rfl

end Method

/-- A complete request. -/
structure Request where
  /-- The method of the request line. -/
  method : Method
  /-- The decoded path, without the query string. -/
  path : Text
  /-- The parameters of the query string, then those of a submitted form. -/
  params : Params
  /-- The header fields, with names in lower case. -/
  fields : Fields
  /-- The body of a submitted form as it was sent. -/
  body : Bytes

/-- The length that a header announces for the body: the value of `content-length`, trimmed, if it
is an unsigned number of at most 64 bits. -/
def Fields.contentLength? (f : Fields) : Option Nat :=
  (f.get? "content-length".toList).bind fun v => readU64? v.trim

namespace Request

/-- The value of a header field, whatever the case of its name. -/
def header? (r : Request) (name : Text) : Option Text :=
  r.fields.get? name.lower

/-- The value of a parameter. -/
def param? (r : Request) (key : Text) : Option Text :=
  r.params.get? key

/-- The announced length of the body. -/
def contentLength? (r : Request) : Option Nat :=
  r.fields.contentLength?

/-- A part that a request cannot do without. -/
inductive Missing where
  /-- No method was given. -/
  | method
  /-- No path was given. -/
  | path
  deriving DecidableEq, Repr

/-- The wording of what is missing. -/
def Missing.message : Missing → Text
  | .method => "method missing".toList
  | .path => "uri missing".toList

/-- A request under construction. -/
structure Draft where
  /-- The method, once it is known. -/
  method : Option Method
  /-- The path, once it is known. -/
  path : Option Text
  /-- The parameters so far. -/
  params : Params
  /-- The header fields so far. -/
  fields : Fields
  /-- The body, empty unless given. -/
  body : Bytes

namespace Draft

/-- Nothing is known yet. -/
def empty : Draft := ⟨none, none, Params.empty, Fields.empty, []⟩

/-- The draft with this method. -/
def setMethod (d : Draft) (m : Method) : Draft := { d with method := some m }

/-- The draft with this path. -/
def setPath (d : Draft) (path : Text) : Draft := { d with path := some path }

/-- The draft with one more parameter. -/
def addParam (d : Draft) (key value : Text) : Draft :=
  { d with params := d.params.insert key value }

/-- The draft with one more header field; its name is stored in lower case. -/
def addHeader (d : Draft) (name value : Text) : Draft :=
  { d with fields := d.fields.insert name.lower value }

/-- The draft with this body. -/
def setBody (d : Draft) (body : Bytes) : Draft := { d with body := body }

/-- The request, if it has a method and a path. A missing method is reported first. -/
def build (d : Draft) : Except Missing Request :=
  match d.method with
  | none => .error .method
  | some m =>
    match d.path with
    | none => .error .path
    | some path => .ok ⟨m, path, d.params, d.fields, d.body⟩

end Draft

end Request

end HttpServer
