import HttpServer.Files.Static

/-!
# Handlers

A handler turns a request into a response. It may look at the file system, and it writes its texts
in the output encoding of the moment. It may also fail, with a chain of causes, or panic. Neither
brings the server down: the client is told with an internal error.

## Main definitions

* `World`: what a session finds around it.
* `Failure`, `Handler`: what a handler may do.
* `Handler.respond`: the response to a request, whatever the handler does.
* `StaticSite.handler`: the handler that serves files.
* `Handler.echo`: the handler that answers every request with what it was asked.
-/

namespace HttpServer

/-- What a session finds around it. -/
structure World where
  /-- The file system. -/
  files : FileSystem
  /-- The encoding of text bodies. -/
  output : OutputEncoding
  /-- The date that responses bear. -/
  date : Text

/-- How a handler ends without a response. -/
inductive Failure where
  /-- An error, which has the second of these reasons as the cause of the first, and so on. -/
  | error (causes : List Text)
  /-- A panic with a text, or with something that is none. -/
  | panic (payload : Option Text)
  deriving DecidableEq, Repr

/-- The wording of a failure: an error with all its causes, or what the panic says. -/
def Failure.message : Failure → Text
  | error causes => Text.join ": ".toList causes
  | panic payload => payload.getD "handler panicked".toList

/-- What turns requests into responses. -/
abbrev Handler := World → Request → Except Failure Response

namespace Handler

/-- The answer to a request: what the handler says, or an internal error if it fails. -/
def respond (h : Handler) (w : World) (r : Request) : Response :=
  match h w r with
  | .ok response => response
  | .error failure =>
    .error w.output .internalServerError
      ("SERVER INTERNAL ERROR: serve() failed: ".toList ++ failure.message)

/-- One line of an echo: what kind of thing it shows, and the thing with its value. -/
def echoField (kind : String) (entry : Text × Text) : Text :=
  kind.toList ++ ' ' :: entry.1 ++ '=' :: entry.2

/-- The lines of an echo: the method and the path, the parameters in their order, the header fields
in the order of their names, and the length of the body. -/
def echoLines (r : Request) : List Text :=
  (r.method.token ++ ' ' :: r.path) :: r.params.entries.map (echoField "param") ++
    r.fields.entries.map (echoField "header") ++ ["body ".toList ++ decimal r.body.length]

/-- The handler that answers every request with what it was asked. -/
def echo : Handler := fun w r =>
  .ok (.text w.output .ok "text/plain".toList (Text.join ['\n'] (echoLines r)))

end Handler

/-- The handler that serves the files of a site. -/
def StaticSite.handler (site : StaticSite) : Handler := fun w r =>
  .ok (site.serve w.output w.files r)

end HttpServer
