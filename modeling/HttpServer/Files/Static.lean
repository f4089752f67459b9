import HttpServer.Files.Listing
import HttpServer.Files.Resolve
import HttpServer.Request.Basic
import HttpServer.Response.Basic

/-!
# Serving files

A static site answers a path with what lies below its root: a regular file with its content, from
the start of a byte range on if one is asked for; a directory with its index file, a listing or a
refusal; a directory named without its final slash with a redirect. Every failure is answered with
a status. A path that could lead upwards is refused before the file system is asked.

A range is asked for as `bytes=<start>-`. Only its start counts: what follows the first hyphen is
ignored, and so is a value that does not parse.

The nodes of a file tree have no permissions, so two refusals do not arise. A directory whose
entries may not be read would be refused as by a site without listings (`StaticSite.unlisted`), and
a regular file that may not be opened would be refused like what is none (`StaticSite.unreadable`).

## Main definitions

* `rangeStart?`: the start of a range.
* `StaticSite`: a root and whether directories are listed.
* `StaticSite.serveFile`: the answer to a path.
* `StaticSite.serve`: the answer to a request.
-/

namespace HttpServer

/-- The start of a range value such as `bytes=9-`, if it is an unsigned number of at most 64
bits. -/
def rangeStart? (value : Text) : Option Nat :=
  match dropLead? "bytes=".toList value.trim with
  | none => none
  | some spec => readU64? (Text.trim (before '-' spec))

/-- A directory that is served. -/
structure StaticSite where
  /-- The path of the directory. -/
  root : Bytes
  /-- A directory without an index file is listed. -/
  listing : Bool := true
  deriving DecidableEq, Repr

namespace StaticSite

/-- The path has a `..` segment, or starts or ends with two dots. -/
def isTraversal (uri : Text) : Bool :=
  (dropLead? "..".toList uri).isSome || (dropLead? "..".toList uri.reverse).isSome ||
    (splitOn '/' uri).any (· == "..".toList)

/-- The path that is looked up: trimmed, with slashes for backslashes. -/
def normalize (uri : Text) : Text :=
  uri.trim.replaceChar '\\' '/'

/-- The refusal of a file that cannot be read. -/
def unreadable (output : OutputEncoding) : Response :=
  .error output .forbidden "FORBIDDEN: Reading file failed.".toList

/-- The refusal to list a directory. -/
def unlisted (output : OutputEncoding) : Response :=
  .error output .forbidden "FORBIDDEN: No directory listing.".toList

/-- The start of the range that the header asks for, if it lies within a file of this size. -/
def startWithin? (fields : Fields) (size : Nat) : Option Nat :=
  ((fields.get? "range".toList).bind rangeStart?).filter (· < size)

/-- The header fields of a file response. -/
def fileHeaders (size : Nat) (start : Option Nat) : List (Text × Text) :=
  [("Accept-Ranges".toList, "bytes".toList),
    ("Content-length".toList, decimal (size - start.getD 0))] ++
  match start with
  | none => []
  | some n =>
    [("Content-range".toList,
      "bytes ".toList ++ decimal n ++ '-' :: decimal (size - 1) ++ '/' :: decimal size)]

/-- The answer with the file at a path. A node that is no regular file cannot be opened. -/
def serveRegular (output : OutputEncoding) (path : Bytes) (n : Node) (fields : Fields) : Response :=
  match n with
  | .file content =>
    let start := startWithin? fields content.size
    ⟨.ok, some (Mime.ofPath path), fileHeaders content.size start, .file content (start.getD 0)⟩
  | _ => unreadable output

/-- The names of index files, in the order in which they are tried. -/
def indexNames : List Bytes :=
  [Utf8.encode "index.html".toList, Utf8.encode "index.htm".toList]

/-- The first index file of the directory at a path, with its own path. -/
def index? (fs : FileSystem) (dir : Bytes) : Option (Bytes × Node) :=
  indexNames.findSome? fun name =>
    let path := Path.join dir name
    match fs.stat path with
    | .ok (.file content) => some (path, .file content)
    | _ => none

/-- What a listing shows of the entries of a directory. Links are not followed. -/
def listed (entries : List (Bytes × Node)) : List Listing.Entry :=
  entries.map fun (name, n) => ⟨Utf8.decodeLossy name, n.isDir, n.size⟩

/-- The answer with the directory at a path. Its entries can always be read. -/
def serveDirectory (site : StaticSite) (output : OutputEncoding) (fs : FileSystem) (uri : Text)
    (path : Bytes) (entries : List (Bytes × Node)) (fields : Fields) : Response :=
  if uri.getLast? ≠ some '/' then .redirect output (Percent.encode (uri ++ ['/']))
  else
    match index? fs path with
    | some (path, n) => serveRegular output path n fields
    | none =>
      if site.listing then
        .text output .ok "text/html".toList (Listing.render uri (listed entries))
      else unlisted output

/-- The path of a normalized URI below the root. -/
def pathOf (site : StaticSite) (uri : Text) : Bytes :=
  Path.join site.root (Utf8.encode (uri.dropWhile (· = '/')))

/-- The answer to a decoded path. -/
def serveFile (site : StaticSite) (output : OutputEncoding) (fs : FileSystem) (uri : Text)
    (fields : Fields) : Response :=
  if !fs.isDir site.root then
    .error output .internalServerError
      "INTERNAL ERROR: serve_file(): given root is not a directory.".toList
  else
    let uri := normalize uri
    if isTraversal uri then
      .error output .forbidden "FORBIDDEN: Won't serve ../ for security reasons.".toList
    else
      let path := site.pathOf uri
      match fs.stat path with
      | .error .notFound => .error output .notFound "Error 404, file not found.".toList
      | .error _ => unreadable output
      | .ok (.dir entries) => site.serveDirectory output fs uri path entries fields
      | .ok n => serveRegular output path n fields

/-- The answer to a request. Only `GET` and `POST` are served. -/
def serve (site : StaticSite) (output : OutputEncoding) (fs : FileSystem) (r : Request) :
    Response :=
  match r.method with
  | .get | .post => site.serveFile output fs r.path r.fields
  | m =>
    .error output .notImplemented ("Method ".toList ++ m.token ++ " is not implemented.".toList)

end StaticSite

end HttpServer
