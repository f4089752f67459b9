import HttpServer.Text.Split
import HttpServer.Text.Utf8

/-!
# Paths as written

A path is a byte string in which slashes separate names. Here it is only text: what it leads to is
in `HttpServer.Files.Resolve`.

The media type of a file follows from the extension of its name, in any case. A file whose
extension is unknown, or is not UTF-8, is a stream of octets.

## Main definitions

* `Path.join`: a path below a directory.
* `Path.extension?`: what follows the last dot of the last name.
* `Mime.ofPath`: the media type of the file at a path.
-/

namespace HttpServer

namespace Path

/-- The byte that separates names. -/
def slash : UInt8 := 0x2F

/-- The path starts at the top of the file system. -/
def isAbsolute (p : Bytes) : Bool :=
  p.head? == some slash

/-- The path `p` below the directory `dir`; an absolute path is itself. -/
def join (dir p : Bytes) : Bytes :=
  if isAbsolute p then p
  else if dir.isEmpty || dir.getLast? == some slash then dir ++ p
  else dir ++ slash :: p

/-- The names between the slashes of a path. A leading, a trailing or a doubled slash gives an empty
name. -/
def names (p : Bytes) : List Bytes :=
  splitOn slash p

/-- The last name of a path, without regard to empty names and single dots at its end. -/
def lastName? (p : Bytes) : Option Bytes :=
  ((names p).reverse.dropWhile fun n => n.isEmpty || n == [0x2E]).head?

/-- The extension of a path: what follows the last dot of its last name. There is none if that dot
is the first byte of the name, if the name has no dot, or if the name is `..`. -/
def extension? (p : Bytes) : Option Bytes :=
  match lastName? p with
  | none => none
  | some name =>
    if name = [0x2E, 0x2E] then none
    else
      let stem := (name.reverse.dropWhile (· ≠ 0x2E)).drop 1
      if stem.isEmpty then none else some (name.drop (stem.length + 1))

end Path

namespace Mime

/-- The media type of a file about which nothing is known. -/
def unknown : Text := "application/octet-stream".toList

/-- The known extensions, in lower case, with their media types. -/
def table : List (Text × Text) :=
  [("css", "text/css"), ("htm", "text/html"), ("html", "text/html"), ("xml", "text/xml"),
    ("txt", "text/plain"), ("asc", "text/plain"), ("md", "text/markdown"), ("csv", "text/csv"),
    ("js", "application/javascript"), ("mjs", "application/javascript"),
    ("json", "application/json"), ("wasm", "application/wasm"), ("pdf", "application/pdf"),
    ("zip", "application/zip"), ("gz", "application/gzip"), ("tar", "application/x-tar"),
    ("doc", "application/msword"), ("exe", "application/octet-stream"),
    ("class", "application/octet-stream"), ("gif", "image/gif"), ("jpg", "image/jpeg"),
    ("jpeg", "image/jpeg"), ("png", "image/png"), ("svg", "image/svg+xml"),
    ("ico", "image/x-icon"), ("webp", "image/webp"), ("mp3", "audio/mpeg"),
    ("m3u", "audio/mpeg-url"), ("ogg", "application/x-ogg"), ("wav", "audio/wav"),
    ("mp4", "video/mp4"), ("webm", "video/webm"), ("woff", "font/woff"),
    ("woff2", "font/woff2")].map fun (ext, type) => (ext.toList, type.toList)

/-- The media type of an extension, without its dot, in any case. -/
def ofExtension? (ext : Text) : Option Text :=
  table.lookup ext.lower

/-- The media type of the file at a path. -/
def ofPath (p : Bytes) : Text :=
  (((Path.extension? p).bind Utf8.decode?).bind ofExtension?).getD unknown

end Mime

end HttpServer
