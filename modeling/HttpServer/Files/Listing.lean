import HttpServer.Text.Markup
import HttpServer.Text.Numeral
import HttpServer.Uri.Percent

/-!
# Directory listings

The page for a directory names it in a heading, links to its parent unless it is the root, and then
has one line for each entry: directories first, then files, each group in the order of its names.
An entry is linked under its encoded path and shown with its escaped name; a file is shown with its
size.

## Main definitions

* `Entry`, `Entry.before`: what a listing shows of an entry, and the order.
* `sizeText`: sizes for human readers.
* `parent?`: the directory above.
* `render`: the page.
-/

namespace HttpServer

namespace Listing

/-- What a listing shows of a directory entry. -/
structure Entry where
  /-- The name. -/
  name : Text
  /-- The entry is itself a directory. -/
  isDir : Bool
  /-- The length in bytes; it is not shown for a directory. -/
  size : Nat
  deriving DecidableEq, Repr

/-- The order of a listing: directories first, then by name. -/
def Entry.before (a b : Entry) : Bool :=
  if a.isDir = b.isDir then !decide (b.name < a.name) else a.isDir

/-- The entries in the order of a listing; equal entries keep their order. -/
def sort (entries : List Entry) : List Entry :=
  entries.mergeSort Entry.before

/-- A size for human readers: bytes below one KB, then KB with one decimal, from one MB on MB with
two. Decimals are cut off, not rounded. -/
def sizeText (n : Nat) : Text :=
  let kb := 1024
  let mb := 1024 * 1024
  if n < kb then decimal n ++ " bytes".toList
  else if n < mb then decimal (n / kb) ++ '.' :: decimal (n % kb * 10 / kb) ++ " KB".toList
  else decimal (n / mb) ++ '.' :: decimalPadded 2 (n % mb * 100 / mb) ++ " MB".toList

/-- The directory above: `/a/b/` is below `/a/`. A path without its last slash that is empty or has
no slash is below nothing. -/
def parent? (uri : Text) : Option Text :=
  let trimmed := if uri.getLast? = some '/' then uri.dropLast else uri
  let up := (trimmed.reverse.dropWhile (· ≠ '/')).reverse
  if up.isEmpty then none else some up

/-- The line that links to the parent directory. -/
def parentLine (uri : Text) : Text :=
  match parent? uri with
  | none => []
  | some up => "<b><a href=\"".toList ++ Percent.encode up ++ "\">..</a></b><br/>".toList

/-- The name of an entry as it is linked and shown. -/
def Entry.shownName (e : Entry) : Text :=
  if e.isDir then e.name ++ ['/'] else e.name

/-- The link to an entry. -/
def Entry.anchor (uri : Text) (e : Entry) : Text :=
  "<a href=\"".toList ++ Percent.encode (uri ++ e.shownName) ++ "\">".toList ++
    Markup.escape e.shownName ++ "</a>".toList

/-- The line of an entry. -/
def Entry.line (uri : Text) (e : Entry) : Text :=
  if e.isDir then "<b>".toList ++ e.anchor uri ++ "<br/></b>".toList
  else
    e.anchor uri ++ " &nbsp;<font size=2>(".toList ++ sizeText e.size ++ ")</font><br/>".toList

/-- The page for the directory `uri`, which ends in a slash. -/
def render (uri : Text) (entries : List Entry) : Text :=
  "<html><body><h1>Directory ".toList ++ Markup.escape uri ++ "</h1><br/>".toList ++
    parentLine uri ++ (sort entries).flatMap (Entry.line uri) ++ "</body></html>".toList

end Listing

end HttpServer
