import HttpServer.Files.Path
import HttpServer.Files.Tree

/-!
# Resolving paths

A path is resolved from the top of the tree or from the working directory, name by name. Each step
needs a directory to start from, so a regular file in the middle of a path, or before a final
slash, is an error of its own kind. Empty names and `.` stay where they are, `..` goes to the
parent, and a symbolic link is replaced by its target. The limits are those of Linux: 255 bytes for
a name, 4095 bytes for a path, 40 links on the way, and no NUL byte.

## Main definitions

* `PathError`: why a path leads nowhere.
* `FileSystem`: a tree and the working directory.
* `FileSystem.resolve`: the place that a path leads to.
* `FileSystem.stat`: the node there.
-/

namespace HttpServer

/-- Why a path leads nowhere. -/
inductive PathError where
  /-- A name on the way does not exist, or the path is empty. -/
  | notFound
  /-- A step starts from something that is no directory. -/
  | notDirectory
  /-- A name or the whole path is too long. -/
  | tooLong
  /-- There are too many symbolic links on the way. -/
  | tooManyLinks
  /-- The path has a NUL byte. -/
  | nulByte
  deriving DecidableEq, Repr

/-- A file tree and the place of the working directory in it. -/
structure FileSystem where
  /-- The whole tree. -/
  top : Node
  /-- The working directory. -/
  workDir : Place

namespace FileSystem

/-- The path of the working directory. -/
def workPath (fs : FileSystem) : Bytes :=
  match fs.workDir with
  | [] => [Path.slash]
  | names => names.flatMap (Path.slash :: ·)

/-- The most bytes that a name may have. -/
def maxName : Nat := 255

/-- The most bytes that a path may have. -/
def maxPath : Nat := 4095

/-- The most symbolic links that resolving a path may follow. -/
def maxLinks : Nat := 40

/-- How far a list of names leads before a link has to be followed. -/
inductive Walk where
  /-- All names are used up at this place. -/
  | arrived (place : Place)
  /-- The next name leads nowhere. -/
  | stuck (error : PathError)
  /-- In the directory at `place` there is a link to `target`, with `rest` still to be walked. -/
  | linked (place : Place) (target : Bytes) (rest : List Bytes)

/-- Walks along names from a place. The last link is followed only if `follow` is set. -/
def walk (top : Node) (follow : Bool) (place : Place) : List Bytes → Walk
  | [] => .arrived place
  | name :: rest =>
    match top.at? place with
    | some (.dir es) =>
      if name = [] ∨ name = [0x2E] then walk top follow place rest
      else if name = [0x2E, 0x2E] then walk top follow place.dropLast rest
      else if name.length > maxName then .stuck .tooLong
      else
        match es.lookup name with
        | none => .stuck .notFound
        | some (.link target) =>
          if rest.isEmpty && !follow then .arrived (place ++ [name])
          else .linked place target rest
        | some _ => walk top follow (place ++ [name]) rest
    | _ => .stuck .notDirectory

/-- Walks along names from a place, following at most a number of links. -/
def walkLinks (top : Node) (follow : Bool) :
    Nat → Place → List Bytes → Except PathError Place
  | links, place, path =>
    match walk top follow place path with
    | .arrived place => .ok place
    | .stuck e => .error e
    | .linked place target rest =>
      match links with
      | 0 => .error .tooManyLinks
      | links + 1 =>
        if target.isEmpty then .error .notFound
        else
          walkLinks top follow links (if Path.isAbsolute target then [] else place)
            (Path.names target ++ rest)

/-- The place that a path leads to. A link at its end is followed if `follow` is set. -/
def resolve (fs : FileSystem) (p : Bytes) (follow : Bool := true) : Except PathError Place :=
  if 0 ∈ p then .error .nulByte
  else if p.isEmpty then .error .notFound
  else if p.length > maxPath then .error .tooLong
  else
    walkLinks fs.top follow maxLinks (if Path.isAbsolute p then [] else fs.workDir) (Path.names p)

/-- The node that a path leads to, all links followed. -/
def stat (fs : FileSystem) (p : Bytes) : Except PathError Node :=
  match fs.resolve p with
  | .error e => .error e
  | .ok place =>
    match fs.top.at? place with
    | none => .error .notFound
    | some n => .ok n

/-- The path leads to a directory. -/
def isDir (fs : FileSystem) (p : Bytes) : Bool :=
  match fs.stat p with
  | .ok n => n.isDir
  | .error _ => false

end FileSystem

end HttpServer
