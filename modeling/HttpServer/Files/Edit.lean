import HttpServer.Files.Resolve

/-!
# Changing a file tree

Directories, files, links and sockets are made and removed at paths, which are resolved from the
working directory or from the top; missing parent directories are made on the way. Writing to a file
goes through links, also through one that leads nowhere yet, while a link itself can be removed. A
change that the path does not allow, such as a file below another file, is not made.

## Main definitions

* `FileSystem.makeDir`, `FileSystem.writeFile`, `FileSystem.makeLink`, `FileSystem.makeSocket`:
  additions.
* `FileSystem.remove`: removal of a node with everything below it.
-/

namespace HttpServer

namespace FileSystem

/-- The place where a name leads from a directory, the directory being made if it is missing. -/
def enter (top : Node) (place : Place) (name : Bytes) : Node × Option Place :=
  match walkLinks top true maxLinks place [name] with
  | .ok p => (top, some p)
  | .error .notFound => (top.update (some (.dir [])) (place ++ [name]), some (place ++ [name]))
  | .error _ => (top, none)

/-- The place where names lead from a directory, with all missing directories made. -/
def enterAll (top : Node) (place : Place) : List Bytes → Node × Option Place
  | [] => (top, some place)
  | name :: rest =>
    match enter top place name with
    | (top, none) => (top, none)
    | (top, some place) => enterAll top place rest

/-- The directory and the last name of a path, with all missing directories made. -/
def parentOf (fs : FileSystem) (p : Bytes) : Node × Option (Place × Bytes) :=
  let names := (Path.names p).filter fun n => !n.isEmpty
  match names.getLast? with
  | none => (fs.top, none)
  | some name =>
    match enterAll fs.top (if Path.isAbsolute p then [] else fs.workDir) names.dropLast with
    | (top, none) => (top, none)
    | (top, some place) => (top, some (place, name))

/-- The file system with this node, or with none, at a path that is not followed if it is a link. -/
def place (fs : FileSystem) (p : Bytes) (new : Option Node) : FileSystem :=
  match fs.parentOf p with
  | (_, none) => fs
  | (top, some (dir, name)) => { fs with top := top.update new (dir ++ [name]) }

/-- Makes a directory. -/
def makeDir (fs : FileSystem) (p : Bytes) : FileSystem :=
  let names := (Path.names p).filter fun n => !n.isEmpty
  match enterAll fs.top (if Path.isAbsolute p then [] else fs.workDir) names with
  | (top, _) => { fs with top }

/-- The place that a name in a directory stands for when it is written to. A link stands for what it
leads to, whether that exists or not, as long as its directory does. -/
def landing (top : Node) (dir : Place) (name : Bytes) : Nat → Option Place
  | 0 => none
  | links + 1 =>
    match (top.at? dir).bind (·.child? name) with
    | some (.link target) =>
      let names := Path.names target
      let start := if Path.isAbsolute target then [] else dir
      match walkLinks top true maxLinks start names.dropLast, names.getLast? with
      | .ok dir, some name => landing top dir name links
      | _, _ => none
    | _ => some (dir ++ [name])

/-- Makes a file or gives an existing one another content. -/
def writeFile (fs : FileSystem) (p : Bytes) (content : Content) : FileSystem :=
  match fs.parentOf p with
  | (_, none) => fs
  | (top, some (dir, name)) =>
    match landing top dir name (maxLinks + 1) with
    | none => fs
    | some there =>
      if (top.at? there).any Node.isDir then fs
      else { fs with top := top.update (some (.file content)) there }

/-- Makes a symbolic link. -/
def makeLink (fs : FileSystem) (p target : Bytes) : FileSystem :=
  fs.place p (some (.link target))

/-- Makes a socket. -/
def makeSocket (fs : FileSystem) (p : Bytes) : FileSystem :=
  fs.place p (some .socket)

/-- Removes what is at a path, with everything below it. -/
def remove (fs : FileSystem) (p : Bytes) : FileSystem :=
  match fs.resolve p false with
  | .ok there => if there.isEmpty then fs else { fs with top := fs.top.update none there }
  | .error _ => fs

end FileSystem

end HttpServer
