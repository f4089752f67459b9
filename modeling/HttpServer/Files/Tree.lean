import HttpServer.Text.Basic

/-!
# File trees

A tree of directories, regular files, symbolic links and sockets. A directory is a list of named
nodes; a place in the tree is the list of names that leads there from the top. Nodes have no owners
and no permissions: whoever asks can list any directory and open any regular file.

The content of a file is some data and, behind it, a run of zero bytes that is kept as its length:
the tail of a sparse file takes no room. `Content.bytes` is the content in full.

## Main definitions

* `Content`: what is in a file.
* `Node`: a tree.
* `Node.at?`: the node at a place.
* `Node.update`: a tree with another node, or none, at a place.

## Main statements

* `Content.length_bytes`: the size is the number of bytes.
* `Content.bytesFrom_eq`: reading from an offset drops that many bytes.
-/

namespace HttpServer

/-- The content of a file: data, then this many zero bytes. -/
structure Content where
  /-- The data at the start. -/
  data : Bytes
  /-- The number of zero bytes behind the data. -/
  zeros : Nat := 0
  deriving DecidableEq, Repr

namespace Content

/-- The number of bytes. -/
def size (c : Content) : Nat :=
  c.data.length + c.zeros

/-- All bytes. -/
def bytes (c : Content) : Bytes :=
  c.data ++ List.replicate c.zeros 0

/-- The bytes from an offset on; none if it lies at the end or past it. -/
def bytesFrom (c : Content) (offset : Nat) : Bytes :=
  c.data.drop offset ++ List.replicate (c.zeros - (offset - c.data.length)) 0

@[simp] theorem length_bytes (c : Content) : c.bytes.length = c.size := by
  simp [bytes, size]

theorem bytesFrom_eq (c : Content) (offset : Nat) : c.bytesFrom offset = c.bytes.drop offset := by
  simp [bytes, bytesFrom, List.drop_append, List.drop_replicate]

end Content

/-- A node of a file tree, with everything below it. -/
inductive Node where
  /-- A directory with its entries. -/
  | dir (entries : List (Bytes × Node))
  /-- A regular file. -/
  | file (content : Content)
  /-- A symbolic link with the path it stands for. -/
  | link (target : Bytes)
  /-- A socket, which has no content and cannot be opened. -/
  | socket

/-- A place in a file tree: the names that lead there from the top. -/
abbrev Place := List Bytes

namespace Node

/-- The node is a directory. -/
def isDir : Node → Bool
  | dir _ => true
  | _ => false

/-- The length of the node as the file system reports it. -/
def size : Node → Nat
  | dir _ => 0
  | file content => content.size
  | link target => target.length
  | socket => 0

/-- The entries of a directory; any other node has none. -/
def entries : Node → List (Bytes × Node)
  | dir es => es
  | _ => []

/-- The entry of this name. -/
def child? (n : Node) (name : Bytes) : Option Node :=
  n.entries.lookup name

/-- The node at a place below this one. -/
def at? (n : Node) : Place → Option Node
  | [] => some n
  | name :: rest =>
    match n.child? name with
    | none => none
    | some c => c.at? rest

/-- A list of entries in which `name` has the given node: in place if it was there, else at the
end; without a node the name is removed. -/
def putEntry (name : Bytes) (new : Option Node) : List (Bytes × Node) → List (Bytes × Node)
  | [] => new.toList.map fun n => (name, n)
  | (other, n) :: es =>
    if other = name then new.toList.map (fun n => (name, n)) ++ es
    else (other, n) :: putEntry name new es

/-- The tree with the given node, or with nothing, at a place whose parent is a directory. A place
whose parent is none changes nothing, and the top itself cannot be removed. -/
def update (new : Option Node) (n : Node) : Place → Node
  | [] => new.getD n
  | name :: rest =>
    match n with
    | dir es =>
      match rest, es.lookup name with
      | [], _ => dir (putEntry name new es)
      | _ :: _, none => n
      | _ :: _, some c => dir (putEntry name (some (update new c rest)) es)
    | _ => n

@[simp] theorem at?_nil (n : Node) : n.at? [] = some n := rfl

theorem at?_append (n : Node) (p q : Place) : n.at? (p ++ q) = (n.at? p).bind fun m => m.at? q := by
  induction p generalizing n with
  | nil => rfl
  | cons name p ih =>
    rw [List.cons_append, at?, at?]
    split
    · rfl
    · exact ih _

end Node

end HttpServer
