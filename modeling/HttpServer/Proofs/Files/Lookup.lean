import HttpServer.Proofs.Files.Resolve

/-!
# Names that lead to a node

Names as directory entries have them lead straight down: whatever node stands at the end of the way
in the tree, and whatever links there are beside the way, a path that spells these names below a
directory leads to that node. Only the limits on names and on the whole path must be kept.

## Main definitions

* `IsFileName`: the names that entries of a directory can have.

## Main results

* `FileSystem.walk_names`: a walk along such names.
* `FileSystem.stat_join_of_at?`: what a path of such names leads to below a directory.
-/

namespace HttpServer

/-- A name that an entry of a directory can have. -/
structure IsFileName (name : Bytes) : Prop where
  ne_nil : name ≠ []
  ne_dot : name ≠ [0x2E]
  ne_dots : name ≠ [0x2E, 0x2E]
  slash : Path.slash ∉ name
  nul : 0 ∉ name
  length_le : name.length ≤ FileSystem.maxName

namespace IsFileName

variable {name : Bytes}

/-- A text that is written as such a name has no slash. -/
theorem slash_notMem {t : Text} (h : IsFileName (Utf8.encode t)) : '/' ∉ t := fun hm =>
  h.slash ((Utf8.mem_encode_iff_of_ascii (c := '/') (by decide)).2 hm)

/-- A path that starts with such a name is relative. -/
theorem isAbsolute_append (h : IsFileName name) (t : Bytes) :
    Path.isAbsolute (name ++ t) = false := by
  obtain ⟨b, s, hs⟩ := List.exists_cons_of_ne_nil h.ne_nil
  have hb : b ≠ Path.slash := fun hb => h.slash (by rw [hs, hb]; exact List.mem_cons_self)
  rw [hs, Path.isAbsolute, List.cons_append, List.head?_cons]
  exact beq_false_of_ne fun heq => hb (Option.some.inj heq)

theorem names_eq (h : IsFileName name) : Path.names name = [name] :=
  splitOn_of_notMem h.slash

theorem names_slash (h : IsFileName name) : Path.names (name ++ [Path.slash]) = [name, []] := by
  rw [Path.names, splitOn_append, splitOn_of_notMem h.slash]
  rfl

end IsFileName

/-- Nothing is below a link. -/
theorem Node.ne_link_of_at? {c m : Node} {path : Place} (h : c.at? path = some m)
    (hm : ∀ target, m ≠ .link target) (target : Bytes) : c ≠ .link target := by
  rintro rfl
  cases path with
  | nil => exact hm target (Option.some.inj h).symm
  | cons name path => cases h

namespace FileSystem

/-- **Names lead straight down** to the node that has them as its place, unless that is a link. -/
theorem walk_names {top m : Node} (hm : ∀ target, m ≠ .link target) {path : Place}
    (hpath : ∀ name ∈ path, IsFileName name) {place : Place}
    (h : top.at? (place ++ path) = some m) :
    walk top true place path = .arrived (place ++ path) := by
  induction path generalizing place with
  | nil => rw [walk, List.append_nil]
  | cons name path ih =>
    have hname := hpath name List.mem_cons_self
    have hrest : top.at? (place ++ [name] ++ path) = some m := by
      rwa [List.append_assoc, List.singleton_append]
    have hwalk := ih (fun other hother => hpath other (List.mem_cons_of_mem name hother)) hrest
    rw [Node.at?_append] at h
    obtain ⟨p, hp, hdown⟩ := Option.bind_eq_some_iff.1 h
    rw [Node.at?] at hdown
    cases p with
    | dir es =>
      rw [Node.child?, Node.entries] at hdown
      rw [walk, hp]
      simp only [hname.ne_nil, hname.ne_dot, hname.ne_dots, or_self, if_false,
        Nat.not_lt.2 hname.length_le]
      cases hc : es.lookup name with
      | none =>
        rw [hc] at hdown
        cases hdown
      | some c =>
        rw [hc] at hdown
        have hlink := Node.ne_link_of_at? hdown hm
        cases c with
        | link target => exact absurd rfl (hlink target)
        | dir _ | file _ | socket => simpa using hwalk
    | file _ | link _ | socket => cases hdown

/-- A path of names below a directory leads to the node at that place below the directory. -/
theorem stat_join_of_at? {fs : FileSystem} {root rel : Bytes} {n m : Node}
    (h : fs.stat root = .ok n) (hm : ∀ target, m ≠ .link target)
    (hat : n.at? (Path.names rel) = some m) (hnames : ∀ name ∈ Path.names rel, IsFileName name)
    (habs : Path.isAbsolute rel = false) (hnul : 0 ∉ rel)
    (hlen : (Path.join root rel).length ≤ maxPath) : fs.stat (Path.join root rel) = .ok m := by
  obtain ⟨place, left, hplace, hstat⟩ := exists_stat_join h
  have hfull : fs.top.at? (place ++ Path.names rel) = some m := by
    rw [Node.at?_append, hplace, Option.bind_some, hat]
  have hwalk : walkLinks fs.top true left place (Path.names rel) =
      .ok (place ++ Path.names rel) := by
    rw [walkLinks, walk_names hm hnames hfull]
  rw [hstat rel habs, if_neg hnul, if_neg (Nat.not_lt.2 hlen), hwalk, nodeAt, hfull]

end FileSystem

end HttpServer
