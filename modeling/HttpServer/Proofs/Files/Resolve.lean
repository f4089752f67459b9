import HttpServer.Files.Resolve
import HttpServer.Proofs.Files.Path

/-!
# Resolving a path below a directory

A path below a directory is resolved by first resolving the directory and then going on from there.
If there are no links below the directory and the path has no name `..`, then going on never leaves
it: where the path leads, and with which error it fails, is told by the tree below the directory
alone (`Node.find`), wherever that tree stands and whatever the way to it.

## Main definitions

* `Node.LinkFree`: no symbolic link in a tree.
* `Node.find`: what names lead to from the top of a tree.

## Main results

* `FileSystem.walkLinks_append`: resolving in two parts.
* `FileSystem.walk_under`: a walk without `..` in a part of a tree.
* `FileSystem.stat_join`: what a path below a directory leads to.
-/

namespace HttpServer

/-- There is no symbolic link in the tree. -/
def Node.LinkFree (n : Node) : Prop :=
  ∀ place target, n.at? place ≠ some (.link target)

theorem Node.linkFree_file (content : Content) : (file content).LinkFree := by
  intro place target h
  cases place with
  | nil => cases h
  | cons name rest => cases h

theorem Node.linkFree_dir {es : List (Bytes × Node)} (h : ∀ p ∈ es, p.2.LinkFree) :
    (dir es).LinkFree := by
  intro place target hat
  cases place with
  | nil => cases hat
  | cons name rest =>
    rw [at?, child?, entries] at hat
    cases hc : es.lookup name with
    | none =>
      rw [hc] at hat
      cases hat
    | some c =>
      rw [hc] at hat
      obtain ⟨before, after, hes, -⟩ := List.lookup_eq_some_iff.1 hc
      exact h (name, c) (by simp [hes]) rest target hat

namespace FileSystem

/-! ### Two parts of a path -/

/-- A walk that goes on along further names. -/
def Walk.goOn (top : Node) (more : List Bytes) : Walk → Walk
  | .arrived place => walk top true place more
  | .stuck e => .stuck e
  | .linked place target rest => .linked place target (rest ++ more)

theorem walk_append (top : Node) (place : Place) (path more : List Bytes) :
    walk top true place (path ++ more) = (walk top true place path).goOn top more := by
  induction path generalizing place with
  | nil => rfl
  | cons name path ih =>
    rw [List.cons_append, walk, walk]
    split
    · split
      · exact ih place
      · split
        · exact ih place.dropLast
        · split
          · rfl
          · split
            · rfl
            · simp only [Bool.not_true, Bool.and_false, Bool.false_eq_true, if_false]
              rfl
            · exact ih (place ++ [name])
    · rfl

/-- **Resolving in two parts.** Either the first part fails, and then so does the whole, or it leads
to a place from which the second part is resolved, with the links that may still be followed. -/
theorem walkLinks_append (top : Node) (links : Nat) (place : Place) (path : List Bytes) :
    (∃ e, walkLinks top true links place path = .error e ∧
      ∀ more, walkLinks top true links place (path ++ more) = .error e) ∨
    (∃ p left, walkLinks top true links place path = .ok p ∧
      ∀ more, walkLinks top true links place (path ++ more) = walkLinks top true left p more) := by
  induction links generalizing place path with
  | zero =>
    cases hw : walk top true place path with
    | arrived p =>
      refine .inr ⟨p, 0, by rw [walkLinks, hw], fun more => ?_⟩
      rw [walkLinks, walk_append, hw, walkLinks]
      rfl
    | stuck e =>
      exact .inl ⟨e, by rw [walkLinks, hw], fun more => by rw [walkLinks, walk_append, hw]; rfl⟩
    | linked p target rest =>
      exact .inl ⟨.tooManyLinks, by rw [walkLinks, hw],
        fun more => by rw [walkLinks, walk_append, hw]; rfl⟩
  | succ links ih =>
    cases hw : walk top true place path with
    | arrived p =>
      refine .inr ⟨p, links + 1, by rw [walkLinks, hw], fun more => ?_⟩
      rw [walkLinks, walk_append, hw, walkLinks]
      rfl
    | stuck e =>
      exact .inl ⟨e, by rw [walkLinks, hw], fun more => by rw [walkLinks, walk_append, hw]; rfl⟩
    | linked p target rest =>
      by_cases ht : target.isEmpty
      · refine .inl ⟨.notFound, ?_, fun more => ?_⟩
        · rw [walkLinks, hw]
          simp only [ht, if_true]
        · rw [walkLinks, walk_append, hw, Walk.goOn]
          simp only [ht, if_true]
      · -- The target of the link replaces its name, so the second part stays behind all of it.
        have hnow : walkLinks top true (links + 1) place path =
            walkLinks top true links (if Path.isAbsolute target then [] else p)
              (Path.names target ++ rest) := by
          rw [walkLinks, hw]
          simp only [ht, Bool.false_eq_true, if_false]
        have hmore : ∀ more, walkLinks top true (links + 1) place (path ++ more) =
            walkLinks top true links (if Path.isAbsolute target then [] else p)
              (Path.names target ++ rest ++ more) := by
          intro more
          rw [walkLinks, walk_append, hw, Walk.goOn, List.append_assoc]
          simp only [ht, Bool.false_eq_true, if_false]
        rw [hnow]
        simp only [hmore]
        exact ih _ _

/-- An empty name at the end makes no difference to where a path leads. -/
theorem walkLinks_of_append_nil {top : Node} {links : Nat} {place p : Place} {path : List Bytes}
    (h : walkLinks top true links place (path ++ [[]]) = .ok p) :
    walkLinks top true links place path = .ok p := by
  rcases walkLinks_append top links place path with ⟨e, -, hmore⟩ | ⟨q, left, hq, hmore⟩
  · rw [hmore] at h
    cases h
  · rw [hmore, walkLinks, walk] at h
    have hpq : q = p := by
      split at h
      · rename_i hs
        split at hs
        · simp only [true_or, if_true, walk] at hs
          cases hs
          exact Except.ok.inj h
        · cases hs
      · cases h
      · rename_i hs
        split at hs
        · simp only [true_or, if_true, walk] at hs
          cases hs
        · cases hs
    rw [hq, hpq]

/-! ### A part of a tree -/

/-- The same walk with other names in front of its place. -/
def Walk.under (lead : Place) : Walk → Walk
  | .arrived place => .arrived (lead ++ place)
  | .stuck e => .stuck e
  | .linked place target rest => .linked (lead ++ place) target rest

/-- The name of the directory above. -/
def parentName : Bytes := [0x2E, 0x2E]

/-- A walk that never goes up takes the same course in a part of the tree as in the whole. -/
theorem walk_under {top n : Node} {lead : Place} (h : top.at? lead = some n) (follow : Bool)
    {path : List Bytes} (hup : parentName ∉ path) (place : Place) :
    walk top follow (lead ++ place) path = (walk n follow place path).under lead := by
  induction path generalizing place with
  | nil => rfl
  | cons name path ih =>
    obtain ⟨hname, hpath⟩ := not_or.1 fun hm => hup (List.mem_cons.2 hm)
    have hdots : name ≠ [0x2E, 0x2E] := Ne.symm hname
    have hat : top.at? (lead ++ place) = n.at? place := by rw [Node.at?_append, h, Option.bind_some]
    rw [walk, walk, hat]
    split
    · split
      · exact ih hpath place
      · split
        · rfl
        · split
          · rfl
          · split
            · rw [List.append_assoc]
              rfl
            · rfl
          · rw [List.append_assoc]
            exact ih hpath (place ++ [name])
    · rfl

/-- A walk in a tree without links meets none. -/
theorem walk_ne_linked {n : Node} (h : n.LinkFree) (follow : Bool) (place : Place)
    (path : List Bytes) (p : Place) (target : Bytes) (rest : List Bytes) :
    walk n follow place path ≠ .linked p target rest := by
  induction path generalizing place with
  | nil => rintro ⟨⟩
  | cons name path ih =>
    rw [walk]
    split
    · rename_i es hdir
      split
      · exact ih place
      · split
        · exact ih place.dropLast
        · split
          · rintro ⟨⟩
          · split
            · rintro ⟨⟩
            · rename_i t hlink
              have hat : n.at? (place ++ [name]) = some (.link t) := by
                rw [Node.at?_append, hdir, Option.bind_some, Node.at?, Node.child?, Node.entries,
                  hlink]
                rfl
              exact absurd hat (h _ t)
            · exact ih (place ++ [name])
    · rintro ⟨⟩

end FileSystem

/-- What names lead to from the top of a tree that has no links. -/
def Node.find (n : Node) (path : List Bytes) : Except PathError Node :=
  match FileSystem.walk n true [] path with
  | .arrived place =>
    match n.at? place with
    | none => .error .notFound
    | some m => .ok m
  | .stuck e => .error e
  | .linked _ _ _ => .error .tooManyLinks

namespace FileSystem

/-- The node at a place to which a path was resolved. -/
def nodeAt (top : Node) : Except PathError Place → Except PathError Node
  | .error e => .error e
  | .ok place =>
    match top.at? place with
    | none => .error .notFound
    | some n => .ok n

theorem stat_eq (fs : FileSystem) (p : Bytes) : fs.stat p = nodeAt fs.top (fs.resolve p) := rfl

/-- From the top of a part without links, names other than `..` lead to what the part says. -/
theorem nodeAt_walkLinks {top n : Node} {lead : Place} (h : top.at? lead = some n)
    (hfree : n.LinkFree) {path : List Bytes} (hup : parentName ∉ path) (links : Nat) :
    nodeAt top (walkLinks top true links lead path) = n.find path := by
  have hwalk := walk_under h true hup []
  rw [List.append_nil] at hwalk
  rw [walkLinks, hwalk, Node.find]
  cases hw : walk n true [] path with
  | arrived place =>
    simp only [Walk.under, nodeAt, Node.at?_append, h, Option.bind_some]
  | stuck e => rfl
  | linked place target rest => exact absurd hw (walk_ne_linked hfree _ _ _ _ _ _)

/-- The place from which a path is resolved. -/
def start (fs : FileSystem) (p : Bytes) : Place :=
  if Path.isAbsolute p then [] else fs.workDir

theorem resolve_eq (fs : FileSystem) (p : Bytes) :
    fs.resolve p =
      if 0 ∈ p then .error .nulByte
      else if p.isEmpty then .error .notFound
      else if p.length > maxPath then .error .tooLong
      else walkLinks fs.top true maxLinks (fs.start p) (Path.names p) := rfl

/-- A path that leads somewhere is not empty and has no NUL byte, and its names have been walked. -/
theorem exists_of_stat_eq_ok {fs : FileSystem} {p : Bytes} {n : Node} (h : fs.stat p = .ok n) :
    p ≠ [] ∧ 0 ∉ p ∧ ∃ place, fs.top.at? place = some n ∧
      walkLinks fs.top true maxLinks (fs.start p) (Path.names p) = .ok place := by
  rw [stat_eq, resolve_eq] at h
  split at h
  · cases h
  · rename_i hnul
    split at h
    · cases h
    · rename_i hempty
      split at h
      · cases h
      · refine ⟨by simpa using hempty, hnul, ?_⟩
        cases hw : walkLinks fs.top true maxLinks (fs.start p) (Path.names p) with
        | error e =>
          rw [hw] at h
          cases h
        | ok place =>
          rw [hw, nodeAt] at h
          cases hat : fs.top.at? place with
          | none =>
            rw [hat] at h
            cases h
          | some m =>
            rw [hat] at h
            cases h
            exact ⟨place, hat, rfl⟩

/-- A path below a directory is resolved from the place of the directory, with the links that may
still be followed. -/
theorem exists_stat_join {fs : FileSystem} {root : Bytes} {n : Node} (h : fs.stat root = .ok n) :
    ∃ place left, fs.top.at? place = some n ∧ ∀ rel, Path.isAbsolute rel = false →
      fs.stat (Path.join root rel) =
        if 0 ∈ rel then .error .nulByte
        else if (Path.join root rel).length > maxPath then .error .tooLong
        else nodeAt fs.top (walkLinks fs.top true left place (Path.names rel)) := by
  obtain ⟨hne, hnul, place, hat, hroot⟩ := exists_of_stat_eq_ok h
  obtain ⟨lead, hlead, hjoin⟩ := Path.exists_names_join hne
  have hfirst : walkLinks fs.top true maxLinks (fs.start root) lead = .ok place := by
    rcases hlead with hlead | hlead
    · rwa [hlead] at hroot
    · rw [hlead] at hroot
      exact walkLinks_of_append_nil hroot
  rcases walkLinks_append fs.top maxLinks (fs.start root) lead with
    ⟨e, he, -⟩ | ⟨p, left, hp, hmore⟩
  · cases hfirst.symm.trans he
  obtain rfl : place = p := Except.ok.inj (hfirst.symm.trans hp)
  refine ⟨place, left, hat, fun rel habs => ?_⟩
  have hempty : (Path.join root rel).isEmpty = false := by
    simpa using Path.join_ne_nil hne habs
  have hstart : fs.start (Path.join root rel) = fs.start root := by
    rw [start, start, Path.isAbsolute_join hne habs]
  rw [stat_eq, resolve_eq, hstart, hjoin rel habs, hmore]
  simp only [Path.nul_mem_join_iff hne hnul habs, hempty, Bool.false_eq_true, if_false]
  split
  · rfl
  · split
    · rfl
    · rfl

/-- What a path below a directory leads to, from the tree of the directory. -/
def statBelow (n : Node) (root rel : Bytes) : Except PathError Node :=
  if 0 ∈ rel then .error .nulByte
  else if (Path.join root rel).length > maxPath then .error .tooLong
  else n.find (Path.names rel)

/-- **A path below a directory without links** leads to what the tree of the directory says, if none
of its names is `..`. -/
theorem stat_join {fs : FileSystem} {root rel : Bytes} {n : Node} (h : fs.stat root = .ok n)
    (hfree : n.LinkFree) (habs : Path.isAbsolute rel = false)
    (hup : parentName ∉ Path.names rel) :
    fs.stat (Path.join root rel) = statBelow n root rel := by
  obtain ⟨place, left, hat, hstat⟩ := exists_stat_join h
  rw [hstat rel habs, nodeAt_walkLinks hat hfree hup, statBelow]

end FileSystem

end HttpServer
