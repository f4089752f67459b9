import HttpServer.Connection
import HttpServer.Proofs.Files.Resolve

/-!
# Nothing outside the root is seen

Two file systems agree below a path if the path leads to a directory in both, with the same tree
below it and no symbolic link in that tree; otherwise they may have nothing in common. A site with
this path as its root gives the same answers in both. So whatever is sent to it, and however it is
spelled, no answer depends on anything outside the root.

Every path that is asked for has its backslashes replaced and its leading slashes dropped, and it is
refused if `..` is left among its names. What remains is a relative path that never goes up, and so
it is resolved within the tree of the root (`FileSystem.stat_join`), and the same holds for the
index files of a directory.

## Main definitions

* `FileSystem.AgreeBelow`: two file systems that agree below a path.

## Main results

* `StaticSite.isTraversal_iff`: which paths are refused.
* `StaticSite.serve_confined`: the answers and the sessions of a site do not depend on what is
  outside its root.
-/

namespace HttpServer

/-- In both file systems the path leads to a directory, the tree below it is the same, and there is
no link in that tree. -/
def FileSystem.AgreeBelow (fs fs' : FileSystem) (root : Bytes) : Prop :=
  ∃ n, fs.stat root = .ok n ∧ fs'.stat root = .ok n ∧ n.isDir = true ∧ n.LinkFree

theorem FileSystem.AgreeBelow.isDir {fs fs' : FileSystem} {root : Bytes}
    (h : fs.AgreeBelow fs' root) : fs.isDir root = true ∧ fs'.isDir root = true := by
  obtain ⟨n, hn, hn', hdir, -⟩ := h
  refine ⟨?_, ?_⟩
  · rw [FileSystem.isDir, hn]
    exact hdir
  · rw [FileSystem.isDir, hn']
    exact hdir

/-! ### Lists that start with another -/

theorem isSome_dropLead?_iff {α : Type} [DecidableEq α] {lead s : List α} :
    (dropLead? lead s).isSome = true ↔ lead <+: s := by
  constructor
  · intro h
    obtain ⟨rest, hrest⟩ := Option.isSome_iff_exists.1 h
    exact ⟨rest, (eq_append_of_dropLead? hrest).symm⟩
  · rintro ⟨rest, rfl⟩
    rw [dropLead?_append]
    rfl

namespace StaticSite

open FileSystem (AgreeBelow parentName statBelow stat_join)

/-! ### The path that is looked up -/

/-- **The paths that are refused** have a name `..`, or start or end with two dots. -/
theorem isTraversal_iff {uri : Text} : isTraversal uri = true ↔
    "..".toList ∈ splitOn '/' uri ∨ "..".toList <+: uri ∨ "..".toList <:+ uri := by
  have hrev : "..".toList <+: uri.reverse ↔ "..".toList <:+ uri := by
    rw [← List.reverse_prefix]
    rfl
  simp only [isTraversal, Bool.or_eq_true, isSome_dropLead?_iff, hrev, List.any_eq_true,
    beq_iff_eq, exists_eq_right]
  exact or_comm

theorem mem_splitOn_of_mem_dropWhile {name uri : Text}
    (h : name ∈ splitOn '/' (uri.dropWhile (· = '/'))) : name ∈ splitOn '/' uri := by
  induction uri with
  | nil => exact h
  | cons c uri ih =>
    by_cases hc : c = '/'
    · rw [List.dropWhile_cons_of_pos (by simpa using hc)] at h
      rw [splitOn, if_pos hc]
      exact List.mem_cons_of_mem _ (ih h)
    · rwa [List.dropWhile_cons_of_neg (by simpa using hc)] at h

/-- The path of a URI below the root. -/
def relative (uri : Text) : Bytes :=
  Utf8.encode (uri.dropWhile (· = '/'))

theorem isAbsolute_relative (uri : Text) : Path.isAbsolute (relative uri) = false := by
  refine Path.isAbsolute_encode fun h => ?_
  have hhead := List.head?_dropWhile_not (fun c => decide (c = '/')) uri
  rw [h] at hhead
  simp at hhead

/-- A path that is not refused never goes up. -/
theorem parentName_notMem_relative {uri : Text} (h : isTraversal uri ≠ true) :
    parentName ∉ Path.names (relative uri) := by
  intro hm
  rw [relative, Path.names_encode] at hm
  obtain ⟨name, hname, heq⟩ := List.mem_map.1 hm
  have hdots : name = "..".toList := Utf8.encode_injective (heq.trans rfl)
  rw [hdots] at hname
  exact h (isTraversal_iff.2 (.inl (mem_splitOn_of_mem_dropWhile hname)))

/-- The path of a directory that is named with its final slash has that slash, unless it is
empty. -/
theorem relative_of_getLast? {uri : Text} (h : uri.getLast? = some '/') :
    relative uri = [] ∨ (relative uri).getLast? = some Path.slash := by
  have hsplit := List.takeWhile_append_dropWhile (p := fun c => decide (c = '/')) (l := uri)
  rcases List.eq_nil_or_concat (uri.dropWhile (· = '/')) with hnil | ⟨t, c, ht⟩
  · exact .inl (by rw [relative, hnil]; rfl)
  · rw [List.concat_eq_append] at ht
    rw [ht, ← List.append_assoc] at hsplit
    rw [← hsplit, List.getLast?_concat] at h
    cases h
    right
    rw [relative, ht, Utf8.encode_append]
    exact List.getLast?_concat

/-! ### Answers -/

variable {fs fs' : FileSystem} {root : Bytes}

/-- A path that never goes up leads to the same in both file systems. -/
theorem stat_join_congr (h : AgreeBelow fs fs' root) {rel : Bytes}
    (habs : Path.isAbsolute rel = false) (hup : parentName ∉ Path.names rel) :
    fs.stat (Path.join root rel) = fs'.stat (Path.join root rel) := by
  obtain ⟨n, hn, hn', -, hfree⟩ := h
  rw [stat_join hn hfree habs hup, stat_join hn' hfree habs hup]

theorem indexName_spec {name : Bytes} (h : name ∈ indexNames) :
    Path.isAbsolute name = false ∧ parentName ∉ Path.names name := by
  simp only [indexNames, List.mem_cons, List.not_mem_nil, or_false] at h
  rcases h with rfl | rfl <;> decide

/-- The index file of a directory is the same in both file systems. -/
theorem index?_congr (h : AgreeBelow fs fs' root) {rel : Bytes}
    (habs : Path.isAbsolute rel = false) (hup : parentName ∉ Path.names rel)
    (hdir : rel = [] ∨ rel.getLast? = some Path.slash) :
    index? fs (Path.join root rel) = index? fs' (Path.join root rel) := by
  have hroot : root ≠ [] := by
    obtain ⟨n, hn, -⟩ := h
    exact (FileSystem.exists_of_stat_eq_ok hn).1
  have hstat : ∀ name ∈ indexNames, fs.stat (Path.join (Path.join root rel) name) =
      fs'.stat (Path.join (Path.join root rel) name) := by
    intro name hname
    obtain ⟨hnabs, hnup⟩ := indexName_spec hname
    obtain ⟨hjabs, hjoin⟩ := Path.join_join hroot hdir habs hnabs
    rw [hjoin]
    exact stat_join_congr h hjabs (Path.notMem_names_append hdir hup hnup)
  simp only [index?, indexNames, List.findSome?_cons, List.findSome?_nil,
    hstat _ (List.mem_cons_self (l := _)), hstat _ (List.mem_cons_of_mem _ List.mem_cons_self)]

/-- The answer to a path is the same in both file systems. -/
theorem serveFile_congr (site : StaticSite) (h : AgreeBelow fs fs' site.root)
    (output : OutputEncoding) (uri : Text) (fields : Fields) :
    site.serveFile output fs uri fields = site.serveFile output fs' uri fields := by
  rw [serveFile, serveFile, h.isDir.1, h.isDir.2]
  simp only [Bool.not_true, Bool.false_eq_true, if_false]
  split
  · rfl
  · rename_i hsafe
    have habs := isAbsolute_relative (normalize uri)
    have hup := parentName_notMem_relative hsafe
    have hpath : site.pathOf (normalize uri) = Path.join site.root (relative (normalize uri)) := rfl
    rw [hpath, stat_join_congr h habs hup]
    split
    · rfl
    · rfl
    · rw [serveDirectory, serveDirectory]
      split
      · rfl
      · rename_i hlast
        rw [index?_congr h habs hup (relative_of_getLast? (Decidable.not_not.1 hlast))]
    · rfl

end StaticSite

/-! ### Sessions -/

namespace Connection

/-- Connections that make the same steps come to the same end. -/
theorem run_congr {s : Service} {w w' : World} (h : ∀ c : Connection, c.step? s w = c.step? s w')
    (c : Connection) : c.run s w = c.run s w' := by
  induction hn : c.state.ahead using Nat.strongRecOn generalizing c with
  | ind n ih =>
    cases hstep : c.step? s w with
    | none => rw [run_of_step?_eq_none hstep, run_of_step?_eq_none ((h c).symm.trans hstep)]
    | some c' =>
      rw [run_of_step? hstep, run_of_step? ((h c).symm.trans hstep)]
      exact ih c'.state.ahead (hn ▸ ahead_lt_of_step? hstep) c' rfl

end Connection

namespace StaticSite

open FileSystem (AgreeBelow)

variable {fs fs' : FileSystem}

/-- A session with the site takes the same course in both file systems. -/
theorem run_congr (site : StaticSite) (h : AgreeBelow fs fs' site.root) (deadlines : Deadlines)
    (output : OutputEncoding) (date : Text) (c : Connection) :
    c.run ⟨site.handler, deadlines⟩ ⟨fs, output, date⟩ =
      c.run ⟨site.handler, deadlines⟩ ⟨fs', output, date⟩ := by
  have hserve : ∀ r : Request, site.serve output fs r = site.serve output fs' r := by
    intro r
    rw [serve, serve]
    split
    · exact site.serveFile_congr h output _ _
    · exact site.serveFile_congr h output _ _
    · rfl
  refine Connection.run_congr (fun c => ?_) c
  rw [Connection.step?, Connection.step?]
  split
  · rfl
  · simp only [Handler.respond, handler, hserve]
  · rfl
  · rfl

/-- **Confinement to the root.** In two file systems that agree below its root, a site gives the
same answer to every path under every header, and every session with it writes the same bytes. A
path with a name `..`, or with two dots at its start or end, is refused. -/
theorem serve_confined (site : StaticSite) (h : AgreeBelow fs fs' site.root) :
    (∀ output uri fields,
      site.serveFile output fs uri fields = site.serveFile output fs' uri fields) ∧
    (∀ deadlines output date i,
      Service.reply ⟨site.handler, deadlines⟩ ⟨fs, output, date⟩ i =
        Service.reply ⟨site.handler, deadlines⟩ ⟨fs', output, date⟩ i) ∧
    (∀ output uri fields,
      ("..".toList ∈ splitOn '/' (normalize uri) ∨ "..".toList <+: normalize uri ∨
        "..".toList <:+ normalize uri) →
      (site.serveFile output fs uri fields).status = .forbidden) := by
  refine ⟨site.serveFile_congr h, fun deadlines output date i => ?_,
    fun output uri fields hdots => ?_⟩
  · rw [Service.reply, Service.reply, site.run_congr h]
  · rw [serveFile, h.isDir.1]
    simp only [isTraversal_iff.2 hdots, Bool.not_true, Bool.false_eq_true, if_false, if_true]
    rfl

theorem linkFree_file (name : Bytes) (content : Content) :
    (Node.dir [(name, .file content)]).LinkFree :=
  Node.linkFree_dir (List.forall_mem_singleton.2 (Node.linkFree_file content))

/-- A file beside the root makes no difference. -/
theorem serve_confined_beside :
    let inner : Node := .dir [(Utf8.encode "a".toList, .file ⟨[1], 0⟩)]
    let fs : FileSystem := ⟨.dir [(Utf8.encode "www".toList, inner)], []⟩
    let fs' : FileSystem := ⟨.dir [(Utf8.encode "x".toList, .file ⟨[2], 0⟩),
      (Utf8.encode "www".toList, inner)], []⟩
    let site : StaticSite := ⟨Utf8.encode "/www/".toList, true⟩
    fs.AgreeBelow fs' site.root ∧
      ∀ uri, site.serveFile none fs uri .empty = site.serveFile none fs' uri .empty := by
  intro inner fs fs' site
  have hagree : fs.AgreeBelow fs' site.root :=
    ⟨inner, rfl, rfl, rfl, linkFree_file _ _⟩
  exact ⟨hagree, fun uri => (serve_confined site hagree).1 none uri .empty⟩

end StaticSite

end HttpServer
