import HttpServer.Proofs.Files.Lookup
import HttpServer.Proofs.Files.Page
import HttpServer.Proofs.Files.Target
import HttpServer.Request.Head
import Mathlib.Data.List.Basic
import Mathlib.Data.List.Nodup

/-!
# Following the links of a listing

The page for a directory links each entry under its encoded name, exactly as the name is. A client
that follows a link sends the target back; the server decodes it, trims it, takes its backslashes
for slashes, refuses it if it has two dots in certain places, and looks up the rest. Decoding undoes
the encoding, so what has to be told is when the other steps change nothing: then a link leads to
the entry on whose line it stands, and a directory answers with its own index file or its own
listing.

The other steps do change a name that has a backslash, and the name of a file that ends in white
space. Such an entry is on the page, but its link leads elsewhere, possibly to another file
(`StaticSite.listing_misleads`).

## Main definitions

* `StaticSite.indexAmong`: the index file among the entries of a directory.

## Main results

* `Node.find_entry`, `FileSystem.stat_join_entry`: entries are found by their names.
* `StaticSite.serveFile_listing`: when a page is the answer.
* `StaticSite.follow_file`, `StaticSite.follow_directory`: where a link leads.
* `StaticSite.serveFile_links`: all links of a page.
-/

namespace HttpServer

/-! ### The entries of a directory -/

namespace Node

open FileSystem (walk walk_append walk_names)

theorem at?_concat {n : Node} {place : Place} {es : List (Bytes × Node)}
    (h : n.at? place = some (.dir es)) (name : Bytes) :
    n.at? (place ++ [name]) = es.lookup name := by
  rw [at?_append, h, Option.bind_some, at?, child?, entries]
  cases es.lookup name <;> rfl

/-- An empty name behind a directory stays there. -/
theorem walk_nil {n : Node} {place : Place} {es : List (Bytes × Node)}
    (h : n.at? place = some (.dir es)) : walk n true place [[]] = .arrived place := by
  rw [walk, h]
  rfl

/-- What leads to a directory by its final slash has come to its place before. -/
theorem exists_walk_of_find {n : Node} {lead : List Bytes} {es : List (Bytes × Node)}
    (h : n.find (lead ++ [[]]) = .ok (.dir es)) :
    ∃ place, walk n true [] lead = .arrived place ∧ n.at? place = some (.dir es) := by
  rw [find, walk_append] at h
  cases hw : walk n true [] lead with
  | arrived place =>
    rw [hw, FileSystem.Walk.goOn, walk] at h
    refine ⟨place, rfl, ?_⟩
    cases hat : n.at? place with
    | none =>
      rw [hat] at h
      cases h
    | some m =>
      cases m with
      | dir es' =>
        simp only [hat, true_or, if_true, walk] at h
        rw [Except.ok.inj h]
      | file _ | link _ | socket =>
        rw [hat] at h
        cases h
  | stuck e =>
    rw [hw] at h
    cases h
  | linked place target rest =>
    rw [hw] at h
    cases h

/-- **Entries are found by their names** below a directory, if there are no links. -/
theorem find_entry {n : Node} (hfree : n.LinkFree) {lead : List Bytes}
    {es : List (Bytes × Node)} (hdir : n.find (lead ++ [[]]) = .ok (.dir es)) {name : Bytes}
    (hname : IsFileName name) :
    n.find (lead ++ [name]) = (es.lookup name).elim (.error .notFound) .ok ∧
      ∀ es', es.lookup name = some (.dir es') → n.find (lead ++ [name, []]) = .ok (.dir es') := by
  obtain ⟨place, hlead, hat⟩ := exists_walk_of_find hdir
  have hentry := at?_concat hat name
  have hwalk : ∀ m, es.lookup name = some m →
      walk n true place [name] = .arrived (place ++ [name]) := by
    intro m hm
    rw [hm] at hentry
    refine walk_names (fun target hlink => ?_) (List.forall_mem_singleton.2 hname) hentry
    rw [hlink] at hentry
    exact hfree _ target hentry
  constructor
  · rw [find, walk_append, hlead, FileSystem.Walk.goOn]
    cases hm : es.lookup name with
    | none =>
      rw [walk, hat]
      simp only [hname.ne_nil, hname.ne_dot, hname.ne_dots, or_self, if_false,
        Nat.not_lt.2 hname.length_le, hm]
      rfl
    | some m =>
      rw [hwalk m hm]
      simp only [hentry, hm]
      rfl
  · intro es' hm
    have hplace : n.at? (place ++ [name]) = some (.dir es') := hentry.trans hm
    have hnames : lead ++ [name, []] = lead ++ [name] ++ [[]] := by simp
    rw [find, hnames, walk_append, walk_append, hlead, FileSystem.Walk.goOn, hwalk _ hm,
      FileSystem.Walk.goOn, walk_nil hplace]
    simp only [hplace]

end Node

namespace FileSystem

section Below

variable {fs : FileSystem} {root rel : Bytes} {n : Node} (h : fs.stat root = .ok n)
  (hfree : n.LinkFree) (habs : Path.isAbsolute rel = false) (hup : parentName ∉ Path.names rel)
  (hrel : rel = [] ∨ rel.getLast? = some Path.slash) {es : List (Bytes × Node)}
  (hdir : fs.stat (Path.join root rel) = .ok (.dir es))

include h hfree habs hup hrel hdir in
/-- What is below a directory that is itself below another is told by the names behind those of the
directory, if there are no links. -/
theorem exists_find_below : ∃ lead, n.find (lead ++ [[]]) = .ok (.dir es) ∧
    ∀ t, Path.isAbsolute t = false → parentName ∉ Path.names t → 0 ∉ t →
      (Path.join root (rel ++ t)).length ≤ maxPath →
      fs.stat (Path.join root (rel ++ t)) = n.find (lead ++ Path.names t) := by
  obtain ⟨lead, hlead⟩ := Path.exists_names_append hrel
  have hnames : Path.names rel = lead ++ [[]] := by
    rw [← List.append_nil rel, hlead]
    rfl
  rw [stat_join h hfree habs hup, statBelow] at hdir
  split at hdir
  · cases hdir
  · rename_i hnul
    split at hdir
    · cases hdir
    · refine ⟨lead, hnames ▸ hdir, fun t htabs htup htnul hlen => ?_⟩
      have hroot := (exists_of_stat_eq_ok h).1
      have hjabs := (Path.join_join hroot hrel habs htabs).1
      have hjup := Path.notMem_names_append hrel hup htup
      rw [stat_join h hfree hjabs hjup, statBelow, if_neg (List.not_mem_append hnul htnul),
        if_neg (Nat.not_lt.2 hlen), hlead]

include h hfree habs hup hrel hdir in
/-- **Entries are found by their names** below a directory that is below another, if there are no
links. -/
theorem stat_join_entry {name : Bytes} (hname : IsFileName name) :
    ((Path.join root (rel ++ name)).length ≤ maxPath →
      fs.stat (Path.join root (rel ++ name)) = (es.lookup name).elim (.error .notFound) .ok) ∧
    ∀ es', es.lookup name = some (.dir es') →
      (Path.join root (rel ++ (name ++ [Path.slash]))).length ≤ maxPath →
      fs.stat (Path.join root (rel ++ (name ++ [Path.slash]))) = .ok (.dir es') := by
  obtain ⟨lead, hfind, hbelow⟩ := exists_find_below h hfree habs hup hrel hdir
  obtain ⟨hfile, hsub⟩ := Node.find_entry hfree hfind hname
  constructor
  · intro hlen
    have habs' := hname.isAbsolute_append []
    rw [List.append_nil] at habs'
    have hup' : parentName ∉ Path.names name := by
      rw [hname.names_eq, List.mem_singleton]
      exact hname.ne_dots.symm
    rw [hbelow name habs' hup' hname.nul hlen, hname.names_eq, hfile]
  · intro es' hlook hlen
    have hup' : parentName ∉ Path.names (name ++ [Path.slash]) := by
      rw [hname.names_slash]
      simp [parentName, hname.ne_dots.symm]
    rw [hbelow _ (hname.isAbsolute_append _) hup' (List.not_mem_append hname.nul (by decide)) hlen,
      hname.names_slash, hsub es' hlook]

end Below

end FileSystem

namespace StaticSite

/-! ### What a listing is for -/

theorem isBlank_eq_false_of_head?_normalize {uri : Text} {c : Char}
    (h : (normalize uri).head? = some c) : isBlank c = false := by
  rw [normalize, Text.replaceChar, List.head?_map] at h
  obtain ⟨d, hd, hc⟩ := Option.map_eq_some_iff.1 h
  have hblank := Text.isBlank_eq_false_of_head?_trim hd
  split at hc
  · rw [← hc]
    decide
  · rwa [← hc]

theorem backslash_notMem_normalize (uri : Text) : '\\' ∉ normalize uri := by
  intro h
  obtain ⟨c, -, hc⟩ := List.mem_map.1 h
  split at hc
  · exact absurd hc (by decide)
  · rename_i hne
    exact hne hc

/-- **A page is the answer** only to the path of a directory with its final slash, if it is not
refused, and then it is the listing of that directory. -/
theorem serveFile_listing {site : StaticSite} {output : OutputEncoding} {fs : FileSystem}
    {uri : Text} {fields : Fields} (hok : (site.serveFile output fs uri fields).status = .ok)
    (hpage : (site.serveFile output fs uri fields).body.isFile = false) :
    fs.isDir site.root = true ∧ site.listing = true ∧ ¬isTraversal (normalize uri) = true ∧
      (normalize uri).getLast? = some '/' ∧
      ∃ es, fs.stat (Path.join site.root (relative (normalize uri))) = .ok (.dir es) ∧
        site.serveFile output fs uri fields =
          .text output .ok "text/html".toList (Listing.render (normalize uri) (listed es)) := by
  have h := site.answers_serveFile output fs uri fields
  generalize site.serveFile output fs uri fields = answer at h hok hpage ⊢
  cases h with
  | failure hne => exact absurd hok hne
  | file => cases hpage
  | redirect => cases hok
  | listing hroot hsafe hslash hstat hlisting =>
    exact ⟨hroot, hlisting, hsafe, hslash, _, hstat, rfl⟩

/-! ### Index files -/

/-- The index file among the entries of a directory, with its path. -/
def indexAmong (dir : Bytes) (es : List (Bytes × Node)) : Option (Bytes × Content) :=
  indexNames.findSome? fun name =>
    match es.lookup name with
    | some (.file content) => some (Path.join dir name, content)
    | _ => none

/-- The index file of a directory is found among its entries. -/
theorem index?_eq {fs : FileSystem} {dir : Bytes} {es : List (Bytes × Node)}
    (h : ∀ name ∈ indexNames,
      fs.stat (Path.join dir name) = (es.lookup name).elim (.error .notFound) .ok) :
    index? fs dir = (indexAmong dir es).map fun p => (p.1, .file p.2) := by
  rw [index?, indexAmong]
  generalize indexNames = names at h ⊢
  induction names with
  | nil => rfl
  | cons name names ih =>
    have hrest := ih fun other hother => h other (List.mem_cons_of_mem name hother)
    have hname := h name List.mem_cons_self
    rw [List.findSome?_cons, List.findSome?_cons, hrest]
    simp only [hname]
    cases es.lookup name with
    | none => rfl
    | some m => cases m <;> rfl

theorem isFileName_of_mem_indexNames {name : Bytes} (h : name ∈ indexNames) : IsFileName name := by
  simp only [indexNames, List.mem_cons, List.not_mem_nil, or_false] at h
  rcases h with rfl | rfl
  · exact ⟨by decide, by decide, by decide, by decide, by decide, by decide⟩
  · exact ⟨by decide, by decide, by decide, by decide, by decide, by decide⟩

/-! ### Where the links lead -/

section Follow

variable {site : StaticSite} {fs : FileSystem} {n : Node} {u : Text} {es : List (Bytes × Node)}
  (hroot : fs.stat site.root = .ok n) (hfree : n.LinkFree) (hdir : fs.isDir site.root = true)
  (hhead : ∀ c, u.head? = some c → isBlank c = false) (hback : '\\' ∉ u)
  (hslash : u.getLast? = some '/') (hsafe : ¬isTraversal u = true)
  (hstat : fs.stat (Path.join site.root (relative u)) = .ok (.dir es))

include hhead hback hslash hsafe in
/-- What a link adds to the path of a directory is looked up as it is, unless it has a backslash,
white space or two dots at its end, or a slash at its start. -/
theorem below_listing {t : Text} (hne : t ≠ []) (htslash : t.head? ≠ some '/') (htback : '\\' ∉ t)
    (htlast : ∀ c, t.getLast? = some c → isBlank c = false) (htup : "..".toList ∉ splitOn '/' t)
    (htdots : ¬"..".toList <:+ t) :
    normalize (u ++ t) = u ++ t ∧ ¬isTraversal (u ++ t) = true ∧
      relative (u ++ t) = relative u ++ Utf8.encode t := by
  obtain ⟨d, rfl⟩ := List.getLast?_eq_some_iff.1 hslash
  have hcons : d ++ ['/'] ++ t = d ++ '/' :: t := by simp
  have hnorm : normalize (d ++ ['/'] ++ t) = d ++ ['/'] ++ t := by
    refine normalize_eq_self (fun c hc => hhead c ?_) (fun c hc => htlast c ?_)
      (List.not_mem_append hback htback)
    · rwa [List.head?_append_of_ne_nil _ (by simp)] at hc
    · rwa [List.getLast?_append_of_ne_nil _ hne] at hc
  rw [hnorm, hcons]
  exact ⟨rfl, not_isTraversal_below hsafe htup htdots, relative_below htslash⟩

include hroot hfree hdir hhead hback hslash hsafe hstat in
/-- **The link to a file** leads to that file. -/
theorem follow_file {name : Text} (hname : IsFileName (Utf8.encode name)) (hnback : '\\' ∉ name)
    (hnlast : ∀ c, name.getLast? = some c → isBlank c = false) (hdots : ¬"..".toList <:+ name)
    {content : Content} (hfile : es.lookup (Utf8.encode name) = some (.file content))
    (hlen : (Path.join site.root (relative (u ++ name))).length ≤ FileSystem.maxPath)
    (output : OutputEncoding) (fields : Fields) :
    site.serveFile output fs (u ++ name) fields =
      serveRegular output (Path.join site.root (relative (u ++ name))) (.file content) fields := by
  have hnslash : '/' ∉ name := hname.slash_notMem
  have hne : name ≠ [] := fun h => hname.ne_nil (by rw [h]; rfl)
  obtain ⟨hnorm, hnsafe, hrel⟩ := below_listing hhead hback hslash hsafe hne
    (fun h => hnslash (List.mem_of_mem_head? h)) hnback hnlast
    (by
      rw [splitOn_of_notMem hnslash, List.mem_singleton]
      rintro rfl
      exact hname.ne_dots rfl) hdots
  have hentry := (FileSystem.stat_join_entry hroot hfree (isAbsolute_relative u)
    (parentName_notMem_relative hsafe) (relative_of_getLast? hslash) hstat hname).1
  rw [← hrel, hfile] at hentry
  rw [serveFile_eq hdir (by rwa [hnorm]), hnorm, hentry hlen]
  rfl

include hhead hback hslash hsafe in
/-- The link to a directory adds the name of the directory and a slash, which are looked up as they
are. -/
theorem below_directory {name : Text} (hname : IsFileName (Utf8.encode name))
    (hnback : '\\' ∉ name) :
    normalize (u ++ (name ++ ['/'])) = u ++ (name ++ ['/']) ∧
      ¬isTraversal (u ++ (name ++ ['/'])) = true ∧
      relative (u ++ (name ++ ['/'])) = relative u ++ (Utf8.encode name ++ [Path.slash]) := by
  have hnslash : '/' ∉ name := hname.slash_notMem
  have hne : name ≠ [] := fun h => hname.ne_nil (by rw [h]; rfl)
  have hhead' : (name ++ ['/']).head? ≠ some '/' := by
    rw [List.head?_append_of_ne_nil _ hne]
    exact fun h => hnslash (List.mem_of_mem_head? h)
  have hlast : ∀ c, (name ++ ['/']).getLast? = some c → isBlank c = false := by
    intro c hc
    rw [List.getLast?_concat] at hc
    cases hc
    decide
  have hdots : "..".toList ∉ splitOn '/' (name ++ ['/']) := by
    have hsplit : splitOn '/' (name ++ ['/']) = [name, []] := by
      rw [splitOn_append, splitOn_of_notMem hnslash]
      rfl
    rw [hsplit, List.mem_cons, List.mem_singleton]
    rintro (rfl | h)
    · exact hname.ne_dots rfl
    · exact absurd h (by decide)
  have hsuffix : ¬"..".toList <:+ name ++ ['/'] := by
    rintro ⟨s, hs⟩
    have hend := congrArg List.getLast? hs
    simp at hend
  have hbelow := below_listing hhead hback hslash hsafe (List.concat_ne_nil '/' name) hhead'
    (List.not_mem_append hnback (by decide)) hlast hdots hsuffix
  rwa [Utf8.encode_append] at hbelow

include hroot hfree hdir hhead hback hslash hsafe hstat in
/-- **The link to a directory** leads to the index file of that directory or else to its listing. -/
theorem follow_directory (hlisting : site.listing = true) {name : Text}
    (hname : IsFileName (Utf8.encode name)) (hnback : '\\' ∉ name) {es' : List (Bytes × Node)}
    (hsub : es.lookup (Utf8.encode name) = some (.dir es')) {u' : Text}
    (hu' : u' = u ++ (name ++ ['/']))
    (hlen : (Path.join site.root (relative u')).length ≤ FileSystem.maxPath)
    (hindex : ∀ index ∈ indexNames,
      (Path.join site.root (relative u' ++ index)).length ≤ FileSystem.maxPath)
    (output : OutputEncoding) (fields : Fields) :
    site.serveFile output fs u' fields =
      match indexAmong (Path.join site.root (relative u')) es' with
      | some (path, content) => serveRegular output path (.file content) fields
      | none => .text output .ok "text/html".toList (Listing.render u' (listed es')) := by
  obtain ⟨hnorm, hnsafe, hrel⟩ := below_directory hhead hback hslash hsafe hname hnback
  have hlast : u'.getLast? = some '/' := by
    rw [hu', ← List.append_assoc, List.getLast?_concat]
  rw [← hu'] at hnorm hnsafe hrel
  have hdir' : fs.stat (Path.join site.root (relative u')) = .ok (.dir es') := by
    have hentry := (FileSystem.stat_join_entry hroot hfree (isAbsolute_relative u)
      (parentName_notMem_relative hsafe) (relative_of_getLast? hslash) hstat hname).2 es' hsub
    rw [← hrel] at hentry
    exact hentry hlen
  have hindexStat : ∀ index ∈ indexNames,
      fs.stat (Path.join (Path.join site.root (relative u')) index) =
        (es'.lookup index).elim (.error .notFound) .ok := by
    intro index hi
    rw [(Path.join_join (FileSystem.exists_of_stat_eq_ok hroot).1 (relative_of_getLast? hlast)
      (isAbsolute_relative u') (indexName_spec hi).1).2]
    exact (FileSystem.stat_join_entry hroot hfree (isAbsolute_relative u')
      (parentName_notMem_relative hnsafe) (relative_of_getLast? hlast) hdir'
      (isFileName_of_mem_indexNames hi)).1 (hindex index hi)
  rw [serveFile_eq hdir (by rwa [hnorm]), hnorm, hdir']
  simp only [serveDirectory, hlast, ne_eq, not_true_eq_false, if_false, index?_eq hindexStat,
    hlisting, if_true]
  cases indexAmong (Path.join site.root (relative u')) es' with
  | none => rfl
  | some p => rfl

end Follow

/-! ### The links of a listing -/

theorem entry_mem_listed {es : List (Bytes × Node)} {name : Text} {m : Node}
    (h : es.lookup (Utf8.encode name) = some m) : ⟨name, m.isDir, m.size⟩ ∈ listed es := by
  obtain ⟨before, after, rfl, -⟩ := List.lookup_eq_some_iff.1 h
  refine List.mem_map.2 ⟨(Utf8.encode name, m), by simp, ?_⟩
  simp only [Utf8.decodeLossy_encode]

/-- Entries whose names are texts are shown by different names. -/
theorem nodup_shownName {es : List (Bytes × Node)} (hnodup : (es.map Prod.fst).Nodup)
    (hnames : ∀ p ∈ es, IsFileName p.1 ∧ ∃ t, p.1 = Utf8.encode t) :
    ((listed es).map Listing.Entry.shownName).Nodup := by
  rw [listed, List.map_map, List.Nodup, List.pairwise_map]
  rw [List.Nodup, List.pairwise_map] at hnodup
  refine hnodup.imp_of_mem fun {p q} hp hq hne hshown => hne ?_
  obtain ⟨hpname, s, hs⟩ := hnames p hp
  obtain ⟨hqname, t, ht⟩ := hnames q hq
  rw [hs] at hpname
  rw [ht] at hqname
  have hsslash := hpname.slash_notMem
  have htslash := hqname.slash_notMem
  simp only [Function.comp_apply, Listing.Entry.shownName, hs, ht, Utf8.decodeLossy_encode]
    at hshown
  rw [hs, ht]
  -- A directory is shown with a slash, which no name has.
  split at hshown
  · split at hshown
    · rw [List.append_cancel_right hshown]
    · exact absurd (hshown ▸ List.mem_append_right s List.mem_cons_self) htslash
  · split at hshown
    · exact absurd (hshown ▸ List.mem_append_right t List.mem_cons_self) hsslash
    · rw [hshown]

theorem decode_target (uri : Text) (e : Listing.Entry) :
    Target.decode (Listing.target uri e) Params.empty =
      (.ok (uri ++ e.shownName), Params.empty) := by
  rw [Target.decode, Listing.target, splitOnce?_eq_none_iff.2 (Params.notMem_encode rfl _),
    Percent.decode_encode]

/-- **The links of a listing.** If the tree below the root has no links, then every page with which
the site answers is the listing of a directory. An entry whose name is text has a link on it, and
just one unless another entry is shown by the same name, which no two texts are. Its target is
decoded to the path of the directory with the name behind it. If the name has no backslash and all
is within the limits of the system, then following the link to a directory leads to the index file
of that very directory or else to its listing, and following the link to a file leads to that very
file, if its name does not end in white space or two dots. -/
theorem serveFile_links {site : StaticSite} {fs : FileSystem} {n : Node}
    (hroot : fs.stat site.root = .ok n) (hfree : n.LinkFree) (output : OutputEncoding) (uri : Text)
    (fields : Fields) (hok : (site.serveFile output fs uri fields).status = .ok)
    (hpage : (site.serveFile output fs uri fields).body.isFile = false) :
    let u := normalize uri
    ∃ es, fs.stat (Path.join site.root (relative u)) = .ok (.dir es) ∧
      site.serveFile output fs uri fields =
        .text output .ok "text/html".toList (Listing.render u (listed es)) ∧
      ∀ (name : Text) (m : Node), IsFileName (Utf8.encode name) →
        es.lookup (Utf8.encode name) = some m →
        let e : Listing.Entry := ⟨name, m.isDir, m.size⟩
        let links := Listing.targets (Listing.render u (listed es))
        let u' := u ++ e.shownName
        Listing.target u e ∈ links ∧
        links.count (Listing.target u e) =
          ((listed es).map Listing.Entry.shownName).count e.shownName ∧
        ((es.map Prod.fst).Nodup → (∀ p ∈ es, IsFileName p.1 ∧ ∃ t, p.1 = Utf8.encode t) →
          links.count (Listing.target u e) = 1) ∧
        Target.decode (Listing.target u e) Params.empty = (.ok u', Params.empty) ∧
        ('\\' ∉ name → (Path.join site.root (relative u')).length ≤ FileSystem.maxPath →
          (∀ content, m = .file content → (∀ c, name.getLast? = some c → isBlank c = false) →
            ¬"..".toList <:+ name → ∀ fields, site.serveFile output fs u' fields =
              serveRegular output (Path.join site.root (relative u')) m fields) ∧
          (∀ es', m = .dir es' →
            (∀ index ∈ indexNames,
              (Path.join site.root (relative u' ++ index)).length ≤ FileSystem.maxPath) →
            ∀ fields, site.serveFile output fs u' fields =
              match indexAmong (Path.join site.root (relative u')) es' with
              | some (path, content) => serveRegular output path (.file content) fields
              | none => .text output .ok "text/html".toList (Listing.render u' (listed es')))) := by
  intro u
  obtain ⟨hdir, hlisting, hsafe, hslash, es, hstat, hserve⟩ := serveFile_listing hok hpage
  have hhead : ∀ c, u.head? = some c → isBlank c = false := fun c =>
    isBlank_eq_false_of_head?_normalize
  have hback : '\\' ∉ u := backslash_notMem_normalize uri
  refine ⟨es, hstat, hserve, ?_⟩
  intro name m hname hlook e links u'
  have hne : name ≠ [] := fun h => hname.ne_nil (by rw [h]; rfl)
  have hshown : e.shownName ≠ [] := by
    rw [Listing.Entry.shownName]
    split
    · exact List.append_ne_nil_of_left_ne_nil hne _
    · exact hne
  have hcount : links.count (Listing.target u e) =
      ((listed es).map Listing.Entry.shownName).count e.shownName := Listing.count_targets hshown
  have hmem : e.shownName ∈ (listed es).map Listing.Entry.shownName :=
    List.mem_map_of_mem (entry_mem_listed hlook)
  refine ⟨Listing.mem_targets (entry_mem_listed hlook), hcount, fun hnodup hnames => ?_,
    decode_target u e, fun hnback hlen => ⟨?_, ?_⟩⟩
  · rw [hcount]
    exact List.count_eq_one_of_mem (nodup_shownName hnodup hnames) hmem
  · rintro content rfl hlast hdots fields'
    exact follow_file hroot hfree hdir hhead hback hslash hsafe hstat hname hnback hlast hdots hlook
      hlen output fields'
  · rintro es' rfl hindex fields'
    exact follow_directory hroot hfree hdir hhead hback hslash hsafe hstat hlisting hname hnback
      hlook rfl hlen hindex output fields'

/-- A directory with a file and with a directory that has an index file. -/
theorem serveFile_links_index :
    let inner : List (Bytes × Node) := [(Utf8.encode "index.htm".toList, .file ⟨[1], 0⟩)]
    let es : List (Bytes × Node) :=
      [(Utf8.encode "a b".toList, .dir inner), (Utf8.encode "é".toList, .file ⟨[2], 0⟩)]
    let fs : FileSystem := ⟨.dir es, []⟩
    let site : StaticSite := ⟨Utf8.encode "/".toList, true⟩
    fs.stat site.root = .ok (.dir es) ∧ (Node.dir es).LinkFree ∧
      (site.serveFile none fs "/".toList .empty).status = .ok ∧
      (site.serveFile none fs "/".toList .empty).body.isFile = false ∧
      (site.serveFile none fs "/a b/".toList .empty).body = .file ⟨[1], 0⟩ 0 ∧
      (site.serveFile none fs "/é".toList .empty).body = .file ⟨[2], 0⟩ 0 := by
  intro inner es fs site
  have hroot : fs.stat site.root = .ok (.dir es) := rfl
  have hfree : (Node.dir es).LinkFree := by
    refine Node.linkFree_dir (List.forall_mem_cons.2 ⟨?_, List.forall_mem_singleton.2 ?_⟩)
    · exact linkFree_file _ _
    · exact Node.linkFree_file _
  have hok : (site.serveFile none fs "/".toList .empty).status = .ok := by decide +kernel
  have hpage : (site.serveFile none fs "/".toList .empty).body.isFile = false := by decide +kernel
  obtain ⟨es', hstat, -, hlinks⟩ := serveFile_links hroot hfree none "/".toList .empty hok hpage
  have hroot' : fs.stat (Path.join site.root (relative (normalize "/".toList))) =
      .ok (.dir es) := rfl
  obtain rfl : es = es' := Node.dir.inj (Except.ok.inj (hroot'.symm.trans hstat))
  have hdir := ((hlinks "a b".toList (.dir inner)
    ⟨by decide, by decide, by decide, by decide, by decide, by decide⟩ rfl).2.2.2.2
    (by decide) (by decide)).2 inner rfl (by decide) .empty
  have hfile := ((hlinks "é".toList (.file ⟨[2], 0⟩)
    ⟨by decide, by decide, by decide, by decide, by decide, by decide⟩ rfl).2.2.2.2
    (by decide) (by decide)).1 ⟨[2], 0⟩ rfl (fun c hc => by cases hc; decide) (by decide) .empty
  exact ⟨hroot, hfree, hok, hpage, congrArg Response.body hdir, congrArg Response.body hfile⟩

/-- **A link that misleads.** The name of a file that ends in a space is linked as it is, but what
the link leads to is looked up without the space, and so it is another file. -/
theorem listing_misleads :
    let es : List (Bytes × Node) := [(Utf8.encode "a".toList, .file ⟨[1], 0⟩),
      (Utf8.encode "a ".toList, .file ⟨[2], 0⟩)]
    let fs : FileSystem := ⟨.dir es, []⟩
    let site : StaticSite := ⟨Utf8.encode "/".toList, true⟩
    let spaced : Listing.Entry := ⟨"a ".toList, false, 1⟩
    (Node.dir es).LinkFree ∧
      site.serveFile none fs "/".toList .empty =
        .text none .ok "text/html".toList (Listing.render "/".toList (listed es)) ∧
      Listing.target "/".toList spaced ∈
        Listing.targets (Listing.render "/".toList (listed es)) ∧
      Target.decode (Listing.target "/".toList spaced) Params.empty =
        (.ok "/a ".toList, Params.empty) ∧
      (site.serveFile none fs "/a ".toList .empty).body = .file ⟨[1], 0⟩ 0 := by
  intro es fs site spaced
  have hfree : (Node.dir es).LinkFree := Node.linkFree_dir (List.forall_mem_cons.2
    ⟨Node.linkFree_file _, List.forall_mem_singleton.2 (Node.linkFree_file _)⟩)
  have hok : (site.serveFile none fs "/".toList .empty).status = .ok := by decide +kernel
  have hpage : (site.serveFile none fs "/".toList .empty).body.isFile = false := by decide +kernel
  obtain ⟨-, -, -, -, es', hstat, hserve⟩ := serveFile_listing hok hpage
  have hroot : fs.stat (Path.join site.root (relative (normalize "/".toList))) =
      .ok (.dir es) := rfl
  obtain rfl : es = es' := Node.dir.inj (Except.ok.inj (hroot.symm.trans hstat))
  exact ⟨hfree, hserve, Listing.mem_targets (entry_mem_listed (m := .file ⟨[2], 0⟩) rfl),
    decode_target _ _, by decide +kernel⟩

end StaticSite

end HttpServer
