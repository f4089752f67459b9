import HttpServer.Proofs.Files.Redirect
import HttpServer.Proofs.Text.Lossy

/-!
# Where the references of a site lead

The location of a redirect and the targets of the links on a page are references that a client
resolves against the URL it has asked for. A reference that starts with two slashes does not stay on
the server: what follows them is the name of a host. All references of a site are made from the path
that was looked up, which is encoded as it is. Encoding keeps slashes, and nothing that is put
behind a path brings a second slash to its start, so the references of a site lead to another host
just for a path that itself starts with two slashes.

Such paths are served. What is looked up for them has no slashes at its start, so any directory of
the site can be asked for in this way, and then the first name of its path is taken for a host
(`StaticSite.references_mislead`). The one link that stays is that to the root, on the page for
`//`.

## Main definitions

* `IsNetworkPath`: references that name a host.
* `Node.WellNamed`: trees in which all names are names of files.

## Main results

* `isNetworkPath_encode`: encoding makes no difference.
* `Listing.isNetworkPath_target_iff`, `Listing.isNetworkPath_parent_iff`: the links of a page.
* `StaticSite.references_networkPath`: all references of a site.
-/

namespace HttpServer

/-- The reference starts with two slashes, so that a host is named behind them. -/
def IsNetworkPath (t : Text) : Prop :=
  ['/', '/'] <+: t

instance : DecidablePred IsNetworkPath := fun t =>
  inferInstanceAs (Decidable (['/', '/'] <+: t))

theorem isNetworkPath_iff {t : Text} :
    IsNetworkPath t ↔ t.head? = some '/' ∧ t.tail.head? = some '/' := by
  obtain _ | ⟨c, _ | ⟨d, t⟩⟩ := t
  · exact iff_of_false (by decide) fun h => nomatch h.1
  · refine iff_of_false (fun h => ?_) fun h => nomatch h.2
    exact absurd h.length_le (Nat.not_succ_le_self 1)
  · simp only [IsNetworkPath, List.cons_prefix_cons, List.nil_prefix, and_true, List.head?_cons,
      List.tail_cons, Option.some.injEq]
    exact and_congr eq_comm eq_comm

/-- What is put behind a path makes no difference, if it does not complete the two slashes. -/
theorem isNetworkPath_append {u t : Text} (hu : u ≠ []) (ht : u = ['/'] → t.head? ≠ some '/') :
    IsNetworkPath (u ++ t) ↔ IsNetworkPath u := by
  obtain ⟨c, _ | ⟨d, s⟩, rfl⟩ := List.exists_cons_of_ne_nil hu
  · have hnone : ¬IsNetworkPath [c] := by simp [isNetworkPath_iff]
    refine iff_of_false (fun h => ?_) hnone
    obtain ⟨hc, hhead⟩ := isNetworkPath_iff.1 h
    obtain rfl : c = '/' := Option.some.inj hc
    exact ht rfl hhead
  · rw [isNetworkPath_iff, isNetworkPath_iff]
    rfl

theorem not_isNetworkPath_slash : ¬IsNetworkPath ['/'] := by
  decide

/-- A beginning of a path starts as the path does, unless it is a single slash. -/
theorem isNetworkPath_of_prefix {s u : Text} (h : s <+: u) (hne : s ≠ []) :
    IsNetworkPath s ↔ IsNetworkPath u ∧ s ≠ ['/'] := by
  constructor
  · intro hs
    refine ⟨hs.trans h, ?_⟩
    rintro rfl
    exact not_isNetworkPath_slash hs
  · rintro ⟨hu, hs⟩
    obtain ⟨t, rfl⟩ := h
    exact (isNetworkPath_append hne fun heq => absurd heq hs).1 hu

namespace Percent

theorem encodeByte_ne_nil (b : UInt8) : encodeByte b ≠ [] := by
  rw [encodeByte]
  split_ifs <;> exact List.cons_ne_nil _ _

/-- Only the slash is encoded as a slash. -/
theorem eq_slash_of_head?_encodeByte {b : UInt8} (h : (encodeByte b).head? = some '/') :
    b = Path.slash := by
  rw [encodeByte] at h
  split_ifs at h
  · have hval := congrArg Char.toNat (Option.some.inj h)
    rw [Utf8.toNat_ofNat_toNat] at hval
    exact UInt8.toNat_inj.1 hval
  · exact absurd (Option.some.inj h) (by decide)
  · exact absurd (Option.some.inj h) (by decide)

/-- Encoded text starts with a slash just if the text does. -/
theorem head?_encode_eq_slash_iff {t : Text} :
    (encode t).head? = some '/' ↔ t.head? = some '/' := by
  obtain _ | ⟨c, t⟩ := t
  · exact Iff.rfl
  by_cases hc : c = '/'
  · rw [hc]
    exact iff_of_true rfl rfl
  refine iff_of_false (fun h => ?_) fun h => hc (Option.some.inj h)
  obtain ⟨b, s, hb⟩ := List.exists_cons_of_ne_nil (Utf8.encodeChar_ne_nil c)
  have hbytes : encode (c :: t) = encodeByte b ++ (s ++ Utf8.encode t).flatMap encodeByte := by
    rw [encode, Text.bytes, Utf8.encode_cons, hb, List.cons_append, List.flatMap_cons]
  rw [hbytes, List.head?_append_of_ne_nil _ (encodeByte_ne_nil b)] at h
  have hslash : Path.slash ∈ Utf8.encodeChar c := by
    rw [hb, eq_slash_of_head?_encodeByte h]
    exact List.mem_cons_self
  exact Path.slash_notMem_encodeChar hc hslash

end Percent

/-- **Encoding** makes no difference to where a reference leads. -/
theorem isNetworkPath_encode {t : Text} : IsNetworkPath (Percent.encode t) ↔ IsNetworkPath t := by
  rw [isNetworkPath_iff, isNetworkPath_iff, Percent.head?_encode_eq_slash_iff]
  refine and_congr_right fun hhead => ?_
  obtain ⟨s, rfl⟩ := List.head?_eq_some_iff.1 hhead
  have htail : (Percent.encode ('/' :: s)).tail = Percent.encode s := rfl
  rw [htail, Percent.head?_encode_eq_slash_iff, List.tail_cons]

/-! ### The links of a page -/

namespace Listing

/-- The path of the directory above is a beginning of the path. -/
theorem isPrefix_of_parent? {uri up : Text} (h : parent? uri = some up) : up <+: uri ∧ up ≠ [] := by
  have htrim : (if uri.getLast? = some '/' then uri.dropLast else uri) <+: uri := by
    split_ifs
    · exact List.dropLast_prefix uri
    · exact List.prefix_rfl
  rw [parent?] at h
  obtain ⟨hne, h⟩ := Option.ite_none_left_eq_some.1 h
  rw [← Option.some.inj h]
  refine ⟨?_, by simpa using hne⟩
  refine (List.reverse_suffix.1 ?_).trans htrim
  rw [List.reverse_reverse]
  exact List.dropWhile_suffix _

/-- The link to the directory above leads to another host as the path does, unless it leads to the
root. -/
theorem isNetworkPath_parent_iff {uri up : Text} (h : parent? uri = some up) :
    IsNetworkPath (Percent.encode up) ↔ IsNetworkPath uri ∧ Percent.encode up ≠ ['/'] := by
  obtain ⟨hpre, hne⟩ := isPrefix_of_parent? h
  have hroot : Percent.encode up = ['/'] ↔ up = ['/'] :=
    ⟨fun heq => encode_inj (t := ['/']) heq, fun heq => by rw [heq]; rfl⟩
  rw [isNetworkPath_encode, isNetworkPath_of_prefix hpre hne, Ne, Ne, hroot]

/-- The link to an entry leads to another host as the path does, if the name of the entry is not
empty and does not start with a slash. -/
theorem isNetworkPath_target_iff {uri : Text} (huri : uri.getLast? = some '/') {e : Entry}
    (hne : e.name ≠ []) (hslash : e.name.head? ≠ some '/') :
    IsNetworkPath (target uri e) ↔ IsNetworkPath uri ∧ target uri e ≠ ['/'] := by
  have huri' : uri ≠ [] := fun h => by rw [h] at huri; cases huri
  have hhead : e.shownName.head? ≠ some '/' := by
    rw [Entry.shownName]
    split_ifs
    · rwa [List.head?_append_of_ne_nil _ hne]
    · exact hslash
  have hroot : target uri e ≠ ['/'] := by
    intro heq
    obtain ⟨d, rfl⟩ := List.getLast?_eq_some_iff.1 huri
    have hlen := congrArg List.length (encode_inj (t := ['/']) heq)
    have hpos := List.length_pos_iff.2 hne
    rw [Entry.shownName] at hlen
    split_ifs at hlen <;> simp at hlen <;> omega
  rw [target, isNetworkPath_encode, isNetworkPath_append huri' fun _ => hhead]
  exact (and_iff_left hroot).symm

end Listing

/-! ### The references of a site -/

/-- All names in the tree are names that entries of a directory can have. -/
def Node.WellNamed (n : Node) : Prop :=
  ∀ (place : Place) (es : List (Bytes × Node)), n.at? place = some (.dir es) →
    ∀ p ∈ es, IsFileName p.1

theorem Node.wellNamed_dir {es : List (Bytes × Node)}
    (h : ∀ p ∈ es, IsFileName p.1 ∧ p.2.WellNamed) : (dir es).WellNamed := by
  intro place es' hat
  cases place with
  | nil =>
    obtain rfl : es = es' := dir.inj (Option.some.inj hat)
    exact fun p hp => (h p hp).1
  | cons name rest =>
    rw [at?, child?, entries] at hat
    cases hc : es.lookup name with
    | none =>
      rw [hc] at hat
      cases hat
    | some c =>
      rw [hc] at hat
      obtain ⟨before, after, hes, -⟩ := List.lookup_eq_some_iff.1 hc
      exact (h (name, c) (by simp [hes])).2 rest es' hat

/-- So are the names in every directory that a path leads to. -/
theorem FileSystem.isFileName_of_stat {fs : FileSystem} (h : fs.top.WellNamed) {path : Bytes}
    {es : List (Bytes × Node)} (hstat : fs.stat path = .ok (.dir es)) :
    ∀ p ∈ es, IsFileName p.1 := by
  obtain ⟨-, -, place, hat, -⟩ := exists_of_stat_eq_ok hstat
  exact h place es hat

namespace StaticSite

variable {site : StaticSite} {output : OutputEncoding} {fs : FileSystem} {uri : Text}
  {fields : Fields}

/-- A name is shown as a text that is not empty and has no slash. -/
theorem head?_name_of_mem_listed {es : List (Bytes × Node)} (h : ∀ p ∈ es, IsFileName p.1)
    {e : Listing.Entry} (he : e ∈ listed es) : e.name ≠ [] ∧ e.name.head? ≠ some '/' := by
  obtain ⟨p, hp, rfl⟩ := List.mem_map.1 he
  have hname := h p hp
  refine ⟨Utf8.decodeLossy_ne_nil hname.ne_nil, fun hhead => hname.slash ?_⟩
  exact (Utf8.mem_decodeLossy_iff_of_ascii (c := '/') (by decide)).1 (List.mem_of_head? hhead)

/-- The location of a redirect leads to another host just if the path does that is redirected. -/
theorem isNetworkPath_location_iff {u : Text} (h : u.getLast? ≠ some '/') :
    IsNetworkPath (Percent.encode (u ++ ['/'])) ↔ IsNetworkPath u := by
  rw [isNetworkPath_encode]
  obtain _ | ⟨c, u⟩ := u
  · exact iff_of_false not_isNetworkPath_slash (by decide)
  · refine isNetworkPath_append (List.cons_ne_nil c u) fun hslash => ?_
    rw [hslash] at h
    exact absurd rfl h

/-- **The references of a site.** The location of a redirect starts with two slashes, so that it
leads to another host, just if the path does that was looked up, and so do the links of a page, but
for a link to the root. No reference has a colon, so none has a scheme that could lead away. -/
theorem references_networkPath (site : StaticSite) (output : OutputEncoding) {fs : FileSystem}
    (hnames : fs.top.WellNamed) (uri : Text) (fields : Fields) :
    let u := normalize uri
    let answer := site.serveFile output fs uri fields
    (answer.status = .movedPermanently → ∃ location,
      answer.headers = [("Location".toList, location)] ∧ ':' ∉ location ∧
      (IsNetworkPath location ↔ IsNetworkPath u)) ∧
    (answer.status = .ok → answer.body.isFile = false → ∃ es,
      answer = .text output .ok "text/html".toList (Listing.render u (listed es)) ∧
      ∀ t ∈ Listing.targets (Listing.render u (listed es)), ':' ∉ t ∧
        (IsNetworkPath t ↔ IsNetworkPath u ∧ t ≠ ['/'])) := by
  intro u answer
  have hcolon : ∀ t, ':' ∉ Percent.encode t := Params.notMem_encode rfl
  constructor
  · intro hmoved
    obtain ⟨hsafe, hslash, es, hes⟩ := serveFile_movedPermanently hmoved
    have hanswer : answer = .redirect output (Percent.encode (u ++ ['/'])) :=
      serveFile_of_no_slash hsafe hslash hes
    exact ⟨_, by rw [hanswer]; rfl, hcolon _, isNetworkPath_location_iff hslash⟩
  · intro hok hpage
    obtain ⟨-, -, -, hslash, es, hstat, hserve⟩ := serveFile_listing hok hpage
    have hes := FileSystem.isFileName_of_stat hnames hstat
    refine ⟨es, hserve, fun t ht => ?_⟩
    rw [Listing.targets_render] at ht
    rcases List.mem_append.1 ht with ht | ht
    · obtain ⟨up, hup, rfl⟩ := List.mem_map.1 ht
      exact ⟨hcolon up, Listing.isNetworkPath_parent_iff (Option.mem_toList.1 hup)⟩
    · obtain ⟨e, he, rfl⟩ := List.mem_map.1 ht
      obtain ⟨hne, hhead⟩ := head?_name_of_mem_listed hes (List.mem_mergeSort.1 he)
      exact ⟨hcolon _, Listing.isNetworkPath_target_iff hslash hne hhead⟩

/-- A directory that is asked for with one slash in front of it, and with two. -/
theorem references_networkPath_host :
    let fs : FileSystem := ⟨.dir [(Utf8.encode "host".toList, .dir [])], []⟩
    let site : StaticSite := ⟨Utf8.encode "/".toList, true⟩
    fs.top.WellNamed ∧ ∀ uri ∈ ["/host".toList, "\\\\host".toList],
      (site.serveFile none fs uri .empty).status = .movedPermanently ∧
      ∃ location, (site.serveFile none fs uri .empty).headers = [("Location".toList, location)] ∧
        (IsNetworkPath location ↔ uri = "\\\\host".toList) := by
  intro fs site
  have hnames : fs.top.WellNamed := by
    refine Node.wellNamed_dir (List.forall_mem_singleton.2 ⟨?_, Node.wellNamed_dir ?_⟩)
    · exact ⟨by decide, by decide, by decide, by decide, by decide, by decide⟩
    · exact List.forall_mem_nil _
  refine ⟨hnames, fun uri huri => ?_⟩
  have hmoved : (site.serveFile none fs uri .empty).status = .movedPermanently := by
    rcases List.mem_pair.1 huri with rfl | rfl <;> decide +kernel
  obtain ⟨location, hlocation, -, hiff⟩ :=
    (references_networkPath site none hnames uri .empty).1 hmoved
  refine ⟨hmoved, location, hlocation, hiff.trans ?_⟩
  rcases List.mem_pair.1 huri with rfl | rfl <;> decide

/-- **References that mislead.** Asked for with two slashes in front of it, a directory is
redirected to what is taken for a host of its name, and the page for two slashes links it there as
well. -/
theorem references_mislead :
    let fs : FileSystem := ⟨.dir [(Utf8.encode "host".toList, .dir [])], []⟩
    let site : StaticSite := ⟨Utf8.encode "/".toList, true⟩
    let page := Listing.render "//".toList [⟨"host".toList, true, 0⟩]
    Target.decode "//host".toList .empty = (.ok "//host".toList, .empty) ∧
      (site.serveFile none fs "//host".toList .empty).status = .movedPermanently ∧
      (site.serveFile none fs "//host".toList .empty).headers =
        [("Location".toList, "//host/".toList)] ∧
      site.serveFile none fs "//".toList .empty = .text none .ok "text/html".toList page ∧
      "//host/".toList ∈ Listing.targets page ∧ IsNetworkPath "//host/".toList := by
  intro fs site page
  have hdecode : Target.decode "//host".toList .empty = (.ok "//host".toList, .empty) := by
    have hpath : Percent.decode "//host".toList = .ok "//host".toList := by decide +kernel
    rw [Target.decode, splitOnce?_eq_none_iff.2 (by decide), hpath]
  have hmoved : (site.serveFile none fs "//host".toList .empty).status = .movedPermanently := by
    decide +kernel
  obtain ⟨hsafe, hslash, es, hes⟩ := serveFile_movedPermanently hmoved
  have hok : (site.serveFile none fs "//".toList .empty).status = .ok := by decide +kernel
  have hbody : (site.serveFile none fs "//".toList .empty).body.isFile = false := by decide +kernel
  obtain ⟨-, -, -, -, es', hstat, hserve⟩ := serveFile_listing hok hbody
  have hroot : fs.stat (Path.join site.root (relative (normalize "//".toList))) =
      .ok (.dir [(Utf8.encode "host".toList, .dir [])]) := rfl
  obtain rfl := Node.dir.inj (Except.ok.inj (hroot.symm.trans hstat))
  refine ⟨hdecode, hmoved, ?_, hserve, ?_, by decide⟩
  · rw [serveFile_of_no_slash hsafe hslash hes]
    rfl
  · decide +kernel

end StaticSite

end HttpServer
