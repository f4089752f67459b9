import HttpServer.Proofs.Files.Links
import HttpServer.Proofs.Text.Entities

/-!
# Redirects to directories

A directory that is asked for without its final slash is answered with a redirect to the same path
with the slash. The location is encoded, so nothing in it has to be escaped on the page, and
decoding it gives the path back. The path with the slash is trimmed and checked once more when the
client comes back, which neither changes nor refuses it: a trimmed path is still trimmed with a
slash behind it, and the slash makes no name `..` and no two dots at an end. It resolves to the same
place as before, and since it has its slash it is not redirected again.

## Main definitions

* `StaticSite.ResolvesTo`: the directory that a path leads to.

## Main results

* `FileSystem.resolve_withSlash`: the final slash of a directory changes nothing.
* `FileSystem.isDir_of_stat_join`: what has something below it is a directory.
* `StaticSite.resolvesTo_iff`: when a site resolves a path to a directory.
* `StaticSite.serveFile_redirect`: when a site redirects, and what its redirects lead to.
-/

namespace HttpServer

/-! ### Final slashes -/

namespace Path

theorem withSlash_withSlash (dir : Bytes) : withSlash (withSlash dir) = withSlash dir :=
  withSlash_of_getLast? (getLast?_withSlash dir)

theorem isAbsolute_withSlash {dir : Bytes} (hne : dir ≠ []) :
    isAbsolute (withSlash dir) = isAbsolute dir := by
  rw [isAbsolute, isAbsolute, head?_withSlash hne]

/-- What is below a directory is below it however its path ends. -/
theorem join_withSlash {dir name : Bytes} (hne : dir ≠ []) (h : isAbsolute name = false) :
    join (withSlash dir) name = join dir name := by
  rw [join_eq (withSlash_ne_nil dir) h, join_eq hne h, withSlash_withSlash]

theorem length_le_length_withSlash (dir : Bytes) : dir.length ≤ (withSlash dir).length := by
  rw [withSlash]
  split
  · exact Nat.le_refl _
  · simp

theorem nul_mem_withSlash_iff {dir : Bytes} : 0 ∈ withSlash dir ↔ 0 ∈ dir := by
  have hslash : (0 : UInt8) ≠ slash := by decide
  rw [withSlash]
  split
  · rfl
  · simp [hslash]

/-- The final slash of a path adds an empty name, unless it was there. -/
theorem names_withSlash (dir : Bytes) :
    names (withSlash dir) = names dir ∨ names (withSlash dir) = names dir ++ [[]] := by
  rw [withSlash]
  split
  · exact .inl rfl
  · exact .inr (splitOn_append dir [])

end Path

namespace FileSystem

/-- A path that leads somewhere keeps to the limit. -/
theorem length_le_of_stat_eq_ok {fs : FileSystem} {p : Bytes} {n : Node} (h : fs.stat p = .ok n) :
    p.length ≤ maxPath := by
  by_contra hlen
  rw [stat_eq, resolve_eq, if_pos (Nat.not_le.1 hlen)] at h
  split at h
  · cases h
  · split at h <;> cases h

/-- A path within the limits is resolved to where its names lead. -/
theorem resolve_of_walkLinks {fs : FileSystem} {p : Bytes} (hne : p ≠ []) (hnul : 0 ∉ p)
    (hlen : p.length ≤ maxPath) :
    fs.resolve p = walkLinks fs.top true maxLinks (fs.start p) (Path.names p) := by
  rw [resolve_eq, if_neg hnul, if_neg (by simpa using hne), if_neg (Nat.not_lt.2 hlen)]

/-- Where a way goes on, there is a directory. -/
theorem exists_dir_of_walkLinks {top : Node} {links : Nat} {place p : Place} {names : List Bytes}
    (hne : names ≠ []) (h : walkLinks top true links place names = .ok p) :
    ∃ es, top.at? place = some (.dir es) := by
  obtain ⟨name, rest, rfl⟩ := List.exists_cons_of_ne_nil hne
  cases hat : top.at? place with
  | none =>
    rw [walkLinks, walk, hat] at h
    cases h
  | some n =>
    cases n with
    | dir es => exact ⟨es, rfl⟩
    | file _ | link _ | socket =>
      rw [walkLinks, walk, hat] at h
      cases h

/-- An empty name behind the way to a directory leads no further. -/
theorem walkLinks_append_nil {top : Node} {links : Nat} {place p : Place} {names : List Bytes}
    {es : List (Bytes × Node)} (h : walkLinks top true links place names = .ok p)
    (hat : top.at? p = some (.dir es)) :
    walkLinks top true links place (names ++ [[]]) = .ok p := by
  rcases walkLinks_append top links place names with ⟨e, he, -⟩ | ⟨q, left, hq, hmore⟩
  · cases h.symm.trans he
  · obtain rfl : p = q := Except.ok.inj (h.symm.trans hq)
    rw [hmore, walkLinks, Node.walk_nil hat]

/-- **The final slash** of the path of a directory makes no difference to where it leads. -/
theorem resolve_withSlash {fs : FileSystem} {p : Bytes} {es : List (Bytes × Node)}
    (h : fs.stat p = .ok (.dir es)) (hlen : (Path.withSlash p).length ≤ maxPath) :
    fs.resolve (Path.withSlash p) = fs.resolve p := by
  obtain ⟨hne, hnul, place, hat, hplace⟩ := exists_of_stat_eq_ok h
  have hstart : fs.start (Path.withSlash p) = fs.start p := by
    rw [start, start, Path.isAbsolute_withSlash hne]
  have hnames : walkLinks fs.top true maxLinks (fs.start p) (Path.names (Path.withSlash p)) =
      .ok place := by
    rcases Path.names_withSlash p with hsame | hmore
    · rw [hsame, hplace]
    · rw [hmore, walkLinks_append_nil hplace hat]
  rw [resolve_of_walkLinks (Path.withSlash_ne_nil p) (mt Path.nul_mem_withSlash_iff.1 hnul) hlen,
    resolve_of_walkLinks hne hnul (length_le_of_stat_eq_ok h), hstart, hnames, hplace]

theorem exists_dir_of_isDir {fs : FileSystem} {p : Bytes} (h : fs.isDir p = true) :
    ∃ es, fs.stat p = .ok (.dir es) := by
  rw [isDir] at h
  cases hstat : fs.stat p with
  | error e =>
    rw [hstat] at h
    cases h
  | ok n =>
    rw [hstat] at h
    cases n with
    | dir es => exact ⟨es, rfl⟩
    | file _ | link _ | socket => cases h

/-- **What has something below it** is a directory. -/
theorem isDir_of_stat_join {fs : FileSystem} {root rel : Bytes} {n : Node} (hne : root ≠ [])
    (habs : Path.isAbsolute rel = false) (h : fs.stat (Path.join root rel) = .ok n) :
    fs.isDir root = true := by
  obtain ⟨-, hnul, p, -, hp⟩ := exists_of_stat_eq_ok h
  obtain ⟨lead, hlead, hjoin⟩ := Path.exists_names_join hne
  have hlen := length_le_of_stat_eq_ok h
  rw [Path.join_eq hne habs] at hnul hlen
  have hroot : fs.resolve root =
      walkLinks fs.top true maxLinks (fs.start root) (Path.names root) := by
    refine resolve_of_walkLinks hne (fun hm => hnul ?_) ?_
    · exact List.mem_append_left _ (Path.nul_mem_withSlash_iff.2 hm)
    · rw [List.length_append] at hlen
      have hslash := Path.length_le_length_withSlash root
      omega
  have hstart : fs.start (Path.join root rel) = fs.start root := by
    rw [start, start, Path.isAbsolute_join hne habs]
  rw [hstart, hjoin rel habs] at hp
  rcases walkLinks_append fs.top maxLinks (fs.start root) lead with
    ⟨e, -, he⟩ | ⟨q, left, hq, hmore⟩
  · rw [he] at hp
    cases hp
  · rw [hmore] at hp
    obtain ⟨es, hat⟩ := exists_dir_of_walkLinks (splitOn_ne_nil Path.slash rel) hp
    have hplace : fs.resolve root = .ok q := by
      rcases hlead with hsame | hslash
      · rw [hroot, hsame, hq]
      · rw [hroot, hslash, walkLinks_append_nil hq hat]
    rw [isDir, stat_eq, hplace, nodeAt, hat]
    rfl

end FileSystem

namespace Percent

/-- Encoded text has only characters that can be seen, and none that is significant in markup or
ends a path. -/
theorem spec_of_mem_encode {c : Char} {t : Text} (h : c ∈ encode t) :
    c ∉ "?\"'<>&".toList ∧ isBlank c = false ∧ 0x20 < c.toNat ∧ c.toNat < 0x7F := by
  have hc := isEncoded_of_mem_encode h
  have hne : c ∉ "?\"'<>&".toList := fun hm => by
    have hall : "?\"'<>&".toList.all (fun d => !isEncoded d) = true := by decide
    have hnot := List.all_eq_true.1 hall c hm
    rw [hc] at hnot
    cases hnot
  refine ⟨hne, isBlank_eq_false_of_isEncoded hc, ?_⟩
  simp only [isEncoded, Bool.and_eq_true, Bool.or_eq_true, decide_eq_true_eq, isUnreserved_iff,
    beq_iff_eq] at hc
  obtain ⟨hlt, hc⟩ := hc
  rw [Utf8.toNat_ofNat_of_lt (by omega)] at hc
  rcases hc with ((hc | rfl) | rfl) | rfl
  · omega
  all_goals decide

end Percent

/-- The page of a redirect shows an encoded location as it is. -/
theorem Response.redirectPage_encode (t : Text) :
    redirectPage (Percent.encode t) = "<html><body>Redirected: <a href=\"".toList ++
      Percent.encode t ++ "\">".toList ++ Percent.encode t ++ "</a></body></html>".toList := by
  unfold redirectPage
  rw [Markup.escape_encode]

namespace StaticSite

/-! ### The path with the slash -/

/-- A path that is looked up is still looked up as it is with a slash behind it, and it is no more
refused than before. -/
theorem normalize_concat_slash (uri : Text) :
    normalize (normalize uri ++ ['/']) = normalize uri ++ ['/'] ∧
      (¬isTraversal (normalize uri) = true → ¬isTraversal (normalize uri ++ ['/']) = true) := by
  constructor
  · refine normalize_eq_self (fun c hc => ?_) (fun c hc => ?_) ?_
    · cases hu : normalize uri with
      | nil =>
        rw [hu] at hc
        cases hc
        decide
      | cons d t =>
        have hhead : (normalize uri).head? = some c := by
          rw [hu] at hc ⊢
          exact hc
        exact isBlank_eq_false_of_head?_normalize hhead
    · rw [List.getLast?_concat] at hc
      cases hc
      decide
    · exact List.not_mem_append (backslash_notMem_normalize uri) (by decide)
  · intro h
    rw [isTraversal_iff] at h ⊢
    rw [splitOn_append]
    rintro (hname | hprefix | hsuffix)
    · rcases List.mem_append.1 hname with hname | hname
      · exact h (.inl hname)
      · exact absurd hname (by decide)
    · -- Two dots at the start are not completed by the slash.
      rcases List.prefix_concat_iff.1 hprefix with heq | hprefix
      · have hlast := congrArg List.getLast? heq
        rw [List.getLast?_concat] at hlast
        exact absurd hlast (by decide)
      · exact h (.inr (.inl hprefix))
    · obtain ⟨s, hs⟩ := hsuffix
      have hlast := congrArg List.getLast? hs
      rw [List.getLast?_append_of_ne_nil _ (by decide), List.getLast?_concat] at hlast
      exact absurd hlast (by decide)

/-- A path that does not end in a slash gets one by a slash behind it. -/
theorem relative_concat_slash {u : Text} (h : u.getLast? ≠ some '/') :
    u = [] ∨ relative (u ++ ['/']) = relative u ++ [Path.slash] ∧ relative u ≠ [] ∧
      (relative u).getLast? ≠ some Path.slash := by
  rcases List.eq_nil_or_concat' u with hnil | ⟨t, c, rfl⟩
  · exact .inl hnil
  right
  have hc : c ≠ '/' := fun hc => h (by rw [List.getLast?_concat, hc])
  have hdrop : ∀ s, (t ++ c :: s).dropWhile (· = '/') = t.dropWhile (· = '/') ++ c :: s := by
    intro s
    induction t with
    | nil => simp [hc]
    | cons d t ih =>
      by_cases hd : d = '/'
      · simpa [hd] using ih (by simpa using hc)
      · simp [hd]
  have hrel : relative (t ++ [c]) = Utf8.encode (t.dropWhile (· = '/')) ++ Utf8.encodeChar c := by
    rw [relative, hdrop, Utf8.encode_append, Utf8.encode_cons, Utf8.encode_nil, List.append_nil]
  have hne := Utf8.encodeChar_ne_nil c
  refine ⟨?_, ?_, fun hlast => ?_⟩
  · rw [hrel, relative, List.append_assoc, List.singleton_append, hdrop, Utf8.encode_append,
      Utf8.encode_cons, List.append_assoc]
    rfl
  · rw [hrel]
    exact List.append_ne_nil_of_right_ne_nil _ hne
  · rw [hrel, List.getLast?_append_of_ne_nil _ hne] at hlast
    exact Path.slash_notMem_encodeChar hc (List.mem_of_getLast? hlast)

/-- The path with the slash leads to below the root as the path without it, with the slash. -/
theorem pathOf_concat_slash {site : StaticSite} (hroot : site.root ≠ []) {u : Text}
    (h : u.getLast? ≠ some '/') : site.pathOf (u ++ ['/']) = Path.withSlash (site.pathOf u) := by
  have hjoin : ∀ v, site.pathOf v = Path.withSlash site.root ++ relative v := fun v =>
    Path.join_eq hroot (isAbsolute_relative v)
  rw [hjoin, hjoin]
  rcases relative_concat_slash h with rfl | ⟨hrel, hne, hlast⟩
  · exact (List.append_nil _).trans
      ((congrArg Path.withSlash (List.append_nil _)).trans (Path.withSlash_withSlash _)).symm
  · have hnot : (Path.withSlash site.root ++ relative u).getLast? ≠ some Path.slash := by
      rwa [List.getLast?_append_of_ne_nil _ hne]
    rw [hrel, Path.withSlash.eq_def (_ ++ relative u), if_neg hnot, List.append_assoc]

/-! ### Redirects -/

variable {site : StaticSite} {output : OutputEncoding} {fs : FileSystem} {uri : Text}
  {fields : Fields}

/-- The site resolves a path to this directory: its root is a directory, and below that the path
leads there. -/
def ResolvesTo (site : StaticSite) (fs : FileSystem) (u : Text) (es : List (Bytes × Node)) : Prop :=
  fs.isDir site.root = true ∧ fs.stat (site.pathOf u) = .ok (.dir es)

/-- What is there below a root shows that the root is a directory, except for the empty root, which
is none. -/
theorem resolvesTo_iff {u : Text} {es : List (Bytes × Node)} :
    site.ResolvesTo fs u es ↔ site.root ≠ [] ∧ fs.stat (site.pathOf u) = .ok (.dir es) := by
  refine and_congr_left fun hstat => ⟨fun hdir hnil => ?_, fun hne => ?_⟩
  · rw [hnil] at hdir
    cases hdir
  · exact FileSystem.isDir_of_stat_join hne (isAbsolute_relative u) hstat

/-- **Only a directory is redirected to**, and only if its final slash is missing. -/
theorem serveFile_movedPermanently
    (h : (site.serveFile output fs uri fields).status = .movedPermanently) :
    ¬isTraversal (normalize uri) = true ∧ (normalize uri).getLast? ≠ some '/' ∧
      ∃ es, site.ResolvesTo fs (normalize uri) es := by
  have hanswer := site.answers_serveFile output fs uri fields
  generalize site.serveFile output fs uri fields = answer at h hanswer
  cases hanswer with
  | failure _ hne => exact absurd h hne
  | file => cases h
  | redirect hroot hsafe hslash hstat => exact ⟨hsafe, hslash, _, hroot, hstat⟩
  | listing => cases h

/-- The answer to the path of a directory without its final slash. -/
theorem serveFile_of_no_slash (hsafe : ¬isTraversal (normalize uri) = true)
    (hslash : (normalize uri).getLast? ≠ some '/') {es : List (Bytes × Node)}
    (h : site.ResolvesTo fs (normalize uri) es) : site.serveFile output fs uri fields =
      .redirect output (Percent.encode (normalize uri ++ ['/'])) := by
  have hjoin : fs.stat (Path.join site.root (relative (normalize uri))) = .ok (.dir es) := h.2
  rw [serveFile_eq h.1 hsafe, hjoin]
  simp only [serveDirectory, if_pos hslash]

/-- The index file of a directory is looked for in the same place however its path ends. -/
theorem index?_withSlash {dir : Bytes} (hne : dir ≠ []) :
    index? fs (Path.withSlash dir) = index? fs dir := by
  have hjoin : ∀ name ∈ indexNames,
      Path.join (Path.withSlash dir) name = Path.join dir name := fun name hname =>
    Path.join_withSlash hne (indexName_spec hname).1
  simp only [index?, indexNames, List.findSome?_cons, List.findSome?_nil,
    hjoin _ (List.mem_cons_self (l := _)), hjoin _ (List.mem_cons_of_mem _ List.mem_cons_self)]

/-- The answer to the path with the slash, from what was there before: it is not redirected again,
and within the limit it is the answer with the same directory. -/
theorem serveFile_concat_slash (hsafe : ¬isTraversal (normalize uri) = true)
    (hslash : (normalize uri).getLast? ≠ some '/') {es : List (Bytes × Node)}
    (h : site.ResolvesTo fs (normalize uri) es)
    (hlen : (site.pathOf (normalize uri ++ ['/'])).length ≤ FileSystem.maxPath) :
    fs.resolve (site.pathOf (normalize uri ++ ['/'])) = fs.resolve (site.pathOf (normalize uri)) ∧
      ∀ output fields, site.serveFile output fs (normalize uri ++ ['/']) fields =
        match index? fs (site.pathOf (normalize uri)) with
        | some (path, n) => serveRegular output path n fields
        | none =>
          if site.listing then
            .text output .ok "text/html".toList
              (Listing.render (normalize uri ++ ['/']) (listed es))
          else unlisted output := by
  obtain ⟨hnorm, hkeep⟩ := normalize_concat_slash uri
  obtain ⟨hroot, hstat⟩ := resolvesTo_iff.1 h
  have hpath := pathOf_concat_slash hroot hslash
  have hne : site.pathOf (normalize uri) ≠ [] := (FileSystem.exists_of_stat_eq_ok hstat).1
  have hresolve : fs.resolve (site.pathOf (normalize uri ++ ['/'])) =
      fs.resolve (site.pathOf (normalize uri)) := by
    rw [hpath] at hlen ⊢
    exact FileSystem.resolve_withSlash hstat hlen
  have hstat' : fs.stat (Path.join site.root (relative (normalize uri ++ ['/']))) =
      .ok (.dir es) := by
    rw [← hstat, FileSystem.stat_eq, FileSystem.stat_eq]
    exact congrArg (FileSystem.nodeAt fs.top) hresolve
  have hindex : index? fs (Path.join site.root (relative (normalize uri ++ ['/']))) =
      index? fs (site.pathOf (normalize uri)) := by
    rw [← index?_withSlash hne, ← hpath]
    rfl
  refine ⟨hresolve, fun output fields => ?_⟩
  rw [serveFile_eq h.1 (by rw [hnorm]; exact hkeep hsafe), hnorm, hstat', ← hindex]
  exact if_neg (not_not_intro List.getLast?_concat)

/-- **Redirects lead to the directory.** A redirect has one location, in which no character has to
be escaped, and its page shows that location as target and as text. A client that follows it asks,
with the same parameters, for the path that was looked up with a slash behind it. That is not
redirected again, whatever the header fields, and if it is within the limit for paths, it resolves
to the same place and is answered with the index file or the listing of that very directory, or the
refusal to list it. Conversely every path that is not refused and is resolved to a directory, but
does not end in a slash, is answered with a redirect. -/
theorem serveFile_redirect (site : StaticSite) (output : OutputEncoding) (fs : FileSystem)
    (uri : Text) (fields : Fields) :
    let u := normalize uri
    let u' := u ++ ['/']
    let location := Percent.encode u'
    let answer := site.serveFile output fs uri fields
    (answer.status = .movedPermanently →
      (∀ date, answer.sentFields date = [("Content-Type".toList, "text/html".toList),
        ("Date".toList, date), ("Location".toList, location)]) ∧
      (∀ c ∈ location, c ∉ "?\"'<>&".toList ∧ isBlank c = false ∧
        0x20 < c.toNat ∧ c.toNat < 0x7F) ∧
      answer.body = .bytes (output.encode ("<html><body>Redirected: <a href=\"".toList ++
        location ++ "\">".toList ++ location ++ "</a></body></html>".toList)) ∧
      (∀ params, Target.decode location params = (.ok u', params)) ∧
      (∀ output' fields',
        (site.serveFile output' fs u' fields').status ≠ .movedPermanently) ∧
      ∃ es, site.ResolvesTo fs u es ∧
        ((site.pathOf u').length ≤ FileSystem.maxPath →
          fs.resolve (site.pathOf u') = fs.resolve (site.pathOf u) ∧
          ∀ output' fields', site.serveFile output' fs u' fields' =
            match index? fs (site.pathOf u) with
            | some (path, n) => serveRegular output' path n fields'
            | none =>
              if site.listing then
                .text output' .ok "text/html".toList (Listing.render u' (listed es))
              else unlisted output')) ∧
    (¬isTraversal u = true → u.getLast? ≠ some '/' → (∃ es, site.ResolvesTo fs u es) →
      answer.status = .movedPermanently) := by
  intro u u' location answer
  constructor
  · intro hmoved
    obtain ⟨hsafe, hslash, es, hes⟩ := serveFile_movedPermanently hmoved
    have hanswer : answer = .redirect output location := serveFile_of_no_slash hsafe hslash hes
    have hpage := Response.redirectPage_encode u'
    have hdecode : ∀ params, Target.decode location params = (.ok u', params) := by
      intro params
      rw [Target.decode, splitOnce?_eq_none_iff.2 (Params.notMem_encode rfl u'),
        Percent.decode_encode]
    have hagain : ∀ output' fields',
        (site.serveFile output' fs u' fields').status ≠ .movedPermanently := by
      intro output' fields' hmoved'
      obtain ⟨-, hslash', -⟩ := serveFile_movedPermanently hmoved'
      rw [(normalize_concat_slash uri).1] at hslash'
      exact hslash' List.getLast?_concat
    refine ⟨fun date => ?_, fun c hc => Percent.spec_of_mem_encode hc, ?_, hdecode, hagain, es,
      hes, serveFile_concat_slash hsafe hslash hes⟩
    · rw [hanswer]
      rfl
    · rw [hanswer, ← hpage]
      rfl
  · rintro hsafe hslash ⟨es, hes⟩
    have hanswer : answer = .redirect output location := serveFile_of_no_slash hsafe hslash hes
    rw [hanswer]
    rfl

/-- A directory whose name has a space, asked for with a backslash and white space around it. -/
theorem serveFile_redirect_space :
    let fs : FileSystem := ⟨.dir [(Utf8.encode "a b".toList, .dir [])], []⟩
    let site : StaticSite := ⟨Utf8.encode "/".toList, true⟩
    let answer := site.serveFile none fs " \\a b ".toList .empty
    answer.status = .movedPermanently ∧
      answer.header? "location".toList = some "/a+b/".toList ∧
      Target.decode "/a+b/".toList .empty = (.ok "/a b/".toList, .empty) ∧
      site.serveFile none fs "/a b/".toList .empty =
        .text none .ok "text/html".toList (Listing.render "/a b/".toList []) := by
  intro fs site answer
  have hdir : site.ResolvesTo fs (normalize " \\a b ".toList) [] := ⟨rfl, rfl⟩
  have hredirect := serveFile_redirect site none fs " \\a b ".toList .empty
  have hmoved : answer.status = .movedPermanently :=
    hredirect.2 (by decide) (by decide) ⟨[], hdir⟩
  obtain ⟨-, -, -, hdecode, -, es, hes, hback⟩ := hredirect.1 hmoved
  obtain rfl : [] = es := Node.dir.inj (Except.ok.inj (hdir.2.symm.trans hes.2))
  exact ⟨hmoved, by decide +kernel, hdecode .empty, (hback (by decide)).2 none .empty⟩

end StaticSite

end HttpServer
