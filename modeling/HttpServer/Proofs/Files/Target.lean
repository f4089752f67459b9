import HttpServer.Proofs.Files.Confinement
import HttpServer.Proofs.Text.Blank

/-!
# Targets that are looked up as they are

A path that is asked for is trimmed and gets slashes for its backslashes before it is looked up. It
is looked up as it is if it has no backslash and no white space at its ends. A path below a
directory that is served is itself served if the names that it adds are not `..` and it does not end
with two dots, and it is looked up below what is looked up for the directory.

## Main definitions

* `StaticSite.Answers`: the kinds of answers, each with what was found.

## Main results

* `StaticSite.normalize_eq_self`: the paths that are looked up as they are.
* `StaticSite.not_isTraversal_below`, `StaticSite.relative_below`: a path below a directory.
* `StaticSite.serveFile_eq`, `StaticSite.answers_serveFile`: the answer from what is looked up.
-/

namespace HttpServer

theorem Text.replaceChar_of_notMem {old : Char} {t : Text} (h : old ∉ t) (new : Char) :
    replaceChar old new t = t := by
  have hkeep : ∀ c ∈ t, (if c = old then new else c) = id c := fun c hc =>
    if_neg fun hold : c = old => h (hold ▸ hc)
  rw [replaceChar, List.map_congr_left hkeep, List.map_id]

namespace StaticSite

theorem normalize_eq_self {uri : Text} (hhead : ∀ c, uri.head? = some c → isBlank c = false)
    (hlast : ∀ c, uri.getLast? = some c → isBlank c = false) (hback : '\\' ∉ uri) :
    normalize uri = uri := by
  rw [normalize, Text.trim_of_ends hhead hlast, Text.replaceChar_of_notMem hback]

/-! ### Paths below a directory -/

variable {d t : Text}

/-- A path below a directory that is served is served if what it adds does not lead up. -/
theorem not_isTraversal_below (hd : ¬isTraversal (d ++ ['/']) = true)
    (ht : "..".toList ∉ splitOn '/' t) (hdots : ¬"..".toList <:+ t) :
    ¬isTraversal (d ++ '/' :: t) = true := by
  rw [isTraversal_iff] at hd ⊢
  rw [splitOn_append] at hd ⊢
  rintro (hname | hprefix | hsuffix)
  · rcases List.mem_append.1 hname with hname | hname
    · exact hd (.inl (List.mem_append_left _ hname))
    · exact ht hname
  · -- Both `..` and the directory with its slash are at the start of the path.
    have hdir : d ++ ['/'] <+: d ++ '/' :: t := ⟨t, by simp⟩
    rcases List.prefix_or_prefix_of_prefix hprefix hdir with h | h
    · exact hd (.inr (.inl h))
    · exact absurd (h.subset (List.mem_append_right d List.mem_cons_self)) (by decide)
  · have hrest : '/' :: t <:+ d ++ '/' :: t := List.suffix_append d _
    rcases List.suffix_or_suffix_of_suffix hsuffix hrest with h | h
    · rcases List.suffix_cons_iff.1 h with h | h
      · exact absurd (List.cons.inj h).1 (by decide)
      · exact hdots h
    · exact absurd (h.subset List.mem_cons_self) (by decide)

/-- A path below a directory is looked up below what is looked up for the directory. -/
theorem relative_below (ht : t.head? ≠ some '/') :
    relative (d ++ '/' :: t) = relative (d ++ ['/']) ++ Utf8.encode t := by
  have hdrop : (d ++ '/' :: t).dropWhile (· = '/') = (d ++ ['/']).dropWhile (· = '/') ++ t := by
    induction d with
    | nil =>
      cases t with
      | nil => rfl
      | cons c t =>
        have hc : c ≠ '/' := fun hc => ht (by rw [hc, List.head?_cons])
        simp [hc]
    | cons c d ih =>
      by_cases hc : c = '/'
      · simpa [hc] using ih
      · simp [hc]
  rw [relative, hdrop, Utf8.encode_append, relative]

/-! ### Answers -/

/-- The answer to a path that is not refused is told by what is looked up. -/
theorem serveFile_eq {site : StaticSite} {fs : FileSystem} (hdir : fs.isDir site.root = true)
    {uri : Text} (hsafe : ¬isTraversal (normalize uri) = true) (output : OutputEncoding)
    (fields : Fields) :
    site.serveFile output fs uri fields =
      match fs.stat (Path.join site.root (relative (normalize uri))) with
      | .error .notFound => .error output .notFound "Error 404, file not found.".toList
      | .error _ => unreadable output
      | .ok (.dir entries) =>
        site.serveDirectory output fs (normalize uri)
          (Path.join site.root (relative (normalize uri))) entries fields
      | .ok n =>
        serveRegular output (Path.join site.root (relative (normalize uri))) n fields := by
  rw [serveFile, hdir]
  simp only [Bool.not_true, Bool.false_eq_true, if_false, if_neg hsafe]
  rfl

theorem exists_of_index? {fs : FileSystem} {dir path : Bytes} {n : Node}
    (h : index? fs dir = some (path, n)) : ∃ name ∈ indexNames, path = Path.join dir name ∧
      ∃ content, n = .file content ∧ fs.stat path = .ok (.file content) := by
  obtain ⟨name, hname, hfound⟩ := List.exists_of_findSome?_eq_some h
  dsimp only at hfound
  split at hfound
  · rename_i content hstat
    obtain ⟨rfl, rfl⟩ := Prod.mk.inj (Option.some.inj hfound)
    exact ⟨name, hname, rfl, content, rfl, hstat⟩
  · cases hfound

/-- The answers to a path that is looked up, with what was found there: a failure; a regular file,
to which the path leads or which is the index file of the directory to which it leads; and for a
directory a redirect to the path with its final slash, or a listing. -/
inductive Answers (site : StaticSite) (output : OutputEncoding) (fs : FileSystem) (u : Text)
    (fields : Fields) : Response → Prop
  | failure {status : Status} (hok : status ≠ .ok) (hmoved : status ≠ .movedPermanently)
      (message : Text) : Answers site output fs u fields (.error output status message)
  | file {path : Bytes} {content : Content} (hstat : fs.stat path = .ok (.file content))
      (hplace : path = site.pathOf u ∨ u.getLast? = some '/' ∧
        ∃ name ∈ indexNames, path = Path.join (site.pathOf u) name) :
      Answers site output fs u fields (serveRegular output path (.file content) fields)
  | redirect {es : List (Bytes × Node)} (hroot : fs.isDir site.root = true)
      (hsafe : ¬isTraversal u = true) (hslash : u.getLast? ≠ some '/')
      (hstat : fs.stat (site.pathOf u) = .ok (.dir es)) :
      Answers site output fs u fields (.redirect output (Percent.encode (u ++ ['/'])))
  | listing {es : List (Bytes × Node)} (hroot : fs.isDir site.root = true)
      (hsafe : ¬isTraversal u = true) (hslash : u.getLast? = some '/')
      (hstat : fs.stat (site.pathOf u) = .ok (.dir es)) (hlisting : site.listing = true) :
      Answers site output fs u fields
        (.text output .ok "text/html".toList (Listing.render u (listed es)))

/-- **Every answer** of a site is one of these. -/
theorem answers_serveFile (site : StaticSite) (output : OutputEncoding) (fs : FileSystem)
    (uri : Text) (fields : Fields) :
    Answers site output fs (normalize uri) fields (site.serveFile output fs uri fields) := by
  by_cases hroot : fs.isDir site.root = true
  · by_cases hsafe : isTraversal (normalize uri) = true
    · rw [serveFile, hroot]
      simp only [Bool.not_true, Bool.false_eq_true, if_false, if_pos hsafe]
      exact .failure (by decide) (by decide) _
    · rw [serveFile_eq hroot hsafe]
      cases hstat : fs.stat (Path.join site.root (relative (normalize uri))) with
      | error e => cases e <;> exact .failure (by decide) (by decide) _
      | ok n =>
        cases n with
        | file content => exact .file hstat (.inl rfl)
        | link _ | socket => exact .failure (by decide) (by decide) _
        | dir es =>
          simp only [serveDirectory]
          by_cases hslash : (normalize uri).getLast? = some '/'
          · rw [if_neg (not_not_intro hslash)]
            split
            · rename_i path n hindex
              obtain ⟨name, hname, hpath, content, rfl, hfile⟩ := exists_of_index? hindex
              exact .file hfile (.inr ⟨hslash, name, hname, hpath⟩)
            · split
              · rename_i hlisting
                exact .listing hroot hsafe hslash hstat hlisting
              · exact .failure (by decide) (by decide) _
          · rw [if_pos hslash]
            exact .redirect hroot hsafe hslash hstat
  · rw [serveFile, eq_false_of_ne_true hroot]
    exact .failure (by decide) (by decide) _

end StaticSite

end HttpServer
