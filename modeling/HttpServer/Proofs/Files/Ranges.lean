import HttpServer.Proofs.Files.Download
import HttpServer.Proofs.Files.Redirect

/-!
# Ranges and index files

A range value may be any text. It counts if it has the form `bytes=<start>-` for a start of at most
64 bits that lies within the file, and is as good as absent otherwise. In both cases the header
fields of the answer agree with its body: the length is that of the bytes that are sent, and a
content range is announced exactly if they start behind the first byte that was asked for.

A directory with an index file has that file as its answer. The path with the name of the index file
leads to the same file, since there is no white space, no slash and no `..` in that name. So the two
paths have the same answer, whatever range is asked for.

## Main definitions

* `Text.AsksFrom`, `Fields.AsksFrom`: the byte from which a range is asked for.
* `Response.SendsFile`: an answer that agrees with the file and with the range.
* `StaticSite.HasFile`: a regular file of a directory.

## Main results

* `rangeStart?_eq_some_iff`: the range values that count.
* `StaticSite.sendsFile_serveRegular`: the answer with a file.
* `StaticSite.serveFile_ranges`: the answers with a file, and index files.
-/

namespace HttpServer

/-! ### What is asked for -/

/-- The value asks for the bytes from `n` on. It is trimmed, and so is the number in it, which
stands between `bytes=` and the first hyphen, or the end of the value. -/
def Text.AsksFrom (value : Text) (n : Nat) : Prop :=
  ∃ first rest : Text, value.trim = "bytes=".toList ++ (first ++ rest) ∧ '-' ∉ first ∧
    (rest = [] ∨ rest.head? = some '-') ∧ SpellsU64 first.trim n

/-- The range value of the header, if there is one, asks for the bytes from `n` on. -/
def Fields.AsksFrom (fields : Fields) (n : Nat) : Prop :=
  ∃ value : Text, fields.get? "range".toList = some value ∧ value.AsksFrom n

/-- **The range values that count** have a start. -/
theorem rangeStart?_eq_some_iff {value : Text} {n : Nat} :
    rangeStart? value = some n ↔ value.AsksFrom n := by
  rw [rangeStart?]
  constructor
  · intro h
    split at h
    · cases h
    · rename_i spec hspec
      obtain ⟨hnot, rest, hcut, hrest⟩ := before_eq_iff.1 (rfl : before '-' spec = _)
      refine ⟨before '-' spec, rest, ?_, hnot, hrest, readU64?_eq_some_iff.1 h⟩
      rw [← hcut]
      exact eq_append_of_dropLead? hspec
  · rintro ⟨first, rest, hvalue, hnot, hrest, hnumber⟩
    rw [hvalue, dropLead?_append]
    have hfirst : before '-' (first ++ rest) = first :=
      before_eq_iff.2 ⟨hnot, rest, rfl, hrest⟩
    simp only [hfirst]
    exact readU64?_eq_some_iff.2 hnumber

namespace StaticSite

theorem startWithin?_eq_some_iff {fields : Fields} {size n : Nat} :
    startWithin? fields size = some n ↔ fields.AsksFrom n ∧ n < size := by
  rw [startWithin?, Option.filter_eq_some_iff, Option.bind_eq_some_iff, decide_eq_true_eq]
  exact and_congr_left fun _ => exists_congr fun value =>
    and_congr_right fun _ => rangeStart?_eq_some_iff

end StaticSite

/-! ### Answers with a file -/

/-- The header fields of this name, in any case. -/
def fieldsNamed (name : Text) (fields : List (Text × Text)) : List (Text × Text) :=
  fields.filter fun f => Text.sameIgnoringCase f.1 name

/-- The answer sends a file as the header asks for it. If the header asks for a byte that the file
has, the body is the file from that byte on, and its bounds are announced; otherwise it is the whole
file. Its length is always announced. -/
structure Response.SendsFile (r : Response) (content : Content) (fields : Fields) : Prop where
  status : r.status = .ok
  suffix : r.body.all <:+ content.bytes
  length : ∀ date, fieldsNamed "content-length".toList (r.sentFields date) =
    [("Content-length".toList, decimal r.body.all.length)]
  part : ∀ n, fields.AsksFrom n → n < content.size →
    r.body.all = content.bytes.drop n ∧ n + r.body.all.length = content.size ∧
      ∃ last, last + 1 = content.size ∧
        ∀ date, fieldsNamed "content-range".toList (r.sentFields date) =
          [("Content-range".toList,
            "bytes ".toList ++ decimal n ++ '-' :: decimal last ++ '/' :: decimal content.size)]
  whole : (∀ n, fields.AsksFrom n → content.size ≤ n) →
    r.body.all = content.bytes ∧
      ∀ date, fieldsNamed "content-range".toList (r.sentFields date) = []

namespace StaticSite

theorem fieldsNamed_length (mime date : Text) (size : Nat) (start : Option Nat) :
    fieldsNamed "content-length".toList
        ([("Content-Type".toList, mime), ("Date".toList, date)] ++ fileHeaders size start) =
      [("Content-length".toList, decimal (size - start.getD 0))] := by
  cases start <;> rfl

theorem fieldsNamed_range (mime date : Text) (size : Nat) (start : Option Nat) :
    fieldsNamed "content-range".toList
        ([("Content-Type".toList, mime), ("Date".toList, date)] ++ fileHeaders size start) =
      match start with
      | none => []
      | some n => [("Content-range".toList,
          "bytes ".toList ++ decimal n ++ '-' :: decimal (size - 1) ++ '/' :: decimal size)] := by
  cases start <;> rfl

/-- **The answer with a file** sends it as the header asks for it. -/
theorem sendsFile_serveRegular (output : OutputEncoding) (path : Bytes) (content : Content)
    (fields : Fields) :
    (serveRegular output path (.file content) fields).SendsFile content fields := by
  have hbody : (serveRegular output path (.file content) fields).body.all =
      content.bytes.drop ((startWithin? fields content.size).getD 0) := content.bytesFrom_eq _
  refine ⟨rfl, ?_, fun date => ?_, fun n hasks hn => ?_, fun hbehind => ?_⟩
  · rw [hbody]
    exact List.drop_suffix _ _
  · rw [sentFields_serveRegular, fieldsNamed_length, hbody, List.length_drop, Content.length_bytes]
  · have hstart : startWithin? fields content.size = some n :=
      startWithin?_eq_some_iff.2 ⟨hasks, hn⟩
    rw [hstart, Option.getD_some] at hbody
    refine ⟨hbody, ?_, content.size - 1, by omega, fun date => ?_⟩
    · rw [hbody, List.length_drop, Content.length_bytes]
      omega
    · rw [sentFields_serveRegular, fieldsNamed_range, hstart]
  · have hstart : startWithin? fields content.size = none := by
      refine Option.eq_none_iff_forall_ne_some.2 fun n hn => ?_
      obtain ⟨hasks, hlt⟩ := startWithin?_eq_some_iff.1 hn
      exact Nat.not_lt.2 (hbehind n hasks) hlt
    rw [hstart, Option.getD_none, List.drop_zero] at hbody
    exact ⟨hbody, fun date => by rw [sentFields_serveRegular, fieldsNamed_range, hstart]⟩

/-! ### Index files -/

/-- In the directory to which the path leads there is a regular file of this name. -/
def HasFile (site : StaticSite) (fs : FileSystem) (uri name : Text) (content : Content) : Prop :=
  fs.stat (Path.join (site.pathOf (normalize uri)) (Utf8.encode name)) = .ok (.file content)

/-- A name behind a path with its final slash is looked up behind what that path is looked up as. -/
theorem normalize_append {u name : Text} (hlast : u.getLast? = some '/') (hsolid : Text.Solid name)
    (hback : '\\' ∉ name) :
    (normalize u).getLast? = some '/' ∧ normalize (u ++ name) = normalize u ++ name := by
  obtain ⟨htrim, happend⟩ := Text.trim_append_of_solid (by decide : isBlank '/' = false) hlast
  constructor
  · rw [normalize, Text.replaceChar, List.getLast?_map, htrim]
    rfl
  · rw [normalize, happend hsolid, Text.replaceChar, List.map_append]
    exact congrArg (normalize u ++ ·) (Text.replaceChar_of_notMem hback '/')

theorem isTraversal_append {v : Text} (h : isTraversal v = true) (hlast : v.getLast? = some '/')
    (name : Text) : isTraversal (v ++ name) = true := by
  obtain ⟨d, rfl⟩ := List.getLast?_eq_some_iff.1 hlast
  rw [isTraversal_iff] at h ⊢
  rcases h with hname | hdots | ⟨s, hs⟩
  · rw [splitOn_append] at hname
    rw [List.append_assoc, List.singleton_append, splitOn_append]
    rcases List.mem_append.1 hname with hname | hname
    · exact .inl (List.mem_append_left _ hname)
    · exact absurd hname (by decide)
  · exact .inr (.inl (List.IsPrefix.trans hdots (List.prefix_append _ name)))
  · -- The final slash is no dot.
    have hdot := congrArg List.getLast? hs
    rw [List.getLast?_append_of_ne_nil _ (by decide), List.getLast?_concat] at hdot
    exact absurd hdot (by decide)

/-- The names of index files are looked up as they are. -/
theorem indexText_spec {name : Text} (h : name ∈ ["index.html".toList, "index.htm".toList]) :
    Utf8.encode name ∈ indexNames ∧ name ≠ [] ∧ Text.Solid name ∧ '\\' ∉ name ∧
      name.head? ≠ some '/' ∧ "..".toList ∉ splitOn '/' name ∧ ¬"..".toList <:+ name := by
  revert name
  decide

theorem index?_of_html {fs : FileSystem} {dir : Bytes} {content : Content}
    (h : fs.stat (Path.join dir (Utf8.encode "index.html".toList)) = .ok (.file content)) :
    index? fs dir =
      some (Path.join dir (Utf8.encode "index.html".toList), .file content) := by
  simp only [index?, indexNames, List.findSome?_cons, h]

theorem index?_of_htm {fs : FileSystem} {dir : Bytes} {content : Content}
    (hnone : ∀ other,
      fs.stat (Path.join dir (Utf8.encode "index.html".toList)) ≠ .ok (.file other))
    (h : fs.stat (Path.join dir (Utf8.encode "index.htm".toList)) = .ok (.file content)) :
    index? fs dir = some (Path.join dir (Utf8.encode "index.htm".toList), .file content) := by
  cases hother : fs.stat (Path.join dir (Utf8.encode "index.html".toList)) with
  | error e => simp only [index?, indexNames, List.findSome?_cons, hother, h]
  | ok n =>
    cases n with
    | file other => exact absurd hother (hnone other)
    | dir _ | link _ | socket => simp only [index?, indexNames, List.findSome?_cons, hother, h]

section Index

variable {site : StaticSite} {fs : FileSystem} {u name : Text} {content : Content}
  (hlast : u.getLast? = some '/') (hname : name ∈ ["index.html".toList, "index.htm".toList])
  (hfile : site.HasFile fs u name content)
include hlast hname hfile

/-- **An index file** that is found is the answer for the directory and for its own path. -/
theorem serveFile_of_index? (hindex : index? fs (site.pathOf (normalize u)) =
      some (Path.join (site.pathOf (normalize u)) (Utf8.encode name), .file content))
    (output : OutputEncoding) (fields : Fields) :
    site.serveFile output fs u fields = site.serveFile output fs (u ++ name) fields := by
  obtain ⟨hmem, hne, hsolid, hback, hhead, hup, hdots⟩ := indexText_spec hname
  obtain ⟨hslash, hnorm⟩ := normalize_append hlast hsolid hback
  by_cases hdir : fs.isDir site.root = true
  · by_cases hsafe : isTraversal (normalize u) = true
    · have hsafe' := isTraversal_append hsafe hslash name
      rw [serveFile, serveFile, hdir, hnorm]
      simp only [Bool.not_true, Bool.false_eq_true, if_false, if_pos hsafe, if_pos hsafe']
    · have habs := (indexName_spec hmem).1
      have hroot : site.root ≠ [] := by
        intro hnil
        rw [hnil] at hdir
        cases hdir
      have hpath : Path.join site.root (relative (normalize u)) = site.pathOf (normalize u) := rfl
      have hpath_ne : site.pathOf (normalize u) ≠ [] :=
        Path.join_ne_nil hroot (isAbsolute_relative (normalize u))
      -- What has the index file below it is a directory.
      obtain ⟨es, hes⟩ := FileSystem.exists_dir_of_isDir
        (FileSystem.isDir_of_stat_join hpath_ne habs hfile)
      obtain ⟨-, hsafe', hrel⟩ := below_listing (fun c => isBlank_eq_false_of_head?_normalize)
        (backslash_notMem_normalize u) hslash hsafe hne hhead hback
        (fun c hc => hsolid c (List.mem_of_getLast? hc)) hup hdots
      have hjoin : Path.join site.root (relative (normalize u ++ name)) =
          Path.join (site.pathOf (normalize u)) (Utf8.encode name) := by
        rw [hrel]
        exact (Path.join_join hroot (relative_of_getLast? hslash) (isAbsolute_relative _)
          habs).2.symm
      have hanswer : site.serveFile output fs u fields = serveRegular output
          (Path.join (site.pathOf (normalize u)) (Utf8.encode name)) (.file content) fields := by
        rw [serveFile_eq hdir hsafe, hpath, hes]
        simp only [serveDirectory, if_neg (not_not_intro hslash), hindex]
      rw [hanswer, serveFile_eq hdir (by rwa [hnorm]), hnorm, hjoin, hfile]
  · rw [serveFile, serveFile, eq_false_of_ne_true hdir]
    rfl

end Index

/-- **Ranges agree with the bytes that are sent.** Whatever the header says, an answer with a file
sends that file as the header asks for it: a regular file to which the path leads, or the index file
of the directory to which it leads. And a path with its final slash that leads to a directory with
an index file has the same answer as the path with the name of that file behind it. -/
theorem serveFile_ranges (site : StaticSite) (output : OutputEncoding) (fs : FileSystem) :
    (∀ uri fields content position,
      (site.serveFile output fs uri fields).body = .file content position →
        (site.serveFile output fs uri fields).SendsFile content fields ∧
          (fs.stat (site.pathOf (normalize uri)) = .ok (.file content) ∨
            (normalize uri).getLast? = some '/' ∧
              ∃ name ∈ ["index.html".toList, "index.htm".toList],
                site.HasFile fs uri name content)) ∧
    ∀ u : Text, u.getLast? = some '/' →
      (∀ content, site.HasFile fs u "index.html".toList content → ∀ fields,
        site.serveFile output fs u fields =
          site.serveFile output fs (u ++ "index.html".toList) fields) ∧
      ∀ content, (∀ other, ¬site.HasFile fs u "index.html".toList other) →
        site.HasFile fs u "index.htm".toList content → ∀ fields,
          site.serveFile output fs u fields =
            site.serveFile output fs (u ++ "index.htm".toList) fields := by
  refine ⟨fun uri fields content position h => ?_, fun u hlast => ?_⟩
  · have hanswer := site.answers_serveFile output fs uri fields
    generalize site.serveFile output fs uri fields = answer at h hanswer ⊢
    cases hanswer with
    | failure | redirect | listing => cases h
    | file hstat hplace =>
      obtain ⟨rfl, -⟩ := Body.file.inj h
      refine ⟨sendsFile_serveRegular output _ _ fields, ?_⟩
      obtain rfl | ⟨hslash, name, hname, rfl⟩ := hplace
      · exact .inl hstat
      · obtain ⟨t, ht, rfl⟩ := List.mem_map.1
          (show name ∈ ["index.html".toList, "index.htm".toList].map Utf8.encode from hname)
        exact .inr ⟨hslash, t, ht, hstat⟩
  · refine ⟨fun content hhtml fields => ?_, fun content hnone hhtm fields => ?_⟩
    · exact serveFile_of_index? hlast List.mem_cons_self hhtml (index?_of_html hhtml) output fields
    · exact serveFile_of_index? hlast (List.mem_cons_of_mem _ List.mem_cons_self) hhtm
        (index?_of_htm hnone hhtm) output fields

/-- A directory whose index file is `index.htm`, and a range value with white space, a sign, a zero
in front, an end and a second range. -/
theorem serveFile_ranges_signed :
    let content : Content := ⟨[1, 2, 3], 0⟩
    let fs : FileSystem := ⟨.dir [(Utf8.encode "d".toList,
      .dir [(Utf8.encode "index.htm".toList, .file content)])], []⟩
    let site : StaticSite := ⟨Utf8.encode "/".toList, true⟩
    let fields := Fields.ofList [("range".toList, " bytes= +01 -9,2-".toList)]
    let answer := site.serveFile none fs "/d/".toList fields
    answer.body.all = [2, 3] ∧
      (∀ date, fieldsNamed "content-range".toList (answer.sentFields date) =
        [("Content-range".toList, "bytes 1-2/3".toList)]) ∧
      answer = site.serveFile none fs "/d/index.htm".toList fields := by
  intro content fs site fields answer
  obtain ⟨hanswers, hindex⟩ := serveFile_ranges site none fs
  have hbody : (site.serveFile none fs "/d/".toList fields).body = .file content 1 := by
    decide +kernel
  have hdigits : ∀ c ∈ "01".toList, c.isDigit = true := List.all_eq_true.1 rfl
  have hasks : fields.AsksFrom 1 := ⟨_, rfl, " +01 ".toList, "-9,2-".toList, rfl, by decide,
    .inr rfl, "+".toList, "01".toList, rfl, .inr rfl, by decide, hdigits, rfl, by decide⟩
  obtain ⟨hsends, -⟩ := hanswers "/d/".toList fields content 1 hbody
  have hsize : content.size = 3 := rfl
  obtain ⟨hpart, -, last, hlast, hrange⟩ := hsends.part 1 hasks (by omega)
  obtain rfl : last = 2 := by omega
  have hone : decimal 1 = "1".toList := by simp [decimal_eq, digit]
  have htwo : decimal 2 = "2".toList := by simp [decimal_eq, digit]
  have hthree : decimal 3 = "3".toList := by simp [decimal_eq, digit]
  rw [hsize, hone, htwo, hthree] at hrange
  refine ⟨hpart, hrange, ?_⟩
  refine (hindex "/d/".toList rfl).2 content (fun other hother => ?_) rfl fields
  have hmissing : fs.stat (Path.join (site.pathOf (normalize "/d/".toList))
      (Utf8.encode "index.html".toList)) = .error .notFound := rfl
  cases hmissing.symm.trans hother

end StaticSite

end HttpServer
