import HttpServer.Proofs.Files.Target
import HttpServer.Proofs.Response.Head
import HttpServer.Proofs.Session

/-!
# The heads of a site's answers

The head of a response is written as it is, so a line end in a header value would let whoever chose
that value write header fields of its own, or end the head early. The values that a site sends are
media types, which come from a table, lengths and ranges, which are numbers, and the target of a
redirect, which is percent-encoded. Everything else that a request or a file system says goes into
the body. So the head of an answer has a media type, a date and at most four more fields, one line
each, and a client finds its end where the site has put it.

## Main definitions

* `StaticSite.fieldNames`: the header fields that a site sets.
* `Response.Guarded`: responses whose head is as described.

## Main results

* `StaticSite.guarded_serve`: the answers of a site.
* `StaticSite.reply_head`: everything that a client receives.
-/

namespace HttpServer

open Text (OneLine)

/-- The names of the header fields that a site sets, apart from the media type and the date, in the
order in which it sets them. -/
def StaticSite.fieldNames : List Text :=
  ["Accept-Ranges".toList, "Content-length".toList, "Content-range".toList, "Location".toList]

/-- A response with a media type, some of the fields that a site sets, and nothing that could be
taken for the end of a line. -/
structure Response.Guarded (r : Response) : Prop where
  mime : ∃ m, r.mime = some m ∧ OneLine m
  names : (r.headers.map Prod.fst).Sublist StaticSite.fieldNames
  values : ∀ f ∈ r.headers, OneLine f.2

namespace Response

theorem guarded_text (output : OutputEncoding) (status : Status) {mime : Text} (h : OneLine mime)
    (t : Text) : (text output status mime t).Guarded where
  mime := ⟨mime, rfl, h⟩
  names := List.nil_sublist _
  values := List.forall_mem_nil _

theorem guarded_error (output : OutputEncoding) (status : Status) (message : Text) :
    (error output status message).Guarded :=
  guarded_text output status (by decide) message

/-- A redirect names its target on one line if the target is on one. -/
theorem guarded_redirect (output : OutputEncoding) {location : Text} (h : OneLine location) :
    (redirect output location).Guarded where
  mime := ⟨"text/html".toList, rfl, by decide⟩
  names := (by decide : ["Location".toList].Sublist StaticSite.fieldNames)
  values := List.forall_mem_singleton.2 h

namespace Guarded

variable {r : Response} (h : r.Guarded)
include h

theorem name_mem {f : Text × Text} (hf : f ∈ r.headers) : f.1 ∈ StaticSite.fieldNames :=
  h.names.subset (List.mem_map.2 ⟨f, hf, rfl⟩)

theorem onLines : r.OnLines where
  mime := by
    obtain ⟨m, hm, hline⟩ := h.mime
    rintro m' hm'
    rw [Option.mem_def, hm] at hm'
    exact Option.some.inj hm' ▸ hline
  headers f hf := by
    have hname : ∀ n ∈ StaticSite.fieldNames, OneLine n ∧ ':' ∉ n := by decide
    obtain ⟨hline, hcolon⟩ := hname f.1 (h.name_mem hf)
    exact ⟨⟨hline, h.values f hf⟩, hcolon⟩

theorem not_hasDate : ¬r.HasDate := by
  rintro ⟨f, hf, hdate⟩
  have hname : ∀ n ∈ StaticSite.fieldNames, ¬Text.sameIgnoringCase n "Date".toList := by decide
  exact hname f.1 (h.name_mem hf) hdate

/-- What is sent: the media type, the date, and the header fields. -/
theorem exists_sentFields (date : Text) : ∃ mime, r.mime = some mime ∧
    r.sentFields date = ("Content-Type".toList, mime) :: ("Date".toList, date) :: r.headers := by
  obtain ⟨m, hm, -⟩ := h.mime
  refine ⟨m, hm, ?_⟩
  rw [sentFields_eq, hm, if_neg h.not_hasDate]
  rfl

/-- No field is sent twice. -/
theorem nodup_sentFields (date : Text) : ((r.sentFields date).map Prod.fst).Nodup := by
  obtain ⟨m, -, hsent⟩ := h.exists_sentFields date
  have hnames : (r.sentFields date).map Prod.fst =
      "Content-Type".toList :: "Date".toList :: r.headers.map Prod.fst := by
    rw [hsent]
    rfl
  rw [hnames]
  exact ((h.names.cons_cons _).cons_cons _).nodup (by decide)

end Guarded

end Response

theorem Percent.oneLine_encode (t : Text) : OneLine (encode t) :=
  (Params.solid_encode t).oneLine

theorem Mime.oneLine_ofPath (p : Bytes) : OneLine (ofPath p) := by
  have htable : ∀ entry ∈ table, OneLine entry.2 := by decide
  rw [ofPath]
  generalize (Path.extension? p).bind Utf8.decode? = ext
  cases hmime : ext.bind ofExtension? with
  | none => exact (by decide : OneLine unknown)
  | some mime =>
    obtain ⟨e, -, he⟩ := Option.bind_eq_some_iff.1 hmime
    obtain ⟨l₁, l₂, hl, -⟩ := List.lookup_eq_some_iff.1 he
    exact htable (e.lower, mime) (hl ▸ List.mem_append_right l₁ List.mem_cons_self)

/-! ### The answers of a site -/

namespace StaticSite

/-- Lengths and ranges are numbers. -/
theorem oneLine_fileHeaders (size : Nat) (start : Option Nat) :
    ∀ f ∈ fileHeaders size start, OneLine f.2 := by
  have hdecimal : ∀ n, OneLine (decimal n) := fun n => (solid_decimal n).oneLine
  intro f hf
  rcases List.mem_append.1 hf with hf | hf
  · rcases List.mem_cons.1 hf with rfl | hf
    · exact (by decide : OneLine "bytes".toList)
    · rw [List.mem_singleton.1 hf]
      exact hdecimal _
  · cases start with
    | none => exact absurd hf List.not_mem_nil
    | some n =>
      rw [List.mem_singleton.1 hf]
      have hpart : ∀ c n, c ≠ '\r' ∧ c ≠ '\n' → OneLine (c :: decimal n) := fun c n hc =>
        Text.oneLine_cons.2 ⟨hc, hdecimal n⟩
      have hfirst : OneLine ("bytes ".toList ++ decimal n) :=
        Text.oneLine_append.2 ⟨by decide, hdecimal n⟩
      have hrange := Text.oneLine_append.2 ⟨hfirst, hpart '-' (size - 1) (by decide)⟩
      exact Text.oneLine_append.2 ⟨hrange, hpart '/' size (by decide)⟩

theorem names_fileHeaders (size : Nat) (start : Option Nat) :
    ((fileHeaders size start).map Prod.fst).Sublist fieldNames := by
  cases start with
  | none =>
    exact (by decide : ["Accept-Ranges".toList, "Content-length".toList].Sublist fieldNames)
  | some n =>
    exact (by decide : ["Accept-Ranges".toList, "Content-length".toList,
      "Content-range".toList].Sublist fieldNames)

theorem guarded_serveRegular (output : OutputEncoding) (path : Bytes) (content : Content)
    (fields : Fields) : (serveRegular output path (.file content) fields).Guarded :=
  ⟨⟨Mime.ofPath path, rfl, Mime.oneLine_ofPath path⟩, names_fileHeaders _ _,
    oneLine_fileHeaders _ _⟩

theorem guarded_serveFile (site : StaticSite) (output : OutputEncoding) (fs : FileSystem)
    (uri : Text) (fields : Fields) : (site.serveFile output fs uri fields).Guarded := by
  have hanswer := site.answers_serveFile output fs uri fields
  generalize site.serveFile output fs uri fields = answer at hanswer ⊢
  cases hanswer with
  | failure _ _ message => exact Response.guarded_error output _ message
  | file => exact guarded_serveRegular output _ _ fields
  | redirect => exact Response.guarded_redirect output (Percent.oneLine_encode _)
  | listing => exact Response.guarded_text output _ (by decide) _

/-- **Whatever a request asks for**, the head of the answer is guarded. -/
theorem guarded_serve (site : StaticSite) (output : OutputEncoding) (fs : FileSystem)
    (request : Request) : (site.serve output fs request).Guarded := by
  rw [serve]
  split
  · exact site.guarded_serveFile output fs _ _
  · exact site.guarded_serveFile output fs _ _
  · exact Response.guarded_error _ _ _

/-- So is that of every rejection. -/
theorem guarded_of_answer? {site : StaticSite} {deadlines : Deadlines} {w : World}
    {parsed : Except RequestError Request} {r : Response}
    (h : Service.answer? ⟨site.handler, deadlines⟩ w parsed = some r) : r.Guarded := by
  rcases parsed with e | request
  · cases e <;> simp only [Service.answer?, reduceCtorEq, Option.some.injEq] at h <;>
      exact h ▸ Response.guarded_error _ _ _
  · obtain rfl : site.serve w.output w.files request = r := Option.some.inj h
    exact site.guarded_serve w.output w.files request

/-- **No request can split or forge the head of its answer.** A client that sends anything gets an
answer if all that it sends arrives, and whenever the connection comes to its end. The answer is a
status line, a media type, a date, and some of the four other header fields that a site sets, none
of them twice, each on a line of its own, then a blank line, and then the body. The first blank line
is that one, and no value has a CR or LF in it. -/
theorem reply_head (site : StaticSite) (deadlines : Deadlines) (fs : FileSystem)
    (output : OutputEncoding) (t : Timestamp) (i : Input) (hi : i.unread ≠ []) :
    let s : Service := ⟨site.handler, deadlines⟩
    let w : World := ⟨fs, output, t.dateText⟩
    let state := (Connection.run s w { input := i }).state
    (i.Smooth → deadlines.patience = none → state = .closed) ∧
    (state = .closed → ∃ (r : Response) (mime : Text),
      let fields := ("Content-Type".toList, mime) :: ("Date".toList, t.dateText) :: r.headers
      let head := headBytes r.status fields
      s.answer? w (Request.read deadlines i).1 = some r ∧ r.mime = some mime ∧
      s.reply w i = head ++ r.body.all ∧
      Reply.ofBytes? (s.reply w i) = some ⟨head, r.body.all⟩ ∧
      splitOnPair 0x0D 0x0A head =
        (("HTTP/1.0 ".toList ++ r.status.line) :: fields.map fieldLine).map Utf8.encode ++
          [[], []] ∧
      (fields.map Prod.fst).Nodup ∧
      r.headers.map Prod.fst ⊆ ["Accept-Ranges".toList, "Content-length".toList,
        "Content-range".toList, "Location".toList] ∧
      ∀ f ∈ fields, '\r' ∉ f.2 ∧ '\n' ∉ f.2) := by
  intro s w state
  refine ⟨fun hsmooth hpatience => ?_, fun hclosed => ?_⟩
  · exact (Connection.closed_run_iff {}).2 (Request.read_ne_abandoned_of_smooth hpatience hsmooth)
  · have hread : (Request.read deadlines i).1 ≠ .error .abandoned :=
      (Connection.closed_run_iff {}).1 hclosed
    have hanswer : s.answer? w (Request.read deadlines i).1 ≠ none := by
      rw [Ne, Service.answer?_eq_none_iff]
      rintro (h | h)
      · exact hi ((Request.read_eq_closed_iff deadlines i).1 h).2.1
      · exact hread h
    obtain ⟨r, hr⟩ := Option.ne_none_iff_exists'.1 hanswer
    have hguarded : r.Guarded := guarded_of_answer? hr
    obtain ⟨mime, hmime, hsent⟩ := hguarded.exists_sentFields t.dateText
    have hlines : ∀ f ∈ r.sentFields t.dateText, FieldOnLine f := fun f hf =>
      (hguarded.onLines.sentFields t.oneLine_dateText f hf).1
    have hreply : s.reply w i = headBytes r.status (r.sentFields t.dateText) ++ r.body.all := by
      have hparsed : Request.read s.deadlines i =
        ((Request.read deadlines i).1, (Request.read deadlines i).2) := rfl
      have hsession : s.reply w i = r.bytes t.dateText :=
        (Connection.reply_of_read hparsed hread).trans (congrArg _ hr)
      rw [hsession, Response.bytes, Response.head_eq]
    have hnodup := hguarded.nodup_sentFields t.dateText
    rw [hsent] at hlines hreply hnodup
    refine ⟨r, mime, hr, hmime, hreply, ?_, splitOnPair_headBytes hlines, hnodup,
      hguarded.names.subset, fun f hf => ?_⟩
    · rw [hreply, Reply.ofBytes?_headBytes hlines]
    · have hvalue := (hlines f hf).2
      exact ⟨fun hc => (hvalue _ hc).1 rfl, fun hc => (hvalue _ hc).2 rfl⟩

/-- A directory with a line end in its name, and behind it what looks like a header field, is
redirected to like any other. -/
theorem reply_head_redirect :
    let root : Node := .dir [(Utf8.encode "a\r\nX:y".toList, .dir [])]
    let w : World := ⟨⟨.dir [(Utf8.encode "www".toList, root)], []⟩, none,
      Timestamp.dateText ⟨784111777, 0⟩⟩
    let s : Service := ⟨StaticSite.handler ⟨Utf8.encode "/www/".toList, true⟩, {}⟩
    let i := Input.ofBytes (Utf8.encode "GET /a%0D%0AX:y HTTP/1.0\r\n\r\n".toList)
    i.unread ≠ [] ∧ ∃ body, Reply.ofBytes? (s.reply w i) = some ⟨headBytes .movedPermanently
      [("Content-Type".toList, "text/html".toList), ("Date".toList, w.date),
        ("Location".toList, "/a%0D%0AX%3Ay/".toList)], body⟩ := by
  intro root w s i
  have hi : i.unread ≠ [] := by decide
  obtain ⟨hends, hreply⟩ := reply_head ⟨Utf8.encode "/www/".toList, true⟩ {} w.files w.output
    ⟨784111777, 0⟩ i hi
  obtain ⟨r, mime, hr, hmime, -, hcut, -⟩ := hreply (hends (List.forall_mem_nil _) rfl)
  have hanswer : (s.answer? w (Request.read {} i).1).map (fun r => (r.status, r.mime, r.headers)) =
      some (.movedPermanently, some "text/html".toList,
        [("Location".toList, "/a%0D%0AX%3Ay/".toList)]) := by
    decide +kernel
  rw [hr, Option.map_some, hmime] at hanswer
  obtain ⟨hstatus, hrest⟩ := Prod.mk.inj (Option.some.inj hanswer)
  obtain ⟨hmime', hheaders⟩ := Prod.mk.inj hrest
  rw [hstatus, Option.some.inj hmime', hheaders] at hcut
  exact ⟨hi, r.body.all, hcut⟩

end StaticSite

end HttpServer
