import HttpServer.Proofs.Request.Grammar
import HttpServer.Proofs.Request.Spelling

/-!
# Forms and query strings

The pairs of a form can be sent in the body, or else behind those of the query string, and it makes
no difference to the parameters. The query string is read as a part of the first line and the form
as a body of its own, but both are read leniently and cut at the same characters, whatever bytes
they are: text between two parts does not change how they are read, and a text without white space
is its own trimming. The path is decoded after the pairs of the query string and before those of the
form, so that the first fault is the same in both places only because the path has none.

## Main definitions

* `queryLine`, `HeadSpelling.ofQuery`: the head of a request for a path with a query string.

## Main results

* `RawRequest.ofBytes_of_framed`: the parts of a request whose head is given in lines.
* `RawRequest.outcome_of_words`: what a request comes to whose path decodes.
* `Request.read_form_as_query`: a form in the body, and behind the query string.
-/

namespace HttpServer

open Percent (error? decoded)

/-! ### Pairs and targets -/

namespace Params

theorem pairTexts_append (pairs more : List (Text × Text)) :
    pairTexts (pairs ++ more) = pairTexts pairs ++ pairTexts more :=
  List.flatMap_append

theorem decodedPairs_append (pairs more : List (Text × Text)) :
    decodedPairs (pairs ++ more) = decodedPairs pairs ++ decodedPairs more :=
  List.map_append

end Params

namespace Target

variable {path : Text} (h : '?' ∉ path) (query : Text)
include h

theorem rawPath_append : rawPath (path ++ '?' :: query) = path :=
  before_append h query

theorem rawQuery_append : rawQuery (path ++ '?' :: query) = Params.rawPairs query := by
  rw [rawQuery, splitOnce?_append h]

theorem texts_append :
    texts (path ++ '?' :: query) = Params.pairTexts (Params.rawPairs query) ++ [path] := by
  rw [texts, rawPath_append h, rawQuery_append h]

end Target

/-! ### Requests whose head is given in lines -/

/-- The parts of a request with this head. -/
def HeadSpelling.raw (h : HeadSpelling) (rest : Bytes) : RawRequest :=
  ⟨lineText h.first, h.lines, rest⟩

theorem RawRequest.ofBytes_of_framed {h : HeadSpelling} (hf : h.Framed) (rest : Bytes) :
    ofBytes (h.bytes ++ rest) = h.raw rest := by
  have hbytes : h.bytes ++ rest = h.first ++ 0x0A :: (blockBytes h.lines h.blank ++ rest) := by
    simp [HeadSpelling.bytes]
  have htail : (splitOn 0x0A (h.bytes ++ rest)).tail = h.lines ++ h.blank :: splitOn 0x0A rest := by
    rw [hbytes, splitOn_append, splitOn_of_notMem hf.first_lf,
      splitOn_blockBytes hf.lines_field hf.blank_blank]
    rfl
  rw [ofBytes, htail, headerLines_block hf.lines_field hf.blank_blank, hbytes,
    before_append hf.first_lf, List.drop_length_add_append, List.drop_one, List.tail_cons,
    intercalate_splitOn]
  rfl

/-- What is read of a head that is given in lines, and of what follows it. -/
theorem Request.read_of_framed {d : Deadlines} (hp : d.patience = none) {h : HeadSpelling}
    (hf : h.Framed) {i : Input} {rest : Bytes} (hsmooth : i.Smooth)
    (hunread : i.unread = h.bytes ++ rest)
    (hlate : ∀ stage, (read d i).1 ≠ .error (.timedOut stage)) :
    (read d i).1 = (h.raw rest).outcome := by
  obtain ⟨j, hj, -⟩ := read_of_smooth hp hsmooth hlate
  have hne : h.bytes ++ rest ≠ [] := by simp [HeadSpelling.bytes]
  rw [hj, hunread, ofBytes_eq_outcome hne, RawRequest.ofBytes_of_framed hf]

/-- The first line of a request for a path with a query string, without its LF. -/
def queryLine (method : Text) (path query : Bytes) : Bytes :=
  Utf8.encode (method ++ [' ']) ++
    (path ++ (Utf8.encode ['?'] ++ (query ++ Utf8.encode " HTTP/1.0\r".toList)))

/-- The head of such a request. -/
def HeadSpelling.ofQuery (method : Text) (path query : Bytes) (lines : List Bytes) : HeadSpelling :=
  ⟨queryLine method path query, lines, [0x0D]⟩

theorem Utf8.lf_notMem_of_solid {s : Bytes} (h : Text.Solid (Utf8.decodeLossy s)) : 0x0A ∉ s :=
  fun hm => absurd (h _ ((Utf8.mem_decodeLossy_iff_of_ascii (c := '\n') (by decide)).2 hm))
    (by decide)

section QueryLine

variable {method : Text} {path query : Bytes} (hmethod : Text.Solid method) (hne : method ≠ [])
  (hpath : Text.Solid (Utf8.decodeLossy path)) (hquery : Text.Solid (Utf8.decodeLossy query))
include hmethod hpath hquery

theorem lf_notMem_queryLine : 0x0A ∉ queryLine method path query := by
  have hstart : 0x0A ∉ Utf8.encode (method ++ [' ']) := by
    intro hm
    rcases List.mem_append.1 (lf_mem_bytes_iff.1 hm) with hm | hm
    · exact absurd (hmethod _ hm) (by decide)
    · exact absurd (List.mem_singleton.1 hm) (by decide)
  have hmark : 0x0A ∉ Utf8.encode ['?'] := by decide
  have hend : 0x0A ∉ Utf8.encode " HTTP/1.0\r".toList := by decide
  simp only [queryLine, List.mem_append, not_or]
  exact ⟨hstart, Utf8.lf_notMem_of_solid hpath, hmark, Utf8.lf_notMem_of_solid hquery, hend⟩

include hne

/-- The second word of the line is the path with the query string. -/
theorem words_queryLine : ∃ more, (lineText (queryLine method path query)).words =
    method :: (Utf8.decodeLossy path ++ '?' :: Utf8.decodeLossy query) :: more := by
  have hblank : isBlank ' ' = true := by decide
  have htarget : Text.Solid (Utf8.decodeLossy path ++ '?' :: Utf8.decodeLossy query) := by
    intro c hc
    rcases List.mem_append.1 hc with hc | hc
    · exact hpath c hc
    · rcases List.mem_cons.1 hc with rfl | hc
      · decide
      · exact hquery c hc
  have hline : Utf8.decodeLossy (queryLine method path query) = method ++ ' ' ::
      ((Utf8.decodeLossy path ++ '?' :: Utf8.decodeLossy query) ++
        ' ' :: "HTTP/1.0\r".toList) := by
    rw [queryLine, Utf8.decodeLossy_encode_append, Utf8.decodeLossy_text path (by simp),
      Utf8.decodeLossy_append_encode]
    simp
  refine ⟨Text.words "HTTP/1.0\r".toList, ?_⟩
  rw [words_lineText (lf_notMem_queryLine hmethod hpath hquery), hline,
    Text.words_append_blank hblank, Text.words_of_solid hmethod hne, Text.words_append_blank hblank,
    Text.words_of_solid htarget (by simp)]
  rfl

end QueryLine

/-- A head of this kind is cut into its lines. -/
theorem HeadSpelling.framed_ofQuery {method : Text} {path query : Bytes} {lines : List Bytes}
    (hmethod : Text.Solid method) (hpath : Text.Solid (Utf8.decodeLossy path))
    (hquery : Text.Solid (Utf8.decodeLossy query)) (hlines : ∀ l ∈ lines, IsFieldLine l) :
    (ofQuery method path query lines).Framed :=
  ⟨lf_notMem_queryLine hmethod hpath hquery, hlines, isBlankLine_cr⟩

/-! ### The pairs of a request -/

namespace RawRequest

variable (raw : RawRequest)

/-- All pairs of a request with this query string, first those of the query string and then those of
the body. -/
def pairs (method : Method) (query : Text) : List (Text × Text) :=
  Params.rawPairs query ++ Head.rawForm (raw.body method)

/-- A request whose path decodes is told by its pairs. -/
theorem outcome_of_words {method path query p : Text} {more : List Text} (hmark : '?' ∉ path)
    (hpath : Percent.decode path = .ok p)
    (hwords : raw.line.words = method :: (path ++ '?' :: query) :: more) : raw.outcome =
      match (Params.pairTexts (raw.pairs (.ofToken method) query)).findSome? error? with
      | some e => .error (.decode e)
      | none => .ok ⟨.ofToken method, p,
          .ofList (Params.decodedPairs (raw.pairs (.ofToken method) query)), raw.fields,
          raw.body (.ofToken method)⟩ := by
  have hnone : error? path = none := by rw [error?, hpath]
  have hdecoded : decoded path = p := by rw [decoded, hpath]; rfl
  have htexts : (raw.texts (.ofToken method) (path ++ '?' :: query)).findSome? error? =
      (Params.pairTexts (raw.pairs (.ofToken method) query)).findSome? error? := by
    rw [texts, Target.texts_append hmark, pairs, Params.pairTexts_append, List.findSome?_append,
      List.findSome?_append, List.findSome?_append, List.findSome?_singleton, hnone, Option.or_none]
  rw [outcome, hwords]
  simp only [htexts, request, Target.rawPath_append hmark, Target.rawQuery_append hmark, hdecoded,
    ← Params.decodedPairs_append]
  rfl

/-- The body of a form of announced length. -/
theorem body_of_length {fields : Fields} {s rest : Bytes} (hfields : raw.fields = fields)
    (hlength : fields.contentLength? = some s.length) (hrest : raw.rest = s ++ rest) :
    raw.body .post = s := by
  rw [body, if_pos rfl, hfields, hlength, hrest]
  exact List.take_left

end RawRequest

/-- The pairs of a text that is sent as the body are those of the text. -/
theorem Head.rawForm_of_solid {s : Bytes} (h : Text.Solid (Utf8.decodeLossy s)) :
    rawForm s = Params.rawPairs (Utf8.decodeLossy s) := by
  rw [rawForm, Text.trim_of_solid h]

namespace Request

/-- **Form and query string.** Whatever deadlines there are and however the bytes arrive, as long as
no read fails and no deadline passes: whether some pairs are sent as a form of announced length, or
behind the query string, where both are any bytes that are read without white space, and the path
is one that decodes, either both requests are read, for the same path, with the same parameters in
the same order, and the form with its body as it was sent, or both fail with the same error. -/
theorem read_form_as_query (head : Nat) (idle : Option Nat) {path q q' : Bytes} {p : Text}
    (hsolid : Text.Solid (Utf8.decodeLossy path)) (hmark : 0x3F ∉ path)
    (hpath : Percent.decode (Utf8.decodeLossy path) = .ok p)
    (hq : Text.Solid (Utf8.decodeLossy q)) (hq' : Text.Solid (Utf8.decodeLossy q'))
    {lines lines' : List Bytes} (hlines : ∀ l ∈ lines, IsFieldLine l)
    (hlines' : ∀ l ∈ lines', IsFieldLine l)
    (hlength : (Fields.ofLines lines).contentLength? = some q'.length)
    {i i' : Input} {rest rest' : Bytes} (hsmooth : i.Smooth) (hsmooth' : i'.Smooth)
    (hunread : i.unread =
      (HeadSpelling.ofQuery "POST".toList path q lines).bytes ++ (q' ++ rest))
    (hunread' : i'.unread =
      (HeadSpelling.ofQuery "GET".toList path (q ++ 0x26 :: q') lines').bytes ++ rest')
    (hlate : ∀ stage, (read { head, idle } i).1 ≠ .error (.timedOut stage))
    (hlate' : ∀ stage, (read { head, idle } i').1 ≠ .error (.timedOut stage)) :
    let form := (read { head, idle } i).1
    let query := (read { head, idle } i').1
    (∃ r r', form = .ok r ∧ query = .ok r' ∧ r.method = .post ∧ r'.method = .get ∧
      r.path = p ∧ r'.path = p ∧ r.params = r'.params ∧ r.body = q') ∨
    ∃ e, form = .error (.decode e) ∧ query = .error (.decode e) := by
  intro form query
  have hboth : Utf8.decodeLossy (q ++ 0x26 :: q') =
      Utf8.decodeLossy q ++ '&' :: Utf8.decodeLossy q' :=
    Utf8.decodeLossy_text q (List.cons_ne_nil '&' []) q'
  have hqq' : Text.Solid (Utf8.decodeLossy (q ++ 0x26 :: q')) := by
    rw [hboth]
    exact List.forall_mem_append.2 ⟨hq, List.forall_mem_cons.2 ⟨by decide, hq'⟩⟩
  have hmark' : '?' ∉ Utf8.decodeLossy path := fun hm =>
    hmark ((Utf8.mem_decodeLossy_iff_of_ascii (c := '?') (by decide)).1 hm)
  let posted := (HeadSpelling.ofQuery "POST".toList path q lines).raw (q' ++ rest)
  let got := (HeadSpelling.ofQuery "GET".toList path (q ++ 0x26 :: q') lines').raw rest'
  -- The two requests have the same pairs, although the body has some of those of the first.
  let pairs := Params.rawPairs (Utf8.decodeLossy q) ++ Params.rawPairs (Utf8.decodeLossy q')
  have hbody : posted.body .post = q' := posted.body_of_length rfl hlength rfl
  have hposted : posted.pairs .post (Utf8.decodeLossy q) = pairs := by
    rw [RawRequest.pairs, hbody, Head.rawForm_of_solid hq']
  have hgot : got.pairs .get (Utf8.decodeLossy (q ++ 0x26 :: q')) = pairs := by
    have hnil : Head.rawForm (got.body .get) = [] := rfl
    rw [RawRequest.pairs, hnil, List.append_nil, hboth, Params.rawPairs_append]
  have hform : form = posted.outcome := read_of_framed rfl
    (HeadSpelling.framed_ofQuery (by decide) hsolid hq hlines) hsmooth hunread hlate
  have hquery : query = got.outcome := read_of_framed rfl
    (HeadSpelling.framed_ofQuery (by decide) hsolid hqq' hlines') hsmooth' hunread' hlate'
  obtain ⟨more, hwords⟩ :=
    words_queryLine (by decide : Text.Solid "POST".toList) (by decide) hsolid hq
  obtain ⟨more', hwords'⟩ :=
    words_queryLine (by decide : Text.Solid "GET".toList) (by decide) hsolid hqq'
  have hpost : Method.ofToken "POST".toList = .post := rfl
  have hget : Method.ofToken "GET".toList = .get := rfl
  rw [posted.outcome_of_words hmark' hpath hwords, hpost, hposted, hbody] at hform
  rw [got.outcome_of_words hmark' hpath hwords', hget, hgot] at hquery
  cases he : (Params.pairTexts pairs).findSome? error? with
  | some e =>
    rw [he] at hform hquery
    exact .inr ⟨e, hform, hquery⟩
  | none =>
    rw [he] at hform hquery
    exact .inl ⟨_, _, hform, hquery, rfl, rfl, rfl, rfl, rfl, rfl⟩

/-- A form with a key of the query string, whose pairs are separated by two signs and of which one
has no value. In the query string there is a key that is not text. -/
theorem read_form_as_query_twice :
    let path := Utf8.encode "/a%20b".toList
    let q := Utf8.encode "x=1&".toList ++ [0xFF] ++ Utf8.encode "=b".toList
    let q' := Utf8.encode "x=2&&y".toList
    let lines := [Utf8.encode "Content-Length: 6\r".toList]
    let posted := (HeadSpelling.ofQuery "POST".toList path q lines).bytes ++ (q' ++ [])
    let got := (HeadSpelling.ofQuery "GET".toList path (q ++ 0x26 :: q') []).bytes ++ []
    (Fields.ofLines lines).contentLength? = some q'.length ∧
      ∃ r r', (read {} (.ofBytes posted)).1 = .ok r ∧ (read {} (.ofBytes got)).1 = .ok r' ∧
        r.path = "/a b".toList ∧ r.params = r'.params ∧ r.body = q' ∧
        r.params.entries = [("x".toList, "2".toList), ("\uFFFD".toList, "b".toList)] := by
  intro path q q' lines posted got
  have hlength : (Fields.ofLines lines).contentLength? = some q'.length := by decide +kernel
  have hlines : ∀ l ∈ lines, IsFieldLine l :=
    List.forall_mem_singleton.2 ⟨by decide, by decide +kernel⟩
  have hsolid : Text.Solid (Utf8.decodeLossy path) := by decide +kernel
  have hq : Text.Solid (Utf8.decodeLossy q) := by decide +kernel
  have hq' : Text.Solid (Utf8.decodeLossy q') := by decide +kernel
  have hpath : Percent.decode (Utf8.decodeLossy path) = .ok "/a b".toList := by decide +kernel
  have hentries : (ofBytes posted).1.toOption.map (fun r => r.params.entries) =
      some [("x".toList, "2".toList), ("\uFFFD".toList, "b".toList)] := by decide +kernel
  rw [← read_ofBytes] at hentries
  refine ⟨hlength, ?_⟩
  rcases read_form_as_query 5000 none hsolid (by decide) hpath hq hq' hlines
    (List.forall_mem_nil _) hlength (Input.smooth_ofBytes posted) (Input.smooth_ofBytes got)
    (Input.unread_ofBytes posted) (Input.unread_ofBytes got) (read_ofBytes_ne_timedOut posted)
    (read_ofBytes_ne_timedOut got) with
    ⟨r, r', hr, hr', -, -, hp, -, hparams, hbody⟩ | ⟨e, he, -⟩
  · rw [hr] at hentries
    exact ⟨r, r', hr, hr', hp, hparams, hbody, Option.some.inj hentries⟩
  · rw [he] at hentries
    cases hentries

end Request

end HttpServer
