import HttpServer.Proofs.Input.Complete
import HttpServer.Proofs.Request.Arrival
import HttpServer.Proofs.Request.Params
import HttpServer.Proofs.Text.Numeral

/-!
# What a client sends is what the server receives

A client writes a request as a first line, one line for each header field, a blank line and, for a
form, the body whose length a last field announces. Path, query string and form are
percent-encoded. Such bytes are read back as the request that was meant, whatever texts it is made
of: no character of a path, of a key or of a value can be taken for a separator, and no header value
for the end of its line.

The proof goes through the stages of the reading. The first line is cut off and split into its words
and its target (`ClientRequest.parseLine_firstLine`), the header block is cut off behind its blank
line and split into its fields (`ofBlock_fieldBlock`), and the body is cut off at its announced
length (`ClientRequest.cut_bodyPart`).

## Main definitions

* `ClientRequest`, `ClientRequest.bytes`: a request as it is meant, and as it is sent.
* `ClientRequest.received`: the request that arrives.

## Main results

* `ClientRequest.ofBytes_bytes`: the bytes are read back.
* `ClientRequest.read_sent`: so they are however they arrive, unless a deadline passes.
-/

namespace HttpServer

/-! ### Lines -/

/-- A text as a line on the wire. -/
def lineBytes (t : Text) : Bytes :=
  t.bytes ++ [0x0D, 0x0A]

theorem lf_notMem {t : Text} (h : '\n' ∉ t) : 0x0A ∉ t.bytes ++ [0x0D] := by
  intro hm
  rcases List.mem_append.1 hm with hm | hm
  · exact h ((Utf8.mem_encode_iff_of_ascii (c := '\n') (by decide)).1 hm)
  · exact absurd (List.mem_singleton.1 hm) (by decide)

theorem cut_lineBytes {t : Text} (h : '\n' ∉ t) (rest : Bytes) :
    Part.cut .line (lineBytes t ++ rest) = (lineBytes t, rest) := by
  have hcut := (Part.filledBy_line (lf_notMem h)).cut_append rest
  simpa [lineBytes] using hcut

/-! ### Header fields -/

/-- The fields of some header lines. -/
def Fields.ofLines (lines : List Bytes) : Fields :=
  ofList (lines.filterMap fun l => parseLine? (lineText l))

/-- The header lines in front of the first blank one. -/
def headerLines (lines : List Bytes) : List Bytes :=
  lines.takeWhile fun l => !(lineText l).isBlank

theorem headerLines_append {lines : List Bytes} (h : ∀ l ∈ lines, IsFieldLine l)
    (more : List Bytes) : headerLines (lines ++ more) = lines ++ headerLines more :=
  List.takeWhile_append_of_pos fun l hl => by rw [(h l hl).text, Bool.not_false]

theorem Fields.ofBlock_eq (block : Bytes) :
    ofBlock block = ofLines (headerLines (splitOn 0x0A block)) := by
  rw [ofBlock, blockLines, ofLines, headerLines, List.takeWhile_map, List.filterMap_map]
  rfl

section Block

variable {lines : List Bytes} (h : ∀ l ∈ lines, IsFieldLine l) {blank : Bytes}
  (hb : IsBlankLine blank)
include h hb

theorem headerLines_block (more : List Bytes) : headerLines (lines ++ blank :: more) = lines := by
  have hstop : headerLines (blank :: more) = [] := List.takeWhile_cons_of_neg (by simp [hb.text])
  rw [headerLines_append h, hstop, List.append_nil]

/-- The lines of a header block are cut apart from each other and from what follows. -/
theorem splitOn_blockBytes (rest : Bytes) :
    splitOn 0x0A (blockBytes lines blank ++ rest) = lines ++ blank :: splitOn 0x0A rest := by
  have hlf : ∀ l ∈ lines ++ [blank], (0x0A : UInt8) ∉ l := by
    intro l hl
    rcases List.mem_append.1 hl with hl | hl
    · exact (h l hl).lf
    · rw [List.mem_singleton.1 hl]
      exact hb.lf
  have hblock : blockBytes lines blank ++ rest =
      ((lines ++ [blank]).flatMap fun l => l ++ [0x0A]) ++ rest := by
    simp [blockBytes]
  rw [hblock, splitOn_flatMap_append hlf, List.append_assoc, List.singleton_append]

/-- The fields of a header block are those of its lines. -/
theorem Fields.ofBlock_blockBytes : ofBlock (blockBytes lines blank) = ofLines lines := by
  have hsplit := splitOn_blockBytes h hb []
  rw [List.append_nil] at hsplit
  rw [ofBlock_eq, hsplit, headerLines_block h hb]

end Block

/-- A header field that can be sent: its name and its value are trimmed and have no line feed, and
its name has no colon. -/
structure Sendable (f : Text × Text) : Prop where
  name_trim : Text.trim f.1 = f.1
  value_trim : Text.trim f.2 = f.2
  name_lf : '\n' ∉ f.1
  value_lf : '\n' ∉ f.2
  name_colon : ':' ∉ f.1

/-- A header field as it stands on its line. -/
def fieldLine (f : Text × Text) : Text :=
  f.1 ++ ':' :: ' ' :: f.2

/-- The lines of some header fields and the blank one behind them. -/
def fieldBlock (fields : List (Text × Text)) : Bytes :=
  fields.flatMap (fun f => lineBytes (fieldLine f)) ++ [0x0D, 0x0A]

/-- A header field with its name in lower case. -/
def lowerName (f : Text × Text) : Text × Text :=
  (Text.lower f.1, f.2)

namespace Sendable

variable {f : Text × Text}

theorem lf_notMem_fieldLine (h : Sendable f) : '\n' ∉ fieldLine f := by
  intro hm
  rcases List.mem_append.1 hm with hm | hm
  · exact h.name_lf hm
  · simp only [List.mem_cons, Char.reduceEq, false_or] at hm
    exact h.value_lf hm

/-- The line of a field is read back from its bytes, with a blank at its end if the value is
empty. -/
theorem lineText_fieldLine (h : Sendable f) {e : Bytes} (he : ∀ b ∈ e, isLineEnd b = true) :
    lineText ((fieldLine f).bytes ++ e) = fieldLine f := by
  refine lineText_encode_append he fun c hc => ?_
  obtain ⟨name, value⟩ := f
  rcases List.eq_nil_or_concat value with rfl | ⟨v, d, rfl⟩
  · have hlast : (fieldLine (name, [])).getLast? = some ' ' := by
      simp [fieldLine, List.getLast?_append]
    rw [hlast] at hc
    cases hc
    decide
  · rw [List.concat_eq_append] at h hc
    have hline : fieldLine (name, v ++ [d]) = (name ++ ':' :: ' ' :: v) ++ [d] := by
      simp [fieldLine]
    rw [hline, List.getLast?_concat] at hc
    cases hc
    have hblank := Text.isBlank_eq_false_of_trim_eq h.value_trim (List.getLast?_concat)
    refine ⟨?_, ?_⟩
    · rintro rfl
      exact absurd hblank (by decide)
    · rintro rfl
      exact absurd hblank (by decide)

/-- The line of a field is not blank, if only for its colon. -/
theorem isFieldLine (h : Sendable f) : IsFieldLine ((fieldLine f).bytes ++ [0x0D]) where
  lf := lf_notMem h.lf_notMem_fieldLine
  text := by
    rw [h.lineText_fieldLine isLineEnd_cr]
    exact Text.isBlank_eq_false_of_mem (c := ':') (by simp [fieldLine]) (by decide)

/-- A field is read back from its line. -/
theorem parseLine?_fieldLine (h : Sendable f) :
    Fields.parseLine? (fieldLine f) = some (lowerName f) := by
  rw [Fields.parseLine?, fieldLine, splitOnce?_append h.name_colon, Option.map_some]
  simp only [h.name_trim, Text.trim_cons_blank (c := ' ') (by decide), h.value_trim, lowerName]

end Sendable

/-- The lines of some header fields, each with its CR. -/
def fieldLines (fields : List (Text × Text)) : List Bytes :=
  fields.map fun f => (fieldLine f).bytes ++ [0x0D]

theorem isBlankLine_cr : IsBlankLine [0x0D] :=
  ⟨by decide, by decide⟩

theorem isFieldLine_of_mem_fieldLines {fields : List (Text × Text)}
    (h : ∀ f ∈ fields, Sendable f) : ∀ l ∈ fieldLines fields, IsFieldLine l := by
  intro l hl
  obtain ⟨f, hf, rfl⟩ := List.mem_map.1 hl
  exact (h f hf).isFieldLine

theorem blockBytes_fieldLines (fields : List (Text × Text)) :
    blockBytes (fieldLines fields) [0x0D] = fieldBlock fields := by
  simp [blockBytes, fieldLines, fieldBlock, lineBytes, List.flatMap_map]

/-- Header fields are read back from their lines. -/
theorem ofLines_fieldLines {fields : List (Text × Text)} (h : ∀ f ∈ fields, Sendable f) :
    Fields.ofLines (fieldLines fields) = .ofList (fields.map lowerName) := by
  have hparse : ∀ f ∈ fields,
      Fields.parseLine? (lineText ((fieldLine f).bytes ++ [0x0D])) = some (lowerName f) :=
    fun f hf => by
      rw [(h f hf).lineText_fieldLine isLineEnd_cr, (h f hf).parseLine?_fieldLine]
  rw [Fields.ofLines, fieldLines, List.filterMap_map]
  refine congrArg Fields.ofList ?_
  rw [← List.filterMap_eq_map]
  exact List.filterMap_congr hparse

/-- The block of header lines ends behind its blank line. -/
theorem cut_fieldBlock {fields : List (Text × Text)} (h : ∀ f ∈ fields, Sendable f)
    (rest : Bytes) :
    Part.cut (.block []) (fieldBlock fields ++ rest) = (fieldBlock fields, rest) := by
  rw [← blockBytes_fieldLines]
  exact (Part.filledBy_block (isFieldLine_of_mem_fieldLines h) isBlankLine_cr).cut_append rest

/-- **Header fields are read back** from their block. -/
theorem ofBlock_fieldBlock {fields : List (Text × Text)} (h : ∀ f ∈ fields, Sendable f) :
    Fields.ofBlock (fieldBlock fields) = .ofList (fields.map lowerName) := by
  rw [← blockBytes_fieldLines,
    Fields.ofBlock_blockBytes (isFieldLine_of_mem_fieldLines h) isBlankLine_cr,
    ofLines_fieldLines h]

/-! ### Requests -/

theorem Method.ofToken_eq_post_iff {t : Text} : Method.ofToken t = .post ↔ t = "POST".toList := by
  constructor
  · intro h
    rw [← Method.token_ofToken t, h]
    rfl
  · rintro rfl
    rfl

/-- A form that is a query string is decoded in turn. -/
theorem Head.withForm_queryText (h : Head) (pairs : List (Text × Text)) :
    h.withForm (Params.queryText pairs).bytes =
      .ok ⟨h.method, h.path, h.params.insertAll pairs, h.fields,
        (Params.queryText pairs).bytes⟩ := by
  have hdecode : h.params.decodeInto
      (Utf8.decodeLossy (Params.queryText pairs).bytes).trim =
        (.ok (), h.params.insertAll pairs) := by
    rw [Utf8.decodeLossy_encode, Text.trim_of_solid (Params.solid_queryText pairs),
      Params.decodeInto_queryText]
  rw [withForm, hdecode]

/-- A request as a client means it. -/
structure ClientRequest where
  /-- The method. -/
  token : Text
  /-- The path. -/
  path : Text
  /-- The parameters of the query string. -/
  query : List (Text × Text)
  /-- The header fields, without the length of the body. -/
  fields : List (Text × Text)
  /-- The parameters of the form, which is sent with a `POST` only. -/
  form : List (Text × Text)
  token_ne : token ≠ []
  token_solid : Text.Solid token
  target_ne : path ≠ [] ∨ query ≠ []
  fields_sendable : ∀ f ∈ fields, Sendable f
  fields_free : ∀ f ∈ fields, Text.lower f.1 ≠ "content-length".toList

namespace ClientRequest

variable (w : ClientRequest)

/-- A form is sent. -/
abbrev IsForm : Prop := w.token = "POST".toList

/-- The parameters that are sent in the body. -/
def posted : List (Text × Text) := if w.IsForm then w.form else []

/-- The body. -/
def body : Text := Params.queryText w.posted

/-- The header fields with the length of the body. -/
def sentFields : List (Text × Text) :=
  w.fields ++
    if w.IsForm then [("Content-Length".toList, decimal w.body.bytes.length)] else []

/-- The target: the encoded path and, unless it is empty, the query string. -/
def target : Text :=
  Percent.encode w.path ++ if w.query = [] then [] else '?' :: Params.queryText w.query

/-- The first line. -/
def firstLine : Text :=
  w.token ++ ' ' :: w.target ++ " HTTP/1.0".toList

/-- The request as it is sent. -/
def bytes : Bytes :=
  lineBytes w.firstLine ++ fieldBlock w.sentFields ++ w.body.bytes

/-- The header as it arrives. -/
def header : Fields := .ofList (w.sentFields.map lowerName)

/-- The request as it arrives. -/
def received : Request where
  method := .ofToken w.token
  path := w.path
  params := Params.empty.insertAll (w.query ++ w.posted)
  fields := w.header
  body := w.body.bytes

instance : Inhabited ClientRequest :=
  ⟨⟨"GET".toList, ['/'], [], [], [], by decide, by decide, by decide,
    List.forall_mem_nil _, List.forall_mem_nil _⟩⟩

/-! ### The first line -/

theorem solid_target : Text.Solid w.target := by
  intro c hc
  rcases List.mem_append.1 hc with hc | hc
  · exact Params.solid_encode w.path c hc
  · split at hc
    · cases hc
    · rcases List.mem_cons.1 hc with rfl | hc
      · decide
      · exact Params.solid_queryText w.query c hc

theorem target_ne_nil : w.target ≠ [] := by
  intro h
  obtain ⟨hpath, hquery⟩ := List.append_eq_nil_iff.1 h
  rcases w.target_ne with hne | hne
  · exact hne (Percent.encode_eq_nil_iff.1 hpath)
  · rw [if_neg hne] at hquery
    cases hquery

theorem lf_notMem_firstLine : '\n' ∉ w.firstLine := by
  intro h
  rcases List.mem_append.1 h with h | h
  · rcases List.mem_append.1 h with h | h
    · exact absurd (w.token_solid _ h) (by decide)
    · rcases List.mem_cons.1 h with h | h
      · exact absurd h (by decide)
      · exact absurd (w.solid_target _ h) (by decide)
  · exact absurd h (by decide)

theorem lineText_firstLine : lineText (lineBytes w.firstLine) = w.firstLine := by
  refine lineText_encode_append isLineEnd_crlf fun c hc => ?_
  have hlast : w.firstLine.getLast? = some '0' := by
    rw [firstLine, List.getLast?_append]
    rfl
  rw [hlast] at hc
  cases hc
  decide

/-- The first line is split into the method and the target. -/
theorem split_firstLine : RequestLine.split w.firstLine = .ok (.ofToken w.token, w.target) := by
  have hline : w.firstLine = w.token ++ ' ' :: (w.target ++ ' ' :: "HTTP/1.0".toList) := by
    rw [firstLine, List.append_assoc]
    rfl
  have hblank : isBlank ' ' = true := by decide
  rw [RequestLine.split, hline, Text.nextWord_append w.token_solid w.token_ne hblank]
  simp only [Text.nextWord_cons_blank hblank,
    Text.nextWord_append w.solid_target w.target_ne_nil hblank]
  simp [w.token_ne, w.target_ne_nil]

/-- The target is decoded to the path and the parameters of the query string. -/
theorem decode_target :
    Target.decode w.target Params.empty = (.ok w.path, Params.empty.insertAll w.query) := by
  have hmark := Params.notMem_encode (c := '?') rfl w.path
  rw [Target.decode, target]
  by_cases hq : w.query = []
  · rw [if_pos hq, List.append_nil, splitOnce?_eq_none_iff.2 hmark, Percent.decode_encode, hq]
    rfl
  · rw [if_neg hq, splitOnce?_append hmark]
    simp only [Params.decodeInto_queryText, Percent.decode_encode]

theorem parseLine_firstLine : Head.parseLine w.firstLine =
    .ok (.ofToken w.token, w.path, Params.empty.insertAll w.query) := by
  rw [Head.parseLine, split_firstLine]
  simp only [decode_target]

/-! ### The header -/

theorem sendable_contentLength (n : Nat) : Sendable ("Content-Length".toList, decimal n) where
  name_trim := show Text.trim "Content-Length".toList = "Content-Length".toList by decide
  value_trim := Text.trim_of_solid (solid_decimal n)
  name_lf := show '\n' ∉ "Content-Length".toList by decide
  value_lf h := absurd (solid_decimal n _ h) (by decide)
  name_colon := show ':' ∉ "Content-Length".toList by decide

theorem sendable_of_mem_sentFields {f : Text × Text} (h : f ∈ w.sentFields) : Sendable f := by
  rcases List.mem_append.1 h with h | h
  · exact w.fields_sendable f h
  · split at h
    · rw [List.mem_singleton.1 h]
      exact sendable_contentLength _
    · cases h

/-- The announced length is that of the body, if it fits into 64 bits. -/
theorem contentLength?_header : w.header.contentLength? =
    if w.IsForm ∧ w.body.bytes.length ≤ maxU64 then some w.body.bytes.length else none := by
  rw [Fields.contentLength?, header, Fields.get?_ofList, sentFields]
  by_cases hform : w.IsForm
  · have hlast : (w.fields ++ [("Content-Length".toList, decimal w.body.bytes.length)]).map
        lowerName = w.fields.map lowerName ++
          [("content-length".toList, decimal w.body.bytes.length)] := by
      rw [List.map_append]
      rfl
    rw [if_pos hform, hlast, List.reverse_append, List.reverse_singleton, List.singleton_append,
      List.lookup_cons_self, Option.bind_some, Text.trim_of_solid (solid_decimal _),
      readU64?_decimal]
    exact if_congr (and_iff_right hform).symm rfl rfl
  · have hnone : (w.fields.map lowerName).reverse.lookup "content-length".toList = none := by
      rw [List.lookup_eq_none_iff]
      intro f hf
      obtain ⟨g, hg, rfl⟩ := List.mem_map.1 (List.mem_reverse.1 hf)
      exact bne_iff_ne.2 (Ne.symm (w.fields_free g hg))
    rw [if_neg hform, List.append_nil, hnone, Option.bind_none, if_neg fun h => hform h.1]

/-! ### The body -/

theorem crlf_not_infix_body : ¬[0x0D, 0x0A] <:+: w.body.bytes := by
  intro h
  have hcr := (Utf8.mem_encode_iff_of_ascii (c := '\r') (by decide)).1 (h.subset List.mem_cons_self)
  exact absurd (Params.solid_queryText w.posted _ hcr) (by decide)

/-- The head as it arrives. -/
def head : Head :=
  ⟨.ofToken w.token, w.path, Params.empty.insertAll w.query, w.header⟩

/-- The body of a form is cut off at the announced length. A length beyond 64 bits is as good as
none, and then the body has no CR LF that could end it. -/
theorem cut_bodyPart (hform : w.IsForm) {rest : Bytes}
    (h : w.body.bytes.length ≤ maxU64 ∨ rest = []) :
    w.head.bodyPart.cut (w.body.bytes ++ rest) = (w.body.bytes, rest) := by
  rw [Head.bodyPart, head, contentLength?_header]
  by_cases hlen : w.body.bytes.length ≤ maxU64
  · rw [if_pos ⟨hform, hlen⟩]
    exact (Part.filledBy_count w.body.bytes).cut_append rest
  · obtain rfl := h.resolve_left hlen
    rw [if_neg fun hw => hlen hw.2, List.append_nil]
    exact Part.cut_of_none (Part.size?_crlf w.crlf_not_infix_body).1

/-- The form is decoded behind the query string. -/
theorem withForm_body : w.head.withForm w.body.bytes = .ok w.received := by
  rw [body, Head.withForm_queryText, received, Params.insertAll_append]
  rfl

theorem body_eq_nil (hform : ¬w.IsForm) : w.body = [] := by
  rw [body, posted, if_neg hform]
  rfl

theorem bodiless_head (hform : ¬w.IsForm) : w.head.bodiless = w.received := by
  have hposted : w.posted = [] := if_neg hform
  rw [received, hposted, List.append_nil, w.body_eq_nil hform]
  rfl

/-! ### The whole request -/

theorem ofBytes_head (rest : Bytes) :
    Head.ofBytes (lineBytes w.firstLine ++ fieldBlock w.sentFields ++ rest) =
      (.ok w.head, rest) := by
  have hcut := cut_lineBytes w.lf_notMem_firstLine (fieldBlock w.sentFields ++ rest)
  have hparse := w.parseLine_firstLine
  rw [← w.lineText_firstLine] at hparse
  rw [Head.ofBytes, List.append_assoc, hcut]
  cases hline : lineBytes w.firstLine with
  | nil => exact absurd hline (by simp [lineBytes])
  | cons b line =>
    rw [hline] at hparse
    simp only [hparse, cut_fieldBlock (fun f hf => w.sendable_of_mem_sentFields hf) rest,
      ofBlock_fieldBlock fun f hf => w.sendable_of_mem_sentFields hf]
    rfl

/-- **The bytes of a request are read back**, and what follows them is left. -/
theorem ofBytes_bytes_append {rest : Bytes} (h : w.body.bytes.length ≤ maxU64 ∨ rest = []) :
    Request.ofBytes (w.bytes ++ rest) = (.ok w.received, rest) := by
  rw [Request.ofBytes_eq, bytes, List.append_assoc, ofBytes_head]
  by_cases hform : w.IsForm
  · have hpost : w.head.method = .post := by rw [head, hform]; rfl
    simp only [if_pos hpost, w.cut_bodyPart hform h, withForm_body]
  · have hpost : w.head.method ≠ .post := fun hm => hform ((Method.ofToken_eq_post_iff).1 hm)
    simp only [if_neg hpost, w.bodiless_head hform, w.body_eq_nil hform]
    rfl

/-- **What a client sends is what the server receives.** Every request of this form is read as one
and the same request, whatever deadlines there are and however its bytes arrive, as long as no read
fails and no deadline passes; and none passes if the waits add up to no more than the limits. The
method and the path are those that were meant. The parameters of the form follow those of the query
string; a key stands where it appears first, and has its last value. A field is found under its name
in lower case and has the last value that was sent under that name. What the client sends behind the
request is left, unless the length of the body is beyond 64 bits and cannot be announced. -/
theorem read_sent : ∃ r : Request,
    r.method = .ofToken w.token ∧
    r.path = w.path ∧
    r.params.keys = ((w.query ++ w.posted).map Prod.fst).eraseDups ∧
    (∀ key, r.params.get? key = (w.query ++ w.posted).reverse.lookup key) ∧
    (∀ name, r.fields.get? name = (w.sentFields.map lowerName).reverse.lookup name) ∧
    r.body = w.body.bytes ∧
    r.contentLength? =
      (if w.IsForm ∧ w.body.bytes.length ≤ maxU64 then some w.body.bytes.length else none) ∧
    ∀ (head : Nat) (idle : Option Nat) (i : Input) (rest : Bytes),
      i.Smooth → i.unread = w.bytes ++ rest → (w.body.bytes.length ≤ maxU64 ∨ rest = []) →
      let d : Deadlines := { head, idle }
      ((∀ stage, (Request.read d i).1 ≠ .error (.timedOut stage)) →
        (Request.read d i).1 = .ok r ∧ (Request.read d i).2.unread = rest) ∧
      (i.span ≤ head → (∀ limit, idle = some limit → i.span ≤ limit) →
        ∀ stage, (Request.read d i).1 ≠ .error (.timedOut stage)) := by
  refine ⟨w.received, rfl, rfl, Params.keys_insertAll_empty _, fun key => ?_,
    Fields.get?_ofList _, rfl, w.contentLength?_header, ?_⟩
  · rw [received, Params.get?_insertAll]
    exact Option.or_none
  · intro head idle i rest hsmooth hunread hrest d
    refine ⟨fun hlate => ?_, Request.read_of_span_le (d := d) rfl hsmooth⟩
    obtain ⟨j, hj, hleaves⟩ := Request.read_of_smooth rfl hsmooth hlate
    rw [hunread, w.ofBytes_bytes_append hrest] at hj hleaves
    exact ⟨by rw [hj], by rw [hj]; exact hleaves.unread⟩

/-- A form with a key of the query string, which is sent in two pieces. -/
theorem read_sent_form :
    let w : ClientRequest := ⟨"POST".toList, "/a b".toList, [("k".toList, "1&2".toList)],
      [("Host".toList, "x:80".toList)], [("k".toList, "é=".toList)], by decide, by decide,
      by decide,
      List.forall_mem_singleton.2 ⟨by decide, by decide, by decide, by decide, by decide⟩,
      List.forall_mem_singleton.2 (by decide)⟩
    let i : Input := ⟨[], [.data (w.bytes.take 20), .wait 100, .data (w.bytes.drop 20)], 0⟩
    i.Smooth ∧ i.unread = w.bytes ++ [] ∧ ∃ r : Request, r.path = "/a b".toList ∧
      r.params.keys = ["k".toList] ∧ r.params.get? "k".toList = some "é=".toList ∧
      (Request.read { head := 5000, idle := some 100 } i).1 = .ok r := by
  intro w i
  have hsmooth : i.Smooth := by
    intro e he
    simp only [i, List.mem_cons, List.not_mem_nil, or_false] at he
    rcases he with rfl | rfl | rfl <;> rfl
  have hunread : i.unread = w.bytes ++ [] := by
    simp [i, Input.unread]
  obtain ⟨r, -, hpath, hkeys, hget, -, -, -, hread⟩ := w.read_sent
  obtain ⟨hok, htime⟩ := hread 5000 (some 100) i [] hsmooth hunread (.inr rfl)
  refine ⟨hsmooth, hunread, r, hpath, hkeys.trans (by decide), (hget _).trans (by decide), ?_⟩
  refine (hok (htime (by decide) fun limit hlimit => ?_)).1
  cases hlimit
  decide

end ClientRequest

end HttpServer
