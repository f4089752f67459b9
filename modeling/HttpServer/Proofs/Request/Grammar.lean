import HttpServer.Proofs.Request.Decoding
import HttpServer.Proofs.Request.Truncation
import HttpServer.Proofs.Text.Separator

/-!
# The grammar of requests

Which byte strings are requests can be told without reading them: they are cut into lines at every
LF, the first line is cut into words, and the lines behind it are header lines up to the first blank
one. What follows belongs to the body of a form, as much of it as the header announces, or else
everything through the first CR LF. The first line needs two words, and then everything
percent-encoded has to decode. There is nothing else that a request can get wrong: lines without a
colon, pairs without an equals sign, lengths that are no numbers and further words are passed over.

## Main definitions

* `RawRequest`, `RawRequest.ofBytes`: bytes cut into the parts of a request.
* `RawRequest.body`, `RawRequest.texts`, `RawRequest.request`: the body, what is to be decoded, and
  what it stands for.

## Main results

* `Part.cut_block`, `Head.cut_bodyPart`: the parts that the reading cuts off.
* `Request.ofBytes_eq_outcome`: bytes that are all at hand.
* `Request.read_grammar`: which errors there are, and when, and what is read otherwise.
-/

namespace HttpServer

open Percent (error? decoded)

/-- A request on the wire, cut into its parts. -/
structure RawRequest where
  /-- The first line. -/
  line : Text
  /-- The header lines. -/
  lines : List Bytes
  /-- What follows the head. -/
  rest : Bytes

namespace RawRequest

/-- The parts of a byte string: its line up to the first LF, the header lines behind it, and what
stands behind the first blank one of these. -/
def ofBytes (s : Bytes) : RawRequest :=
  let lines := (splitOn 0x0A s).tail
  ⟨lineText (before 0x0A s), headerLines lines,
    [0x0A].intercalate (lines.drop ((headerLines lines).length + 1))⟩

variable (raw : RawRequest)

/-- The header fields. -/
def fields : Fields :=
  Fields.ofLines raw.lines

/-- The body. Only a form has one: as many bytes as the header announces, or else everything through
the first CR LF, and in either case what there is of it. -/
def body (method : Method) : Bytes :=
  if method = .post then
    match raw.fields.contentLength? with
    | some n => raw.rest.take n
    | none =>
      match splitOncePair? 0x0D 0x0A raw.rest with
      | some (body, _) => body ++ [0x0D, 0x0A]
      | none => raw.rest
  else []

/-- Everything that is to be decoded, in order: of the query string the trimmed key and the value of
each pair, then the path, then those of the pairs of the form. -/
def texts (method : Method) (target : Text) : List Text :=
  Target.texts target ++ Params.pairTexts (Head.rawForm (raw.body method))

/-- What the parts stand for if everything decodes. -/
def request (method : Method) (target : Text) : Request :=
  ⟨method, decoded (Target.rawPath target),
    .ofList (Params.decodedPairs (Target.rawQuery target) ++
      Params.decodedPairs (Head.rawForm (raw.body method))),
    raw.fields, raw.body method⟩

/-- What the parts come to. -/
def outcome : Except RequestError Request :=
  match raw.line.words with
  | [] => .error .missingMethod
  | [_] => .error .missingTarget
  | method :: target :: _ =>
    match (raw.texts (.ofToken method) target).findSome? error? with
    | some e => .error (.decode e)
    | none => .ok (raw.request (.ofToken method) target)

end RawRequest

namespace RawRequest

/-- The four things that the parts can come to. -/
theorem outcome_cases (raw : RawRequest) :
    (raw.line.words = [] ∧ raw.outcome = .error .missingMethod) ∨
    (∃ method, raw.line.words = [method] ∧ raw.outcome = .error .missingTarget) ∨
    ∃ method target more, raw.line.words = method :: target :: more ∧
      ((∃ e, (raw.texts (.ofToken method) target).findSome? error? = some e ∧
          raw.outcome = .error (.decode e)) ∨
        ((raw.texts (.ofToken method) target).findSome? error? = none ∧
          raw.outcome = .ok (raw.request (.ofToken method) target))) := by
  rw [outcome]
  generalize raw.line.words = words
  obtain _ | ⟨method, _ | ⟨target, more⟩⟩ := words
  · exact .inl ⟨rfl, rfl⟩
  · exact .inr (.inl ⟨method, rfl, rfl⟩)
  · refine .inr (.inr ⟨method, target, more, rfl, ?_⟩)
    cases h : (raw.texts (.ofToken method) target).findSome? error? with
    | some e => exact .inl ⟨e, rfl, by simp only [h]⟩
    | none => exact .inr ⟨rfl, by simp only [h]⟩

theorem words_ofBytes_nil : (ofBytes []).line.words = [] :=
  Text.words_nil

end RawRequest

/-! ### The header block and the body -/

/-- **The header block** goes up to the first blank line. -/
theorem Part.cut_block (s : Bytes) :
    Fields.ofBlock (cut (block []) s).1 = Fields.ofLines (headerLines (splitOn 0x0A s)) ∧
      (cut (block []) s).2 =
        [0x0A].intercalate ((splitOn 0x0A s).drop ((headerLines (splitOn 0x0A s)).length + 1)) := by
  obtain ⟨lines, hlines, ⟨blank, rest, hblank, rfl⟩ | ⟨last, hlast, rfl⟩⟩ := exists_lines s
  · rw [(filledBy_block hlines hblank).cut_append, splitOn_blockBytes hlines hblank,
      headerLines_block hlines hblank]
    refine ⟨Fields.ofBlock_blockBytes hlines hblank, ?_⟩
    rw [List.drop_length_add_append, List.drop_one, List.tail_cons, intercalate_splitOn]
  · have hlf : ∀ l ∈ lines, (0x0A : UInt8) ∉ l := fun l hl => (hlines l hl).lf
    obtain ⟨hsize, hafter⟩ := size?_block_lines hlines
    have hopen : (block []).size? (lines.flatMap (fun l => l ++ [0x0A]) ++ last) = none := by
      rw [size?_append_of_none hsize, hafter, size?_block_of_notMem hlast, Option.map_none]
    have hsplit : splitOn 0x0A (lines.flatMap (fun l => l ++ [0x0A]) ++ last) =
        lines ++ [last] := by
      rw [splitOn_flatMap_append hlf, splitOn_of_notMem hlast]
    rw [cut_of_none hopen]
    refine ⟨Fields.ofBlock_eq _, ?_⟩
    rw [hsplit, headerLines_append hlines, List.drop_eq_nil_of_le, List.intercalate_nil]
    rw [List.length_append, List.length_append, List.length_singleton]
    omega

/-- **The body** that is cut off behind a head. -/
theorem Head.cut_bodyPart {h : Head} {raw : RawRequest} (hpost : h.method = .post)
    (hfields : h.fields = raw.fields) : (h.bodyPart.cut raw.rest).1 = raw.body h.method := by
  rw [RawRequest.body, if_pos hpost, bodyPart, hfields]
  cases raw.fields.contentLength? with
  | some n =>
    simp only
    rw [Part.cut, Part.size?_count]
    by_cases hn : n ≤ raw.rest.length
    · rw [if_pos hn]
    · rw [if_neg hn, List.take_of_length_le (by omega)]
  | none =>
    simp only
    rcases exists_crLf raw.rest with ⟨t, rest, ht, hrest⟩ | hnone
    · obtain ⟨u, rfl, hu⟩ := ht
      have hsplit : splitOncePair? 0x0D 0x0A (u ++ [0x0D, 0x0A] ++ rest) = some (u, rest) := by
        rw [List.append_assoc]
        exact splitOncePair?_append hu rest
      rw [hrest, (Part.filledBy_crlf ⟨u, rfl, hu⟩).cut_append, hsplit]
    · rw [Part.cut_of_none (Part.size?_crlf hnone).1, splitOncePair?_eq_none hnone]

/-! ### Bytes that are all at hand -/

/-- The head of some bytes that are not empty. -/
theorem Head.exists_ofBytes {s : Bytes} (hs : s ≠ []) : ∃ rest, ofBytes s =
    match parseLine (RawRequest.ofBytes s).line with
    | .error e => (.error e, rest)
    | .ok (method, path, params) =>
      (.ok ⟨method, path, params, (RawRequest.ofBytes s).fields⟩, (RawRequest.ofBytes s).rest) := by
  by_cases hlf : (0x0A : UInt8) ∈ s
  · obtain ⟨first, t, rfl, hfirst⟩ := List.eq_append_cons_of_mem hlf
    have hline : (RawRequest.ofBytes (first ++ 0x0A :: t)).line = lineText first :=
      congrArg lineText (before_append hfirst t)
    have htail : (splitOn 0x0A (first ++ 0x0A :: t)).tail = splitOn 0x0A t := by
      rw [splitOn_append, splitOn_of_notMem hfirst]
      rfl
    obtain ⟨hfields, hrest⟩ := Part.cut_block t
    rw [← htail] at hfields hrest
    have hcons : first ++ 0x0A :: t = first ++ [0x0A] ++ t := by simp
    refine ⟨t, ?_⟩
    rw [hline]
    conv_lhs => rw [hcons, ofBytes_line hfirst, hfields, hrest]
    rfl
  · have hbefore : before 0x0A s = s :=
      List.takeWhile_eq_self_iff.2 fun b hb => decide_eq_true fun h => hlf (h ▸ hb)
    have hline : (RawRequest.ofBytes s).line = lineText s := congrArg lineText hbefore
    have htail : (splitOn 0x0A s).tail = [] := by
      rw [splitOn_of_notMem hlf]
      rfl
    have hfields : (RawRequest.ofBytes s).fields = .ofBlock [] := by
      rw [RawRequest.fields, RawRequest.ofBytes, htail]
      rfl
    have hrest : (RawRequest.ofBytes s).rest = [] := by
      rw [RawRequest.ofBytes, htail]
      rfl
    refine ⟨[], ?_⟩
    rw [hline, hfields, hrest, ofBytes, Part.cut_of_none (Part.size?_line_of_notMem hlf)]
    cases s with
    | nil => exact absurd rfl hs
    | cons b s => rfl

namespace Request

/-- A request that is read with its body, if it is a form. -/
theorem ofBytes_of_head {s : Bytes} {h : Head} {rest : Bytes} {raw : RawRequest}
    (hs : Head.ofBytes s = (.ok h, rest)) (hfields : h.fields = raw.fields)
    (hrest : raw.rest = rest) : (ofBytes s).1 = h.withForm (raw.body h.method) := by
  rw [ofBytes_eq, hs]
  by_cases hpost : h.method = .post
  · simp only [if_pos hpost]
    rw [← hrest, Head.cut_bodyPart hpost hfields]
  · simp only [if_neg hpost]
    rw [RawRequest.body, if_neg hpost, Head.withForm_nil]

/-- **Bytes that are all at hand** come to what their parts come to. -/
theorem ofBytes_eq_outcome {s : Bytes} (hs : s ≠ []) :
    (ofBytes s).1 = (RawRequest.ofBytes s).outcome := by
  obtain ⟨rest, hhead⟩ := Head.exists_ofBytes hs
  generalize RawRequest.ofBytes s = raw at hhead ⊢
  rw [Head.parseLine_eq] at hhead
  rw [RawRequest.outcome]
  generalize raw.line.words = words at hhead ⊢
  obtain _ | ⟨method, _ | ⟨target, more⟩⟩ := words
  · rw [ofBytes_eq, hhead]
  · rw [ofBytes_eq, hhead]
  · simp only at hhead ⊢
    rw [RawRequest.texts, List.findSome?_append]
    cases htarget : (Target.texts target).findSome? error? with
    | some e =>
      rw [htarget] at hhead
      rw [ofBytes_eq, hhead]
      rfl
    | none =>
      rw [htarget] at hhead
      rw [ofBytes_of_head hhead rfl rfl, Head.withForm_eq, Option.none_or]
      cases (Params.pairTexts (Head.rawForm (raw.body (.ofToken method)))).findSome? error? with
      | some e => rfl
      | none =>
        rw [RawRequest.request, Params.ofList, Params.ofList, List.foldl_append]
        rfl

/-- **The grammar of requests.** Of a client that sends some bytes and then no more, and in time,
nothing is read exactly if there is no byte. Otherwise the first line decides: it may have no word,
or only one. If it has two, the first text that does not decode is the error, and if all texts
decode a request is read, with what its parts stand for. No read fails, no deadline passes and
nobody waits in vain, and it is the request at the start of the bytes that is read. -/
theorem read_grammar (head : Nat) (idle : Option Nat) (i : Input) (hsmooth : i.Smooth)
    (hline : ¬LateLine { head, idle } i) (hhead : ¬LateHead { head, idle } i)
    (hform : ¬LateForm { head, idle } i) :
    let s := i.unread
    let raw := RawRequest.ofBytes s
    let words := raw.line.words
    let result := (read { head, idle } i).1
    (result = .error .closed ↔ s = []) ∧
    (result = .error .missingMethod ↔ s ≠ [] ∧ words = []) ∧
    (result = .error .missingTarget ↔ ∃ method, words = [method]) ∧
    (∀ e, result = .error (.decode e) ↔ ∃ method target more,
      words = method :: target :: more ∧
        (raw.texts (.ofToken method) target).findSome? error? = some e) ∧
    (∀ r, result = .ok r ↔ ∃ method target more,
      words = method :: target :: more ∧
        (raw.texts (.ofToken method) target).findSome? error? = none ∧
        r = raw.request (.ofToken method) target) ∧
    (∀ fault, result ≠ .error (.io fault)) ∧ (∀ stage, result ≠ .error (.timedOut stage)) ∧
    result ≠ .error .abandoned ∧ result = (ofBytes s).1 := by
  intro s raw words result
  have hresult : result = (ofBytes s).1 := by
    obtain ⟨j, hj, -⟩ := readFreely_of_smooth hsmooth
    show (read { head, idle } i).1 = _
    rw [read_of_inTime rfl hline hhead hform, hj]
  by_cases hs : s = []
  · have hclosed : result = .error .closed := by rw [hresult, hs]; rfl
    have hwords : words = [] := by
      show (RawRequest.ofBytes s).line.words = []
      rw [hs, RawRequest.words_ofBytes_nil]
    rw [← hresult]
    simp [hclosed, hwords, hs]
  · have houtcome : result = raw.outcome := hresult.trans (ofBytes_eq_outcome hs)
    rw [← hresult]
    rcases raw.outcome_cases with ⟨hw, ho⟩ | ⟨method, hw, ho⟩ |
      ⟨method, target, more, hw, ⟨e, he, ho⟩ | ⟨hn, ho⟩⟩
    · simp [houtcome, ho, words, hw, hs]
    · simp [houtcome, ho, words, hw, hs]
    · simp [houtcome, ho, words, hw, hs, he, -List.findSome?_eq_none_iff]
    · simp [houtcome, ho, words, hw, hs, hn, eq_comm, -List.findSome?_eq_none_iff]

/-- Lines, pairs and words that say nothing, a length that is no number of 64 bits, and a body
through its first CR LF, behind which nothing is decoded. -/
theorem read_grammar_form :
    let s := Utf8.encode ("POST /a%20b?x=%41&y HTTP/1.0 z\r\nno colon\r\n".toList ++
      "Content-Length: 99999999999999999999\r\n\r\nk=%42&l\r\nm=%zz".toList)
    let i := Input.ofBytes s
    ¬LateLine {} i ∧ ¬LateHead {} i ∧ ¬LateForm {} i ∧ ∃ r, (read {} i).1 = .ok r ∧
      r.method = .post ∧ r.path = "/a b".toList ∧
      r.params.entries = [("x".toList, "A".toList), ("k".toList, "B".toList)] ∧
      r.body = Utf8.encode "k=%42&l\r\n".toList := by
  intro s i
  have hsmooth : i.Smooth := List.forall_mem_nil _
  obtain ⟨hline, hhead, hform⟩ :=
    not_late_of_span_le (d := {}) hsmooth (Nat.zero_le _) fun _ _ => Nat.zero_le _
  obtain ⟨-, -, -, -, hok, -⟩ := read_grammar 5000 none i hsmooth hline hhead hform
  let raw := RawRequest.ofBytes i.unread
  have hwords : raw.line.words = ["POST".toList, "/a%20b?x=%41&y".toList, "HTTP/1.0".toList,
      "z".toList] := by decide +kernel
  have hdecodes : (raw.texts (.ofToken "POST".toList) "/a%20b?x=%41&y".toList).findSome?
      error? = none := by decide +kernel
  exact ⟨hline, hhead, hform, raw.request .post "/a%20b?x=%41&y".toList,
    (hok _).2 ⟨_, _, _, hwords, hdecodes, rfl⟩, rfl, by decide +kernel, by decide +kernel,
    by decide +kernel⟩

end Request

end HttpServer
