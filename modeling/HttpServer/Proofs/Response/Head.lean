import HttpServer.Calendar.Timestamp
import HttpServer.Proofs.Request.RoundTrip
import HttpServer.Proofs.Text.Separator
import HttpServer.Response.Basic
import HttpServer.Response.Reply

/-!
# Heads of responses are read back

The head of a response is its status line and one line for each header field, and a blank line
behind them. Names and values are written as they are. As long as they keep to their lines, that is
as long as there is no CR or LF in them, the first blank line of a response is the one that ends
its head, whatever the body is; the lines between are told apart by their CR LF, and a field by the
first colon with a space behind it, if its name has no colon. So nothing that a response says is
lost or can be taken for something else. Only a first field that is itself named `Content-Type`
looks like a media type.

## Main definitions

* `Text.OneLine`: texts without a line end.
* `headBytes`: a status and some header fields as they are sent.
* `Response.OnLines`, `Response.HasDate`: responses that keep to their lines, and those that bear a
  date of their own.

## Main results

* `Reply.ofBytes?_headBytes`: the first blank line ends the head.
* `headBytes_inj`: a head is told by its bytes.
* `Response.head_readBack`: what is read from a response.
-/

namespace HttpServer

/-! ### Texts on one line -/

namespace Text

/-- There is no line end in the text. -/
def OneLine (t : Text) : Prop :=
  ∀ c ∈ t, c ≠ '\r' ∧ c ≠ '\n'

theorem oneLine_iff_all {t : Text} :
    OneLine t ↔ (t.all fun c => c != '\r' && c != '\n') = true := by
  simp [OneLine]

instance : DecidablePred OneLine := fun _ => decidable_of_iff _ oneLine_iff_all.symm

@[simp] theorem oneLine_nil : OneLine [] :=
  List.forall_mem_nil _

@[simp] theorem oneLine_cons {c : Char} {t : Text} :
    OneLine (c :: t) ↔ (c ≠ '\r' ∧ c ≠ '\n') ∧ OneLine t :=
  List.forall_mem_cons

@[simp] theorem oneLine_append {s t : Text} : OneLine (s ++ t) ↔ OneLine s ∧ OneLine t :=
  List.forall_mem_append

/-- A line end is white space. -/
theorem Solid.oneLine {t : Text} (h : Solid t) : OneLine t := by
  intro c hc
  refine ⟨?_, ?_⟩
  · rintro rfl
    exact absurd (h _ hc) (by decide)
  · rintro rfl
    exact absurd (h _ hc) (by decide)

theorem OneLine.cr_notMem_bytes {t : Text} (h : OneLine t) : 0x0D ∉ t.bytes := fun hm =>
  (h _ ((Utf8.mem_encode_iff_of_ascii (c := '\r') (by decide)).1 hm)).1 rfl

end Text

open Text (OneLine)

/-! ### The date -/

namespace Timestamp

theorem oneLine_decimalPadded (width n : Nat) : OneLine (decimalPadded width n) := by
  intro c hc
  rcases List.mem_append.1 hc with hc | hc
  · rw [(List.mem_replicate.1 hc).2]
    decide
  · exact (solid_decimal n).oneLine c hc

theorem oneLine_yearText (year : Int) : OneLine (yearText year) := by
  have hpadded := oneLine_decimalPadded 4 year.natAbs
  rw [yearText]
  split
  · simpa using hpadded
  · split
    · exact hpadded
    · simpa using hpadded

theorem oneLine_getD {names : List Text} (h : ∀ t ∈ names, OneLine t) (n : Nat) :
    OneLine (names[n]?.getD []) := by
  cases hn : names[n]? with
  | none => exact Text.oneLine_nil
  | some t => exact h t (List.mem_of_getElem? hn)

/-- The text of an instant stands on one line. -/
theorem oneLine_dateText (t : Timestamp) : OneLine t.dateText := by
  have hweekday : ∀ n, OneLine (weekdays[n]?.getD []) := oneLine_getD (by decide)
  have hmonth : ∀ n, OneLine (months[n]?.getD []) := oneLine_getD (by decide)
  simp [dateText, hweekday, hmonth, oneLine_decimalPadded, oneLine_yearText]

end Timestamp

/-! ### The first blank line -/

namespace Reply

/-- Bytes without a CR are part of the head. -/
theorem ofBytes?_append {l : Bytes} (h : 0x0D ∉ l) (s : Bytes) :
    ofBytes? (l ++ s) = (ofBytes? s).map fun r => { r with head := l ++ r.head } := by
  induction l with
  | nil => simp
  | cons b l ih =>
    obtain ⟨hb, hl⟩ := not_or.1 fun hm => h (List.mem_cons.2 hm)
    have hlead : dropLead? blankLine (b :: (l ++ s)) = none := by
      rw [blankLine, dropLead?, if_neg hb]
    rw [List.cons_append, ofBytes?, hlead, ih hl, Option.map_map]
    rfl

/-- A line end in front of another line is part of the head. -/
theorem ofBytes?_crlf {b : UInt8} (hb : b ≠ 0x0D) (s : Bytes) :
    ofBytes? (0x0D :: 0x0A :: b :: s) =
      (ofBytes? (b :: s)).map fun r => { r with head := 0x0D :: 0x0A :: r.head } := by
  have hlead : dropLead? blankLine (0x0D :: 0x0A :: b :: s) = none := by
    simp [blankLine, dropLead?, Ne.symm hb]
  have hlf := ofBytes?_append (l := [0x0A]) (by decide) (b :: s)
  rw [List.singleton_append] at hlf
  rw [ofBytes?, hlead, hlf, Option.map_map]
  rfl

/-- Lines that are not empty and have no CR are followed by the first blank line. -/
theorem ofBytes?_lines {lines : List Bytes} (hne : lines ≠ [])
    (h : ∀ l ∈ lines, l ≠ [] ∧ 0x0D ∉ l) (body : Bytes) :
    ofBytes? (lines.flatMap (fun l => l ++ [0x0D, 0x0A]) ++ [0x0D, 0x0A] ++ body) =
      some ⟨lines.flatMap (fun l => l ++ [0x0D, 0x0A]) ++ [0x0D, 0x0A], body⟩ := by
  induction lines with
  | nil => exact absurd rfl hne
  | cons l lines ih =>
    obtain ⟨-, hcr⟩ := h l List.mem_cons_self
    cases lines with
    | nil =>
      have hbytes : [l].flatMap (fun l => l ++ [0x0D, 0x0A]) ++ [0x0D, 0x0A] = l ++ blankLine := by
        simp [blankLine]
      have hblank : ofBytes? (blankLine ++ body) = some ⟨blankLine, body⟩ := by
        show ofBytes? (0x0D :: ([0x0A, 0x0D, 0x0A] ++ body)) = _
        rw [ofBytes?]
        have hlead := dropLead?_append blankLine body
        simp only [blankLine, List.cons_append, List.nil_append] at hlead ⊢
        rw [hlead]
      rw [hbytes, List.append_assoc, ofBytes?_append hcr, hblank, Option.map_some]
    | cons m lines =>
      have hrest := ih (List.cons_ne_nil m lines) fun k hk => h k (List.mem_cons_of_mem l hk)
      obtain ⟨hm, hmcr⟩ := h m (List.mem_cons_of_mem l List.mem_cons_self)
      generalize hs : (m :: lines).flatMap (fun l => l ++ [0x0D, 0x0A]) ++ [0x0D, 0x0A] = s at hrest
      -- The next line starts with a byte that is no CR, so the line end is not a blank line.
      obtain ⟨b, s', hb, rfl⟩ : ∃ b s', b ≠ 0x0D ∧ s = b :: s' := by
        cases m with
        | nil => exact absurd rfl hm
        | cons b m => exact ⟨b, _, fun h => hmcr (h ▸ List.mem_cons_self), hs.symm⟩
      have hbytes : (l :: m :: lines).flatMap (fun l => l ++ [0x0D, 0x0A]) ++ [0x0D, 0x0A] =
          l ++ 0x0D :: 0x0A :: b :: s' := by
        rw [← hs]
        simp
      rw [List.cons_append] at hrest
      rw [hbytes, List.append_assoc, ofBytes?_append hcr]
      simp only [List.cons_append]
      rw [ofBytes?_crlf hb, hrest]
      rfl

end Reply

/-! ### Heads -/

theorem lineBytes_eq (t : Text) : lineBytes t = Utf8.encode (t ++ "\r\n".toList) :=
  (Utf8.encode_append t "\r\n".toList).symm

theorem fieldBlock_eq (fields : List (Text × Text)) :
    fieldBlock fields = Utf8.encode (fields.flatMap Response.headerLine ++ "\r\n".toList) := by
  have hline : ∀ f, lineBytes (fieldLine f) = Utf8.encode (Response.headerLine f) := by
    intro f
    rw [lineBytes_eq, fieldLine, Response.headerLine, List.append_assoc f.1 ": ".toList]
    rfl
  have hlines : fields.flatMap (fun f => lineBytes (fieldLine f)) =
      Utf8.encode (fields.flatMap Response.headerLine) := by
    rw [Utf8.encode, List.flatMap_assoc]
    exact List.flatMap_congr fun f _ => hline f
  rw [fieldBlock, hlines, Utf8.encode_append]
  rfl

/-- The first line of a response. -/
def Status.headLine (s : Status) : Text :=
  "HTTP/1.0 ".toList ++ s.line

/-- A head with this status and these header fields, as it is sent. -/
def headBytes (status : Status) (fields : List (Text × Text)) : Bytes :=
  lineBytes status.headLine ++ fieldBlock fields

theorem Response.head_eq (r : Response) (date : Text) :
    r.head date = headBytes r.status (r.sentFields date) := by
  have htext : r.headText date = r.status.headLine ++ "\r\n".toList ++
      ((r.sentFields date).flatMap headerLine ++ "\r\n".toList) := List.append_assoc _ _ _
  rw [head, htext, Utf8.encode_append, headBytes, lineBytes_eq, fieldBlock_eq]

/-- The lines of a head. -/
theorem headBytes_eq (status : Status) (fields : List (Text × Text)) :
    headBytes status fields =
      ((status.headLine :: fields.map fieldLine).map Utf8.encode).flatMap
        (fun l => l ++ [0x0D, 0x0A]) ++ [0x0D, 0x0A] := by
  simp [headBytes, lineBytes, fieldBlock, List.flatMap_map]

namespace Status

theorem oneLine_line (s : Status) : OneLine s.line := by
  have hreason : OneLine s.reason := by cases s <;> decide
  rw [line, Text.oneLine_append, Text.oneLine_cons]
  exact ⟨(solid_decimal s.code).oneLine, by decide, hreason⟩

theorem oneLine_headLine (s : Status) : OneLine s.headLine :=
  Text.oneLine_append.2 ⟨by decide, s.oneLine_line⟩

/-- A status is told by its line. -/
theorem headLine_injective {s t : Status} (h : s.headLine = t.headLine) : s = t := by
  have hcode : ∀ u : Status, before ' ' u.line = decimal u.code := fun u =>
    before_append (fun hm => absurd (solid_decimal u.code _ hm) (by decide)) u.reason
  have hdecimal : decimal s.code = decimal t.code := by
    rw [← hcode s, ← hcode t, List.append_cancel_left h]
  have hle : ∀ u : Status, u.code ≤ maxU64 := fun u => by cases u <;> decide
  have hread := congrArg readU64? hdecimal
  rw [readU64?_decimal, readU64?_decimal, if_pos (hle s), if_pos (hle t)] at hread
  exact code_injective (Option.some.inj hread)

end Status

/-- A header field that keeps to its line. -/
def FieldOnLine (f : Text × Text) : Prop :=
  OneLine f.1 ∧ OneLine f.2

instance : DecidablePred FieldOnLine := fun f =>
  inferInstanceAs (Decidable (OneLine f.1 ∧ OneLine f.2))

theorem oneLine_fieldLine {f : Text × Text} (h : FieldOnLine f) : OneLine (fieldLine f) := by
  simp [fieldLine, h.1, h.2]

section Lines

variable {status : Status} {fields : List (Text × Text)} (h : ∀ f ∈ fields, FieldOnLine f)
include h

theorem oneLine_of_mem_head {t : Text} (ht : t ∈ status.headLine :: fields.map fieldLine) :
    OneLine t := by
  rcases List.mem_cons.1 ht with rfl | ht
  · exact status.oneLine_headLine
  · obtain ⟨f, hf, rfl⟩ := List.mem_map.1 ht
    exact oneLine_fieldLine (h f hf)

theorem cr_notMem_of_mem_head {l : Bytes}
    (hl : l ∈ (status.headLine :: fields.map fieldLine).map Utf8.encode) : 0x0D ∉ l := by
  obtain ⟨t, ht, rfl⟩ := List.mem_map.1 hl
  exact (oneLine_of_mem_head h ht).cr_notMem_bytes

/-- **The first blank line ends the head**, whatever the body is. -/
theorem Reply.ofBytes?_headBytes (body : Bytes) :
    ofBytes? (headBytes status fields ++ body) = some ⟨headBytes status fields, body⟩ := by
  have hne : ∀ l ∈ (status.headLine :: fields.map fieldLine).map Utf8.encode, l ≠ [] := by
    intro l hl
    obtain ⟨t, ht, rfl⟩ := List.mem_map.1 hl
    refine Utf8.encode_ne_nil ?_
    rcases List.mem_cons.1 ht with rfl | ht
    · exact List.cons_ne_nil _ _
    · obtain ⟨f, -, rfl⟩ := List.mem_map.1 ht
      exact List.append_ne_nil_of_right_ne_nil _ (List.cons_ne_nil _ _)
  rw [headBytes_eq]
  exact ofBytes?_lines (List.cons_ne_nil _ _) (fun l hl => ⟨hne l hl, cr_notMem_of_mem_head h hl⟩)
    body

/-- The lines of a head are told apart by their ends. -/
theorem splitOnPair_headBytes :
    splitOnPair 0x0D 0x0A (headBytes status fields) =
      (status.headLine :: fields.map fieldLine).map Utf8.encode ++ [[], []] := by
  have hcr : ∀ l ∈ (status.headLine :: fields.map fieldLine).map Utf8.encode ++ [[]],
      (0x0D : UInt8) ∉ l := by
    intro l hl
    rcases List.mem_append.1 hl with hl | hl
    · exact cr_notMem_of_mem_head h hl
    · rw [List.mem_singleton.1 hl]
      exact List.not_mem_nil
  have hsplit := splitOnPair_flatMap hcr (y := 0x0A) (by decide)
  rw [List.flatMap_append, List.append_assoc _ [[]] [[]]] at hsplit
  rw [headBytes_eq]
  exact hsplit

end Lines

/-- A field is told from its line by the first colon with a space behind it. -/
theorem splitOncePair?_fieldLine {f : Text × Text} (h : ':' ∉ f.1) :
    splitOncePair? ':' ' ' (fieldLine f) = some f :=
  splitOncePair?_append (not_infix_of_notMem h (by decide)) f.2

/-- **A head is told by its bytes.** -/
theorem headBytes_inj {status status' : Status} {fields fields' : List (Text × Text)}
    (h : ∀ f ∈ fields, FieldOnLine f ∧ ':' ∉ f.1) (h' : ∀ f ∈ fields', FieldOnLine f ∧ ':' ∉ f.1)
    (heq : headBytes status fields = headBytes status' fields') :
    status = status' ∧ fields = fields' := by
  have hlines := congrArg (splitOnPair 0x0D 0x0A) heq
  rw [splitOnPair_headBytes fun f hf => (h f hf).1,
    splitOnPair_headBytes fun f hf => (h' f hf).1] at hlines
  have htexts := List.map_injective_iff.2 (fun _ _ => Utf8.encode_injective)
    (List.append_cancel_right hlines)
  obtain ⟨hstatus, hfields⟩ := List.cons.inj htexts
  have hread : ∀ fs : List (Text × Text), (∀ f ∈ fs, FieldOnLine f ∧ ':' ∉ f.1) →
      (fs.map fieldLine).map (splitOncePair? ':' ' ') = fs.map some := fun fs hfs => by
    rw [List.map_map]
    exact List.map_congr_left fun f hf => splitOncePair?_fieldLine (hfs f hf).2
  refine ⟨Status.headLine_injective hstatus, ?_⟩
  have hsome := congrArg (List.map (splitOncePair? ':' ' ')) hfields
  rw [hread fields h, hread fields' h'] at hsome
  exact List.map_injective_iff.2 (Option.some_injective _) hsome

/-! ### Responses -/

namespace Response

/-- The media type and the header fields of the response keep to their lines, and no name of a
header field has a colon. -/
structure OnLines (r : Response) : Prop where
  mime : ∀ m ∈ r.mime, OneLine m
  headers : ∀ f ∈ r.headers, FieldOnLine f ∧ ':' ∉ f.1

/-- The handler has set a date, with its name in any case. -/
def HasDate (r : Response) : Prop :=
  ∃ f ∈ r.headers, Text.sameIgnoringCase f.1 "Date".toList

instance : DecidablePred HasDate := fun r =>
  inferInstanceAs (Decidable (∃ f ∈ r.headers, Text.sameIgnoringCase f.1 "Date".toList))

theorem dateField_eq (r : Response) (date : Text) :
    r.dateField date = if r.HasDate then [] else [("Date".toList, date)] := by
  by_cases h : r.HasDate
  · obtain ⟨f, hf⟩ := Option.isSome_iff_exists.1 (List.find?_isSome.2 h)
    rw [dateField, header?, hf, if_pos h, Option.map_some]
  · have hnone : r.headers.find? (fun f => Text.sameIgnoringCase f.1 "Date".toList) = none :=
      List.find?_eq_none.2 fun f hf hd => h ⟨f, hf, hd⟩
    rw [dateField, header?, hnone, if_neg h, Option.map_none]

theorem mimeField_eq (r : Response) :
    r.mimeField = r.mime.toList.map ("Content-Type".toList, ·) := by
  rw [mimeField]
  cases r.mime <;> rfl

theorem sentFields_eq (r : Response) (date : Text) :
    r.sentFields date = r.mime.toList.map ("Content-Type".toList, ·) ++
      (if r.HasDate then [] else [("Date".toList, date)]) ++ r.headers := by
  rw [sentFields, mimeField_eq, dateField_eq]

/-- Everything that is sent keeps to its line, if the date does. -/
theorem OnLines.sentFields {r : Response} (h : r.OnLines) {date : Text} (hdate : OneLine date) :
    ∀ f ∈ r.sentFields date, FieldOnLine f ∧ ':' ∉ f.1 := by
  intro f hf
  rw [sentFields_eq] at hf
  rcases List.mem_append.1 hf with hf | hf
  · rcases List.mem_append.1 hf with hf | hf
    · obtain ⟨m, hm, rfl⟩ := List.mem_map.1 hf
      exact ⟨⟨(by decide : OneLine "Content-Type".toList), h.mime m (Option.mem_toList.1 hm)⟩,
        (by decide : ':' ∉ "Content-Type".toList)⟩
    · split at hf
      · exact absurd hf List.not_mem_nil
      · rw [List.mem_singleton.1 hf]
        exact ⟨⟨(by decide : OneLine "Date".toList), hdate⟩, (by decide : ':' ∉ "Date".toList)⟩
  · exact h.headers f hf

/-- The media type and the header fields are told from the fields in turn, unless the first header
field looks like a media type that the other response has. -/
theorem mime_headers_of_append {m m' : Option Text} {hs hs' : List (Text × Text)}
    (h : m.toList.map ("Content-Type".toList, ·) ++ hs =
      m'.toList.map ("Content-Type".toList, ·) ++ hs')
    (hfirst : m.isSome ∧ m'.isSome ∨ (∀ f ∈ hs.head?, f.1 ≠ "Content-Type".toList) ∧
      ∀ f ∈ hs'.head?, f.1 ≠ "Content-Type".toList) :
    m = m' ∧ hs = hs' := by
  cases m with
  | none =>
    cases m' with
    | none => exact ⟨rfl, h⟩
    | some m' =>
      rcases hfirst with ⟨hm, -⟩ | ⟨hhead, -⟩
      · cases hm
      · subst h
        exact absurd rfl (hhead _ rfl)
  | some m =>
    cases m' with
    | none =>
      rcases hfirst with ⟨-, hm⟩ | ⟨-, hhead⟩
      · cases hm
      · subst h
        exact absurd rfl (hhead _ rfl)
    | some m' =>
      obtain ⟨hm, hhs⟩ := List.cons.inj h
      exact ⟨congrArg some (Prod.mk.inj hm).2, hhs⟩

/-- **A response is read back.** The first blank line of its head and any body ends the head. The
lines of the head are the status, the media type if there is one, the date unless the handler has
set one, and then all header fields of the handler in their order; each field is told from its line
by the first colon with a space behind it. So two responses with dates of their own that are the
same on the wire have the same status, and the same media type, header fields and body as well if
both have a media type or the first header field of neither is named like one. -/
theorem head_readBack (r : Response) (h : r.OnLines) (t : Timestamp) :
    let head := r.head t.dateText
    let fields := r.mime.toList.map ("Content-Type".toList, ·) ++
      (if r.HasDate then [] else [("Date".toList, t.dateText)]) ++ r.headers
    (∀ body, Reply.ofBytes? (head ++ body) = some ⟨head, body⟩) ∧
    splitOnPair 0x0D 0x0A head =
      (("HTTP/1.0 ".toList ++ r.status.line) :: fields.map fieldLine).map Utf8.encode ++
        [[], []] ∧
    (∀ f ∈ fields, splitOncePair? ':' ' ' (fieldLine f) = some f) ∧
    ∀ (r' : Response) (t' : Timestamp), r'.OnLines → r.HasDate → r'.HasDate →
      r.bytes t.dateText = r'.bytes t'.dateText →
      r.status = r'.status ∧
      (r.mime.isSome ∧ r'.mime.isSome ∨ (∀ f ∈ r.headers.head?, f.1 ≠ "Content-Type".toList) ∧
          (∀ f ∈ r'.headers.head?, f.1 ≠ "Content-Type".toList) →
        r.mime = r'.mime ∧ r.headers = r'.headers ∧ r.body.all = r'.body.all) := by
  intro head fields
  have hsent : r.sentFields t.dateText = fields := r.sentFields_eq t.dateText
  have hhead : head = headBytes r.status fields := hsent ▸ r.head_eq t.dateText
  have hfields : ∀ f ∈ fields, FieldOnLine f ∧ ':' ∉ f.1 :=
    hsent ▸ h.sentFields t.oneLine_dateText
  have hlines : ∀ f ∈ fields, FieldOnLine f := fun f hf => (hfields f hf).1
  refine ⟨fun body => ?_, ?_, fun f hf => splitOncePair?_fieldLine (hfields f hf).2, ?_⟩
  · rw [hhead, Reply.ofBytes?_headBytes hlines]
  · rw [hhead, splitOnPair_headBytes hlines]
    rfl
  · intro r' t' h' hdate hdate' hbytes
    have hfields' := h'.sentFields t'.oneLine_dateText
    -- Both replies are cut at the end of the head, so heads and bodies are the same.
    have hcut := congrArg Reply.ofBytes? hbytes
    rw [bytes, bytes, head_eq, head_eq, hsent, Reply.ofBytes?_headBytes hlines,
      Reply.ofBytes?_headBytes fun f hf => (hfields' f hf).1] at hcut
    obtain ⟨hheads, hbodies⟩ := Reply.mk.inj (Option.some.inj hcut)
    obtain ⟨hstatus, heq⟩ := headBytes_inj hfields hfields' hheads
    refine ⟨hstatus, fun hfirst => ?_⟩
    rw [sentFields_eq, if_pos hdate', List.append_nil] at heq
    simp only [fields, if_pos hdate, List.append_nil] at heq
    obtain ⟨hmime, hheaders⟩ := mime_headers_of_append heq hfirst
    exact ⟨hmime, hheaders, hbodies⟩

/-- A name without a character, values that start like a separator, and a body that starts like the
end of a head. -/
theorem head_readBack_odd :
    let r : Response := ⟨.ok, none, [("date".toList, "x".toList), ([], ": y".toList),
      ("X".toList, ":".toList)], .bytes blankLine⟩
    let r' := r.withBody (.file ⟨blankLine, 0⟩ 0)
    let date := Timestamp.dateText ⟨784111777, 0⟩
    r.OnLines ∧ r'.OnLines ∧ r.HasDate ∧ r'.HasDate ∧ r.bytes date = r'.bytes date ∧
      Reply.ofBytes? (r.bytes date) = some ⟨r.head date, blankLine⟩ ∧
      (∀ f ∈ r.headers, splitOncePair? ':' ' ' (fieldLine f) = some f) ∧
      r.headers = r'.headers ∧ r.body.all = r'.body.all := by
  intro r r' date
  have hlines : r.OnLines := ⟨by rintro m ⟨⟩, by decide⟩
  have hlines' : r'.OnLines := ⟨by rintro m ⟨⟩, by decide⟩
  have hdate : r.HasDate := by decide
  have hdate' : r'.HasDate := by decide
  have hbytes : r.bytes date = r'.bytes date := rfl
  obtain ⟨hcut, -, hread, htold⟩ := head_readBack r hlines ⟨784111777, 0⟩
  obtain ⟨-, hsame⟩ := htold r' ⟨784111777, 0⟩ hlines' hdate hdate' hbytes
  obtain ⟨-, hheaders, hbody⟩ := hsame (.inr ⟨by decide, by decide⟩)
  exact ⟨hlines, hlines', hdate, hdate', hbytes, hcut blankLine,
    fun f hf => hread f (List.mem_append_right _ hf), hheaders, hbody⟩

end Response

end HttpServer
