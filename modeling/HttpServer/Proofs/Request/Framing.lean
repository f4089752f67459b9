import HttpServer.Proofs.Input.Sequel
import HttpServer.Proofs.Request.RoundTrip

/-!
# Where a request ends

A complete request is a well-formed first line, header lines and a blank line, each with its LF, and
for a form a body, which has as many bytes as its header announces or else goes through its first
CR LF. Reading takes all of it and nothing behind it, whatever that is: what it comes to is told by
the complete request alone (`CompleteRequest.outcome`), and the next reading starts at the very next
byte, even if the form could not be decoded. So requests that are sent one behind the other are read
one after the other. A malformed first line is taken with its LF, and no more than that.

## Main definitions

* `Head.Frames`: the bytes that a head announces as the body.
* `CompleteRequest`, `CompleteRequest.bytes`: complete requests, and the bytes that they are.
* `CompleteRequest.outcome`: what reading one comes to.

## Main results

* `CompleteRequest.readFreely_followedBy`: a complete request in front of anything.
* `Request.readFreely_malformed`: a malformed first line in front of anything.
* `Request.read_pipelined`: what is taken from an input, and one request behind the other.
-/

namespace HttpServer

open Input (Leaves)

/-- The bytes are just what the head announces as the body of a form: a number of bytes, or
everything through the first CR LF. Without a form there are none. -/
def Head.Frames (h : Head) (body : Bytes) : Prop :=
  if h.method = .post then
    match h.fields.contentLength? with
    | some n => body.length = n
    | none => EndsAtCrLf body
  else body = []

/-- A request with everything that belongs to it, as it stands on the wire. -/
structure CompleteRequest where
  /-- The first line, without its LF. -/
  first : Bytes
  /-- The header lines, each without its LF. -/
  lines : List Bytes
  /-- The blank line, without its LF. -/
  blank : Bytes
  /-- The body. -/
  body : Bytes
  /-- The method that the first line names. -/
  method : Method
  /-- The path that the first line names. -/
  path : Text
  /-- The parameters in the first line. -/
  params : Params
  first_lf : 0x0A ∉ first
  first_parse : Head.parseLine (lineText first) = .ok (method, path, params)
  lines_field : ∀ l ∈ lines, IsFieldLine l
  blank_blank : IsBlankLine blank
  body_frames : Head.Frames ⟨method, path, params, .ofLines lines⟩ body

/-- What the head announces as the body fills the part that is read as the body. -/
theorem Head.Frames.filledBy {h : Head} {body : Bytes} (hb : h.Frames body)
    (hpost : h.method = .post) : h.bodyPart.FilledBy body := by
  rw [Frames, if_pos hpost] at hb
  rw [bodyPart]
  cases hlen : h.fields.contentLength? with
  | some n =>
    rw [hlen] at hb
    obtain rfl : body.length = n := hb
    exact Part.filledBy_count body
  | none =>
    rw [hlen] at hb
    exact Part.filledBy_crlf hb

/-- A first line is read with its LF, and judged before anything behind it is read. -/
theorem Head.readUnder_line {i : Input} (h : i.Smooth) {first s : Bytes} (hlf : 0x0A ∉ first)
    (hunread : i.unread = first ++ [0x0A] ++ s) (later : List Event) :
    ∃ j, Leaves i j s ∧ readUnder [] [] (i.followedBy later) =
      match parseLine (lineText first) with
      | .error e => (.error e, j.followedBy later)
      | .ok (method, path, params) =>
        match (j.followedBy later).read (.block []) [] with
        | (.error e, k) => (.error (.ofInterruption e), k)
        | (.ok block, k) => (.ok ⟨method, path, params, .ofBlock block⟩, k) := by
  obtain ⟨j, hj, hleaves⟩ := Input.read_filledBy h (Part.filledBy_line hlf) hunread later
  refine ⟨j, hleaves, ?_⟩
  rw [readUnder, List.append_nil, hj, ← lineText_concat first]
  cases hl : first ++ [0x0A] with
  | nil => exact absurd hl (by simp)
  | cons b line => rfl

/-- **A malformed first line** is taken with its LF, and no more, whatever happens later. -/
theorem Request.readFreely_malformed {i : Input} (h : i.Smooth) {first rest : Bytes}
    (hlf : 0x0A ∉ first) {e : RequestError} (he : Head.parseLine (lineText first) = .error e)
    (hunread : i.unread = first ++ [0x0A] ++ rest) (later : List Event) :
    ∃ j, readFreely (i.followedBy later) = (.error e, j.followedBy later) ∧ Leaves i j rest := by
  obtain ⟨j, hleaves, hj⟩ := Head.readUnder_line h hlf hunread later
  rw [he] at hj
  exact ⟨j, by rw [readFreely, hj], hleaves⟩

namespace CompleteRequest

variable (w : CompleteRequest)

/-- The first line as it is sent. -/
def lineBytes : Bytes := w.first ++ [0x0A]

/-- The header block as it is sent. -/
def block : Bytes := blockBytes w.lines w.blank

/-- All bytes of the request. -/
def bytes : Bytes := w.lineBytes ++ w.block ++ w.body

/-- What the first line and the header say. -/
def head : Head := ⟨w.method, w.path, w.params, .ofLines w.lines⟩

/-- What reading the request comes to: the request, unless it is a form that cannot be decoded. -/
def outcome : Except RequestError Request :=
  if w.head.method = .post then w.head.withForm w.body else .ok w.head.bodiless

theorem body_eq_nil (h : w.head.method ≠ .post) : w.body = [] := by
  have hb : w.head.Frames w.body := w.body_frames
  rwa [Head.Frames, if_neg h] at hb

theorem bytes_eq : w.bytes = w.first ++ [0x0A] ++ (w.block ++ w.body) :=
  List.append_assoc _ _ _

/-! The pieces fill the parts that are read one after the other. -/

theorem filledBy_block : (Part.block []).FilledBy w.block :=
  Part.filledBy_block w.lines_field w.blank_blank

theorem filledBy_body (h : w.head.method = .post) : w.head.bodyPart.FilledBy w.body :=
  w.body_frames.filledBy h

theorem ofBlock_block : Fields.ofBlock w.block = .ofLines w.lines :=
  Fields.ofBlock_blockBytes w.lines_field w.blank_blank

/-- The head of a complete request is read, and its body is left. -/
theorem readUnder_followedBy {i : Input} (h : i.Smooth) {rest : Bytes}
    (hunread : i.unread = w.bytes ++ rest) (later : List Event) :
    ∃ j, Head.readUnder [] [] (i.followedBy later) = (.ok w.head, j.followedBy later) ∧
      Leaves i j (w.body ++ rest) := by
  rw [bytes_eq, List.append_assoc (w.first ++ [0x0A]), List.append_assoc w.block] at hunread
  obtain ⟨j, hleaves, hj⟩ := Head.readUnder_line h w.first_lf hunread later
  obtain ⟨k, hk, hleaves'⟩ :=
    Input.read_filledBy hleaves.smooth w.filledBy_block hleaves.unread later
  refine ⟨k, ?_, hleaves.trans hleaves'⟩
  rw [hj, w.first_parse]
  simp only [hk, ofBlock_block]
  rfl

/-- **A complete request is read as a whole**, and nothing behind it, whatever follows and whatever
happens later. -/
theorem readFreely_followedBy {i : Input} (h : i.Smooth) {rest : Bytes}
    (hunread : i.unread = w.bytes ++ rest) (later : List Event) :
    ∃ j, Request.readFreely (i.followedBy later) = (w.outcome, j.followedBy later) ∧
      Leaves i j rest := by
  obtain ⟨j, hj, hleaves⟩ := w.readUnder_followedBy h hunread later
  rw [Request.readFreely, hj, outcome]
  by_cases hpost : w.head.method = .post
  · obtain ⟨k, hk, hleaves'⟩ :=
      Input.read_filledBy hleaves.smooth (w.filledBy_body hpost) hleaves.unread later
    simp only [if_pos hpost, Request.readFormUnder, hk]
    exact ⟨k, rfl, hleaves.trans hleaves'⟩
  · rw [w.body_eq_nil hpost, List.nil_append] at hleaves
    simp only [if_neg hpost]
    exact ⟨j, rfl, hleaves⟩

theorem outcome_ne_abandoned : w.outcome ≠ .error .abandoned := by
  rw [outcome]
  split
  · intro h
    cases Head.isBadRequest_of_withForm h
  · rintro ⟨⟩

end CompleteRequest

/-! ### What a client sends -/

namespace ClientRequest

variable (w : ClientRequest)

theorem ofLines_sentFields : Fields.ofLines (fieldLines w.sentFields) = w.header :=
  ofLines_fieldLines fun _ hf => w.sendable_of_mem_sentFields hf

/-- What a client sends is a complete request, if the length of its body can be announced. -/
def complete (h : w.body.bytes.length ≤ maxU64) : CompleteRequest where
  first := w.firstLine.bytes ++ [0x0D]
  lines := fieldLines w.sentFields
  blank := [0x0D]
  body := w.body.bytes
  method := .ofToken w.token
  path := w.path
  params := Params.empty.insertAll w.query
  first_lf := lf_notMem w.lf_notMem_firstLine
  first_parse := by
    have hline : w.firstLine.bytes ++ [0x0D] ++ [0x0A] = HttpServer.lineBytes w.firstLine :=
      List.append_assoc _ _ _
    rw [← lineText_concat, hline, w.lineText_firstLine, w.parseLine_firstLine]
  lines_field := isFieldLine_of_mem_fieldLines fun _ hf => w.sendable_of_mem_sentFields hf
  blank_blank := isBlankLine_cr
  body_frames := by
    rw [ofLines_sentFields, Head.Frames]
    by_cases hform : w.IsForm
    · have hpost : Method.ofToken w.token = .post := Method.ofToken_eq_post_iff.2 hform
      simp only [if_pos hpost, w.contentLength?_header, if_pos (And.intro hform h)]
    · have hpost : Method.ofToken w.token ≠ .post := fun hm =>
        hform (Method.ofToken_eq_post_iff.1 hm)
      simp only [if_neg hpost, w.body_eq_nil hform]
      rfl

theorem bytes_complete (h : w.body.bytes.length ≤ maxU64) : (w.complete h).bytes = w.bytes := by
  have hline : (w.complete h).lineBytes = HttpServer.lineBytes w.firstLine :=
    List.append_assoc _ _ _
  have hblock : (w.complete h).block = fieldBlock w.sentFields :=
    blockBytes_fieldLines w.sentFields
  rw [CompleteRequest.bytes, hline, hblock]
  rfl

theorem outcome_complete (h : w.body.bytes.length ≤ maxU64) :
    (w.complete h).outcome = .ok w.received := by
  have hhead : (w.complete h).head = w.head := by
    rw [CompleteRequest.head, head, ← ofLines_sentFields]
    rfl
  rw [CompleteRequest.outcome, hhead]
  by_cases hform : w.IsForm
  · have hpost : w.head.method = .post := Method.ofToken_eq_post_iff.2 hform
    rw [if_pos hpost]
    exact w.withForm_body
  · have hpost : w.head.method ≠ .post := fun hm => hform (Method.ofToken_eq_post_iff.1 hm)
    rw [if_neg hpost, w.bodiless_head hform]

end ClientRequest

/-! ### One request behind the other -/

namespace Request

/-- A reading that somebody waits for is followed by the next one. -/
theorem readMany_succ {d : Deadlines} {i : Input} (h : (read d i).1 ≠ .error .abandoned) (n : Nat) :
    readMany d (n + 1) i =
      ((read d i).1 :: (readMany d n (read d i).2).1, (readMany d n (read d i).2).2) := by
  rw [readMany]
  split
  · rename_i hr
    rw [hr] at h
    exact absurd rfl h
  · rename_i hr
    rw [hr]

/-- If all waits together are within the limits, no deadline passes in any of several readings. -/
theorem readMany_ne_timedOut {d : Deadlines} (hp : d.patience = none) {i : Input} (h : i.Smooth)
    (hhead : i.span ≤ d.head) (hidle : ∀ limit, d.idle = some limit → i.span ≤ limit) (n : Nat) :
    ∀ r ∈ (readMany d n i).1, ∀ stage, r ≠ .error (.timedOut stage) := by
  induction n generalizing i with
  | zero => exact fun r hr => nomatch hr
  | succ n ih =>
    have hfirst := read_of_span_le hp h hhead hidle
    obtain ⟨j, hj, hleaves⟩ := read_of_smooth hp h hfirst
    rw [readMany]
    split
    · rintro r hr stage rfl
      cases List.mem_singleton.1 hr
    · rename_i first k _ hk
      obtain ⟨rfl, rfl⟩ := Prod.mk.inj (hk.symm.trans hj)
      intro r hr stage
      rcases List.mem_cons.1 hr with rfl | hr
      · rw [hj] at hfirst
        exact hfirst stage
      · have hspan := hleaves.span_le
        exact ih hleaves.smooth (hspan.trans hhead)
          (fun limit hl => hspan.trans (hidle limit hl)) r hr stage

/-- **Requests one behind the other** are read one after the other, and what follows them is
left. -/
theorem readMany_followedBy {d : Deadlines} (hp : d.patience = none) (later : List Event)
    (ws : List CompleteRequest) {i : Input} (h : i.Smooth) {rest : Bytes}
    (hunread : i.unread = ws.flatMap CompleteRequest.bytes ++ rest)
    (hlate : ∀ r ∈ (readMany d ws.length (i.followedBy later)).1, ∀ stage,
      r ≠ .error (.timedOut stage)) :
    ∃ j, readMany d ws.length (i.followedBy later) =
        (ws.map CompleteRequest.outcome, j.followedBy later) ∧ Leaves i j rest := by
  induction ws generalizing i with
  | nil => exact ⟨i, rfl, h, hunread, 0, rfl, (Nat.zero_add _).symm⟩
  | cons w ws ih =>
    rw [List.flatMap_cons, List.append_assoc] at hunread
    rw [List.length_cons] at hlate ⊢
    have hfirst : ∀ stage, (read d (i.followedBy later)).1 ≠ .error (.timedOut stage) := by
      intro stage hr
      have hmany := readMany_succ (d := d) (i := i.followedBy later) (by rw [hr]; rintro ⟨⟩)
        ws.length
      exact hlate _ (by rw [hmany]; exact List.mem_cons_self) stage hr
    obtain ⟨j, hj, hleaves⟩ := w.readFreely_followedBy h hunread later
    rw [← read_eq_readFreely hp hfirst] at hj
    have hmany := readMany_succ (d := d) (i := i.followedBy later)
      (by rw [hj]; exact w.outcome_ne_abandoned) ws.length
    rw [hj] at hmany
    rw [hmany] at hlate ⊢
    obtain ⟨k, hk, hleaves'⟩ := ih hleaves.smooth hleaves.unread fun r hr =>
      hlate r (List.mem_cons_of_mem _ hr)
    exact ⟨k, by rw [hk, List.map_cons], hleaves.trans hleaves'⟩

/-- **Exact consumption.** Whatever deadlines there are and however the bytes arrive, as long as no
read fails before they are there and no deadline passes: of an input that starts with a complete
request just that request is taken, and what that comes to is told by the request alone, also if it
is a form that cannot be decoded. Complete requests one behind the other are read in their order,
each from the byte at which the one before it ends. Of an input that starts with a malformed line
just that line is taken. What follows, and what happens on the connection after that, is left as it
is. -/
theorem read_pipelined (head : Nat) (idle : Option Nat) (i : Input) (later : List Event)
    (rest : Bytes) (hsmooth : i.Smooth) :
    let d : Deadlines := { head, idle }
    let client := i.followedBy later
    (∀ w : CompleteRequest, i.unread = w.bytes ++ rest →
      (∀ stage, (read d client).1 ≠ .error (.timedOut stage)) →
      ∃ j : Input, read d client = (w.outcome, j.followedBy later) ∧ j.Smooth ∧ j.unread = rest) ∧
    (∀ ws : List CompleteRequest, i.unread = ws.flatMap CompleteRequest.bytes ++ rest →
      (∀ r ∈ (readMany d ws.length client).1, ∀ stage, r ≠ .error (.timedOut stage)) →
      ∃ j : Input,
        readMany d ws.length client = (ws.map CompleteRequest.outcome, j.followedBy later) ∧
          j.Smooth ∧ j.unread = rest) ∧
    (∀ (first : Bytes) (e : RequestError), 0x0A ∉ first →
      Head.parseLine (lineText first) = .error e → i.unread = first ++ [0x0A] ++ rest →
      (∀ stage, (read d client).1 ≠ .error (.timedOut stage)) →
      e.isBadRequest = true ∧
        ∃ j : Input,
          read d client = (.error e, j.followedBy later) ∧ j.Smooth ∧ j.unread = rest) := by
  intro d client
  refine ⟨fun w hunread hlate => ?_, fun ws hunread hlate => ?_,
    fun first e hlf he hunread hlate => ⟨Head.isBadRequest_of_parseLine he, ?_⟩⟩
  · obtain ⟨j, hj, hleaves⟩ := w.readFreely_followedBy hsmooth hunread later
    exact ⟨j, (read_eq_readFreely rfl hlate).trans hj, hleaves.smooth, hleaves.unread⟩
  · obtain ⟨j, hj, hleaves⟩ := readMany_followedBy (d := d) rfl later ws hsmooth hunread hlate
    exact ⟨j, hj, hleaves.smooth, hleaves.unread⟩
  · obtain ⟨j, hj, hleaves⟩ := readFreely_malformed hsmooth hlf he hunread later
    exact ⟨j, (read_eq_readFreely rfl hlate).trans hj, hleaves.smooth, hleaves.unread⟩

/-- A form, a request without one, and the start of a third request behind them. -/
theorem read_pipelined_two :
    let form : ClientRequest := ⟨"POST".toList, "/a b".toList, [], [], [("k".toList, "é=".toList)],
      by decide, by decide, by decide, List.forall_mem_nil _, List.forall_mem_nil _⟩
    let plain : ClientRequest := ⟨"GET".toList, "/c".toList, [], [("Host".toList, "x:80".toList)],
      [], by decide, by decide, by decide,
      List.forall_mem_singleton.2 ⟨by decide, by decide, by decide, by decide, by decide⟩,
      List.forall_mem_singleton.2 (by decide)⟩
    let sent := form.bytes ++ plain.bytes ++ Utf8.encode "GET".toList
    let i : Input := ⟨[], [.data (sent.take 70), .wait 100, .data (sent.drop 70)], 0⟩
    i.Smooth ∧ ∃ j : Input,
      readMany { head := 5000, idle := some 100 } 2 i =
          ([.ok form.received, .ok plain.received], j) ∧
        j.unread = Utf8.encode "GET".toList := by
  intro form plain sent i
  have hform : form.body.bytes.length ≤ maxU64 := by decide
  have hplain : plain.body.bytes.length ≤ maxU64 := by decide
  have hsmooth : i.Smooth := by
    intro e he
    simp only [i, List.mem_cons, List.not_mem_nil, or_false] at he
    rcases he with rfl | rfl | rfl <;> rfl
  have hunread : i.unread = [form.complete hform, plain.complete hplain].flatMap
      CompleteRequest.bytes ++ Utf8.encode "GET".toList := by
    simp [i, sent, Input.unread, ClientRequest.bytes_complete]
  have hlate := readMany_ne_timedOut (d := { head := 5000, idle := some 100 }) rfl hsmooth
    (by decide) (fun limit hlimit => by cases hlimit; decide) 2
  rw [← i.followedBy_nil] at hlate
  obtain ⟨j, hj, -, hrest⟩ := (read_pipelined 5000 (some 100) i [] _ hsmooth).2.1 _ hunread hlate
  rw [i.followedBy_nil, j.followedBy_nil] at hj
  simp only [List.map_cons, List.map_nil, ClientRequest.outcome_complete] at hj
  exact ⟨hsmooth, j, hj, hrest⟩

end Request

end HttpServer
