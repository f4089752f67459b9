import HttpServer.Proofs.Request.Framing

/-!
# Requests that are cut short

A client can vanish in the middle of a request. The end of the input then ends the part that is
being read: a first line is read without its LF, a header block without its blank line, and a body
with fewer bytes than were announced or without its CR LF. So what is read need not be a complete
request, but it is always the beginning of one, and what it comes to can be told for every place at
which a complete request is cut: in its first line the line decides alone, in its header block it
always counts as a request, with an empty body, and in its body the form that there is decides.

## Main definitions

* `Request.ofOpenLine`: what a first line without its LF comes to.

## Main results

* `CompleteRequest.exists_cut`: where a complete request can be cut.
* `Request.exists_complete_or_cut`: whatever follows a good first line begins or continues a
  complete request.
* `Request.read_cut_short`: what is read from an input that ends too early.
* `Request.read_without_blank_line`: a request without its blank line is read nevertheless.
-/

namespace HttpServer

/-! ### Parts at the end of the input -/

/-- A beginning of two pieces ends within the first one, or behind it. -/
theorem prefix_append_cases {s a b : Bytes} (h : s <+: a ++ b) :
    (s <+: a ∧ s ≠ a) ∨ ∃ c, c <+: b ∧ s = a ++ c := by
  rcases List.prefix_or_prefix_of_prefix h (List.prefix_append a b) with hs | ⟨c, rfl⟩
  · by_cases hne : s = a
    · exact .inr ⟨[], List.nil_prefix, by rw [hne, List.append_nil]⟩
    · exact .inl ⟨hs, hne⟩
  · exact .inr ⟨c, (List.prefix_append_right_inj a).1 h, rfl⟩

theorem Part.cut_nil (p : Part) : p.cut [] = ([], []) := by
  obtain ⟨hfst, hsnd⟩ := List.append_eq_nil_iff.1 (p.append_cut [])
  exact Prod.ext hfst hsnd

namespace Head

/-- A form without a body is a request without one. -/
theorem withForm_nil (h : Head) : h.withForm [] = .ok h.bodiless := rfl

/-- What a form does not change. -/
theorem of_withForm_eq_ok {h : Head} {body : Bytes} {r : Request} (hr : h.withForm body = .ok r) :
    r.method = h.method ∧ r.path = h.path ∧ r.fields = h.fields ∧ r.body = body := by
  rw [withForm] at hr
  split at hr
  · cases hr
  · cases hr
    exact ⟨rfl, rfl, rfl, rfl⟩

/-- Any bytes begin with the body that a head announces, or can be continued to it. -/
theorem frames_or_cut (h : Head) (s : Bytes) :
    (∃ body rest, h.Frames body ∧ s = body ++ rest) ∨ ∃ more, more ≠ [] ∧ h.Frames (s ++ more) := by
  by_cases hpost : h.method = .post
  · cases hlen : h.fields.contentLength? with
    | some n =>
      have hframes : ∀ body, h.Frames body ↔ body.length = n := fun body => by
        simp only [Frames, if_pos hpost, hlen]
      by_cases hn : n ≤ s.length
      · refine .inl ⟨s.take n, s.drop n, (hframes _).2 ?_, (List.take_append_drop n s).symm⟩
        rw [List.length_take, Nat.min_eq_left hn]
      · refine .inr ⟨List.replicate (n - s.length) 0, ?_, (hframes _).2 ?_⟩
        · rw [Ne, List.replicate_eq_nil_iff]
          omega
        · rw [List.length_append, List.length_replicate]
          omega
    | none =>
      have hframes : ∀ body, h.Frames body ↔ EndsAtCrLf body := fun body => by
        simp only [Frames, if_pos hpost, hlen]
      rcases exists_crLf s with ⟨t, rest, ht, hs⟩ | hs
      · exact .inl ⟨t, rest, (hframes t).2 ht, hs⟩
      · refine .inr ⟨[0x0D, 0x0A], List.cons_ne_nil _ _, (hframes _).2 ⟨s, rfl, fun hcr => ?_⟩⟩
        -- A CR behind the bytes does not complete a CR LF.
        rcases List.infix_concat_iff.1 hcr with ⟨t, ht⟩ | hcr
        · have hlast := congrArg List.getLast? ht
          simp at hlast
        · exact hs hcr
  · have hframes : ∀ body, h.Frames body ↔ body = [] := fun body => by
      simp only [Frames, if_neg hpost]
    exact .inl ⟨[], s, (hframes []).2 rfl, rfl⟩

theorem exists_frames (h : Head) : ∃ body, h.Frames body := by
  rcases h.frames_or_cut [] with ⟨body, -, hbody, -⟩ | ⟨more, -, hmore⟩
  · exact ⟨body, hbody⟩
  · exact ⟨more, hmore⟩

/-- A first line is judged, and then its header block is taken. -/
theorem ofBytes_line {first : Bytes} (hlf : 0x0A ∉ first) (s : Bytes) :
    ofBytes (first ++ [0x0A] ++ s) =
      match parseLine (lineText first) with
      | .error e => (.error e, s)
      | .ok (method, path, params) =>
        (.ok ⟨method, path, params, .ofBlock (Part.cut (.block []) s).1⟩,
          (Part.cut (.block []) s).2) := by
  rw [ofBytes, (Part.filledBy_line hlf).cut_append, ← lineText_concat first]
  cases hl : first ++ [0x0A] with
  | nil => exact absurd hl (by simp)
  | cons b line => rfl

end Head

/-! ### Every place at which a request can be cut -/

namespace Request

/-- What a first line without its LF comes to if the input ends there. -/
def ofOpenLine (s : Bytes) : Except RequestError Request :=
  if s = [] then .error .closed
  else
    match Head.parseLine (lineText s) with
    | .error e => .error e
    | .ok (method, path, params) => .ok ⟨method, path, params, .empty, []⟩

theorem ofBytes_of_notMem_lf {s : Bytes} (h : 0x0A ∉ s) : (ofBytes s).1 = ofOpenLine s := by
  rw [ofBytes, Part.cut_of_none (Part.size?_line_of_notMem h), ofOpenLine]
  cases s with
  | nil => rfl
  | cons b s =>
    rw [if_neg (List.cons_ne_nil b s)]
    simp only
    cases Head.parseLine (lineText (b :: s)) with
    | error e => rfl
    | ok m =>
      simp only [Part.cut_nil, Head.withForm_nil, ite_self]
      rfl

end Request

namespace CompleteRequest

variable (w : CompleteRequest)

/-- A proper beginning of a request ends in its first line, in its header block or in its body. -/
theorem exists_cut {s : Bytes} (h : s <+: w.bytes) (hne : s ≠ w.bytes) :
    s <+: w.first ∨
      (∃ part, part <+: w.block ∧ part ≠ w.block ∧ s = w.lineBytes ++ part) ∨
      ∃ part, part <+: w.body ∧ part ≠ w.body ∧ s = w.lineBytes ++ w.block ++ part := by
  rw [bytes, List.append_assoc] at h
  rcases prefix_append_cases h with ⟨hline, hcut⟩ | ⟨c, hc, rfl⟩
  · exact .inl ((List.prefix_concat_iff.1 hline).resolve_left hcut)
  · refine .inr ?_
    rcases prefix_append_cases hc with ⟨hblock, hcut⟩ | ⟨part, hpart, rfl⟩
    · exact .inl ⟨c, hblock, hcut, rfl⟩
    · refine .inr ⟨part, hpart, ?_, (List.append_assoc _ _ _).symm⟩
      rintro rfl
      exact hne (List.append_assoc _ _ _).symm

/-- A request that is cut in its header block is read with the fields that there are. -/
theorem ofBytes_cut_block {part : Bytes} (h : part <+: w.block) (hne : part ≠ w.block) :
    (Request.ofBytes (w.lineBytes ++ part)).1 =
      .ok ⟨w.method, w.path, w.params, .ofBlock part, []⟩ := by
  rw [Request.ofBytes_eq, lineBytes, Head.ofBytes_line w.first_lf, w.first_parse]
  simp only [w.filledBy_block.cut_of_prefix_of_ne h hne, Part.cut_nil, Head.withForm_nil, ite_self]
  rfl

/-- A request that is cut in its body is read with the form that there is. -/
theorem ofBytes_cut_body {part : Bytes} (h : part <+: w.body) (hne : part ≠ w.body) :
    (Request.ofBytes (w.lineBytes ++ w.block ++ part)).1 = w.head.withForm part := by
  have hpost : w.head.method = .post := by
    by_contra hm
    rw [w.body_eq_nil hm] at h hne
    exact hne (List.prefix_nil.1 h)
  have hhead : Head.ofBytes (w.lineBytes ++ w.block ++ part) = (.ok w.head, part) := by
    rw [List.append_assoc, lineBytes, Head.ofBytes_line w.first_lf, w.first_parse]
    simp only [w.filledBy_block.cut_append, ofBlock_block]
    rfl
  rw [Request.ofBytes_eq, hhead]
  simp only [if_pos hpost, (w.filledBy_body hpost).cut_of_prefix_of_ne h hne]

/-- The request is at the start of its bytes, whatever follows them. -/
theorem ofBytes_append (rest : Bytes) : (Request.ofBytes (w.bytes ++ rest)).1 = w.outcome := by
  have hsmooth : (Input.ofBytes (w.bytes ++ rest)).Smooth := List.forall_mem_nil _
  have hunread : (Input.ofBytes (w.bytes ++ rest)).unread = w.bytes ++ rest := List.append_nil _
  obtain ⟨j, hj, -⟩ := Request.readFreely_of_smooth hsmooth
  obtain ⟨k, hk, -⟩ := w.readFreely_followedBy hsmooth hunread []
  rw [Input.followedBy_nil, hj, hunread] at hk
  exact congrArg Prod.fst hk

/-- A complete form has a body of the length that it announces. -/
theorem length_body_of_outcome {r : Request} (h : w.outcome = .ok r) (hpost : r.method = .post)
    {n : Nat} (hn : r.contentLength? = some n) : r.body.length = n := by
  have hframes : w.head.Frames w.body := w.body_frames
  rw [outcome] at h
  split at h
  · rename_i hm
    obtain ⟨-, -, hfields, hbody⟩ := Head.of_withForm_eq_ok h
    rw [Request.contentLength?, hfields] at hn
    rw [Head.Frames, if_pos hm, hn] at hframes
    rwa [hbody]
  · rename_i hm
    cases h
    exact absurd hpost hm

end CompleteRequest

namespace Request

/-! ### What can have been cut -/

/-- Whatever follows a good first line begins a complete request, or can be continued to one. -/
theorem exists_complete_or_cut {first : Bytes} (hlf : 0x0A ∉ first) {m : Method × Text × Params}
    (hm : Head.parseLine (lineText first) = .ok m) (s : Bytes) :
    (∃ (w : CompleteRequest) (rest : Bytes), first ++ [0x0A] ++ s = w.bytes ++ rest) ∨
      ∃ (w : CompleteRequest) (more : Bytes), more ≠ [] ∧
        w.bytes = first ++ [0x0A] ++ s ++ more := by
  obtain ⟨lines, hlines, ⟨blank, rest, hblank, rfl⟩ | ⟨last, hlast, rfl⟩⟩ := exists_lines s
  · rcases Head.frames_or_cut ⟨m.1, m.2.1, m.2.2, .ofLines lines⟩ rest with
      ⟨body, rest', hbody, rfl⟩ | ⟨more, hne, hbody⟩
    · exact .inl ⟨⟨first, lines, blank, body, m.1, m.2.1, m.2.2, hlf, hm, hlines, hblank, hbody⟩,
        rest', by simp [CompleteRequest.bytes, CompleteRequest.lineBytes, CompleteRequest.block]⟩
    · exact .inr ⟨⟨first, lines, blank, rest ++ more, m.1, m.2.1, m.2.2, hlf, hm, hlines, hblank,
        hbody⟩, more, hne,
        by simp [CompleteRequest.bytes, CompleteRequest.lineBytes, CompleteRequest.block]⟩
  · -- The last line gets its LF, and a blank line behind it unless it is itself blank.
    by_cases hb : (lineText last).isBlank = true
    · obtain ⟨body, hbody⟩ := Head.exists_frames ⟨m.1, m.2.1, m.2.2, .ofLines lines⟩
      exact .inr ⟨⟨first, lines, last, body, m.1, m.2.1, m.2.2, hlf, hm, hlines, ⟨hlast, hb⟩,
        hbody⟩, 0x0A :: body, List.cons_ne_nil _ _,
        by simp [CompleteRequest.bytes, CompleteRequest.lineBytes, CompleteRequest.block,
          blockBytes]⟩
    · obtain ⟨body, hbody⟩ := Head.exists_frames ⟨m.1, m.2.1, m.2.2, .ofLines (lines ++ [last])⟩
      have hlines' : ∀ l ∈ lines ++ [last], IsFieldLine l := by
        intro l hl
        rcases List.mem_append.1 hl with hl | hl
        · exact hlines l hl
        · rw [List.mem_singleton.1 hl]
          exact ⟨hlast, by simpa using hb⟩
      exact .inr ⟨⟨first, lines ++ [last], [], body, m.1, m.2.1, m.2.2, hlf, hm, hlines',
        ⟨List.not_mem_nil, rfl⟩, hbody⟩, 0x0A :: 0x0A :: body, List.cons_ne_nil _ _,
        by simp [CompleteRequest.bytes, CompleteRequest.lineBytes, CompleteRequest.block,
          blockBytes]⟩

/-- What is read as a request is a complete one, or the beginning of one. -/
theorem exists_of_ofBytes_eq_ok {s : Bytes} {r : Request} (h : (ofBytes s).1 = .ok r) :
    (∃ (w : CompleteRequest) (rest : Bytes), s = w.bytes ++ rest ∧ w.outcome = .ok r) ∨
      ∃ (w : CompleteRequest) (more : Bytes), more ≠ [] ∧ w.bytes = s ++ more := by
  by_cases hlf : (0x0A : UInt8) ∈ s
  · obtain ⟨first, rest, rfl, hfirst⟩ := List.eq_append_cons_of_mem hlf
    have hs : first ++ 0x0A :: rest = first ++ [0x0A] ++ rest := by simp
    rw [hs] at h ⊢
    cases hm : Head.parseLine (lineText first) with
    | error e =>
      rw [ofBytes_eq, Head.ofBytes_line hfirst, hm] at h
      cases h
    | ok m =>
      rcases exists_complete_or_cut hfirst hm rest with ⟨w, rest', hw⟩ | hcut
      · rw [hw, w.ofBytes_append] at h
        exact .inl ⟨w, rest', hw, h⟩
      · exact .inr hcut
  · rw [ofBytes_of_notMem_lf hlf, ofOpenLine] at h
    split at h
    · cases h
    · split at h
      · cases h
      · rename_i hm
        obtain ⟨body, hbody⟩ := Head.exists_frames ⟨_, _, _, .ofLines []⟩
        exact .inr ⟨⟨s, [], [], body, _, _, _, hlf, hm, List.forall_mem_nil _,
          ⟨List.not_mem_nil, rfl⟩, hbody⟩, 0x0A :: 0x0A :: body, List.cons_ne_nil _ _,
          by simp [CompleteRequest.bytes, CompleteRequest.lineBytes, CompleteRequest.block,
            blockBytes]⟩

/-- **An input that ends too early.** Whatever deadlines there are and however the bytes arrive, as
long as no read fails and no deadline passes: if a request is read, then either a complete request
was there, and in a form with an announced length the body has just that length, or the input is a
proper beginning of a complete request. And of a complete request that is cut anywhere this is read:
in its first line, what that line comes to by itself; in its header block, a request with the fields
that there are and no body; in its body, the form that there is. So the end of the input counts as
the end of whatever is being read, and a request that was cut short is read as if it were a shorter
one. -/
theorem read_cut_short (head : Nat) (idle : Option Nat) (i : Input) (hsmooth : i.Smooth)
    (hlate : ∀ stage, (read { head, idle } i).1 ≠ .error (.timedOut stage)) :
    let d : Deadlines := { head, idle }
    (∀ r, (read d i).1 = .ok r →
      (∃ (w : CompleteRequest) (rest : Bytes), i.unread = w.bytes ++ rest ∧ w.outcome = .ok r ∧
        (r.method = .post → ∀ n, r.contentLength? = some n → r.body.length = n)) ∨
      ∃ (w : CompleteRequest) (more : Bytes), more ≠ [] ∧ w.bytes = i.unread ++ more) ∧
    (∀ w : CompleteRequest, i.unread <+: w.bytes → i.unread ≠ w.bytes →
      (i.unread <+: w.first ∧ (read d i).1 = ofOpenLine i.unread) ∨
      (∃ part, part <+: w.block ∧ part ≠ w.block ∧ i.unread = w.lineBytes ++ part ∧
        (read d i).1 = .ok ⟨w.method, w.path, w.params, .ofBlock part, []⟩) ∨
      (∃ part, part <+: w.body ∧ part ≠ w.body ∧ i.unread = w.lineBytes ++ w.block ++ part ∧
        (read d i).1 = w.head.withForm part)) := by
  intro d
  obtain ⟨j, hj, -⟩ := read_of_smooth (d := d) rfl hsmooth hlate
  rw [hj]
  constructor
  · intro r hr
    rcases exists_of_ofBytes_eq_ok hr with ⟨w, rest, hs, hout⟩ | hcut
    · exact .inl ⟨w, rest, hs, hout, fun hpost n => w.length_body_of_outcome hout hpost⟩
    · exact .inr hcut
  · intro w hprefix hne
    rcases w.exists_cut hprefix hne with hfirst | ⟨part, hpart, hcut, hs⟩ | ⟨part, hpart, hcut, hs⟩
    · exact .inl ⟨hfirst, ofBytes_of_notMem_lf fun hm => w.first_lf (hfirst.subset hm)⟩
    · refine .inr (.inl ⟨part, hpart, hcut, hs, ?_⟩)
      rw [hs]
      exact w.ofBytes_cut_block hpart hcut
    · refine .inr (.inr ⟨part, hpart, hcut, hs, ?_⟩)
      rw [hs]
      exact w.ofBytes_cut_body hpart hcut

/-- A form whose body is cut: it is read with the three bytes that there are, although its header
announces five. -/
theorem read_cut_short_form :
    let form : ClientRequest := ⟨"POST".toList, "/".toList, [], [], [("k".toList, "abc".toList)],
      by decide, by decide, by decide, List.forall_mem_nil _, List.forall_mem_nil _⟩
    let sent := Utf8.encode "POST / HTTP/1.0\r\nContent-Length: 5\r\n\r\nk=a".toList
    let i := Input.ofBytes sent
    i.Smooth ∧ (∀ stage, (read {} i).1 ≠ .error (.timedOut stage)) ∧
      form.bytes = sent ++ Utf8.encode "bc".toList ∧
      ∃ r, (read {} i).1 = .ok r ∧ r.contentLength? = some 5 ∧ r.body.length = 3 := by
  intro form sent i
  let w := form.complete (by decide)
  let part := (Params.queryText [("k".toList, "a".toList)]).bytes
  have hsmooth : i.Smooth := List.forall_mem_nil _
  have hlate := read_of_span_le (d := {}) rfl hsmooth (Nat.zero_le _) (fun _ _ => Nat.zero_le _)
  have hbytes : form.bytes = sent ++ Utf8.encode "bc".toList := by decide +kernel
  have hunread : i.unread = w.lineBytes ++ w.block ++ part := by decide +kernel
  have hprefix : i.unread <+: w.bytes := by decide +kernel
  refine ⟨hsmooth, hlate, hbytes, ?_⟩
  rcases (read_cut_short 5000 none i hsmooth hlate).2 w hprefix (by decide +kernel) with
    ⟨hfirst, -⟩ | ⟨part', hpart, -, hs, -⟩ | ⟨part', -, -, hs, hr⟩
  · exact absurd (hfirst.subset (by decide)) w.first_lf
  · rw [hunread, List.append_assoc] at hs
    rw [← List.append_cancel_left hs] at hpart
    have hpos : 0 < part.length := by decide
    have hle := hpart.length_le
    rw [List.length_append] at hle
    omega
  · rw [hunread] at hs
    rw [← List.append_cancel_left hs, Head.withForm_queryText] at hr
    exact ⟨_, hr, by decide +kernel, by decide +kernel⟩

/-- A request that is cut in front of its blank line is a proper beginning of a complete one, and is
read as a request. -/
theorem read_without_blank_line :
    let s := Utf8.encode "GET / HTTP/1.0\r\n".toList
    (∃ w : CompleteRequest, w.method = .get ∧ s <+: w.bytes ∧ s ≠ w.bytes) ∧
      ¬∃ e, (read {} (Input.ofBytes s)).1 = .error e := by
  intro s
  let sent : ClientRequest := ⟨"GET".toList, "/".toList, [], [], [], by decide, by decide,
    by decide, List.forall_mem_nil _, List.forall_mem_nil _⟩
  let w := sent.complete (by decide)
  have hs : s = w.lineBytes ++ [] := by decide
  have hne : s ≠ w.bytes := by decide
  refine ⟨⟨w, rfl, by decide, hne⟩, ?_⟩
  have hsmooth : (Input.ofBytes s).Smooth := List.forall_mem_nil _
  have hlate := read_of_span_le (d := {}) rfl hsmooth (Nat.zero_le _) (fun _ _ => Nat.zero_le _)
  obtain ⟨j, hj, -⟩ := read_of_smooth rfl hsmooth hlate
  have hunread : (Input.ofBytes s).unread = w.lineBytes ++ [] := hs
  rw [hj, hunread, w.ofBytes_cut_block List.nil_prefix (by decide)]
  rintro ⟨e, ⟨⟩⟩

end Request

end HttpServer
