import HttpServer.Proofs.Encoding.Output
import HttpServer.Proofs.Files.Redirect
import HttpServer.Proofs.Response.Head
import HttpServer.Proofs.Session

/-!
# The output label changes texts only

The output label is read wherever a text body is made: for an error, for a redirect, for a listing.
Nothing else about a response depends on it. Its status, its header fields and the content of a file
are the same under all labels, and even of a text no more than the bytes differ, since the text is
encoded last and no header field tells its length. The refusals of a site, its redirects and most
rejections of requests are plain text, so that they can be read under every label that names an
encoding.

## Main definitions

* `Draft`: a response whose text is still to be encoded.
* `Response.Uniform`, `Response.Steady`: what depends on the output label only by its text, and only
  if it succeeds.

## Main results

* `StaticSite.steady_serveFile`, `RequestError.steady_response`: the answers of a site, and
  rejections.
* `output_frame`: what depends on the output label, and how.
-/

namespace HttpServer

/-! ### Plain texts -/

namespace Text

theorem Plain.append {s t : Text} (hs : Plain s) (ht : Plain t) : Plain (s ++ t) := fun c hc =>
  (List.mem_append.1 hc).elim (hs c) (ht c)

theorem plain_decimal (n : Nat) : Plain (decimal n) := by
  intro c hc
  obtain ⟨d, hd, rfl⟩ := exists_digit_of_mem_decimal hc
  have hdigit : ∀ d < 10, Plain [digit d] := by decide
  exact hdigit d hd _ List.mem_cons_self

theorem plain_encode (t : Text) : Plain (Percent.encode t) := by
  intro c hc
  obtain ⟨-, -, hlow, hhigh⟩ := Percent.spec_of_mem_encode hc
  omega

end Text

open Text (Plain)

/-! ### Drafts -/

/-- What the body of a response is made from. -/
inductive Source where
  /-- A file from a position on. -/
  | file (content : Content) (position : Nat)
  /-- A text that is to be encoded. -/
  | text (t : Text)
  deriving DecidableEq, Repr

/-- The body under an output label. -/
def Source.body (output : OutputEncoding) : Source → Body
  | file content position => .file content position
  | text t => .bytes (output.encode t)

/-- A response whose text is still to be encoded. -/
structure Draft where
  /-- The status. -/
  status : Status
  /-- The media type. -/
  mime : Option Text
  /-- The header fields in order. -/
  headers : List (Text × Text)
  /-- What the body is made from. -/
  source : Source
  deriving DecidableEq, Repr

/-- The response under an output label. -/
def Draft.response (d : Draft) (output : OutputEncoding) : Response :=
  ⟨d.status, d.mime, d.headers, d.source.body output⟩

namespace Response

/-- The responses under all labels come from one draft. -/
def Uniform (r : OutputEncoding → Response) : Prop :=
  ∃ d : Draft, ∀ output, r output = d.response output

/-- The responses under all labels come from one draft, and unless they succeed, its text is
plain. -/
def Steady (r : OutputEncoding → Response) : Prop :=
  ∃ d : Draft, (∀ output, r output = d.response output) ∧
    (d.status ≠ .ok → ∃ t, d.source = .text t ∧ t.Plain)

namespace Steady

variable {r : OutputEncoding → Response}

theorem uniform (h : Steady r) : Uniform r := by
  obtain ⟨d, hd, -⟩ := h
  exact ⟨d, hd⟩

/-- A failure is the same under every label that names an encoding as it is under none. -/
theorem eq_of_hasName (h : Steady r) {label : Text} {e : Encoding}
    (he : e.HasName label.trim.lower) (hfail : (r (some label)).status ≠ .ok) :
    r (some label) = r none := by
  obtain ⟨d, hd, hplain⟩ := h
  rw [hd] at hfail
  obtain ⟨t, ht, htext⟩ := hplain hfail
  have hbody : OutputEncoding.encode (some label) t = OutputEncoding.encode none t :=
    OutputEncoding.encode_plain he htext
  rw [hd, hd, Draft.response, Draft.response, ht, Source.body, Source.body, hbody]

end Steady

theorem uniform_error (status : Status) (message : Text) :
    Uniform fun output => error output status message :=
  ⟨⟨status, "text/plain".toList, [], .text message⟩, fun _ => rfl⟩

theorem steady_error (status : Status) {message : Text} (h : message.Plain) :
    Steady fun output => error output status message :=
  ⟨⟨status, "text/plain".toList, [], .text message⟩, fun _ => rfl, fun _ => ⟨message, rfl, h⟩⟩

theorem steady_text (mime t : Text) : Steady fun output => text output .ok mime t :=
  ⟨⟨.ok, mime, [], .text t⟩, fun _ => rfl, fun h => absurd rfl h⟩

theorem steady_redirect (t : Text) : Steady fun output => redirect output (Percent.encode t) := by
  refine ⟨⟨.movedPermanently, "text/html".toList, [("Location".toList, Percent.encode t)],
    .text (redirectPage (Percent.encode t))⟩, fun _ => rfl, fun _ => ⟨_, rfl, ?_⟩⟩
  have hlocation := Text.plain_encode t
  rw [redirectPage_encode]
  exact ((((by decide : Plain _).append hlocation).append (by decide)).append hlocation).append
    (by decide)

end Response

open Response (Uniform Steady)

/-! ### The answers of a site -/

namespace StaticSite

theorem steady_serveRegular (path : Bytes) (n : Node) (fields : Fields) :
    Steady fun output => serveRegular output path n fields := by
  cases n with
  | file content =>
    exact ⟨⟨.ok, Mime.ofPath path, _, .file content _⟩, fun _ => rfl, fun h => absurd rfl h⟩
  | dir _ | link _ | socket => exact Response.steady_error _ (by decide)

theorem steady_serveDirectory (site : StaticSite) (fs : FileSystem) (uri : Text) (path : Bytes)
    (entries : List (Bytes × Node)) (fields : Fields) :
    Steady fun output => site.serveDirectory output fs uri path entries fields := by
  simp only [serveDirectory]
  split
  · exact Response.steady_redirect _
  · cases index? fs path with
    | some found => exact steady_serveRegular found.1 found.2 fields
    | none =>
      cases site.listing with
      | true => exact Response.steady_text _ _
      | false => exact Response.steady_error _ (by decide)

/-- **The answers of a site** depend on the output label by the text of their body alone, and not
even by that unless they succeed. -/
theorem steady_serveFile (site : StaticSite) (fs : FileSystem) (uri : Text) (fields : Fields) :
    Steady fun output => site.serveFile output fs uri fields := by
  by_cases hdir : fs.isDir site.root = true
  · by_cases hsafe : isTraversal (normalize uri) = true
    · simp only [serveFile, hdir, Bool.not_true, Bool.false_eq_true, if_false, if_pos hsafe]
      exact Response.steady_error _ (by decide)
    · simp only [serveFile_eq hdir hsafe]
      cases fs.stat (Path.join site.root (relative (normalize uri))) with
      | error e => cases e <;> exact Response.steady_error _ (by decide)
      | ok n =>
        cases n with
        | dir entries => exact site.steady_serveDirectory fs _ _ entries fields
        | file _ | link _ | socket => exact steady_serveRegular _ _ fields
  · simp only [serveFile, eq_false_of_ne_true hdir]
    exact Response.steady_error _ (by decide)

theorem uniform_serve (site : StaticSite) (fs : FileSystem) (request : Request) :
    Uniform fun output => site.serve output fs request := by
  simp only [serve]
  split
  · exact (site.steady_serveFile fs _ _).uniform
  · exact (site.steady_serveFile fs _ _).uniform
  · exact Response.uniform_error _ _

end StaticSite

/-! ### Rejections -/

namespace RequestError

/-- The wording of an error is plain, unless it quotes what was sent. -/
theorem plain_message {e : RequestError} (h : ∀ i shown, e ≠ .decode (.invalidHex i shown)) :
    e.message.Plain := by
  cases e with
  | decode d =>
    cases d with
    | truncated i =>
      exact (by decide : Plain _).append ((by decide : Plain _).append (Text.plain_decimal i))
    | invalidHex i shown => exact absurd rfl (h i shown)
  | timedOut stage => cases stage <;> decide
  | io fault => cases fault <;> decide
  | missingMethod | missingTarget | closed | abandoned => decide

theorem uniform_response (e : RequestError) : Uniform fun output => e.response output := by
  simp only [response]
  split
  · exact Response.uniform_error _ _
  · exact Response.uniform_error _ _

/-- **Rejections** are plain, unless they quote what was sent. -/
theorem steady_response {e : RequestError} (h : ∀ i shown, e ≠ .decode (.invalidHex i shown)) :
    Steady fun output => e.response output := by
  have hplain := plain_message h
  simp only [response]
  split
  · exact Response.steady_error _ ((by decide : Plain _).append hplain)
  · exact Response.steady_error _ ((by decide : Plain _).append hplain)

theorem response_status_ne (e : RequestError) (output : OutputEncoding) :
    (e.response output).status ≠ .ok := by
  rw [response]
  split <;> rintro ⟨⟩

end RequestError

/-! ### Sessions -/

/-- The response to what was read comes from one draft, or there is none under any label. -/
theorem Service.uniform_answer? (site : StaticSite) (deadlines : Deadlines) (fs : FileSystem)
    (date : Text) (parsed : Except RequestError Request) :
    (∀ output, Service.answer? ⟨site.handler, deadlines⟩ ⟨fs, output, date⟩ parsed = none) ∨
      ∃ d : Draft, ∀ output, Service.answer? ⟨site.handler, deadlines⟩ ⟨fs, output, date⟩ parsed =
        some (d.response output) := by
  rcases parsed with e | request
  · by_cases hnone : e = .closed ∨ e = .abandoned
    · left
      rcases hnone with rfl | rfl <;> exact fun _ => rfl
    · right
      obtain ⟨d, hd⟩ := e.uniform_response
      refine ⟨d, fun output => ?_⟩
      rw [← hd]
      cases e <;> first | rfl | exact absurd (.inl rfl) hnone | exact absurd (.inr rfl) hnone
  · right
    obtain ⟨d, hd⟩ := site.uniform_serve fs request
    exact ⟨d, fun output => congrArg some (hd output)⟩

/-- What a client receives comes from one draft, or is nothing under any label. -/
theorem Service.uniform_reply (site : StaticSite) (deadlines : Deadlines) (fs : FileSystem)
    (date : Text) (i : Input) :
    let s : Service := ⟨site.handler, deadlines⟩
    (∀ output, s.reply ⟨fs, output, date⟩ i = []) ∨
      ∃ d : Draft, ∀ output, s.reply ⟨fs, output, date⟩ i = (d.response output).bytes date ∧
        s.answer? ⟨fs, output, date⟩ (Request.read deadlines i).1 = some (d.response output) := by
  intro s
  have hread : Request.read s.deadlines i =
    ((Request.read deadlines i).1, (Request.read deadlines i).2) := rfl
  by_cases ha : (Request.read deadlines i).1 = .error .abandoned
  · left
    intro output
    rw [ha] at hread
    rw [Service.reply, Connection.run_of_history [] (Connection.history_of_abandoned hread {})]
    rfl
  · rcases Service.uniform_answer? site deadlines fs date (Request.read deadlines i).1 with
      hnone | ⟨d, hd⟩
    · left
      intro output
      rw [Connection.reply_of_read hread ha, hnone, Connection.offered]
    · right
      refine ⟨d, fun output => ⟨?_, hd output⟩⟩
      rw [Connection.reply_of_read hread ha, hd, Connection.offered]

/-- **The output label changes texts only.** Whatever a client sends to a site, and whatever the
tree and the deadlines, it either receives nothing under any label, or there are a status, header
fields and a source of the body, a file or a text, such that under each label it receives just that
head, and the file, or the text as it is written under the label.

Of all calls that set labels and write texts, each text is written under the last label that was set
before. Without a label, or under a label that names UTF-8, UTF-16 or the replacement encoding,
every text is written in UTF-8. Under a label that names no encoding it is nothing. Under a label
that names any encoding ASCII text is written as it is, if it does not have U+000E, U+000F or
U+001B. So every refusal and redirect of a site, and every rejection that quotes nothing, is the
same under such a label as under none. -/
theorem output_frame :
    (∀ (site : StaticSite) (deadlines : Deadlines) (fs : FileSystem) (date : Text) (i : Input),
      let s : Service := ⟨site.handler, deadlines⟩
      (∀ output, s.reply ⟨fs, output, date⟩ i = []) ∨
      ∃ (status : Status) (fields : List (Text × Text)) (source : Source), ∀ output, ∃ r,
        s.answer? ⟨fs, output, date⟩ (Request.read deadlines i).1 = some r ∧
        r.status = status ∧ r.sentFields date = fields ∧ r.body = source.body output ∧
        s.reply ⟨fs, output, date⟩ i =
          headBytes status fields ++ match source with
            | .file content position => content.bytesFrom position
            | .text t => output.encode t) ∧
    (∀ (output : OutputEncoding) (calls : List OutputCall) (k : Nat) (t : Text),
      calls[k]? = some (.encode t) →
      (output.results calls)[k]? =
        some (some (OutputEncoding.encode (OutputEncoding.last output (calls.take k)) t))) ∧
    (∀ t, OutputEncoding.encode none t = Utf8.encode t) ∧
    (∀ (label : Text) (e : Encoding), e = .utf8 ∨ e = .utf16 ∨ e = .replacement →
      e.HasName label.trim.lower →
      ∀ t, OutputEncoding.encode (some label) t = Utf8.encode t) ∧
    (∀ label : Text, (∀ e : Encoding, ¬e.HasName label.trim.lower) →
      ∀ t, OutputEncoding.encode (some label) t = []) ∧
    (∀ (label : Text) (e : Encoding), e.HasName label.trim.lower →
      (∀ t : Text,
        (∀ c ∈ t, c.toNat < 0x80 ∧ c.toNat ≠ 0x0E ∧ c.toNat ≠ 0x0F ∧ c.toNat ≠ 0x1B) →
        OutputEncoding.encode (some label) t = Utf8.encode t) ∧
      (∀ (site : StaticSite) (fs : FileSystem) (uri : Text) (fields : Fields),
        (site.serveFile (some label) fs uri fields).status ≠ .ok →
        site.serveFile (some label) fs uri fields = site.serveFile none fs uri fields) ∧
      (∀ error : RequestError, (∀ i shown, error ≠ .decode (.invalidHex i shown)) →
        error.response (some label) = error.response none)) := by
  refine ⟨fun site deadlines fs date i => ?_, fun output _ _ _ => output.getElem?_results,
    fun _ => rfl, fun _ _ he hname => OutputEncoding.encode_eq_utf8 he hname,
    fun _ => OutputEncoding.encode_unknown,
    fun label e he => ⟨fun _ => OutputEncoding.encode_plain he,
      fun site fs uri fields => (site.steady_serveFile fs uri fields).eq_of_hasName he,
      fun error herror => ?_⟩⟩
  · refine (Service.uniform_reply site deadlines fs date i).imp_right ?_
    rintro ⟨⟨status, mime, headers, source⟩, hd⟩
    let fields := (Response.sentFields ⟨status, mime, headers, .empty⟩ date)
    refine ⟨status, fields, source, fun output => ?_⟩
    obtain ⟨hreply, hanswer⟩ := hd output
    refine ⟨_, hanswer, rfl, rfl, rfl, ?_⟩
    rw [hreply, Response.bytes, Response.head_eq]
    cases source <;> rfl
  · exact (RequestError.steady_response herror).eq_of_hasName he (error.response_status_ne _)

end HttpServer
