import HttpServer.Proofs.Files.Lookup
import HttpServer.Proofs.Files.Target
import HttpServer.Proofs.Request.Framing
import HttpServer.Proofs.Response.Head
import HttpServer.Proofs.Session

/-!
# Downloads

A file below the root of a site is sent as it is to whoever asks for its path, from the first byte
of the request to the last byte of the answer: the names of the file survive the encoding in the
request, the reading of the request and the lookup, and the answer has the length of the file and
its content. If a range is asked for that starts within the file, the answer is the rest of the file
from there on, so a download that was broken off can be resumed. A range that starts behind the file
counts as none.

The names may be any that the file system has, as long as no backslash is among their characters,
which would be taken for a slash, and the last one ends neither in white space, which would be
trimmed, nor in two dots, which would be refused.

## Main definitions

* `StaticSite.Offers`: a file below the root whose path can be asked for.
* `getBytes`: a request for a path as it is sent.
* `fileReply`: an answer as it is sent.

## Main results

* `StaticSite.Offers.serveFile`: the answer to the path of a file.
* `StaticSite.reply_get`: a session with a client that asks for a path.
* `StaticSite.reply_download`: the whole download, and its resumption.
-/

namespace HttpServer

/-! ### Ranges -/

/-- The range from a byte on, as it is asked for. -/
def rangeFrom (n : Nat) : Text :=
  "bytes=".toList ++ (decimal n ++ ['-'])

theorem solid_rangeFrom (n : Nat) : Text.Solid (rangeFrom n) := by
  intro c hc
  rcases List.mem_append.1 hc with hc | hc
  · exact (by decide : Text.Solid "bytes=".toList) c hc
  · rcases List.mem_append.1 hc with hc | hc
    · exact solid_decimal n c hc
    · exact (by decide : Text.Solid ['-']) c hc

/-- The start of a range is read back if it fits into 64 bits. -/
theorem rangeStart?_rangeFrom (n : Nat) :
    rangeStart? (rangeFrom n) = if n ≤ maxU64 then some n else none := by
  have hbefore : before '-' (decimal n ++ ['-']) = decimal n :=
    before_append (notMem_decimal (by decide) n) []
  have hlead : dropLead? "bytes=".toList (rangeFrom n) = some (decimal n ++ ['-']) :=
    dropLead?_append "bytes=".toList (decimal n ++ ['-'])
  rw [rangeStart?, Text.trim_of_solid (solid_rangeFrom n), hlead]
  simp only [hbefore, Text.trim_of_solid (solid_decimal n), readU64?_decimal]

/-! ### Header names in any case -/

theorem Text.mem_lower_of_mem {t : Text} {c : Char} (h : c ∈ t) (hc : lowerChar c = c) :
    c ∈ lower t :=
  List.mem_map.2 ⟨c, h, hc⟩

/-- Only capital letters change, and they are no white space. -/
theorem Text.solid_of_lower {t : Text} (h : Solid (lower t)) : Solid t := by
  intro c hc
  by_cases hcap : 'A' ≤ c ∧ c ≤ 'Z'
  · have hlow : 'A'.toNat ≤ c.toNat := hcap.1
    have hhigh : c.toNat ≤ 'Z'.toNat := hcap.2
    exact isBlank_eq_false_of_graphic ⟨lt_of_lt_of_le (by decide) hlow,
      lt_of_le_of_lt hhigh (by decide)⟩
  · exact h c (mem_lower_of_mem hc (if_neg hcap))

/-- A header field for a range, with its name in any case, can be sent. -/
theorem sendable_range {name : Text} (h : name.lower = "range".toList) (n : Nat) :
    Sendable (name, rangeFrom n) where
  name_trim := by
    refine Text.trim_of_solid (Text.solid_of_lower ?_)
    rw [h]
    decide
  value_trim := Text.trim_of_solid (solid_rangeFrom n)
  name_lf hm := by
    have hlow := Text.mem_lower_of_mem hm rfl
    rw [h] at hlow
    exact absurd hlow (by decide)
  value_lf hm := absurd (solid_rangeFrom n _ hm) (by decide)
  name_colon hm := by
    have hlow := Text.mem_lower_of_mem hm rfl
    rw [h] at hlow
    exact absurd hlow (by decide)

/-! ### Requests for a path -/

/-- A request for a path, with its header fields, as it is sent. -/
def getBytes (uri : Text) (fields : List (Text × Text)) : Bytes :=
  Utf8.encode ("GET ".toList ++ Percent.encode uri ++ " HTTP/1.0\r\n".toList ++
    fields.flatMap Response.headerLine ++ "\r\n".toList)

/-- A request for a path. -/
def ClientRequest.get (uri : Text) (hne : uri ≠ []) (fields : List (Text × Text))
    (hsend : ∀ f ∈ fields, Sendable f)
    (hfree : ∀ f ∈ fields, Text.lower f.1 ≠ "content-length".toList) : ClientRequest where
  token := "GET".toList
  path := uri
  query := []
  fields := fields
  form := []
  token_ne := (default : ClientRequest).token_ne
  token_solid := (default : ClientRequest).token_solid
  target_ne := .inl hne
  fields_sendable := hsend
  fields_free := hfree

namespace ClientRequest

variable (uri : Text) (hne : uri ≠ []) (fields : List (Text × Text))
  (hsend : ∀ f ∈ fields, Sendable f)
  (hfree : ∀ f ∈ fields, Text.lower f.1 ≠ "content-length".toList)

theorem not_isForm_get : ¬(get uri hne fields hsend hfree).IsForm :=
  (by decide : "GET".toList ≠ "POST".toList)

theorem sentFields_get : (get uri hne fields hsend hfree).sentFields = fields := by
  rw [sentFields, if_neg (not_isForm_get uri hne fields hsend hfree), List.append_nil]
  rfl

theorem bytes_get : (get uri hne fields hsend hfree).bytes = getBytes uri fields := by
  have hline : (get uri hne fields hsend hfree).firstLine ++ "\r\n".toList =
      "GET ".toList ++ Percent.encode uri ++ " HTTP/1.0\r\n".toList := by
    rw [firstLine, target, get, if_pos rfl, List.append_nil, List.append_assoc]
    rfl
  rw [bytes, sentFields_get, body_eq_nil _ (not_isForm_get uri hne fields hsend hfree),
    fieldBlock_eq, lineBytes_eq, hline, ← Utf8.encode_append, getBytes,
    List.append_assoc _ (fields.flatMap Response.headerLine)]
  exact List.append_nil _

end ClientRequest

namespace StaticSite

/-- **A session with a client that asks for a path** gives the answer to that path, however the
request arrives, whatever follows it, and whatever happens on the connection later. -/
theorem reply_get (site : StaticSite) (fs : FileSystem) (output : OutputEncoding) (date : Text)
    {sent : ClientRequest} (hget : sent.token = "GET".toList) {head : Nat} {idle : Option Nat}
    {i : Input} (h : i.Smooth) {rest : Bytes} (hunread : i.unread = sent.bytes ++ rest)
    (later : List Event) (hlate : ∀ stage,
      (Request.read { head, idle } (i.followedBy later)).1 ≠ .error (.timedOut stage)) :
    Service.reply ⟨site.handler, { head, idle }⟩ ⟨fs, output, date⟩ (i.followedBy later) =
      (site.serveFile output fs sent.path sent.header).bytes date := by
  have hform : ¬sent.IsForm := by
    rw [ClientRequest.IsForm, hget]
    decide
  have hlen : sent.body.bytes.length ≤ maxU64 := by
    rw [sent.body_eq_nil hform]
    exact Nat.zero_le _
  rw [← sent.bytes_complete hlen] at hunread
  obtain ⟨j, hj, -⟩ := (sent.complete hlen).readFreely_followedBy h hunread later
  rw [← Request.read_eq_readFreely rfl hlate, sent.outcome_complete] at hj
  have hserve : site.serve output fs sent.received =
      site.serveFile output fs sent.path sent.header := by
    rw [serve, ClientRequest.received, hget]
    rfl
  rw [Connection.reply_of_read (s := ⟨site.handler, { head, idle }⟩) hj (by rintro ⟨⟩), ← hserve]
  rfl

/-! ### Files below the root -/

/-- The path that is asked for to get what these names lead to. -/
def uriOf (names : List Text) : Text :=
  '/' :: Text.join ['/'] names

/-- The path in the file system of what these names lead to. -/
def pathTo (site : StaticSite) (names : List Text) : Bytes :=
  Path.join site.root (Utf8.encode (Text.join ['/'] names))

/-- The root is a directory in which these names lead to a regular file, with no link on the way,
and the path that they make up is one that is looked up as it is and does not end with two dots. All
is within the limits of the system, for names, for paths and for the sizes of files. -/
structure Offers (site : StaticSite) (fs : FileSystem) (names : List Text) (content : Content) :
    Prop where
  stands : ∃ es, fs.stat site.root = .ok (.dir es) ∧
    (Node.dir es).at? (names.map Utf8.encode) = some (.file content)
  isFileName : ∀ name ∈ names, IsFileName (Utf8.encode name)
  backslash : '\\' ∉ uriOf names
  last : ∀ c, (uriOf names).getLast? = some c → isBlank c = false
  dots : ¬"..".toList <:+ uriOf names
  path_le : (site.pathTo names).length ≤ FileSystem.maxPath
  size_le : content.size ≤ maxU64

namespace Offers

variable {site : StaticSite} {fs : FileSystem} {names : List Text} {content : Content}

theorem names_ne_nil (h : site.Offers fs names content) : names ≠ [] := by
  rintro rfl
  obtain ⟨es, -, hat⟩ := h.stands
  cases hat

theorem slash_notMem (h : site.Offers fs names content) {name : Text} (hname : name ∈ names) :
    '/' ∉ name :=
  (h.isFileName name hname).slash_notMem

theorem splitOn_eq (h : site.Offers fs names content) :
    splitOn '/' (Text.join ['/'] names) = names :=
  splitOn_join h.names_ne_nil fun _ => h.slash_notMem

theorem head?_ne (h : site.Offers fs names content) : (Text.join ['/'] names).head? ≠ some '/' := by
  intro hhead
  obtain ⟨t, ht⟩ := List.head?_eq_some_iff.1 hhead
  have hsplit := h.splitOn_eq
  -- A leading slash would make the first name empty.
  rw [ht, splitOn, if_pos rfl] at hsplit
  have hnil : [] ∈ names := hsplit ▸ List.mem_cons_self
  exact (h.isFileName [] hnil).ne_nil rfl

theorem nul_notMem (h : site.Offers fs names content) :
    0 ∉ Utf8.encode (Text.join ['/'] names) := by
  intro hm
  have hchar := (Utf8.mem_encode_iff_of_ascii (c := Char.ofNat 0) (by decide)).1 hm
  rcases mem_of_mem_join hchar with hslash | ⟨name, hname, hchar⟩
  · exact absurd hslash (by decide)
  · exact (h.isFileName name hname).nul
      ((Utf8.mem_encode_iff_of_ascii (c := Char.ofNat 0) (by decide)).2 hchar)

theorem normalize_eq (h : site.Offers fs names content) :
    normalize (uriOf names) = uriOf names :=
  normalize_eq_self (fun c hc => by cases hc; decide) h.last h.backslash

theorem not_isTraversal (h : site.Offers fs names content) : ¬isTraversal (uriOf names) = true := by
  refine not_isTraversal_below (d := []) (by decide) (fun hdots => ?_) fun hdots => ?_
  · rw [h.splitOn_eq] at hdots
    exact (h.isFileName _ hdots).ne_dots rfl
  · exact h.dots (hdots.trans (List.suffix_cons _ _))

theorem relative_eq (h : site.Offers fs names content) :
    relative (uriOf names) = Utf8.encode (Text.join ['/'] names) :=
  relative_below (d := []) h.head?_ne

theorem stat_eq (h : site.Offers fs names content) :
    fs.stat (site.pathTo names) = .ok (.file content) := by
  obtain ⟨es, hroot, hat⟩ := h.stands
  have hnames : Path.names (Utf8.encode (Text.join ['/'] names)) = names.map Utf8.encode := by
    rw [Path.names_encode, h.splitOn_eq]
  refine FileSystem.stat_join_of_at? hroot (fun target => by rintro ⟨⟩) (hnames ▸ hat) ?_
    (Path.isAbsolute_encode h.head?_ne) h.nul_notMem h.path_le
  rw [hnames]
  intro name hname
  obtain ⟨t, ht, rfl⟩ := List.mem_map.1 hname
  exact h.isFileName t ht

/-- **The answer to the path of a file** is that file, from the start of the range on. -/
theorem serveFile (h : site.Offers fs names content) (output : OutputEncoding) (fields : Fields) :
    site.serveFile output fs (uriOf names) fields =
      serveRegular output (site.pathTo names) (.file content) fields := by
  have hdir : fs.isDir site.root = true := by
    obtain ⟨es, hroot, -⟩ := h.stands
    rw [FileSystem.isDir, hroot]
    rfl
  have hsafe : ¬isTraversal (normalize (uriOf names)) = true := by
    rw [h.normalize_eq]
    exact h.not_isTraversal
  have hstat : fs.stat (Path.join site.root (relative (normalize (uriOf names)))) =
      .ok (.file content) := by
    rw [h.normalize_eq, h.relative_eq]
    exact h.stat_eq
  rw [serveFile_eq hdir hsafe, hstat]
  simp only [h.normalize_eq, h.relative_eq]
  rfl

end Offers

/-! ### The whole download -/

/-- An answer with a file as it is sent. -/
def fileReply (fields : List (Text × Text)) (body : Bytes) : Bytes :=
  Utf8.encode ("HTTP/1.0 200 OK\r\n".toList ++ fields.flatMap Response.headerLine ++
    "\r\n".toList) ++ body

theorem sentFields_serveRegular (output : OutputEncoding) (path : Bytes) (content : Content)
    (fields : Fields) (date : Text) :
    (serveRegular output path (.file content) fields).sentFields date =
      [("Content-Type".toList, Mime.ofPath path), ("Date".toList, date)] ++
        fileHeaders content.size (startWithin? fields content.size) := by
  have hdate : ∀ start, (fileHeaders content.size start).find?
      (fun field => Text.sameIgnoringCase field.1 "Date".toList) = none := by
    intro start
    cases start with
    | none => rfl
    | some n => rfl
  rw [serveRegular, Response.sentFields, Response.dateField, Response.header?, hdate]
  rfl

theorem headText_of_ok {r : Response} (h : r.status = .ok) (date : Text) :
    r.headText date = "HTTP/1.0 200 OK\r\n".toList ++
      (r.sentFields date).flatMap Response.headerLine ++ "\r\n".toList := by
  have hcode : decimal 200 = "200".toList := by simp [decimal_eq, digit]
  have hline : "HTTP/1.0 ".toList ++ r.status.line ++ "\r\n".toList =
      "HTTP/1.0 200 OK\r\n".toList := by
    rw [h, Status.line, Status.code, hcode]
    rfl
  exact congrArg (· ++ (r.sentFields date).flatMap Response.headerLine ++ "\r\n".toList) hline

theorem bytes_serveRegular (output : OutputEncoding) (path : Bytes) (content : Content)
    (fields : Fields) (date : Text) :
    (serveRegular output path (.file content) fields).bytes date =
      fileReply ([("Content-Type".toList, Mime.ofPath path), ("Date".toList, date)] ++
          fileHeaders content.size (startWithin? fields content.size))
        (content.bytes.drop ((startWithin? fields content.size).getD 0)) := by
  have hbody : (serveRegular output path (.file content) fields).body.all =
      content.bytes.drop ((startWithin? fields content.size).getD 0) := content.bytesFrom_eq _
  rw [Response.bytes, Response.head, headText_of_ok rfl, sentFields_serveRegular, hbody, fileReply]

/-- A session with a client that asks for the path of a file. -/
theorem Offers.reply_get {site : StaticSite} {fs : FileSystem} {names : List Text}
    {content : Content} (h : site.Offers fs names content) (output : OutputEncoding) (date : Text)
    {fields : List (Text × Text)} (hsend : ∀ f ∈ fields, Sendable f)
    (hfree : ∀ f ∈ fields, Text.lower f.1 ≠ "content-length".toList) {head : Nat}
    {idle : Option Nat} {i : Input} (hsmooth : i.Smooth) {rest : Bytes}
    (hunread : i.unread = getBytes (uriOf names) fields ++ rest) (later : List Event)
    (hlate : ∀ stage,
      (Request.read { head, idle } (i.followedBy later)).1 ≠ .error (.timedOut stage)) :
    let start := startWithin? (.ofList (fields.map lowerName)) content.size
    Service.reply ⟨site.handler, { head, idle }⟩ ⟨fs, output, date⟩ (i.followedBy later) =
      fileReply
        ([("Content-Type".toList, Mime.ofPath (site.pathTo names)), ("Date".toList, date)] ++
          fileHeaders content.size start) (content.bytes.drop (start.getD 0)) := by
  intro start
  have hne : uriOf names ≠ [] := List.cons_ne_nil _ _
  rw [← ClientRequest.bytes_get (uriOf names) hne fields hsend hfree] at hunread
  rw [site.reply_get fs output date rfl hsmooth hunread later hlate, ClientRequest.header,
    ClientRequest.sentFields_get]
  exact (congrArg (Response.bytes · date) (h.serveFile output _)).trans
    (bytes_serveRegular output _ content _ date)

/-- A range is found under its name in any case, and counts if it starts within the file. -/
theorem startWithin?_rangeFrom {name : Text} (hname : name.lower = "range".toList) (n : Nat)
    {size : Nat} (hsize : size ≤ maxU64) :
    startWithin? (.ofList ([(name, rangeFrom n)].map lowerName)) size =
      if n < size then some n else none := by
  have hget : (Fields.ofList ([(name, rangeFrom n)].map lowerName)).get? "range".toList =
      some (rangeFrom n) := by
    rw [Fields.get?_ofList, List.map_singleton, lowerName, hname]
    rfl
  rw [startWithin?, hget, Option.bind_some, rangeStart?_rangeFrom]
  by_cases hn : n < size
  · rw [if_pos hn, if_pos (by omega), Option.filter_some, if_pos (by simpa using hn)]
  · rw [if_neg hn]
    split
    · rw [Option.filter_some, if_neg (by simpa using hn)]
    · rfl

/-- **Downloads.** Whatever deadlines there are and however a request arrives, as long as no read
fails before it is there and no deadline passes: a client that asks for the path of a file below the
root receives the file as a whole, with its media type and its length. If it asks for the bytes from
one on that the file has, it receives the rest of the file from there on, which with the bytes
before them makes up the file; and if the file has no such byte, it receives the file as a whole. -/
theorem reply_download {site : StaticSite} {fs : FileSystem} {names : List Text} {content : Content}
    (h : site.Offers fs names content) (output : OutputEncoding) (date : Text) (head : Nat)
    (idle : Option Nat) (i : Input) (hsmooth : i.Smooth) (rest : Bytes) (later : List Event)
    (hlate : ∀ stage,
      (Request.read { head, idle } (i.followedBy later)).1 ≠ .error (.timedOut stage)) :
    let reply := Service.reply ⟨site.handler, { head, idle }⟩ ⟨fs, output, date⟩
      (i.followedBy later)
    let lead : List (Text × Text) :=
      [("Content-Type".toList, Mime.ofPath (site.pathTo names)), ("Date".toList, date),
        ("Accept-Ranges".toList, "bytes".toList)]
    let whole := fileReply (lead ++ [("Content-length".toList, decimal content.size)]) content.bytes
    (i.unread = getBytes (uriOf names) [] ++ rest → reply = whole) ∧
    ∀ (name : Text) (n : Nat), name.lower = "range".toList →
      i.unread = getBytes (uriOf names) [(name, rangeFrom n)] ++ rest →
      (n < content.size → ∃ part, content.bytes.take n ++ part = content.bytes ∧
        reply = fileReply (lead ++ [("Content-length".toList, decimal (content.size - n)),
          ("Content-range".toList, "bytes ".toList ++ decimal n ++ '-' ::
            decimal (content.size - 1) ++ '/' :: decimal content.size)]) part) ∧
      (content.size ≤ n → reply = whole) := by
  intro reply lead whole
  constructor
  · intro hunread
    exact h.reply_get output date (List.forall_mem_nil _) (List.forall_mem_nil _) hsmooth hunread
      later hlate
  · intro name n hname hunread
    have hsend : ∀ f ∈ [(name, rangeFrom n)], Sendable f :=
      List.forall_mem_singleton.2 (sendable_range hname n)
    have hfree : ∀ f ∈ [(name, rangeFrom n)], Text.lower f.1 ≠ "content-length".toList :=
      List.forall_mem_singleton.2 (by rw [hname]; decide)
    have hreply := h.reply_get output date hsend hfree hsmooth hunread later hlate
    simp only [startWithin?_rangeFrom hname n h.size_le] at hreply
    constructor
    · intro hn
      rw [if_pos hn] at hreply
      exact ⟨content.bytes.drop n, List.take_append_drop n _, hreply⟩
    · intro hn
      rw [if_neg (Nat.not_lt.2 hn)] at hreply
      exact hreply

/-- A file one directory down, of which the client has the first byte. The request comes in two
pieces. -/
theorem reply_download_resumed :
    let content : Content := ⟨[1, 2, 3], 0⟩
    let names := ["a b".toList, "é.txt".toList]
    let fs : FileSystem := ⟨.dir [(Utf8.encode "www".toList, .dir [(Utf8.encode "a b".toList,
      .dir [(Utf8.encode "é.txt".toList, .file content)])])], []⟩
    let site : StaticSite := ⟨Utf8.encode "/www".toList, true⟩
    let name := "RANGE".toList
    let sent := getBytes (uriOf names) [(name, rangeFrom 1)]
    let i : Input := ⟨[], [.data (sent.take 9), .wait 100, .data (sent.drop 9)], 0⟩
    site.Offers fs names content ∧ i.Smooth ∧ Text.lower name = "range".toList ∧
      Service.reply ⟨site.handler, {}⟩ ⟨fs, none, "now".toList⟩ i =
        fileReply [("Content-Type".toList, "text/plain".toList), ("Date".toList, "now".toList),
          ("Accept-Ranges".toList, "bytes".toList), ("Content-length".toList, "2".toList),
          ("Content-range".toList, "bytes 1-2/3".toList)] [2, 3] := by
  intro content names fs site name sent i
  have hoffers : site.Offers fs names content := {
    stands := ⟨_, rfl, rfl⟩
    isFileName := by
      intro name hname
      simp only [names, List.mem_cons, List.not_mem_nil, or_false] at hname
      rcases hname with rfl | rfl
      · exact ⟨by decide, by decide, by decide, by decide, by decide, by decide⟩
      · exact ⟨by decide, by decide, by decide, by decide, by decide, by decide⟩
    backslash := by decide
    last := fun c hc => by cases hc; decide
    dots := by decide
    path_le := by decide
    size_le := by decide }
  have hsmooth : i.Smooth := by
    intro e he
    simp only [i, List.mem_cons, List.not_mem_nil, or_false] at he
    rcases he with rfl | rfl | rfl <;> rfl
  have hunread : i.unread = sent ++ [] := by
    simp [i, Input.unread]
  have hlate := Request.read_of_span_le (d := {}) rfl hsmooth (by decide)
    (fun _ hlimit => by cases hlimit)
  rw [← i.followedBy_nil] at hlate ⊢
  obtain ⟨part, hpart, hreply⟩ := ((reply_download hoffers none "now".toList 5000 none i hsmooth []
    [] hlate).2 name 1 rfl hunread).1 (by decide)
  have hmime : Mime.ofPath (site.pathTo names) = "text/plain".toList := by decide +kernel
  have hsize : content.size = 3 := rfl
  have hone : decimal 1 = "1".toList := by simp [decimal_eq, digit]
  have htwo : decimal 2 = "2".toList := by simp [decimal_eq, digit]
  have hthree : decimal 3 = "3".toList := by simp [decimal_eq, digit]
  obtain rfl : part = [2, 3] := List.append_cancel_left hpart
  rw [hmime, hsize, hone, htwo, hthree] at hreply
  exact ⟨hoffers, hsmooth, rfl, hreply⟩

end StaticSite

end HttpServer
