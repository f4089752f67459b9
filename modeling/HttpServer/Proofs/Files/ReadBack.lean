import HttpServer.Proofs.Files.Page
import Mathlib.Data.List.TakeWhile

/-!
# A listing is read back

A reader that knows only the fixed markup of listing pages, and nothing of the names and paths on a
page, reads from it exactly what went into it: the path from the heading, the link to the directory
above, and for each entry its path, its name, whether it is a directory, and the size that is shown
for a file. Names and paths are arbitrary. In quotes they stand percent-encoded, which leaves no
quotation mark, and in the text they stand escaped, which leaves no `<`; so the reader stops where
the page goes on, and nothing that was inserted can pass for markup.

## Main definitions

* `Listing.Page`: what a page shows.
* `Listing.Page.read?`: the reader.
* `Listing.frame`: the tags of a page.

## Main results

* `Listing.pairwise_sort`, `Listing.filter_sort`: the order of a listing.
* `Listing.read?_render`: the reader inverts rendering.
* `Listing.tags_render`: the tags do not depend on any text.
* `Listing.render_readBack`: all of it together.
-/

namespace HttpServer

namespace Listing

/-! ### The order of a listing -/

theorem before_iff {a b : Entry} : a.before b = true ↔
    a.isDir = b.isDir ∧ ¬b.name < a.name ∨ a.isDir = true ∧ b.isDir = false := by
  rw [Entry.before]
  by_cases h : a.isDir = b.isDir
  · rw [if_pos h, Bool.not_eq_true', decide_eq_false_iff_not, h]
    simp
  · rw [if_neg h]
    cases ha : a.isDir <;> cases hb : b.isDir <;> simp_all

theorem before_trans (a b c : Entry) (hab : a.before b = true) (hbc : b.before c = true) :
    a.before c = true := by
  rw [before_iff] at hab hbc ⊢
  rcases hab with ⟨hdir, hname⟩ | ⟨ha, hb⟩
  · rcases hbc with ⟨hdir', hname'⟩ | ⟨hb, hc⟩
    · exact .inl ⟨hdir.trans hdir', List.le_trans hname hname'⟩
    · exact .inr ⟨hdir.trans hb, hc⟩
  · rcases hbc with ⟨hdir', -⟩ | ⟨hb', -⟩
    · exact .inr ⟨ha, hdir' ▸ hb⟩
    · rw [hb] at hb'
      cases hb'

theorem before_total (a b : Entry) : (a.before b || b.before a) = true := by
  rw [Bool.or_eq_true, before_iff, before_iff]
  cases ha : a.isDir <;> cases hb : b.isDir
  · exact (List.le_total a.name b.name).imp (fun h => .inl ⟨rfl, h⟩) (fun h => .inl ⟨rfl, h⟩)
  · exact .inr (.inr ⟨rfl, rfl⟩)
  · exact .inl (.inr ⟨rfl, rfl⟩)
  · exact (List.le_total a.name b.name).imp (fun h => .inl ⟨rfl, h⟩) (fun h => .inl ⟨rfl, h⟩)

/-- **The order of a listing**: directories first, and by name among directories and among files. -/
theorem pairwise_sort (entries : List Entry) : (sort entries).Pairwise fun a b =>
    a.isDir = b.isDir ∧ ¬b.name < a.name ∨ a.isDir = true ∧ b.isDir = false := by
  have h : (sort entries).Pairwise fun a b => a.before b = true :=
    List.pairwise_mergeSort before_trans before_total entries
  exact h.imp before_iff.1

/-- Entries that the order does not tell apart stay in their order. -/
theorem filter_sort (entries : List Entry) (isDir : Bool) (name : Text) :
    (sort entries).filter (fun e => e.isDir = isDir ∧ e.name = name) =
      entries.filter (fun e => e.isDir = isDir ∧ e.name = name) := by
  have hsame : (entries.filter fun e => e.isDir = isDir ∧ e.name = name).Pairwise
      fun a b => a.before b = true := by
    refine List.pairwise_filter.2 (List.pairwise_of_forall fun a b ha hb => ?_)
    obtain ⟨hadir, haname⟩ := of_decide_eq_true ha
    obtain ⟨hbdir, hbname⟩ := of_decide_eq_true hb
    rw [before_iff, hadir, hbdir, haname, hbname]
    exact .inl ⟨rfl, List.lt_irrefl name⟩
  have hsub : (entries.filter fun e => e.isDir = isDir ∧ e.name = name).Sublist (sort entries) :=
    List.sublist_mergeSort before_trans before_total hsame List.filter_sublist
  have hfilter := hsub.filter fun e : Entry => e.isDir = isDir ∧ e.name = name
  rw [List.filter_filter] at hfilter
  simp only [Bool.and_self] at hfilter
  exact (hfilter.eq_of_length ((List.mergeSort_perm entries _).filter _).length_eq.symm).symm

/-! ### The reader -/

/-- A link as a reader understands it. -/
structure Link where
  /-- The decoded target. -/
  target : Text
  /-- The text that is shown. -/
  text : Text
  deriving DecidableEq, Repr

/-- The line of an entry as a reader understands it. -/
structure Line where
  /-- The link to the entry. -/
  link : Link
  /-- The size that is shown. The line of a directory has none. -/
  size : Option Text
  deriving DecidableEq, Repr

/-- What a page shows. -/
structure Page where
  /-- The path in the heading. -/
  uri : Text
  /-- The link to the directory above, if there is one. -/
  parent : Option Link
  /-- The lines of the entries in their order. -/
  lines : List Line
  deriving DecidableEq, Repr

/-- A link at the start of a text, and what follows it. -/
def readLink? (t : Text) : Option (Link × Text) := do
  let t ← dropLead? opening t
  let (target, t) ← splitOnce? '"' t
  let t ← dropLead? ">".toList t
  let (text, t) ← splitOnce? '<' t
  let t ← dropLead? "/a>".toList t
  let target ← (Percent.decode target).toOption
  some (⟨target, Markup.unescape text⟩, t)

/-- The link to the directory above, with what follows its line. -/
def readParent? (t : Text) : Option (Link × Text) := do
  let t ← dropLead? "<b>".toList t
  let (link, t) ← readLink? t
  let t ← dropLead? "</b><br/>".toList t
  some (link, t)

/-- The line of a directory, and what follows it. -/
def readDirectory? (t : Text) : Option (Line × Text) := do
  let t ← dropLead? "<b>".toList t
  let (link, t) ← readLink? t
  let t ← dropLead? "<br/></b>".toList t
  some (⟨link, none⟩, t)

/-- The line of a file, and what follows it. -/
def readFile? (t : Text) : Option (Line × Text) := do
  let (link, t) ← readLink? t
  let t ← dropLead? " &nbsp;<font size=2>(".toList t
  let (size, t) ← splitOnce? ')' t
  let t ← dropLead? "</font><br/>".toList t
  some (⟨link, some size⟩, t)

/-- The line of an entry, and what follows it. -/
def readLine? (t : Text) : Option (Line × Text) :=
  (readDirectory? t).or (readFile? t)

theorem length_lt_of_splitOnce? {α : Type} [DecidableEq α] {sep : α} {s a b : List α}
    (h : splitOnce? sep s = some (a, b)) : b.length < s.length := by
  induction s generalizing a with
  | nil => cases h
  | cons x s ih =>
    rw [splitOnce?] at h
    split at h
    · cases h
      exact Nat.lt_succ_self _
    · obtain ⟨p, hp, heq⟩ := Option.map_eq_some_iff.1 h
      cases heq
      exact (ih hp).trans (Nat.lt_succ_self _)

theorem length_le_of_dropLead? {α : Type} [DecidableEq α] {lead s rest : List α}
    (h : dropLead? lead s = some rest) : rest.length ≤ s.length := by
  rw [eq_append_of_dropLead? h, List.length_append]
  exact Nat.le_add_left _ _

theorem length_lt_of_readLink? {t rest : Text} {link : Link} (h : readLink? t = some (link, rest)) :
    rest.length < t.length := by
  simp only [readLink?, Option.bind_eq_bind, Option.bind_eq_some_iff, Prod.exists] at h
  obtain ⟨t₁, h₁, a, t₂, h₂, t₃, h₃, b, t₄, h₄, t₅, h₅, target, -, heq⟩ := h
  cases heq
  have := length_le_of_dropLead? h₁
  have := length_lt_of_splitOnce? h₂
  have := length_le_of_dropLead? h₃
  have := length_lt_of_splitOnce? h₄
  have := length_le_of_dropLead? h₅
  omega

theorem length_lt_of_readLine? {t rest : Text} {line : Line} (h : readLine? t = some (line, rest)) :
    rest.length < t.length := by
  rw [readLine?, Option.or_eq_some_iff] at h
  rcases h with h | ⟨-, h⟩
  · simp only [readDirectory?, Option.bind_eq_bind, Option.bind_eq_some_iff, Prod.exists] at h
    obtain ⟨t₁, h₁, link, t₂, h₂, t₃, h₃, heq⟩ := h
    cases heq
    have := length_le_of_dropLead? h₁
    have := length_lt_of_readLink? h₂
    have := length_le_of_dropLead? h₃
    omega
  · simp only [readFile?, Option.bind_eq_bind, Option.bind_eq_some_iff, Prod.exists] at h
    obtain ⟨link, t₁, h₁, t₂, h₂, size, t₃, h₃, t₄, h₄, heq⟩ := h
    cases heq
    have := length_lt_of_readLink? h₁
    have := length_le_of_dropLead? h₂
    have := length_lt_of_splitOnce? h₃
    have := length_le_of_dropLead? h₄
    omega

/-- The lines of all entries up to the end of the page. -/
def readLines? (t : Text) : Option (List Line) :=
  match h : readLine? t with
  | some (line, rest) =>
    have := length_lt_of_readLine? h
    (readLines? rest).map (line :: ·)
  | none => if t = "</body></html>".toList then some [] else none
termination_by t.length

/-- What a page shows, if it is a listing. -/
def Page.read? (t : Text) : Option Page := do
  let t ← dropLead? "<html><body><h1>Directory ".toList t
  let (heading, t) ← splitOnce? '<' t
  let t ← dropLead? "/h1><br/>".toList t
  match readParent? t with
  | some (link, t) => (readLines? t).map (⟨Markup.unescape heading, some link, ·⟩)
  | none => (readLines? t).map (⟨Markup.unescape heading, none, ·⟩)

/-! ### Pieces are read back -/

/-- A link is read back in front of anything. -/
theorem readLink?_append (target text rest : Text) :
    readLink? (opening ++ (Percent.encode target ++ '"' :: (">".toList ++
      (Markup.escape text ++ '<' :: ("/a>".toList ++ rest))))) = some (⟨target, text⟩, rest) := by
  have hquote : '"' ∉ Percent.encode target := Params.notMem_encode rfl target
  have hlt : '<' ∉ Markup.escape text := Markup.notMem_escape rfl (by decide) text
  simp only [readLink?, Option.bind_eq_bind, dropLead?_append, Option.bind_some,
    splitOnce?_append hquote, splitOnce?_append hlt, Percent.decode_encode, Except.toOption,
    Markup.unescape_escape]

/-- What the line of an entry shows. -/
def Entry.shown (uri : Text) (e : Entry) : Line :=
  ⟨⟨uri ++ e.shownName, e.shownName⟩, if e.isDir then none else some (sizeText e.size)⟩

theorem anchor_append (uri : Text) (e : Entry) (rest : Text) :
    e.anchor uri ++ rest = opening ++ (target uri e ++ '"' :: (">".toList ++
      (Markup.escape e.shownName ++ '<' :: ("/a>".toList ++ rest)))) :=
  append_pieces _ _ _ _ _ _

theorem readLink?_anchor (uri : Text) (e : Entry) (rest : Text) :
    readLink? (e.anchor uri ++ rest) = some (⟨uri ++ e.shownName, e.shownName⟩, rest) := by
  rw [anchor_append, target, readLink?_append]

/-- The line of a file does not start as the line of a directory does. -/
theorem readDirectory?_anchor (uri : Text) (e : Entry) (rest : Text) :
    readDirectory? (e.anchor uri ++ rest) = none := by
  rw [anchor_append]
  rfl

/-- The line of an entry is read back in front of anything. -/
theorem readLine?_line (uri : Text) (e : Entry) (rest : Text) :
    readLine? (e.line uri ++ rest) = some (e.shown uri, rest) := by
  rw [readLine?, Entry.line, Entry.shown]
  cases e.isDir with
  | true =>
    have hline : "<b>".toList ++ e.anchor uri ++ "<br/></b>".toList ++ rest =
        "<b>".toList ++ (e.anchor uri ++ ("<br/></b>".toList ++ rest)) := by
      rw [List.append_assoc, List.append_assoc]
    simp only [if_true, hline, readDirectory?, Option.bind_eq_bind, dropLead?_append,
      Option.bind_some, readLink?_anchor, Option.some_or]
  | false =>
    have hline : e.anchor uri ++ " &nbsp;<font size=2>(".toList ++ sizeText e.size ++
          ")</font><br/>".toList ++ rest =
        e.anchor uri ++ (" &nbsp;<font size=2>(".toList ++ (sizeText e.size ++
          ')' :: ("</font><br/>".toList ++ rest))) := by
      rw [List.append_assoc, List.append_assoc, List.append_assoc]
      rfl
    have hparen : ')' ∉ sizeText e.size := notMem_sizeText (by decide) (by decide) e.size
    simp only [Bool.false_eq_true, if_false, hline, readDirectory?_anchor, Option.none_or,
      readFile?, Option.bind_eq_bind, readLink?_anchor, Option.bind_some, dropLead?_append,
      splitOnce?_append hparen]

/-- The lines of a page are read back. -/
theorem readLines?_lines (uri : Text) (es : List Entry) :
    readLines? (es.flatMap (Entry.line uri) ++ "</body></html>".toList) =
      some (es.map (Entry.shown uri)) := by
  induction es with
  | nil =>
    have hnone : readLine? "</body></html>".toList = none := rfl
    rw [List.flatMap_nil, List.nil_append, readLines?]
    split
    · rename_i h
      rw [hnone] at h
      cases h
    · rw [if_pos rfl, List.map_nil]
  | cons e es ih =>
    rw [List.flatMap_cons, List.append_assoc, readLines?]
    split
    · rename_i h
      rw [readLine?_line] at h
      cases h
      rw [ih, Option.map_some, List.map_cons]
    · rename_i h
      rw [readLine?_line] at h
      cases h

/-- The line of the directory above is read back in front of anything. -/
theorem readParent?_parentLine {uri up : Text} (h : parent? uri = some up) (rest : Text) :
    readParent? (parentLine uri ++ rest) = some (⟨up, "..".toList⟩, rest) := by
  have hline : parentLine uri ++ rest = "<b>".toList ++ (opening ++ (Percent.encode up ++ '"' ::
      (">".toList ++ (Markup.escape "..".toList ++ '<' :: ("/a>".toList ++
        ("</b><br/>".toList ++ rest)))))) := by
    rw [parentLine, h]
    simp only [List.append_assoc]
    rfl
  simp only [hline, readParent?, Option.bind_eq_bind, dropLead?_append, Option.bind_some,
    readLink?_append]

/-- The line of an entry does not pass for that of the directory above. -/
theorem readParent?_lines (uri : Text) (es : List Entry) :
    readParent? (es.flatMap (Entry.line uri) ++ "</body></html>".toList) = none := by
  cases es with
  | nil => rfl
  | cons e es =>
    rw [List.flatMap_cons, List.append_assoc, Entry.line]
    generalize es.flatMap (Entry.line uri) ++ "</body></html>".toList = rest
    cases e.isDir with
    | true =>
      have hline : "<b>".toList ++ e.anchor uri ++ "<br/></b>".toList ++ rest =
          "<b>".toList ++ (e.anchor uri ++ ("<br/></b>".toList ++ rest)) := by
        rw [List.append_assoc, List.append_assoc]
      have hclose : dropLead? "</b><br/>".toList ("<br/></b>".toList ++ rest) = none := rfl
      simp only [if_true, hline, readParent?, Option.bind_eq_bind, dropLead?_append,
        Option.bind_some, readLink?_anchor, hclose, Option.bind_none]
    | false =>
      simp only [Bool.false_eq_true, if_false, List.append_assoc, anchor_append]
      rfl

/-- **The reader inverts rendering**, whatever the path and the names. -/
theorem read?_render (uri : Text) (entries : List Entry) :
    Page.read? (render uri entries) =
      some ⟨uri, (parent? uri).map (⟨·, "..".toList⟩), (sort entries).map (Entry.shown uri)⟩ := by
  have hpage : render uri entries = "<html><body><h1>Directory ".toList ++ (Markup.escape uri ++
      '<' :: ("/h1><br/>".toList ++ (parentLine uri ++ ((sort entries).flatMap (Entry.line uri) ++
        "</body></html>".toList)))) := append_pieces _ _ _ _ _ _
  have hlt : '<' ∉ Markup.escape uri := Markup.notMem_escape rfl (by decide) uri
  simp only [hpage, Page.read?, Option.bind_eq_bind, dropLead?_append, Option.bind_some,
    splitOnce?_append hlt, Markup.unescape_escape]
  cases hup : parent? uri with
  | none =>
    have hnone : parentLine uri = [] := by rw [parentLine, hup]
    simp only [hnone, List.nil_append, readParent?_lines, readLines?_lines, Option.map_some,
      Option.map_none]
  | some up =>
    simp only [readParent?_parentLine hup, readLines?_lines, Option.map_some]

/-! ### Tags -/

/-- The tags of the line of a directory, or of that of a file. -/
def lineFrame (isDir : Bool) : Text :=
  if isDir then "<b><a href=\"\"></a><br/></b>".toList
  else "<a href=\"\"></a><font size=2></font><br/>".toList

/-- The tags of a page, from whether it links to a directory above and from which of its lines are
those of directories. -/
def frame (parent : Bool) (lines : List Bool) : Text :=
  "<html><body><h1></h1><br/>".toList ++
    (if parent then "<b><a href=\"\"></a></b><br/>".toList else []) ++
    lines.flatMap lineFrame ++ "</body></html>".toList

open Markup (tags tags_text_append tags_quoted_append)

theorem tags_anchor (uri : Text) (e : Entry) (rest : Text) :
    tags .text (e.anchor uri ++ rest) = "<a href=\"\"></a>".toList ++ tags .text rest := by
  have hquote : '"' ∉ target uri e := Params.notMem_encode rfl _
  have hlt : '<' ∉ Markup.escape e.shownName := Markup.notMem_escape rfl (by decide) _
  have hopen : ∀ t, tags .text (opening ++ t) = opening ++ tags .quoted t := fun _ => rfl
  have hclose : ∀ t, tags .tag (">".toList ++ t) = ">".toList ++ tags .text t := fun _ => rfl
  rw [anchor_append, hopen, tags_quoted_append hquote, hclose, tags_text_append hlt]
  rfl

theorem tags_line (uri : Text) (e : Entry) (rest : Text) :
    tags .text (e.line uri ++ rest) = lineFrame e.isDir ++ tags .text rest := by
  rw [Entry.line]
  cases e.isDir with
  | true =>
    have hbold : ∀ t, tags .text ("<b>".toList ++ t) = "<b>".toList ++ tags .text t := fun _ => rfl
    simp only [if_true, List.append_assoc]
    rw [hbold, tags_anchor]
    rfl
  | false =>
    have hfont : ∀ t, tags .text (" &nbsp;<font size=2>(".toList ++ t) =
        "<font size=2>".toList ++ tags .text t := fun _ => rfl
    have hlt : '<' ∉ sizeText e.size := notMem_sizeText (by decide) (by decide) e.size
    simp only [Bool.false_eq_true, if_false, List.append_assoc]
    rw [tags_anchor, hfont, tags_text_append hlt]
    rfl

theorem tags_lines (uri : Text) (es : List Entry) (rest : Text) :
    tags .text (es.flatMap (Entry.line uri) ++ rest) =
      (es.map Entry.isDir).flatMap lineFrame ++ tags .text rest := by
  induction es with
  | nil => rfl
  | cons e es ih =>
    rw [List.flatMap_cons, List.append_assoc, tags_line, ih, List.map_cons, List.flatMap_cons,
      List.append_assoc]

theorem tags_parentLine (uri rest : Text) :
    tags .text (parentLine uri ++ rest) =
      (if (parent? uri).isSome then "<b><a href=\"\"></a></b><br/>".toList else []) ++
        tags .text rest := by
  rw [parentLine]
  cases parent? uri with
  | none => rfl
  | some up =>
    have hquote : '"' ∉ Percent.encode up := Params.notMem_encode rfl up
    have hopen : ∀ t, tags .text ("<b><a href=\"".toList ++ t) =
        "<b><a href=\"".toList ++ tags .quoted t := fun _ => rfl
    have hclose : "\">..</a></b><br/>".toList ++ rest =
        '"' :: (">..</a></b><br/>".toList ++ rest) := rfl
    rw [List.append_assoc, List.append_assoc, hopen, hclose, tags_quoted_append hquote]
    rfl

/-- **The tags of a page** depend on no text in it. -/
theorem tags_render (uri : Text) (entries : List Entry) :
    tags .text (render uri entries) =
      frame (parent? uri).isSome ((sort entries).map Entry.isDir) := by
  have hpage : render uri entries = "<html><body><h1>Directory ".toList ++ (Markup.escape uri ++
      ("</h1><br/>".toList ++ (parentLine uri ++ ((sort entries).flatMap (Entry.line uri) ++
        "</body></html>".toList)))) := append_pieces _ _ _ _ _ _
  have hlt : '<' ∉ Markup.escape uri := Markup.notMem_escape rfl (by decide) uri
  have hhead : ∀ t, tags .text ("<html><body><h1>Directory ".toList ++ t) =
      "<html><body><h1>".toList ++ tags .text t := fun _ => rfl
  have hbreak : ∀ t, tags .text ("</h1><br/>".toList ++ t) =
      "</h1><br/>".toList ++ tags .text t := fun _ => rfl
  unfold frame
  rw [hpage, hhead, tags_text_append hlt, hbreak, tags_parentLine, tags_lines]
  simp only [List.append_assoc]
  rfl

/-! ### The directory above -/

/-- The directory above a path is named by the path up to its last slash but one. -/
theorem parent?_append {d t : Text} (h : '/' ∉ t) :
    parent? (d ++ '/' :: t ++ ['/']) = some (d ++ ['/']) := by
  have hdrop : (d ++ '/' :: t).reverse.dropWhile (· ≠ '/') = '/' :: d.reverse := by
    have hkeep : ∀ c ∈ t.reverse, decide (c ≠ '/') = true := fun c hc =>
      decide_eq_true fun hslash => h (hslash ▸ List.mem_reverse.1 hc)
    rw [List.reverse_append, List.reverse_cons, List.append_assoc, List.singleton_append,
      List.dropWhile_append_of_pos hkeep, List.dropWhile_cons_of_neg (by decide)]
  rw [parent?, if_pos List.getLast?_concat, List.dropLast_concat, hdrop]
  simp

/-- Below the top there is no directory above. -/
theorem parent?_of_notMem {path : Text} (h : '/' ∉ path) : parent? (path ++ ['/']) = none := by
  have hdrop : path.reverse.dropWhile (· ≠ '/') = [] := by
    rw [List.dropWhile_eq_nil_iff]
    exact fun c hc => decide_eq_true fun hslash => h (hslash ▸ List.mem_reverse.1 hc)
  rw [parent?, if_pos List.getLast?_concat, List.dropLast_concat, hdrop]
  rfl

theorem isSome_parent?_iff {path : Text} :
    (parent? (path ++ ['/'])).isSome = true ↔ path ≠ [] ∧ '/' ∈ path := by
  by_cases h : '/' ∈ path
  · obtain ⟨t, d, hpath, ht⟩ := List.eq_append_cons_of_mem (List.mem_reverse.2 h)
    have hcut : path = d.reverse ++ '/' :: t.reverse := by
      rw [← List.reverse_reverse path, hpath]
      simp
    rw [hcut, parent?_append fun hm => ht (List.mem_reverse.1 hm)]
    simp
  · rw [parent?_of_notMem h]
    simp [h]

/-! ### Pages -/

/-- What can be seen of an entry on a page: its name, whether it is a directory, and for a file the
size as it is shown. -/
def Entry.visible (e : Entry) : Text × Bool × Option Text :=
  (e.name, e.isDir, if e.isDir then none else some (sizeText e.size))

/-- Equal pages were made from the same path and from entries that are shown alike. -/
theorem render_inj {uri uri' : Text} {entries entries' : List Entry}
    (h : render uri entries = render uri' entries') :
    uri = uri' ∧ (sort entries).map Entry.visible = (sort entries').map Entry.visible := by
  have hread := read?_render uri entries
  rw [h, read?_render, Option.some.injEq, Page.mk.injEq] at hread
  obtain ⟨rfl, -, hlines⟩ := hread
  -- A line without a size is that of a directory, and its text has a slash behind the name.
  let seen (line : Line) : Text × Bool × Option Text :=
    (if line.size.isNone then line.link.text.dropLast else line.link.text, line.size.isNone,
      line.size)
  have hseen : seen ∘ Entry.shown uri' = Entry.visible := by
    funext e
    cases hdir : e.isDir <;> simp [seen, Entry.shown, Entry.shownName, Entry.visible, hdir]
  have hmap := congrArg (List.map seen) hlines
  rw [List.map_map, List.map_map, hseen] at hmap
  exact ⟨rfl, hmap.symm⟩

/-- **A page is read back.** It has a line for each entry, directories first and then by name, and
entries that agree in both stay in their order. Its reader gets the path from the heading, the link
to the directory above, and for each line, in turn, the path and the name of the entry, with a slash
behind it for a directory, and the size as it is shown of a file. There is a directory above if the
path without its last slash is not empty and has a slash, and it is named by the path up to the last
of those. The tags of the page follow from whether there is a directory above and from which lines
are those of directories. So equal pages show the same path and the same entries, up to what is
shown of their sizes. -/
theorem render_readBack (uri : Text) (entries : List Entry) :
    (sort entries).Perm entries ∧
    (sort entries).Pairwise (fun a b =>
      a.isDir = b.isDir ∧ ¬b.name < a.name ∨ a.isDir = true ∧ b.isDir = false) ∧
    (∀ isDir name, (sort entries).filter (fun e => e.isDir = isDir ∧ e.name = name) =
      entries.filter (fun e => e.isDir = isDir ∧ e.name = name)) ∧
    Page.read? (render uri entries) =
      some ⟨uri, (parent? uri).map (⟨·, "..".toList⟩), (sort entries).map (Entry.shown uri)⟩ ∧
    (∀ path, uri = path ++ ['/'] →
      ((parent? uri).isSome = true ↔ path ≠ [] ∧ '/' ∈ path) ∧
      ∀ d t, path = d ++ '/' :: t → '/' ∉ t → parent? uri = some (d ++ ['/'])) ∧
    Markup.tags .text (render uri entries) =
      frame (parent? uri).isSome ((sort entries).map Entry.isDir) ∧
    (∀ uri' entries', render uri entries = render uri' entries' →
      uri = uri' ∧ (sort entries).map Entry.visible = (sort entries').map Entry.visible) := by
  refine ⟨List.mergeSort_perm _ _, pairwise_sort entries, filter_sort entries,
    read?_render uri entries, ?_, tags_render uri entries, fun _ _ => render_inj⟩
  rintro path rfl
  refine ⟨isSome_parent?_iff, ?_⟩
  rintro d t rfl ht
  exact parent?_append ht

end Listing

end HttpServer
