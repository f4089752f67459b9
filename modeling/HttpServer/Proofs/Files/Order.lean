import HttpServer.Files.Static
import HttpServer.Proofs.Files.ReadBack

/-!
# The order of a listing

A directory hands out its entries in any order, and the page for it shows them in one: directories
before files, and by the bytes of their names among directories and among files. Names are compared
character by character, which is the order of their bytes (`Utf8.encode_lt_encode_iff`). If no two
entries agree both in kind and in name, only one order of them is strictly ascending, so the page
does not depend on the order in which they were handed out. Names that are not valid UTF-8 can be
shown alike; then the entries that do agree keep the order in which they were handed out.

## Main definitions

* `Listing.Entry.Precedes`: the strict order of entries.
* `Listing.Distinct`: no two entries agree in kind and in name.

## Main results

* `Listing.Distinct.pairwise_sort`: a listing of distinct entries is strictly ascending.
* `Listing.Distinct.render_eq_of_perm`: its page is the same for every order of them.
* `Listing.distinct_listed`: names that are valid UTF-8 are distinct on the page.
* `Listing.render_order`: all of it for any entries, as a reader of the page sees it.
-/

namespace HttpServer

namespace Listing

/-- The one entry is a directory and the other is not, or they are alike in that and the bytes of
the name of the one are smaller. -/
def Entry.Precedes (a b : Entry) : Prop :=
  a.isDir = true ∧ b.isDir = false ∨ a.isDir = b.isDir ∧ a.name.bytes < b.name.bytes

theorem Entry.Precedes.asymm {a b : Entry} (h : a.Precedes b) : ¬b.Precedes a := by
  rintro (⟨hb, ha⟩ | ⟨hdir, hname⟩)
  · rcases h with ⟨ha', -⟩ | ⟨hdir, -⟩
    · rw [ha] at ha'
      cases ha'
    · rw [ha, hb] at hdir
      cases hdir
  · rcases h with ⟨ha, hb⟩ | ⟨-, hname'⟩
    · rw [ha, hb] at hdir
      cases hdir
    · exact List.lt_asymm hname hname'

/-- An entry that may stand before another one precedes it, or agrees with it in kind and name. -/
theorem precedes_or_eq_of_before {a b : Entry} (h : a.before b = true) :
    a.Precedes b ∨ a.isDir = b.isDir ∧ a.name = b.name := by
  rcases before_iff.1 h with ⟨hdir, hname⟩ | hkind
  · rcases List.le_iff_lt_or_eq.1 (List.not_lt.1 hname) with hlt | heq
    · exact .inl (.inr ⟨hdir, Utf8.encode_lt_encode_iff.2 hlt⟩)
    · exact .inr ⟨hdir, heq⟩
  · exact .inl (.inl hkind)

/-- No two of the entries agree both in whether they are directories and in their names. -/
def Distinct (entries : List Entry) : Prop :=
  entries.Pairwise fun a b => ¬(a.isDir = b.isDir ∧ a.name = b.name)

namespace Distinct

variable {entries entries' : List Entry}

theorem of_perm (h : Distinct entries) (hperm : entries.Perm entries') : Distinct entries' :=
  hperm.pairwise h fun hne heq => hne ⟨heq.1.symm, heq.2.symm⟩

/-- **A listing of distinct entries is strictly ascending.** -/
theorem pairwise_sort (h : Distinct entries) : (sort entries).Pairwise Entry.Precedes := by
  have hsort : (sort entries).Pairwise fun a b => a.before b = true :=
    List.pairwise_mergeSort before_trans before_total entries
  have hdistinct : Distinct (sort entries) := h.of_perm (List.mergeSort_perm entries _).symm
  exact (hsort.and hdistinct).imp fun hab => (precedes_or_eq_of_before hab.1).resolve_right hab.2

/-- **One order.** Two strictly ascending lists of the same entries are equal. -/
theorem sort_eq_of_perm (h : Distinct entries) (hperm : entries.Perm entries') :
    sort entries = sort entries' := by
  have hsorted : (sort entries).Perm (sort entries') :=
    (List.mergeSort_perm entries _).trans (hperm.trans (List.mergeSort_perm entries' _).symm)
  have hanti : ∀ a b : Entry, a ∈ sort entries → b ∈ sort entries' →
      a.Precedes b → b.Precedes a → a = b := fun _ _ _ _ hab hba => absurd hba hab.asymm
  exact hsorted.eq_of_pairwise hanti h.pairwise_sort (h.of_perm hperm).pairwise_sort

/-- **One page.** -/
theorem render_eq_of_perm (h : Distinct entries) (hperm : entries.Perm entries') (uri : Text) :
    render uri entries = render uri entries' := by
  unfold render
  rw [h.sort_eq_of_perm hperm]

end Distinct

/-- In a listing no directory stands behind a file. -/
theorem directories_first (entries : List Entry) :
    (sort entries).Pairwise fun a b => b.isDir = true → a.isDir = true := by
  refine (pairwise_sort entries).imp fun hab hb => ?_
  rcases hab with ⟨hdir, -⟩ | ⟨ha, -⟩
  · rwa [hdir]
  · exact ha

/-- Among directories and among files the bytes of the names do not descend. -/
theorem names_ascend (entries : List Entry) :
    (sort entries).Pairwise fun a b => a.isDir = b.isDir → a.name.bytes ≤ b.name.bytes := by
  refine (pairwise_sort entries).imp fun hab hdir => ?_
  rcases hab with ⟨-, hname⟩ | ⟨ha, hb⟩
  · exact List.not_lt.1 fun hlt => hname (Utf8.encode_lt_encode_iff.1 hlt)
  · rw [ha, hb] at hdir
    cases hdir

/-! ### Directories -/

open StaticSite (listed)

variable {nodes nodes' : List (Bytes × Node)}

/-- The entries of a directory are shown as distinct ones if their names are valid UTF-8. -/
theorem distinct_listed (hnames : (nodes.map Prod.fst).Nodup)
    (htexts : ∀ n ∈ nodes, ∃ name : Text, n.1 = name.bytes) : Distinct (listed nodes) := by
  have hne : nodes.Pairwise fun m n => m.1 ≠ n.1 := List.pairwise_map.1 hnames
  refine List.pairwise_map.2 (hne.imp_of_mem fun {m n} hm hn hmn hsame => ?_)
  obtain ⟨a, ha⟩ := htexts m hm
  obtain ⟨b, hb⟩ := htexts n hn
  have hshown : Utf8.decodeLossy m.1 = Utf8.decodeLossy n.1 := hsame.2
  rw [ha, hb, Utf8.decodeLossy_encode, Utf8.decodeLossy_encode] at hshown
  exact hmn (by rw [ha, hb, hshown])

/-- The answer with a directory does not depend on the order in which it hands out its entries. -/
theorem serveDirectory_eq_of_perm (h : Distinct (listed nodes)) (hperm : nodes.Perm nodes')
    (site : StaticSite) (output : OutputEncoding) (fs : FileSystem) (uri : Text) (path : Bytes)
    (fields : Fields) :
    site.serveDirectory output fs uri path nodes fields =
      site.serveDirectory output fs uri path nodes' fields := by
  have hpage : render uri (listed nodes) = render uri (listed nodes') :=
    h.render_eq_of_perm (hperm.map _) uri
  rw [StaticSite.serveDirectory, StaticSite.serveDirectory, hpage]

/-! ### Pages -/

/-- **The order of a page.** A page has one line for each entry, and no other lines. Its directories
come before its files; among directories and among files the bytes of the names do not descend; and
entries of one kind and one name stand as they were given. If no two entries agree in kind and in
name, the bytes of the names ascend strictly in each of the two groups, and the page is the same for
any two orders of the entries. So is the answer with a directory whose names are valid UTF-8. -/
theorem render_order (uri : Text) (entries : List Entry) :
    (∃ es : List Entry,
      (Page.read? (render uri entries)).map Page.lines = some (es.map (Entry.shown uri)) ∧
      es.Perm entries ∧
      (es.Pairwise fun a b => b.isDir = true → a.isDir = true) ∧
      (es.Pairwise fun a b => a.isDir = b.isDir → a.name.bytes ≤ b.name.bytes) ∧
      (∀ isDir name, es.filter (fun e => e.isDir = isDir ∧ e.name = name) =
        entries.filter (fun e => e.isDir = isDir ∧ e.name = name)) ∧
      (Distinct entries →
        es.Pairwise fun a b => a.isDir = b.isDir → a.name.bytes < b.name.bytes)) ∧
    (Distinct entries → ∀ es es' : List Entry, es.Perm entries → es'.Perm entries →
      render uri es = render uri es') ∧
    (∀ nodes nodes' : List (Bytes × Node), (nodes.map Prod.fst).Nodup →
      (∀ n ∈ nodes, ∃ name : Text, n.1 = name.bytes) → nodes.Perm nodes' →
      ∀ (site : StaticSite) (output : OutputEncoding) (fs : FileSystem) (path : Bytes)
        (fields : Fields), site.serveDirectory output fs uri path nodes fields =
          site.serveDirectory output fs uri path nodes' fields) := by
  refine ⟨⟨sort entries, by rw [read?_render]; rfl, List.mergeSort_perm _ _,
    directories_first entries, names_ascend entries, filter_sort entries, fun h => ?_⟩, ?_, ?_⟩
  · refine h.pairwise_sort.imp fun hab hdir => ?_
    rcases hab with ⟨ha, hb⟩ | ⟨-, hname⟩
    · rw [ha, hb] at hdir
      cases hdir
    · exact hname
  · intro h es es' hes hes'
    exact (h.of_perm hes.symm).render_eq_of_perm (hes.trans hes'.symm) uri
  · intro nodes nodes' hnames htexts hperm site output fs path fields
    exact serveDirectory_eq_of_perm (distinct_listed hnames htexts) hperm site output fs uri path
      fields

/-- A directory and two files, whose names end at U+FFFF and start beyond it, in two orders. -/
theorem render_order_reversed :
    let nodes : List (Bytes × Node) :=
      [(Utf8.encode ['😀'], .file ⟨[1], 0⟩), (Utf8.encode ['\uffff'], .socket),
        (Utf8.encode ['z'], .dir [])]
    let site : StaticSite := ⟨Utf8.encode ['/'], true⟩
    let fs : FileSystem := ⟨.dir nodes, []⟩
    Distinct (listed nodes) ∧
    render ['/'] (listed nodes).reverse = render ['/'] (listed nodes) ∧
    site.serveDirectory none fs ['/'] site.root nodes.reverse .empty =
      site.serveDirectory none fs ['/'] site.root nodes .empty := by
  intro nodes site fs
  have hdistinct : Distinct (listed nodes) := by
    unfold Distinct
    decide
  have hnames : (nodes.reverse.map Prod.fst).Nodup := by decide
  have htexts : ∀ n ∈ nodes.reverse, ∃ name : Text, n.1 = name.bytes :=
    List.forall_mem_cons.2 ⟨⟨_, rfl⟩, List.forall_mem_cons.2 ⟨⟨_, rfl⟩,
      List.forall_mem_singleton.2 ⟨_, rfl⟩⟩⟩
  obtain ⟨-, hpage, hdirectory⟩ := render_order ['/'] (listed nodes)
  exact ⟨hdistinct, hpage hdistinct _ _ (List.reverse_perm _) (.refl _),
    hdirectory _ _ hnames htexts (List.reverse_perm _) site none fs site.root .empty⟩

end Listing

end HttpServer
