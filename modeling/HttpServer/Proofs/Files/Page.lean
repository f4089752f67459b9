import HttpServer.Files.Listing
import HttpServer.Proofs.Request.Params
import HttpServer.Proofs.Text.Numeral

/-!
# The links of a listing page

A link stands on a page wherever an anchor is opened, and its target is what is quoted behind that.
No name and no path can open an anchor of its own, or close the quotes of one: what is shown has its
`<` escaped, and encoded targets have neither `<` nor `"`. So the page for a directory has just the
links that are meant, one to the directory above and then one for each entry.

## Main definitions

* `Listing.targets`: the targets of all links on a page.
* `Listing.target`: the target of the link to an entry.

## Main results

* `Listing.targets_render`: the links of the page for a directory, in their order.
* `Listing.count_targets`: how many of them have the target of an entry.
-/

namespace HttpServer

namespace Listing

/-- The characters that do not occur in a size. -/
theorem notMem_sizeText {c : Char} (hdigit : ∀ d < 10, digit d ≠ c)
    (hc : c ∉ ['.', ' ', 'b', 'y', 't', 'e', 's', 'K', 'M', 'B']) (n : Nat) : c ∉ sizeText n := by
  have hdec := notMem_decimal hdigit
  have hpad := notMem_decimalPadded hdigit
  simp only [List.mem_cons, List.not_mem_nil, or_false, not_or] at hc
  rw [sizeText]
  split
  · simp [hdec, hc]
  · split
    · simp [hdec, hc]
    · simp [hdec, hpad, hc]

/-- How an anchor is opened. -/
def opening : Text := "<a href=\"".toList

/-- The targets of the links on a page: wherever an anchor is opened, what stands in front of the
next quotation mark. -/
def targets : Text → List Text
  | [] => []
  | c :: t =>
    match dropLead? opening (c :: t) with
    | some rest => before '"' rest :: targets t
    | none => targets t

/-- The target of the link to an entry. -/
def target (uri : Text) (e : Entry) : Text :=
  Percent.encode (uri ++ e.shownName)

/-! ### Pieces of a page -/

theorem targets_cons_of_ne {c : Char} (h : c ≠ '<') (t : Text) : targets (c :: t) = targets t := by
  have hlead : dropLead? opening (c :: t) = none := if_neg (Ne.symm h)
  simp only [targets, hlead]

/-- Where no tag starts, no link stands. -/
theorem targets_append {s : Text} (h : '<' ∉ s) (t : Text) : targets (s ++ t) = targets t := by
  induction s with
  | nil => rfl
  | cons c s ih =>
    obtain ⟨hc, hs⟩ := not_or.1 fun hm => h (List.mem_cons.2 hm)
    rw [List.cons_append, targets_cons_of_ne (Ne.symm hc), ih hs]

/-- An anchor with an encoded target is one link. -/
theorem targets_opening (t rest : Text) :
    targets (opening ++ (Percent.encode t ++ '"' :: rest)) = Percent.encode t :: targets rest := by
  have hquote : '"' ∉ Percent.encode t := Params.notMem_encode rfl t
  have hlt : '<' ∉ Percent.encode t := Params.notMem_encode rfl t
  have hopen : targets (opening ++ (Percent.encode t ++ '"' :: rest)) =
      before '"' (Percent.encode t ++ '"' :: rest) ::
        targets ("a href=\"".toList ++ (Percent.encode t ++ '"' :: rest)) := rfl
  rw [hopen, before_append hquote, targets_append (by decide), targets_append hlt,
    targets_cons_of_ne (by decide)]

/-- Five pieces of a page in front of the rest of it. -/
theorem append_pieces (a b c d e rest : Text) :
    a ++ b ++ c ++ d ++ e ++ rest = a ++ (b ++ (c ++ (d ++ (e ++ rest)))) := by
  simp only [List.append_assoc]

theorem targets_anchor (uri : Text) (e : Entry) (rest : Text) :
    targets (e.anchor uri ++ rest) = target uri e :: targets rest :=
  calc targets (e.anchor uri ++ rest)
    _ = targets (opening ++ (target uri e ++ ("\">".toList ++
          (Markup.escape e.shownName ++ ("</a>".toList ++ rest))))) :=
        congrArg targets (append_pieces _ _ _ _ _ _)
    _ = target uri e ::
          targets (">".toList ++ (Markup.escape e.shownName ++ ("</a>".toList ++ rest))) :=
        targets_opening _ _
    _ = target uri e :: targets (Markup.escape e.shownName ++ ("</a>".toList ++ rest)) :=
        congrArg _ (targets_cons_of_ne (by decide) _)
    _ = target uri e :: targets ("</a>".toList ++ rest) :=
        congrArg _ (targets_append (Markup.notMem_escape rfl (by decide) _) _)
    _ = target uri e :: targets rest := rfl

/-- The line of an entry has one link. -/
theorem targets_line (uri : Text) (e : Entry) (rest : Text) :
    targets (e.line uri ++ rest) = target uri e :: targets rest := by
  rw [Entry.line]
  split
  · calc targets ("<b>".toList ++ e.anchor uri ++ "<br/></b>".toList ++ rest)
      _ = targets ("<b>".toList ++ (e.anchor uri ++ ("<br/></b>".toList ++ rest))) := by
          rw [List.append_assoc, List.append_assoc]
      _ = targets (e.anchor uri ++ ("<br/></b>".toList ++ rest)) := rfl
      _ = target uri e :: targets ("<br/></b>".toList ++ rest) := targets_anchor _ _ _
      _ = target uri e :: targets rest := rfl
  · calc targets (e.anchor uri ++ " &nbsp;<font size=2>(".toList ++ sizeText e.size ++
            ")</font><br/>".toList ++ rest)
      _ = targets (e.anchor uri ++ (" &nbsp;<font size=2>(".toList ++ (sizeText e.size ++
            (")</font><br/>".toList ++ rest)))) := by
          rw [List.append_assoc, List.append_assoc, List.append_assoc]
      _ = target uri e :: targets (" &nbsp;<font size=2>(".toList ++ (sizeText e.size ++
            (")</font><br/>".toList ++ rest))) := targets_anchor _ _ _
      _ = target uri e :: targets (sizeText e.size ++ (")</font><br/>".toList ++ rest)) := rfl
      _ = target uri e :: targets (")</font><br/>".toList ++ rest) :=
          congrArg _ (targets_append (notMem_sizeText (by decide) (by decide) _) _)
      _ = target uri e :: targets rest := rfl

theorem targets_lines (uri : Text) (es : List Entry) (rest : Text) :
    targets (es.flatMap (Entry.line uri) ++ rest) = es.map (target uri) ++ targets rest := by
  induction es with
  | nil => rfl
  | cons e es ih =>
    rw [List.flatMap_cons, List.append_assoc, targets_line, ih, List.map_cons, List.cons_append]

theorem targets_parentLine (uri rest : Text) :
    targets (parentLine uri ++ rest) =
      (parent? uri).toList.map Percent.encode ++ targets rest := by
  rw [parentLine]
  cases parent? uri with
  | none => rfl
  | some up =>
    calc targets ("<b><a href=\"".toList ++ Percent.encode up ++ "\">..</a></b><br/>".toList ++
            rest)
      _ = targets ("<b><a href=\"".toList ++ (Percent.encode up ++
            ("\">..</a></b><br/>".toList ++ rest))) := by
          rw [List.append_assoc, List.append_assoc]
      _ = targets (opening ++ (Percent.encode up ++ ("\">..</a></b><br/>".toList ++ rest))) := rfl
      _ = Percent.encode up :: targets (">..</a></b><br/>".toList ++ rest) := targets_opening _ _
      _ = Percent.encode up :: targets rest := rfl

/-- **The links of the page for a directory** are one to the directory above and then one for each
entry. -/
theorem targets_render (uri : Text) (entries : List Entry) :
    targets (render uri entries) =
      (parent? uri).toList.map Percent.encode ++ (sort entries).map (target uri) :=
  calc targets (render uri entries)
    _ = targets ("<html><body><h1>Directory ".toList ++ (Markup.escape uri ++
          ("</h1><br/>".toList ++ (parentLine uri ++ ((sort entries).flatMap (Entry.line uri) ++
            "</body></html>".toList))))) :=
        congrArg targets (append_pieces _ _ _ _ _ _)
    _ = targets (Markup.escape uri ++ ("</h1><br/>".toList ++ (parentLine uri ++
          ((sort entries).flatMap (Entry.line uri) ++ "</body></html>".toList)))) := rfl
    _ = targets ("</h1><br/>".toList ++ (parentLine uri ++
          ((sort entries).flatMap (Entry.line uri) ++ "</body></html>".toList))) :=
        targets_append (Markup.notMem_escape rfl (by decide) uri) _
    _ = targets (parentLine uri ++
          ((sort entries).flatMap (Entry.line uri) ++ "</body></html>".toList)) := rfl
    _ = (parent? uri).toList.map Percent.encode ++
          targets ((sort entries).flatMap (Entry.line uri) ++ "</body></html>".toList) :=
        targets_parentLine _ _
    _ = (parent? uri).toList.map Percent.encode ++ ((sort entries).map (target uri) ++
          targets "</body></html>".toList) :=
        congrArg _ (targets_lines _ _ _)
    _ = (parent? uri).toList.map Percent.encode ++ (sort entries).map (target uri) :=
        congrArg _ (List.append_nil _)

/-! ### The link to an entry -/

/-- Encoded texts are told apart by what they encode. -/
theorem encode_inj {s t : Text} (h : Percent.encode s = Percent.encode t) : s = t := by
  have hs := Percent.decode_encode s
  rw [h, Percent.decode_encode] at hs
  exact (Except.ok.inj hs).symm

theorem target_inj {uri : Text} {e e' : Entry} :
    target uri e = target uri e' ↔ e.shownName = e'.shownName :=
  ⟨fun h => List.append_cancel_left (encode_inj h), fun h => by rw [target, target, h]⟩

/-- Every entry has its link. -/
theorem mem_targets {uri : Text} {entries : List Entry} {e : Entry} (h : e ∈ entries) :
    target uri e ∈ targets (render uri entries) := by
  rw [targets_render]
  exact List.mem_append_right _ (List.mem_map_of_mem (List.mem_mergeSort.2 h))

/-- The directory above has a shorter path than any entry. -/
theorem length_le_of_parent? {uri up : Text} (h : parent? uri = some up) :
    up.length ≤ uri.length := by
  have htrim : (if uri.getLast? = some '/' then uri.dropLast else uri).length ≤ uri.length := by
    split
    · exact List.length_dropLast ▸ Nat.sub_le _ _
    · exact Nat.le_refl _
  rw [parent?] at h
  obtain ⟨-, h⟩ := Option.ite_none_left_eq_some.1 h
  rw [← Option.some.inj h, List.length_reverse]
  have hdrop := (List.dropWhile_suffix (fun c => decide (c ≠ '/'))
    (l := (if uri.getLast? = some '/' then uri.dropLast else uri).reverse)).length_le
  rw [List.length_reverse] at hdrop
  exact hdrop.trans htrim

/-- **The links to an entry** are as many as there are entries that are shown by its name. -/
theorem count_targets {uri : Text} {entries : List Entry} {e : Entry} (h : e.shownName ≠ []) :
    (targets (render uri entries)).count (target uri e) =
      (entries.map Entry.shownName).count e.shownName := by
  have hparent : ((parent? uri).toList.map Percent.encode).count (target uri e) = 0 := by
    rw [List.count_eq_zero]
    intro hmem
    obtain ⟨up, hup, heq⟩ := List.mem_map.1 hmem
    have hlen := length_le_of_parent? (Option.mem_toList.1 hup)
    have hpos := List.length_pos_iff.2 h
    rw [encode_inj heq, List.length_append] at hlen
    omega
  have hsort : (sort entries).Perm entries := List.mergeSort_perm _ _
  rw [targets_render, List.count_append, hparent, Nat.zero_add, (hsort.map _).count_eq,
    List.count_eq_countP, List.count_eq_countP, List.countP_map, List.countP_map]
  refine List.countP_congr fun e' _ => ?_
  simp [target_inj]

end Listing

end HttpServer
