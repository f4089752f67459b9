import HttpServer.Proofs.Text.Split
import HttpServer.Proofs.Uri.Percent
import HttpServer.Text.Markup
import Mathlib.Data.List.Basic

/-!
# Escaping by successive replacements

Escaping can be done with four replacements of whole texts, one after another. Each of them also
runs over what the earlier ones have written, so they agree with a single pass only because none of
them finds its character in an entity that is already there. The ampersand stands in every entity,
hence it has to be replaced first. `replaceEach_eq_flatMap` says this for any table of replacements.

Every `&` of escaped text is the start of an entity, so reading the entities from left to right is
exact, also if the text that was escaped has entities of its own. Percent-encoded text has no
character that would be replaced, and so it can be written into markup as it is.

## Main definitions

* `Markup.replaceAll`, `Markup.replaceEach`: one replacement of a whole text, and several in turn.
* `Markup.substitute`: what becomes of a character in a single pass.
* `Markup.entities`: the characters that are replaced, in the order of the replacements.

## Main results

* `Markup.replaceEach_eq_flatMap`: when successive replacements are a single pass.
* `Markup.exists_entity_of_amp`: what an `&` of escaped text starts.
* `Markup.escape_encode`: percent-encoded text is its own escaping.
* `Markup.escape_reversible`: all of it together.
-/

namespace HttpServer

namespace Markup

/-! ### Replacements -/

/-- The text with `new` in the place of every `old`. -/
def replaceAll (old : Char) (new t : Text) : Text :=
  Text.join new (splitOn old t)

/-- The replacements of a table, one after another, each in the text that the last one has left. -/
def replaceEach (table : List (Char × Text)) (t : Text) : Text :=
  table.foldl (fun t entry => replaceAll entry.1 entry.2 t) t

/-- What a table puts in the place of a character. -/
def substitute (table : List (Char × Text)) (c : Char) : Text :=
  (table.lookup c).getD [c]

theorem replaceAll_eq_flatMap (old : Char) (new t : Text) :
    replaceAll old new t = t.flatMap fun c => if c = old then new else [c] := by
  induction t with
  | nil => rfl
  | cons c t ih =>
    rw [replaceAll] at ih
    rw [replaceAll, splitOn, List.flatMap_cons, ← ih]
    split_ifs with hc
    · rw [Text.join_cons_of_ne_nil _ _ (splitOn_ne_nil old t), List.nil_append]
    · cases hparts : splitOn old t with
      | nil => exact absurd hparts (splitOn_ne_nil old t)
      | cons part parts => exact Text.join_append_cons new [c] part parts

theorem substitute_cons (entry : Char × Text) (table : List (Char × Text)) (c : Char) :
    substitute (entry :: table) c = if c = entry.1 then entry.2 else substitute table c := by
  rw [substitute, List.lookup_cons]
  split_ifs with hc
  · rw [beq_iff_eq.2 hc]
    rfl
  · rw [beq_false_of_ne hc]
    rfl

/-- A text without the characters of the table is left alone. -/
theorem flatMap_substitute_eq_self {table : List (Char × Text)} {t : Text}
    (h : ∀ entry ∈ table, entry.1 ∉ t) : t.flatMap (substitute table) = t := by
  have hself : ∀ c ∈ t, substitute table c = [c] := by
    intro c hc
    have hnone : table.lookup c = none :=
      List.lookup_eq_none_iff.2 fun entry hentry => bne_iff_ne.2 fun heq =>
        h entry hentry (heq ▸ hc)
    rw [substitute, hnone, Option.getD_none]
  rw [List.flatMap_congr hself, List.flatMap_singleton']

/-- **Successive replacements are a single pass** if none of them finds its character in what an
earlier one has put in. -/
theorem replaceEach_eq_flatMap {table : List (Char × Text)}
    (h : table.Pairwise fun earlier later => later.1 ∉ earlier.2) (t : Text) :
    replaceEach table t = t.flatMap (substitute table) := by
  induction table generalizing t with
  | nil => exact (List.flatMap_singleton' t).symm
  | cons entry table ih =>
    obtain ⟨hentry, htable⟩ := List.pairwise_cons.1 h
    have hstep : ∀ c ∈ t, (if c = entry.1 then entry.2 else [c]).flatMap (substitute table) =
        substitute (entry :: table) c := by
      intro c _
      rw [substitute_cons]
      split_ifs
      · exact flatMap_substitute_eq_self hentry
      · exact List.flatMap_singleton _ c
    calc replaceEach (entry :: table) t
      _ = replaceEach table (replaceAll entry.1 entry.2 t) := rfl
      _ = (replaceAll entry.1 entry.2 t).flatMap (substitute table) := ih htable _
      _ = t.flatMap (substitute (entry :: table)) := by
          rw [replaceAll_eq_flatMap, List.flatMap_assoc, List.flatMap_congr hstep]

/-- Later replacements of an ampersand would escape what the earlier ones have put in. -/
example : replaceEach [('<', "&lt;".toList), ('&', "&amp;".toList)] ['<'] = "&amp;lt;".toList := by
  decide

/-! ### Entities -/

/-- The characters that are replaced in markup and their entities. -/
def entities : List (Char × Text) :=
  [('&', "&amp;".toList), ('<', "&lt;".toList), ('>', "&gt;".toList), ('"', "&quot;".toList)]

theorem escapeChar_eq_substitute (c : Char) : escapeChar c = substitute entities c := by
  rw [entities, substitute_cons, substitute_cons, substitute_cons, substitute_cons]
  rfl

theorem replaceEach_entities (t : Text) : replaceEach entities t = escape t := by
  rw [replaceEach_eq_flatMap (by decide), escape, ← funext escapeChar_eq_substitute]

theorem escape_append (s t : Text) : escape (s ++ t) = escape s ++ escape t :=
  List.flatMap_append

/-- An entity has its only `&` at its start. -/
theorem exists_entity {c : Char} (h : isSignificant c = true) :
    ∃ body, escapeChar c = '&' :: body ∧ '&' ∉ body ∧ (c, escapeChar c) ∈ entities := by
  simp only [isSignificant, Bool.or_eq_true, beq_iff_eq] at h
  rcases h with ((rfl | rfl) | rfl) | rfl
  · exact ⟨"amp;".toList, by decide⟩
  · exact ⟨"lt;".toList, by decide⟩
  · exact ⟨"gt;".toList, by decide⟩
  · exact ⟨"quot;".toList, by decide⟩

theorem amp_of_escapeChar {c : Char} {front behind : Text}
    (h : escapeChar c = front ++ '&' :: behind) :
    front = [] ∧ (c, escapeChar c) ∈ entities := by
  by_cases hsig : isSignificant c = true
  · obtain ⟨body, hbody, hamp, hentity⟩ := exists_entity hsig
    refine ⟨?_, hentity⟩
    cases front with
    | nil => rfl
    | cons a front =>
      rw [hbody, List.cons_append, List.cons.injEq] at h
      exact absurd (h.2 ▸ List.mem_append_right front List.mem_cons_self) hamp
  · rw [escapeChar_of_isSignificant_eq_false (eq_false_of_ne_true hsig)] at h
    have hmem : '&' ∈ [c] := h ▸ List.mem_append_right front List.mem_cons_self
    rw [← List.mem_singleton.1 hmem] at hsig
    exact absurd rfl hsig

/-- **Every `&` of escaped text starts an entity.** -/
theorem exists_entity_of_amp {t front behind : Text} (h : escape t = front ++ '&' :: behind) :
    ∃ entry ∈ entities, entry.2 <+: '&' :: behind := by
  induction t generalizing front with
  | nil => exact absurd h.symm (List.append_ne_nil_of_right_ne_nil _ (List.cons_ne_nil _ _))
  | cons c t ih =>
    rw [escape, List.flatMap_cons, ← escape, List.append_eq_append_iff] at h
    -- The `&` stands in what is written for `c`, or behind it.
    obtain ⟨mid, -, hmid⟩ | ⟨mid, hmid, hrest⟩ := h
    · exact ih hmid
    · cases mid with
      | nil =>
        have hstart : escape t = [] ++ '&' :: behind := hrest.symm
        exact ih hstart
      | cons a mid =>
        rw [List.cons_append, List.cons.injEq] at hrest
        obtain ⟨rfl, rfl⟩ := hrest
        obtain ⟨rfl, hentity⟩ := amp_of_escapeChar hmid
        exact ⟨_, hentity, escape t, by rw [hmid]; rfl⟩

/-- Percent-encoded text is its own escaping. -/
theorem escape_encode (t : Text) : escape (Percent.encode t) = Percent.encode t := by
  refine escape_eq_self fun c hc => ?_
  have hne (d : Char) (hd : Percent.isEncoded d = false) : (c == d) = false :=
    beq_false_of_ne (Percent.ne_of_isEncoded (Percent.isEncoded_of_mem_encode hc) hd)
  rw [isSignificant, hne '&' rfl, hne '<' rfl, hne '>' rfl, hne '"' rfl]
  rfl

/-- **Escaping is reversible and safe.** Replacing `&`, then `<`, then `>`, then `"` in a whole text
is the same as replacing each character on its own, in one pass; so a text is escaped piece by
piece. Escaped text has no `<`, `>` or `"`, and every `&` in it starts an entity. Reading its
entities in one pass gives the text back, whatever that was, so different texts are escaped
differently. Percent-encoded text is escaped already. -/
theorem escape_reversible (s t : Text) :
    replaceAll '"' "&quot;".toList (replaceAll '>' "&gt;".toList
      (replaceAll '<' "&lt;".toList (replaceAll '&' "&amp;".toList s))) = escape s ∧
    escape s = s.flatMap (substitute entities) ∧
    escape (s ++ t) = escape s ++ escape t ∧
    (∀ c ∈ escape s, c ≠ '<' ∧ c ≠ '>' ∧ c ≠ '"') ∧
    (∀ front behind, escape s = front ++ '&' :: behind →
      ∃ entry ∈ entities, entry.2 <+: '&' :: behind) ∧
    unescape (escape s) = s ∧
    (escape s = escape t → s = t) ∧
    escape (Percent.encode s) = Percent.encode s := by
  refine ⟨replaceEach_entities s, ?_, escape_append s t, fun c hc => ⟨?_, ?_, ?_⟩,
    fun _ _ => exists_entity_of_amp, unescape_escape s, fun h => ?_, escape_encode s⟩
  · rw [escape, ← funext escapeChar_eq_substitute]
  · rintro rfl
    exact notMem_escape rfl (by decide) s hc
  · rintro rfl
    exact notMem_escape rfl (by decide) s hc
  · rintro rfl
    exact notMem_escape rfl (by decide) s hc
  · rw [← unescape_escape s, h, unescape_escape]

/-- A text that has an entity already. -/
theorem escape_reversible_entity :
    escape "&lt;".toList = "&amp;lt;".toList ∧
    (∃ entry ∈ entities, entry.2 <+: "&amp;lt;".toList) ∧
    unescape "&amp;lt;".toList = "&lt;".toList ∧
    escape "&lt;".toList ≠ escape "<".toList := by
  obtain ⟨-, -, -, -, hamp, hback, hinj, -⟩ := escape_reversible "&lt;".toList "<".toList
  exact ⟨rfl, hamp [] "amp;lt;".toList rfl, hback, fun h => absurd (hinj h) (by decide)⟩

end Markup

end HttpServer
