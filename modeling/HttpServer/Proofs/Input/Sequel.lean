import HttpServer.Proofs.Input.Arrival
import HttpServer.Proofs.Input.Complete

/-!
# What comes after a complete part

A part is complete with its last byte. What happens on the connection after that is not waited for:
a client may fall silent, fail or close, and the reading of the part does not notice. Only a part
that is still incomplete has to see the end of the input.

## Main definitions

* `Input.followedBy`: an input with further events behind it.

## Main results

* `Input.read_followedBy`: a part that is complete in an input is read alike with more behind it.
-/

namespace HttpServer

namespace Input

/-- The input with further events behind it. -/
def followedBy (i : Input) (later : List Event) : Input :=
  { i with coming := i.coming ++ later }

@[simp] theorem clock_followedBy (i : Input) (later : List Event) :
    (i.followedBy later).clock = i.clock := rfl

theorem followedBy_nil (i : Input) : i.followedBy [] = i := by
  rw [followedBy, List.append_nil]

variable {p : Part}

theorem collect_append_of_size? {coming : List Event} (h : ∀ e ∈ coming, e.isSmooth = true)
    (hp : p.size? [] = none) {n : Nat} (hn : p.size? (coming.flatMap Event.bytes) = some n)
    (clock : Nat) (taken : Bytes) (later : List Event) :
    collect p [] clock taken (coming ++ later) =
      ((collect p [] clock taken coming).1,
        (collect p [] clock taken coming).2.followedBy later) := by
  -- The part is incomplete as long as nothing is read, so some event of `coming` completes it.
  induction coming generalizing p n clock taken with
  | nil => cases hp.symm.trans hn
  | cons e coming ih =>
    have hrest : ∀ e ∈ coming, e.isSmooth = true := fun e he => h e (List.mem_cons_of_mem _ he)
    cases e with
    | data s =>
      rw [List.flatMap_cons, Event.bytes] at hn
      rw [List.cons_append, collect, collect]
      cases hs : p.size? s with
      | some m => rfl
      | none =>
        have hmore := Part.size?_append_of_none hs
        have hnil := hmore []
        rw [List.append_nil, hs] at hnil
        rw [hmore] at hn
        obtain ⟨m, hm, -⟩ := Option.map_eq_some_iff.1 hn
        exact ih hrest (Option.map_eq_none_iff.1 hnil.symm) hm _ _
    | wait ms => exact ih hrest hp hn _ _
    | fail fault =>
      have hf : fault = .interrupted := by simpa [Event.isSmooth] using h _ List.mem_cons_self
      rw [List.cons_append, collect, collect, if_pos hf, if_pos hf]
      exact ih hrest hp hn _ _
    | stall => cases h _ List.mem_cons_self

/-- **A complete part** is read in the same way, whatever happens after its last byte. -/
theorem read_followedBy {i : Input} (h : i.Smooth) {n : Nat} (hn : p.size? i.unread = some n)
    (later : List Event) :
    (i.followedBy later).read p [] = ((i.read p []).1, (i.read p []).2.followedBy later) := by
  have hready : (i.followedBy later).ready = i.ready := rfl
  rw [read, read, hready]
  cases hs : p.size? i.ready with
  | some m => rfl
  | none =>
    have hmore := Part.size?_append_of_none hs
    have hnil := hmore []
    rw [List.append_nil, hs] at hnil
    rw [unread_eq, hmore] at hn
    obtain ⟨m, hm, -⟩ := Option.map_eq_some_iff.1 hn
    exact collect_append_of_size? h (Option.map_eq_none_iff.1 hnil.symm) hm _ _ _

/-- What fills a part at the start of a smooth input is read, and what is left is as if nothing
happened later. -/
theorem read_filledBy {i : Input} (h : i.Smooth) {s rest : Bytes} (hs : p.FilledBy s)
    (hunread : i.unread = s ++ rest) (later : List Event) :
    ∃ j, (i.followedBy later).read p [] = (.ok s, j.followedBy later) ∧ Leaves i j rest := by
  obtain ⟨j, hj, hleaves⟩ := read_of_smooth h p
  have hsize : p.size? i.unread = some s.length := by
    rw [hunread]
    exact Part.size?_append hs rest
  rw [hunread, hs.cut_append] at hj hleaves
  exact ⟨j, by rw [read_followedBy h hsize, hj], hleaves⟩

end Input

end HttpServer
