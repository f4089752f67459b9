import HttpServer.Proofs.Input.Part
import HttpServer.Proofs.Input.Watch

/-!
# Inputs that arrive without a failure

An input is smooth if nothing worse than a wait or an interrupted call comes before its end. How its
bytes are spread over its events and its waits makes no difference to what is read from it: a part
is what it would be if all bytes were at hand, and what is left is a smooth input with the bytes
behind that part and with the waits that are still to come.

## Main definitions

* `Input.Smooth`, `Input.span`: smooth inputs, and how long they keep a reader waiting.
* `Input.Leaves`: what reading leaves of a smooth input.

## Main results

* `Input.read_of_smooth`: a part of a smooth input.
* `Input.read_line_eq_nil_iff`, `Input.read_line_eq_nil_iff_of_next?`: when an input ends before its
  first byte.
-/

namespace HttpServer

namespace Event

/-- At worst the reader is kept waiting or interrupted. -/
def isSmooth : Event → Bool
  | data _ => true
  | wait _ => true
  | fail fault => fault == .interrupted
  | stall => false

/-- The bytes of an event. -/
def bytes : Event → Bytes
  | data s => s
  | _ => []

/-- How long an event keeps a reader waiting. -/
def span : Event → Nat
  | wait ms => ms
  | _ => 0

@[simp] theorem span_data (s : Bytes) : (data s).span = 0 := rfl

@[simp] theorem span_wait (ms : Nat) : (wait ms).span = ms := rfl

@[simp] theorem span_fail (fault : Fault) : (fail fault).span = 0 := rfl

end Event

namespace Input

/-- Nothing worse than a wait or an interrupted call comes before the end. -/
def Smooth (i : Input) : Prop :=
  ∀ e ∈ i.coming, e.isSmooth = true

/-- How long a reader is kept waiting until the end. -/
def span (i : Input) : Nat :=
  (i.coming.map Event.span).sum

theorem unread_eq (i : Input) : i.unread = i.ready ++ i.coming.flatMap Event.bytes := by
  rw [unread]
  congr 2

/-- Reading on from a smooth input `i` has come to `j`, which has the bytes `s` and the rest of the
waits still before it. -/
structure Leaves (i j : Input) (s : Bytes) : Prop where
  /-- What is left is smooth. -/
  smooth : j.Smooth
  /-- These bytes are left. -/
  unread : j.unread = s
  /-- Some of the waits are over and the others are left. -/
  waited : ∃ ms, j.clock = i.clock + ms ∧ i.span = ms + j.span

namespace Leaves

variable {i j k : Input} {s t : Bytes}

theorem trans (hj : Leaves i j s) (hk : Leaves j k t) : Leaves i k t := by
  obtain ⟨ms, hclock, hspan⟩ := hj.waited
  obtain ⟨ms', hclock', hspan'⟩ := hk.waited
  exact ⟨hk.smooth, hk.unread, ms + ms', by omega, by omega⟩

theorem span_le (h : Leaves i j s) : j.span ≤ i.span := by
  obtain ⟨ms, -, hspan⟩ := h.waited
  omega

theorem clock_le (h : Leaves i j s) : j.clock ≤ i.clock + i.span := by
  obtain ⟨ms, hclock, hspan⟩ := h.waited
  omega

end Leaves

theorem collect_of_smooth {coming : List Event} (h : ∀ e ∈ coming, e.isSmooth = true) (p : Part)
    (clock : Nat) (taken : Bytes) :
    ∃ j, collect p [] clock taken coming =
        (.ok (taken.reverse ++ (p.cut (coming.flatMap Event.bytes)).1), j) ∧
      Leaves ⟨[], coming, clock⟩ j (p.cut (coming.flatMap Event.bytes)).2 := by
  -- Each event moves bytes from what is to come into `taken`, or time into `clock`.
  induction coming generalizing p clock taken with
  | nil =>
    have hcut := Part.append_cut p []
    obtain ⟨h1, h2⟩ := List.append_eq_nil_iff.1 hcut
    refine ⟨⟨[], [], clock⟩, ?_, ⟨List.forall_mem_nil _, ?_, 0, rfl, rfl⟩⟩
    · rw [collect, List.flatMap_nil, h1, List.append_nil]
    · rw [List.flatMap_nil, h2]
      rfl
  | cons e coming ih =>
    have hrest : ∀ e ∈ coming, e.isSmooth = true := fun e he => h e (List.mem_cons_of_mem _ he)
    cases e with
    | data s =>
      rw [collect, List.flatMap_cons, Event.bytes]
      cases hs : p.size? s with
      | some n =>
        rw [Part.cut_append_of_size? hs]
        refine ⟨⟨s.drop n, coming, clock⟩, rfl, ⟨hrest, unread_eq _, 0, rfl, ?_⟩⟩
        simp [span]
      | none =>
        rw [Part.cut_append_of_none hs]
        obtain ⟨j, hj, hleaves⟩ := ih hrest (p.after s) clock (s.reverseAux taken)
        refine ⟨j, ?_, hleaves.smooth, hleaves.unread, ?_⟩
        · simp only [hj]
          rw [List.reverseAux_eq, List.reverse_append, List.reverse_reverse, List.append_assoc]
        · obtain ⟨ms, hclock, hspan⟩ := hleaves.waited
          exact ⟨ms, hclock, by simpa [span] using hspan⟩
    | wait ms =>
      obtain ⟨j, hj, hleaves⟩ := ih hrest p (clock + ms) taken
      refine ⟨j, hj, hleaves.smooth, hleaves.unread, ?_⟩
      obtain ⟨ms', hclock, hspan⟩ := hleaves.waited
      refine ⟨ms + ms', by simp only at hclock ⊢; omega, ?_⟩
      simp only [span, List.map_cons, List.sum_cons, Event.span_wait] at hspan ⊢
      omega
    | fail fault =>
      have hf : fault = .interrupted := by simpa [Event.isSmooth] using h _ List.mem_cons_self
      obtain ⟨j, hj, hleaves⟩ := ih hrest p clock taken
      refine ⟨j, ?_, hleaves.smooth, hleaves.unread, ?_⟩
      · rw [collect, if_pos hf]
        exact hj
      · obtain ⟨ms, hclock, hspan⟩ := hleaves.waited
        exact ⟨ms, hclock, by simpa [span] using hspan⟩
    | stall => cases h _ List.mem_cons_self

/-- **A part of a smooth input** is the one that its bytes begin with, however they arrive. -/
theorem read_of_smooth {i : Input} (h : i.Smooth) (p : Part) :
    ∃ j, i.read p [] = (.ok (p.cut i.unread).1, j) ∧ Leaves i j (p.cut i.unread).2 := by
  rw [unread_eq, read]
  cases hs : p.size? i.ready with
  | some n =>
    rw [Part.cut_append_of_size? hs]
    exact ⟨{ i with ready := i.ready.drop n }, rfl, ⟨h, unread_eq _, 0, rfl, (Nat.zero_add _).symm⟩⟩
  | none =>
    rw [Part.cut_append_of_none hs]
    obtain ⟨j, hj, hleaves⟩ := collect_of_smooth h (p.after i.ready) i.clock i.ready.reverse
    refine ⟨j, ?_, hleaves.smooth, hleaves.unread, hleaves.waited⟩
    simp only [hj, List.reverse_reverse]

/-- A reading of a smooth input is over when all waits are. -/
theorem doneAt_read_le_of_smooth {i : Input} (h : i.Smooth) (p : Part) :
    doneAt (i.read p []) ≤ (i.clock + i.span : ℕ) := by
  obtain ⟨j, hj, hleaves⟩ := read_of_smooth h p
  rw [hj]
  exact Nat.cast_le.2 hleaves.clock_le

/-! ### Inputs that end before their first byte -/

theorem exists_of_collect_eq_ok {p : Part} {clock : Nat} {taken s : Bytes} {coming : List Event}
    (h : (collect p [] clock taken coming).1 = .ok s) : ∃ t, s = taken.reverse ++ t := by
  induction coming generalizing p clock taken with
  | nil => exact ⟨[], by rw [List.append_nil]; exact (Except.ok.inj h).symm⟩
  | cons e coming ih =>
    cases e with
    | data d =>
      rw [collect] at h
      split at h
      · exact ⟨_, (Except.ok.inj h).symm⟩
      · obtain ⟨t, rfl⟩ := ih h
        exact ⟨d ++ t, by simp⟩
    | wait ms =>
      have hrest : (collect p [] (clock + ms) taken coming).1 = .ok s := h
      exact ih hrest
    | fail fault =>
      rw [collect] at h
      split at h
      · exact ih h
      · cases h
    | stall => cases h

theorem smooth_of_collect_line_eq_nil {clock : Nat} {coming : List Event}
    (h : (collect .line [] clock [] coming).1 = .ok []) :
    (∀ e ∈ coming, e.isSmooth = true) ∧ coming.flatMap Event.bytes = [] := by
  induction coming generalizing clock with
  | nil => exact ⟨List.forall_mem_nil _, rfl⟩
  | cons e coming ih =>
    cases e with
    | data s =>
      have hs : s = [] := by
        rw [collect] at h
        split at h
        · rename_i n hn
          cases s with
          | nil => rfl
          | cons b s =>
            have hcut := Part.cut_line_ne_nil b s
            rw [Part.cut_of_size? hn] at hcut
            exact absurd (Except.ok.inj h) hcut
        · obtain ⟨t, ht⟩ := exists_of_collect_eq_ok h
          simpa using (List.append_eq_nil_iff.1 ht.symm).1
      subst hs
      have hrest : (collect .line [] clock [] coming).1 = .ok [] := h
      obtain ⟨hsmooth, hbytes⟩ := ih hrest
      exact ⟨List.forall_mem_cons.2 ⟨rfl, hsmooth⟩, hbytes⟩
    | wait ms =>
      have hrest : (collect .line [] (clock + ms) [] coming).1 = .ok [] := h
      obtain ⟨hsmooth, hbytes⟩ := ih hrest
      exact ⟨List.forall_mem_cons.2 ⟨rfl, hsmooth⟩, hbytes⟩
    | fail fault =>
      rw [collect] at h
      split at h
      · rename_i hf
        obtain ⟨hsmooth, hbytes⟩ := ih h
        exact ⟨List.forall_mem_cons.2 ⟨by simp [Event.isSmooth, hf], hsmooth⟩, hbytes⟩
      · cases h
    | stall => cases h

theorem collect_line_of_empty {coming : List Event} (h : ∀ e ∈ coming, e.isSmooth = true)
    (hbytes : coming.flatMap Event.bytes = []) (clock : Nat) :
    collect .line [] clock [] coming =
      (.ok [], ⟨[], [], clock + (coming.map Event.span).sum⟩) := by
  induction coming generalizing clock with
  | nil => rfl
  | cons e coming ih =>
    obtain ⟨he, hcoming⟩ := List.forall_mem_cons.1 h
    rw [List.flatMap_cons] at hbytes
    obtain ⟨hhere, hrest⟩ := List.append_eq_nil_iff.1 hbytes
    rw [List.map_cons, List.sum_cons]
    cases e with
    | data s =>
      obtain rfl : s = [] := hhere
      rw [Event.span_data, Nat.zero_add]
      exact ih hcoming hrest clock
    | wait ms =>
      rw [Event.span_wait, ← Nat.add_assoc]
      exact ih hcoming hrest (clock + ms)
    | fail fault =>
      have hf : fault = .interrupted := by simpa [Event.isSmooth] using he
      rw [collect, if_pos hf, Event.span_fail, Nat.zero_add]
      exact ih hcoming hrest clock
    | stall => cases he

/-- An input without a byte ends when all waits are over. -/
theorem read_line_of_empty {i : Input} (h : i.Smooth) (hunread : i.unread = []) :
    i.read .line [] = (.ok [], ⟨[], [], i.clock + i.span⟩) := by
  rw [unread_eq] at hunread
  obtain ⟨hready, hcoming⟩ := List.append_eq_nil_iff.1 hunread
  rw [read, hready]
  exact collect_line_of_empty h hcoming i.clock

/-- **No first line** is there at all exactly if the input ends without a byte and without a
failure. -/
theorem read_line_eq_nil_iff (i : Input) :
    (i.read .line []).1 = .ok [] ↔ i.Smooth ∧ i.unread = [] := by
  constructor
  · intro h
    rw [read] at h
    split at h
    · rename_i n hn
      cases hr : i.ready with
      | nil =>
        rw [hr] at hn
        cases hn
      | cons b s =>
        have hcut := Part.cut_line_ne_nil b s
        rw [hr] at hn h
        rw [Part.cut_of_size? hn] at hcut
        exact absurd (Except.ok.inj h) hcut
    · obtain ⟨t, ht⟩ := exists_of_collect_eq_ok h
      have hready : i.ready = [] := by simpa using (List.append_eq_nil_iff.1 ht.symm).1
      rw [hready] at h
      obtain ⟨hsmooth, hbytes⟩ := smooth_of_collect_line_eq_nil h
      exact ⟨hsmooth, by rw [unread_eq, hready, hbytes, List.nil_append]⟩
  · rintro ⟨hsmooth, hunread⟩
    rw [read_line_of_empty hsmooth hunread]

/-- The same under alarms: the input has to end before the first of them. -/
theorem read_line_eq_nil_iff_of_next? {alarms : List Alarm} {a : Alarm}
    (ha : Alarm.next? alarms = some a) {i : Input} (hc : i.clock ≤ a.due) :
    (i.read .line alarms).1 = .ok [] ↔
      i.Smooth ∧ i.unread = [] ∧ i.clock + i.span ≤ a.due := by
  constructor
  · intro h
    rcases le_or_gt (doneAt (i.read .line [])) a.due with hle | hlt
    · rw [read_of_le ha hle] at h
      obtain ⟨hsmooth, hunread⟩ := (read_line_eq_nil_iff i).1 h
      rw [read_line_of_empty hsmooth hunread] at hle
      exact ⟨hsmooth, hunread, Nat.cast_le.1 hle⟩
    · obtain ⟨rest, hlate⟩ := read_of_lt ha hc hlt
      rw [hlate] at h
      cases h
  · rintro ⟨hsmooth, hunread, hle⟩
    have hempty := read_line_of_empty hsmooth hunread
    have hdone : doneAt (i.read .line []) ≤ a.due := by
      rw [hempty]
      exact Nat.cast_le.2 hle
    rw [read_of_le ha hdone, hempty]

end Input

end HttpServer
