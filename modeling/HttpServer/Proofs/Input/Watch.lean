import HttpServer.Input.Basic
import Mathlib.Data.ENat.Basic

/-!
# Readings under alarms

An alarm can only cut a reading short. A reading to which no alarm applies comes to its end at some
instant, or never if the client falls silent (`Input.doneAt`). Under alarms the same reading is cut
off at the first of them if that instant lies behind it, and otherwise nothing is different: not the
result, not the time, and not the bytes that are left.

## Main definitions

* `Input.doneAt`: when a reading comes to its end.

## Main results

* `Input.read_of_le`, `Input.read_of_lt`: a reading under alarms from the same reading without.
* `Input.clock_le_doneAt_read`: no reading ends before it starts.
-/

namespace HttpServer

namespace Alarm

theorem next?_cons (a : Alarm) (alarms : List Alarm) :
    next? (a :: alarms) = some a ∨ next? (a :: alarms) = next? alarms := by
  rw [next?]
  split
  · exact .inl rfl
  · split
    · exact .inl rfl
    · rename_i h _
      exact .inr h.symm

theorem mem_of_next? {alarms : List Alarm} {a : Alarm} (h : next? alarms = some a) :
    a ∈ alarms := by
  induction alarms with
  | nil => cases h
  | cons b alarms ih =>
    rcases next?_cons b alarms with hb | hb
    · rw [hb] at h
      cases h
      exact List.mem_cons_self
    · exact List.mem_cons_of_mem b (ih (hb ▸ h))

theorem next?_eq_none_iff {alarms : List Alarm} : next? alarms = none ↔ alarms = [] := by
  constructor
  · intro h
    cases alarms with
    | nil => rfl
    | cons a alarms =>
      rw [next?] at h
      split at h
      · cases h
      · split at h <;> cases h
  · rintro rfl
    rfl

/-- No alarm is due before the one that rings first. -/
theorem due_le_of_next? {alarms : List Alarm} {a b : Alarm} (h : next? alarms = some a)
    (hb : b ∈ alarms) : a.due ≤ b.due := by
  induction alarms generalizing a with
  | nil => cases hb
  | cons c alarms ih =>
    rw [next?] at h
    split at h
    · rename_i hnone
      have hnil := next?_eq_none_iff.1 hnone
      rw [hnil] at hb
      cases h
      rw [List.mem_singleton.1 hb]
    · rename_i d hd
      split at h
      · rename_i hle
        cases h
        rcases List.mem_cons.1 hb with rfl | hb
        · exact Nat.le_refl _
        · exact hle.trans (ih hd hb)
      · rename_i hle
        cases h
        rcases List.mem_cons.1 hb with rfl | hb
        · omega
        · exact ih hd hb

end Alarm

namespace Input

/-- When a reading comes to its end; a reading that waits for bytes which never arrive has none. -/
def doneAt : Except Interruption Bytes × Input → ℕ∞
  | (.error .abandoned, _) => ⊤
  | (.error (.late _), i) => i.clock
  | (.error (.failed _), i) => i.clock
  | (.ok _, i) => i.clock

@[simp] theorem doneAt_ok (s : Bytes) (i : Input) : doneAt (.ok s, i) = i.clock := rfl

theorem clock_le_doneAt_collect (p : Part) (clock : Nat) (taken : Bytes) (coming : List Event) :
    (clock : ℕ∞) ≤ doneAt (collect p [] clock taken coming) := by
  induction coming generalizing p clock taken with
  | nil => exact le_rfl
  | cons e coming ih =>
    cases e with
    | data s =>
      rw [collect]
      split
      · exact le_rfl
      · exact ih _ _ _
    | wait ms =>
      have h : (clock : ℕ∞) ≤ (clock + ms : ℕ) := by exact_mod_cast Nat.le_add_right clock ms
      exact h.trans (ih p (clock + ms) taken)
    | fail fault =>
      rw [collect]
      split
      · exact ih _ _ _
      · exact le_rfl
    | stall => exact le_top

theorem collect_of_le {alarms : List Alarm} {a : Alarm} (ha : Alarm.next? alarms = some a)
    {p : Part} {clock : Nat} {taken : Bytes} {coming : List Event}
    (h : doneAt (collect p [] clock taken coming) ≤ a.due) :
    collect p alarms clock taken coming = collect p [] clock taken coming := by
  induction coming generalizing p clock taken with
  | nil => rfl
  | cons e coming ih =>
    cases e with
    | data s =>
      rw [collect] at h
      rw [collect, collect]
      split
      · rfl
      · rename_i hs
        rw [hs] at h
        exact ih h
    | wait ms =>
      have hdone : doneAt (collect p [] (clock + ms) taken coming) ≤ a.due := h
      have hle : clock + ms ≤ a.due := by
        exact_mod_cast (clock_le_doneAt_collect p (clock + ms) taken coming).trans hdone
      rw [collect, ha]
      simp only [if_pos hle]
      exact ih hdone
    | fail fault =>
      rw [collect] at h
      rw [collect, collect]
      split
      · rename_i hf
        rw [if_pos hf] at h
        exact ih h
      · rfl
    | stall => exact absurd h (not_le.2 (ENat.natCast_lt_top a.due))

theorem collect_of_lt {alarms : List Alarm} {a : Alarm} (ha : Alarm.next? alarms = some a)
    {p : Part} {clock : Nat} {taken : Bytes} {coming : List Event} (hc : clock ≤ a.due)
    (h : a.due < doneAt (collect p [] clock taken coming)) :
    ∃ rest, collect p alarms clock taken coming = (.error a.reason, ⟨[], rest, a.due⟩) := by
  induction coming generalizing p clock taken with
  | nil => exact absurd h (not_lt.2 (Nat.cast_le.2 hc))
  | cons e coming ih =>
    cases e with
    | data s =>
      rw [collect] at h
      rw [collect]
      split
      · rename_i hs
        rw [hs] at h
        exact absurd h (not_lt.2 (Nat.cast_le.2 hc))
      · rename_i hs
        rw [hs] at h
        exact ih hc h
    | wait ms =>
      have hdone : a.due < doneAt (collect p [] (clock + ms) taken coming) := h
      rw [collect, ha]
      by_cases hle : clock + ms ≤ a.due
      · simp only [if_pos hle]
        exact ih hle hdone
      · simp only [if_neg hle]
        exact ⟨_, rfl⟩
    | fail fault =>
      rw [collect] at h
      rw [collect]
      split
      · rename_i hf
        rw [if_pos hf] at h
        exact ih hc h
      · rename_i hf
        rw [if_neg hf] at h
        exact absurd h (not_lt.2 (Nat.cast_le.2 hc))
    | stall =>
      rw [collect, ha]
      exact ⟨_, rfl⟩

/-- No reading ends before it starts. -/
theorem clock_le_doneAt_read (p : Part) (i : Input) : (i.clock : ℕ∞) ≤ doneAt (i.read p []) := by
  rw [read]
  split
  · exact le_rfl
  · exact clock_le_doneAt_collect _ _ _ _

/-- **In time.** A reading that comes to its end no later than the first alarm is not touched by
the alarms. -/
theorem read_of_le {alarms : List Alarm} {a : Alarm} (ha : Alarm.next? alarms = some a) {p : Part}
    {i : Input} (h : doneAt (i.read p []) ≤ a.due) : i.read p alarms = i.read p [] := by
  rw [read] at h
  rw [read, read]
  split
  · rfl
  · rename_i hs
    rw [hs] at h
    exact collect_of_le ha h

/-- **Too late.** A reading that would come to its end only after the first alarm is cut off when
it rings. -/
theorem read_of_lt {alarms : List Alarm} {a : Alarm} (ha : Alarm.next? alarms = some a) {p : Part}
    {i : Input} (hc : i.clock ≤ a.due) (h : a.due < doneAt (i.read p [])) :
    ∃ rest, i.read p alarms = (.error a.reason, ⟨[], rest, a.due⟩) := by
  rw [read] at h
  rw [read]
  split
  · rename_i hs
    rw [hs] at h
    exact absurd h (not_lt.2 (Nat.cast_le.2 hc))
  · rename_i hs
    rw [hs] at h
    exact collect_of_lt ha hc h

end Input

end HttpServer
