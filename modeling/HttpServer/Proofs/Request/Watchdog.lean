import HttpServer.Proofs.Input.Watch
import HttpServer.Request.Read

/-!
# What deadlines do to a request

Reading a request under deadlines is compared with reading the same input without any
(`Request.readFreely`). The free reading comes to the end of its first line, of its head and of its
form at certain instants, or never. The first line is late if the idle limit is no longer than the
head limit and passes before the line is there; the head is late if the head limit passes before the
head has been read; the form is late if the idle limit, counted from the end of the head, passes
before the body is there. The first of these that applies, in this order, is what the reading is cut
off for, at exactly that instant, and where none applies the deadlines make no difference at all.

## Main definitions

* `Request.lineDone`, `Request.headDone`, `Request.formDone`: when the free reading has its parts.
* `Request.LateLine`, `Request.LateHead`, `Request.LateForm`: what is late under given deadlines.

## Main results

* `Request.read_of_lateLine`, `Request.read_of_lateHead`, `Request.read_of_lateForm`,
  `Request.read_of_inTime`: the four cases.
* `Request.read_watched`: exactly when a reading is cut off, and what deadlines cannot change.
-/

namespace HttpServer

/-! ### Errors of the free reading -/

namespace Input

theorem collect_nil_ne_late (p : Part) (clock : Nat) (taken : Bytes) (coming : List Event)
    (stage : Stage) : (collect p [] clock taken coming).1 ≠ .error (.late stage) := by
  induction coming generalizing p clock taken with
  | nil => rintro ⟨⟩
  | cons e coming ih =>
    cases e with
    | data s =>
      rw [collect]
      split
      · rintro ⟨⟩
      · exact ih _ _ _
    | wait ms => exact ih _ _ _
    | fail fault =>
      rw [collect]
      split
      · exact ih _ _ _
      · rintro ⟨⟩
    | stall => rintro ⟨⟩

theorem read_nil_ne_late (p : Part) (i : Input) (stage : Stage) :
    (i.read p []).1 ≠ .error (.late stage) := by
  rw [read]
  split
  · rintro ⟨⟩
  · exact collect_nil_ne_late _ _ _ _ _

end Input

namespace RequestError

theorem ofInterruption_ne_timedOut {e : Interruption} (h : ∀ stage, e ≠ .late stage)
    (stage : Stage) : ofInterruption e ≠ timedOut stage := by
  cases e with
  | late s => exact absurd rfl (h s)
  | failed f => rintro ⟨⟩
  | abandoned => rintro ⟨⟩

end RequestError

theorem RequestLine.isBadRequest_of_split {line : Text} {e : RequestError}
    (h : RequestLine.split line = .error e) : e.isBadRequest = true := by
  simp only [RequestLine.split] at h
  split at h
  · cases h
    rfl
  · split at h <;> cases h
    rfl

namespace Head

/-- A malformed first line is the fault of the client. -/
theorem isBadRequest_of_parseLine {line : Text} {e : RequestError}
    (h : parseLine line = .error e) : e.isBadRequest = true := by
  rw [parseLine] at h
  split at h
  · rename_i hs
    cases h
    exact RequestLine.isBadRequest_of_split hs
  · split at h <;> cases h
    rfl

/-- A malformed form is the fault of the client. -/
theorem isBadRequest_of_withForm {head : Head} {body : Bytes} {e : RequestError}
    (h : head.withForm body = .error e) : e.isBadRequest = true := by
  rw [withForm] at h
  split at h <;> cases h
  rfl

end Head

namespace Request

/-! ### The instants of the free reading -/

/-- When an attempt comes to its end; one that waits for bytes which never arrive has none. -/
def doneAt {α : Type} : Except RequestError α × Input → ℕ∞
  | (.error .abandoned, _) => ⊤
  | (_, i) => i.clock

@[simp] theorem doneAt_ok {α : Type} (a : α) (i : Input) :
    doneAt (.ok a, i) = i.clock := rfl

theorem doneAt_of_isBadRequest {α : Type} {e : RequestError} (h : e.isBadRequest = true)
    (i : Input) : doneAt (α := α) (.error e, i) = i.clock := by
  cases e <;> first | rfl | cases h

theorem doneAt_ofInterruption {α : Type} (e : Interruption) (i : Input) :
    doneAt (α := α) (.error (.ofInterruption e), i) = Input.doneAt (.error e, i) := by
  cases e <;> rfl

theorem clock_le_doneAt {α : Type} (r : Except RequestError α × Input) :
    (r.2.clock : ℕ∞) ≤ doneAt r := by
  obtain ⟨e | a, i⟩ := r
  · cases e <;> first | exact le_rfl | exact le_top
  · exact le_rfl

theorem doneAt_of_abandoned {α : Type} {r : Except RequestError α × Input}
    (h : r.1 = .error .abandoned) : doneAt r = ⊤ := by
  obtain ⟨e, i⟩ := r
  cases h
  rfl

theorem doneAt_of_ne_abandoned {α : Type} {r : Except RequestError α × Input}
    (h : r.1 ≠ .error .abandoned) : doneAt r = r.2.clock := by
  obtain ⟨e | a, i⟩ := r
  · cases e <;> first | rfl | exact absurd rfl h
  · rfl

/-- When the first line is there. -/
def lineDone (i : Input) : ℕ∞ :=
  Input.doneAt (i.read .line [])

/-- When the reading of the head has come to its end: with its blank line, or already with the first
line if that is malformed, missing or cannot be read. -/
def headDone (i : Input) : ℕ∞ :=
  doneAt (Head.readUnder [] [] i)

/-- When the body of a form with this head is there. -/
def formDone (h : Head) (i : Input) : ℕ∞ :=
  Input.doneAt (i.read h.bodyPart [])

/-- The idle limit is no longer than the head limit and passes before the first line is there. -/
def LateLine (d : Deadlines) (i : Input) : Prop :=
  ∃ limit, d.idle = some limit ∧ limit ≤ d.head ∧ ((i.clock + limit : ℕ) : ℕ∞) < lineDone i

/-- The head limit passes before the reading of the head has come to its end. -/
def LateHead (d : Deadlines) (i : Input) : Prop :=
  ((i.clock + d.head : ℕ) : ℕ∞) < headDone i

/-- A form follows, and the idle limit passes, counted from the end of the head, before the body is
there. -/
def LateForm (d : Deadlines) (i : Input) : Prop :=
  ∃ h j limit, Head.readUnder [] [] i = (.ok h, j) ∧ h.method = .post ∧ d.idle = some limit ∧
    ((j.clock + limit : ℕ) : ℕ∞) < formDone h j

theorem lineDone_le_headDone (i : Input) : lineDone i ≤ headDone i := by
  rw [lineDone, headDone, Head.readUnder, List.append_nil]
  split
  · rename_i e j hr
    rw [hr, doneAt_ofInterruption]
  · rename_i j hr
    rw [hr]
    exact le_rfl
  · rename_i b s j hr
    rw [hr, Input.doneAt_ok]
    split
    · exact clock_le_doneAt (_, j)
    · have hblock := Input.clock_le_doneAt_read (.block []) j
      split
      · rename_i e k hb
        rw [hb] at hblock
        rwa [doneAt_ofInterruption]
      · rename_i block k hb
        rw [hb] at hblock
        exact hblock

end Request

/-! ### The head under alarms -/

namespace Head

open Request (lineDone headDone lineDone_le_headDone)

variable {line whole : List Alarm} {a b : Alarm} {i : Input}

/-- A head whose first line is late. -/
theorem readUnder_of_lateLine (ha : Alarm.next? (line ++ whole) = some a) (hc : i.clock ≤ a.due)
    (h : a.due < lineDone i) :
    ∃ rest, readUnder line whole i = (.error (.ofInterruption a.reason), ⟨[], rest, a.due⟩) := by
  obtain ⟨rest, hr⟩ := Input.read_of_lt ha hc h
  exact ⟨rest, by rw [readUnder, hr]⟩

/-- A head whose first line is in time, but not all of it. -/
theorem readUnder_of_lateHead (ha : Alarm.next? (line ++ whole) = some a)
    (hb : Alarm.next? whole = some b) (hab : a.due ≤ b.due) (hl : lineDone i ≤ a.due)
    (h : b.due < headDone i) :
    ∃ rest, readUnder line whole i = (.error (.ofInterruption b.reason), ⟨[], rest, b.due⟩) := by
  have hlb : lineDone i ≤ b.due := hl.trans (Nat.cast_le.2 hab)
  rw [headDone, readUnder, List.append_nil] at h
  rw [readUnder, Input.read_of_le ha hl]
  rw [lineDone] at hlb
  -- Where the first line ends the reading, the head is there with it, which is in time.
  split at h
  · rename_i e j hr
    rw [Request.doneAt_ofInterruption, ← hr] at h
    exact absurd h (not_lt.2 hlb)
  · rename_i j hr
    rw [hr] at hlb
    exact absurd h (not_lt.2 hlb)
  · rename_i c s j hr
    rw [hr, Input.doneAt_ok] at hlb
    split at h
    · rename_i e hp
      rw [Request.doneAt_of_isBadRequest (isBadRequest_of_parseLine hp)] at h
      exact absurd h (not_lt.2 hlb)
    · rename_i hp
      have hblock : b.due < Input.doneAt (j.read (.block []) []) := by
        split at h
        · rename_i e k hk
          rwa [hk, ← Request.doneAt_ofInterruption (α := Head)]
        · rename_i block k hk
          rw [hk]
          exact h
      obtain ⟨rest, hlate⟩ := Input.read_of_lt hb (Nat.cast_le.1 hlb) hblock
      exact ⟨rest, by simp only [hlate]⟩

/-- A head that is in time. -/
theorem readUnder_of_inTime (ha : Alarm.next? (line ++ whole) = some a)
    (hb : Alarm.next? whole = some b) (hl : lineDone i ≤ a.due) (h : headDone i ≤ b.due) :
    readUnder line whole i = readUnder [] [] i := by
  rw [headDone, readUnder, List.append_nil] at h
  rw [readUnder, readUnder, List.append_nil, Input.read_of_le ha hl]
  split
  · rfl
  · rfl
  · rename_i c s j hr
    rw [hr] at h
    simp only at h
    split
    · rfl
    · rename_i hp
      rw [hp] at h
      simp only at h
      have hblock : Input.doneAt (j.read (.block []) []) ≤ b.due := by
        split at h
        · rename_i e k hk
          rwa [hk, ← Request.doneAt_ofInterruption (α := Head)]
        · rename_i block k hk
          rw [hk]
          exact h
      rw [Input.read_of_le hb hblock]

end Head

/-! ### The alarms of a request -/

namespace Deadlines

variable {d : Deadlines}

/-- While the first line is read, the idle limit comes first if it is no longer than the head
limit. -/
theorem next?_lineAlarms (hp : d.patience = none) (now : Nat) :
    let alarms := d.idleAlarm now .requestLine ++ (d.headAlarm now ++ d.patienceAlarm now)
    (∃ limit, d.idle = some limit ∧ limit ≤ d.head ∧
      Alarm.next? alarms = some ⟨now + limit, .late .requestLine⟩) ∨
    (∀ limit, d.idle = some limit → d.head < limit) ∧
      Alarm.next? alarms = some ⟨now + d.head, .late .head⟩ := by
  intro alarms
  cases hi : d.idle with
  | none =>
    refine .inr ⟨by rintro limit ⟨⟩, ?_⟩
    simp [alarms, idleAlarm, headAlarm, patienceAlarm, hi, hp, Alarm.next?]
  | some limit =>
    by_cases hle : limit ≤ d.head
    · refine .inl ⟨limit, rfl, hle, ?_⟩
      simp [alarms, idleAlarm, headAlarm, patienceAlarm, hi, hp, Alarm.next?, hle]
    · refine .inr ⟨fun l hl => ?_, ?_⟩
      · cases hl
        omega
      · simp [alarms, idleAlarm, headAlarm, patienceAlarm, hi, hp, Alarm.next?, hle]

theorem next?_headAlarms (hp : d.patience = none) (now : Nat) :
    Alarm.next? (d.headAlarm now ++ d.patienceAlarm now) = some ⟨now + d.head, .late .head⟩ := by
  simp [headAlarm, patienceAlarm, hp, Alarm.next?]

end Deadlines

namespace Request

variable {d : Deadlines} {i : Input}

/-! ### The four cases -/

theorem headRead_of_lateLine (hp : d.patience = none) (h : LateLine d i) :
    ∃ limit rest, d.idle = some limit ∧
      Head.read d i = (.error (.timedOut .requestLine), ⟨[], rest, i.clock + limit⟩) := by
  obtain ⟨limit, hi, hle, hlt⟩ := h
  rcases Deadlines.next?_lineAlarms hp i.clock with ⟨limit', hi', -, ha⟩ | ⟨hlong, -⟩
  · obtain rfl : limit = limit' := Option.some.inj (hi.symm.trans hi')
    obtain ⟨rest, hr⟩ := Head.readUnder_of_lateLine ha (Nat.le_add_right _ _) hlt
    exact ⟨limit, rest, hi, hr⟩
  · have := hlong limit hi
    omega

theorem headRead_of_lateHead (hp : d.patience = none) (hl : ¬LateLine d i) (h : LateHead d i) :
    ∃ rest, Head.read d i = (.error (.timedOut .head), ⟨[], rest, i.clock + d.head⟩) := by
  have hb := Deadlines.next?_headAlarms hp i.clock
  rcases Deadlines.next?_lineAlarms hp i.clock with ⟨limit, hi, hle, ha⟩ | ⟨-, ha⟩
  · have hline : lineDone i ≤ (i.clock + limit : ℕ) :=
      not_lt.1 fun hlt => hl ⟨limit, hi, hle, hlt⟩
    exact Head.readUnder_of_lateHead ha hb (Nat.add_le_add_left hle _) hline h
  · by_cases hline : lineDone i ≤ (i.clock + d.head : ℕ)
    · exact Head.readUnder_of_lateHead ha hb le_rfl hline h
    · exact Head.readUnder_of_lateLine ha (Nat.le_add_right _ _) (not_le.1 hline)

theorem headRead_of_inTime (hp : d.patience = none) (hl : ¬LateLine d i) (h : ¬LateHead d i) :
    Head.read d i = Head.readUnder [] [] i := by
  have hb := Deadlines.next?_headAlarms hp i.clock
  have hhead : headDone i ≤ (i.clock + d.head : ℕ) := not_lt.1 h
  rcases Deadlines.next?_lineAlarms hp i.clock with ⟨limit, hi, hle, ha⟩ | ⟨-, ha⟩
  · have hline : lineDone i ≤ (i.clock + limit : ℕ) :=
      not_lt.1 fun hlt => hl ⟨limit, hi, hle, hlt⟩
    exact Head.readUnder_of_inTime ha hb hline hhead
  · exact Head.readUnder_of_inTime ha hb ((lineDone_le_headDone i).trans hhead) hhead

/-- **A late first line** is cut off when the idle limit has passed. -/
theorem read_of_lateLine (hp : d.patience = none) (h : LateLine d i) :
    ∃ limit rest, d.idle = some limit ∧
      read d i = (.error (.timedOut .requestLine), ⟨[], rest, i.clock + limit⟩) := by
  obtain ⟨limit, rest, hi, hr⟩ := headRead_of_lateLine hp h
  exact ⟨limit, rest, hi, by rw [read, hr]⟩

/-- **A late head** is cut off when the head limit has passed. -/
theorem read_of_lateHead (hp : d.patience = none) (hl : ¬LateLine d i) (h : LateHead d i) :
    ∃ rest, read d i = (.error (.timedOut .head), ⟨[], rest, i.clock + d.head⟩) := by
  obtain ⟨rest, hr⟩ := headRead_of_lateHead hp hl h
  exact ⟨rest, by rw [read, hr]⟩

/-- **A late form** is cut off when the idle limit has passed since the end of the head. -/
theorem read_of_lateForm (hp : d.patience = none) (hl : ¬LateLine d i) (hh : ¬LateHead d i)
    (h : LateForm d i) :
    ∃ head j limit rest, Head.readUnder [] [] i = (.ok head, j) ∧ d.idle = some limit ∧
      read d i = (.error (.timedOut .body), ⟨[], rest, j.clock + limit⟩) := by
  obtain ⟨head, j, limit, hr, hpost, hi, hlt⟩ := h
  have ha : Alarm.next? (d.idleAlarm j.clock .body ++ d.patienceAlarm i.clock) =
      some ⟨j.clock + limit, .late .body⟩ := by
    simp [Deadlines.idleAlarm, Deadlines.patienceAlarm, hi, hp, Alarm.next?]
  obtain ⟨rest, hlate⟩ := Input.read_of_lt ha (Nat.le_add_right _ _) hlt
  refine ⟨head, j, limit, rest, hr, hi, ?_⟩
  rw [read, headRead_of_inTime hp hl hh, hr]
  simp only [if_pos hpost, readForm, readFormUnder, hlate]
  rfl

/-- **In time.** Where nothing is late the deadlines make no difference. -/
theorem read_of_inTime (hp : d.patience = none) (hl : ¬LateLine d i) (hh : ¬LateHead d i)
    (h : ¬LateForm d i) : read d i = readFreely i := by
  rw [read, readFreely, headRead_of_inTime hp hl hh]
  split
  · rfl
  · rename_i head j hr
    split
    · rename_i hpost
      rw [readForm, readFormUnder, readFormUnder]
      cases hi : d.idle with
      | none =>
        have hnone : d.idleAlarm j.clock .body ++ d.patienceAlarm i.clock = [] := by
          simp [Deadlines.idleAlarm, Deadlines.patienceAlarm, hi, hp]
        rw [hnone]
      | some limit =>
        have ha : Alarm.next? (d.idleAlarm j.clock .body ++ d.patienceAlarm i.clock) =
            some ⟨j.clock + limit, .late .body⟩ := by
          simp [Deadlines.idleAlarm, Deadlines.patienceAlarm, hi, hp, Alarm.next?]
        have hform : formDone head j ≤ (j.clock + limit : ℕ) :=
          not_lt.1 fun hlt => h ⟨head, j, limit, hr, hpost, hi, hlt⟩
        rw [Input.read_of_le ha hform]
    · rfl

/-! ### All cases together -/

theorem headRead_nil_ne_timedOut (i : Input) (stage : Stage) :
    (Head.readUnder [] [] i).1 ≠ .error (.timedOut stage) := by
  rw [Head.readUnder, List.append_nil]
  split
  · rename_i e j hr
    have hlate : ∀ s, e ≠ .late s := fun s he =>
      Input.read_nil_ne_late .line i s (by rw [hr, he])
    exact fun h => RequestError.ofInterruption_ne_timedOut hlate stage (Except.error.inj h)
  · rintro ⟨⟩
  · split
    · rename_i e hp
      have hbad := Head.isBadRequest_of_parseLine hp
      rintro h
      cases h
      cases hbad
    · split
      · rename_i e k hr
        have hlate : ∀ s, e ≠ .late s := fun s he =>
          Input.read_nil_ne_late (.block []) _ s ((congrArg Prod.fst hr).trans (by rw [he]))
        exact fun h => RequestError.ofInterruption_ne_timedOut hlate stage (Except.error.inj h)
      · rintro ⟨⟩

/-- Without deadlines nothing times out. -/
theorem readFreely_ne_timedOut (i : Input) (stage : Stage) :
    (readFreely i).1 ≠ .error (.timedOut stage) := by
  have hhead := headRead_nil_ne_timedOut i stage
  rw [readFreely]
  split
  · rename_i e j hr
    rw [hr] at hhead
    exact fun h => hhead (congrArg Except.error (Except.error.inj h))
  · rename_i head j hr
    split
    · rw [readFormUnder]
      split
      · rename_i e k hk
        have hlate : ∀ s, e ≠ .late s := fun s he =>
          Input.read_nil_ne_late head.bodyPart j s (by rw [hk, he])
        exact fun h => RequestError.ofInterruption_ne_timedOut hlate stage (Except.error.inj h)
      · intro h
        have hbad := Head.isBadRequest_of_withForm h
        cases hbad
    · rintro ⟨⟩

/-- The instant at which the limit for a stage passes, if there is one. -/
def due? (d : Deadlines) (i : Input) : Stage → Option Nat
  | .requestLine => d.idle.map (i.clock + ·)
  | .head => some (i.clock + d.head)
  | .body => d.idle.map ((Head.readUnder [] [] i).2.clock + ·)

/-- The first limits are at most the second ones; no limit is the longest. -/
def LimitsLe (d d' : Deadlines) : Prop :=
  d.head ≤ d'.head ∧ ∀ limit', d'.idle = some limit' → ∃ limit ≤ limit', d.idle = some limit

/-- What is late under some limits is late under shorter ones. -/
theorem not_late_of_limitsLe {d' : Deadlines} (hd : LimitsLe d d') (hl : ¬LateLine d i)
    (hh : ¬LateHead d i) (hf : ¬LateForm d i) :
    ¬LateLine d' i ∧ ¬LateHead d' i ∧ ¬LateForm d' i := by
  obtain ⟨hhead, hidle⟩ := hd
  refine ⟨?_, ?_, ?_⟩
  · rintro ⟨limit', hi', -, hlt⟩
    obtain ⟨limit, hle, hi⟩ := hidle limit' hi'
    have hline : ((i.clock + limit : ℕ) : ℕ∞) < lineDone i :=
      (Nat.cast_le.2 (Nat.add_le_add_left hle _)).trans_lt hlt
    -- An idle limit beyond the head limit makes the head late instead of the line.
    rcases Nat.le_total limit d.head with hle' | hle'
    · exact hl ⟨limit, hi, hle', hline⟩
    · refine hh (lt_of_lt_of_le ?_ (lineDone_le_headDone i))
      exact (Nat.cast_le.2 (Nat.add_le_add_left hle' _)).trans_lt hline
  · exact fun h => hh ((Nat.cast_le.2 (Nat.add_le_add_left hhead _)).trans_lt h)
  · rintro ⟨head, j, limit', hr, hpost, hi', hlt⟩
    obtain ⟨limit, hle, hi⟩ := hidle limit' hi'
    exact hf ⟨head, j, limit, hr, hpost, hi,
      (Nat.cast_le.2 (Nat.add_le_add_left hle _)).trans_lt hlt⟩

/-- A free reading that is not kept waiting for ever ends with its head, or with its form. -/
theorem doneAt_readFreely (i : Input) :
    doneAt (readFreely i) = headDone i ∨
      ∃ head j, Head.readUnder [] [] i = (.ok head, j) ∧ head.method = .post ∧
        doneAt (readFreely i) = formDone head j := by
  rw [headDone, readFreely]
  split
  · rename_i e j hr
    rw [hr]
    exact .inl (by cases e <;> rfl)
  · rename_i head j hr
    split
    · rename_i hpost
      refine .inr ⟨head, j, hr, hpost, ?_⟩
      rw [formDone, readFormUnder]
      split
      · rename_i e k hk
        rw [hk, doneAt_ofInterruption]
      · rename_i body k hk
        rw [hk]
        cases hw : head.withForm body with
        | ok r => rfl
        | error e => exact doneAt_of_isBadRequest (Head.isBadRequest_of_withForm hw) k
    · exact .inl (by rw [hr]; rfl)

/-- What a call is cut off for, at which instant, and what is left alone. -/
theorem read_cases (hp : d.patience = none) :
    (LateLine d i ∧ (read d i).1 = .error (.timedOut .requestLine) ∧
      due? d i .requestLine = some (read d i).2.clock) ∨
    (¬LateLine d i ∧ LateHead d i ∧ (read d i).1 = .error (.timedOut .head) ∧
      due? d i .head = some (read d i).2.clock) ∨
    (¬LateLine d i ∧ ¬LateHead d i ∧ LateForm d i ∧ (read d i).1 = .error (.timedOut .body) ∧
      due? d i .body = some (read d i).2.clock) ∨
    (¬LateLine d i ∧ ¬LateHead d i ∧ ¬LateForm d i ∧ read d i = readFreely i ∧
      ∀ stage, (read d i).1 ≠ .error (.timedOut stage)) := by
  by_cases hl : LateLine d i
  · obtain ⟨limit, rest, hi, hr⟩ := read_of_lateLine hp hl
    exact .inl ⟨hl, by rw [hr], by rw [hr, due?, hi]; rfl⟩
  by_cases hh : LateHead d i
  · obtain ⟨rest, hr⟩ := read_of_lateHead hp hl hh
    exact .inr (.inl ⟨hl, hh, by rw [hr], by rw [hr, due?]⟩)
  by_cases hf : LateForm d i
  · obtain ⟨head, j, limit, rest, hj, hi, hr⟩ := read_of_lateForm hp hl hh hf
    exact .inr (.inr (.inl ⟨hl, hh, hf, by rw [hr], by rw [hr, due?, hi, hj]; rfl⟩))
  · have hr := read_of_inTime hp hl hh hf
    exact .inr (.inr (.inr ⟨hl, hh, hf, hr, fun stage => hr ▸ readFreely_ne_timedOut i stage⟩))

/-- With an idle limit every call comes to its end, at most the two limits after its start. -/
theorem doneAt_read_le (hp : d.patience = none) {limit : Nat} (hi : d.idle = some limit) :
    doneAt (read d i) ≤ (i.clock + d.head + limit : ℕ) := by
  by_cases hl : LateLine d i
  · obtain ⟨limit', rest, hi', hr⟩ := read_of_lateLine hp hl
    obtain rfl : limit = limit' := Option.some.inj (hi.symm.trans hi')
    rw [hr]
    exact Nat.cast_le.2 (show i.clock + limit ≤ i.clock + d.head + limit by omega)
  by_cases hh : LateHead d i
  · obtain ⟨rest, hr⟩ := read_of_lateHead hp hl hh
    rw [hr]
    exact Nat.cast_le.2 (Nat.le_add_right _ _)
  have hhead : headDone i ≤ (i.clock + d.head : ℕ) := not_lt.1 hh
  have hclock : ∀ head j, Head.readUnder [] [] i = (.ok head, j) → j.clock ≤ i.clock + d.head := by
    intro head j hr
    rw [headDone, hr] at hhead
    exact Nat.cast_le.1 hhead
  by_cases hf : LateForm d i
  · obtain ⟨head, j, limit', rest, hj, hi', hr⟩ := read_of_lateForm hp hl hh hf
    obtain rfl : limit = limit' := Option.some.inj (hi.symm.trans hi')
    rw [hr]
    exact Nat.cast_le.2 (Nat.add_le_add_right (hclock head j hj) limit)
  rw [read_of_inTime hp hl hh hf]
  rcases doneAt_readFreely i with h | ⟨head, j, hj, hpost, h⟩
  · rw [h]
    exact hhead.trans (Nat.cast_le.2 (Nat.le_add_right _ _))
  · rw [h]
    have hform : formDone head j ≤ (j.clock + limit : ℕ) :=
      not_lt.1 fun hlt => hf ⟨head, j, limit, hj, hpost, hi, hlt⟩
    exact hform.trans (Nat.cast_le.2 (Nat.add_le_add_right (hclock head j hj) limit))

theorem read_timedOut_requestLine_iff (hp : d.patience = none) :
    (read d i).1 = .error (.timedOut .requestLine) ↔ LateLine d i := by
  rcases read_cases (i := i) hp with ⟨hl, hr, -⟩ | ⟨hl, -, hr, -⟩ | ⟨hl, -, -, hr, -⟩ |
    ⟨hl, -, -, -, hne⟩
  · exact iff_of_true hr hl
  · exact iff_of_false (by rw [hr]; rintro ⟨⟩) hl
  · exact iff_of_false (by rw [hr]; rintro ⟨⟩) hl
  · exact iff_of_false (hne .requestLine) hl

theorem read_timedOut_head_iff (hp : d.patience = none) :
    (read d i).1 = .error (.timedOut .head) ↔ ¬LateLine d i ∧ LateHead d i := by
  rcases read_cases (i := i) hp with ⟨hl, hr, -⟩ | ⟨hl, hh, hr, -⟩ | ⟨-, hh, -, hr, -⟩ |
    ⟨-, hh, -, -, hne⟩
  · exact iff_of_false (by rw [hr]; rintro ⟨⟩) fun h => h.1 hl
  · exact iff_of_true hr ⟨hl, hh⟩
  · exact iff_of_false (by rw [hr]; rintro ⟨⟩) fun h => hh h.2
  · exact iff_of_false (hne .head) fun h => hh h.2

theorem read_timedOut_body_iff (hp : d.patience = none) :
    (read d i).1 = .error (.timedOut .body) ↔
      ¬LateLine d i ∧ ¬LateHead d i ∧ LateForm d i := by
  rcases read_cases (i := i) hp with ⟨hl, hr, -⟩ | ⟨-, hh, hr, -⟩ | ⟨hl, hh, hf, hr, -⟩ |
    ⟨-, -, hf, -, hne⟩
  · exact iff_of_false (by rw [hr]; rintro ⟨⟩) fun h => h.1 hl
  · exact iff_of_false (by rw [hr]; rintro ⟨⟩) fun h => h.2.1 hh
  · exact iff_of_true hr ⟨hl, hh, hf⟩
  · exact iff_of_false (hne .body) fun h => hf h.2.2

/-- A call is cut off at the very instant at which a limit passes. -/
theorem due?_of_timedOut (hp : d.patience = none) {stage : Stage}
    (h : (read d i).1 = .error (.timedOut stage)) :
    due? d i stage = some (read d i).2.clock := by
  rcases read_cases (i := i) hp with ⟨-, hr, hdue⟩ | ⟨-, -, hr, hdue⟩ | ⟨-, -, -, hr, hdue⟩ |
    ⟨-, -, -, -, hne⟩
  · cases hr.symm.trans h
    exact hdue
  · cases hr.symm.trans h
    exact hdue
  · cases hr.symm.trans h
    exact hdue
  · exact absurd h (hne stage)

/-- A call that is not cut off is the same under all longer limits. -/
theorem read_eq_of_limitsLe (hp : d.patience = none) {d' : Deadlines} (hp' : d'.patience = none)
    (hle : LimitsLe d d') (hne : ∀ stage, (read d i).1 ≠ .error (.timedOut stage)) :
    read d' i = read d i := by
  rcases read_cases (i := i) hp with ⟨-, hr, -⟩ | ⟨-, -, hr, -⟩ | ⟨-, -, -, hr, -⟩ |
    ⟨hl, hh, hf, hr, -⟩
  · exact absurd hr (hne .requestLine)
  · exact absurd hr (hne .head)
  · exact absurd hr (hne .body)
  · obtain ⟨hl', hh', hf'⟩ := not_late_of_limitsLe hle hl hh hf
    exact (read_of_inTime hp' hl' hh' hf').trans hr.symm

/-- With an idle limit nobody waits without end. -/
theorem read_ne_abandoned (hp : d.patience = none) {limit : Nat} (hi : d.idle = some limit) :
    (read d i).1 ≠ .error .abandoned := by
  intro h
  have hdone := doneAt_read_le (i := i) hp hi
  rw [doneAt_of_abandoned h] at hdone
  exact absurd hdone (not_le.2 (ENat.natCast_lt_top _))

/-- Only for the body of a form, and only without an idle limit, anybody waits without end. -/
theorem exists_form_of_abandoned (hp : d.patience = none) (h : (read d i).1 = .error .abandoned) :
    d.idle = none ∧ ∃ head j, Head.readUnder [] [] i = (.ok head, j) ∧ head.method = .post ∧
      j.clock ≤ i.clock + d.head := by
  have hnone : d.idle = none := by
    cases hi : d.idle with
    | none => rfl
    | some limit => exact absurd h (read_ne_abandoned hp hi)
  rcases read_cases (i := i) hp with ⟨-, hr, -⟩ | ⟨-, -, hr, -⟩ | ⟨-, -, -, hr, -⟩ |
    ⟨-, hh, -, hr, -⟩
  · cases hr.symm.trans h
  · cases hr.symm.trans h
  · cases hr.symm.trans h
  have htop : doneAt (readFreely i) = ⊤ := doneAt_of_abandoned (hr ▸ h)
  have hhead : headDone i ≤ (i.clock + d.head : ℕ) := not_lt.1 hh
  rcases doneAt_readFreely i with hd | ⟨head, j, hj, hpost, -⟩
  · rw [← hd, htop] at hhead
    exact absurd hhead (not_le.2 (ENat.natCast_lt_top _))
  · refine ⟨hnone, head, j, hj, hpost, ?_⟩
    rw [headDone, hj] at hhead
    exact Nat.cast_le.1 hhead

/-- **What deadlines do.** A call under a head limit and perhaps an idle limit is cut off for its
first line, its head or its form exactly if that is late and nothing before it is, and at the very
instant at which the limit passes. In every other case it is the free reading, with the same result,
the same time and the same input left. So a call that is not cut off is the same under all longer
limits. With an idle limit every call comes to its end within the two limits, and without one only
the body of a form can be waited for without end. -/
theorem read_watched (head : Nat) (idle : Option Nat) (i : Input) :
    let d : Deadlines := { head, idle }
    ((read d i).1 = .error (.timedOut .requestLine) ↔ LateLine d i) ∧
    ((read d i).1 = .error (.timedOut .head) ↔ ¬LateLine d i ∧ LateHead d i) ∧
    ((read d i).1 = .error (.timedOut .body) ↔
      ¬LateLine d i ∧ ¬LateHead d i ∧ LateForm d i) ∧
    (∀ stage, (read d i).1 = .error (.timedOut stage) →
      due? d i stage = some (read d i).2.clock) ∧
    (¬LateLine d i → ¬LateHead d i → ¬LateForm d i → read d i = readFreely i) ∧
    (∀ head' idle', LimitsLe d { head := head', idle := idle' } →
      (∀ stage, (read d i).1 ≠ .error (.timedOut stage)) →
        read { head := head', idle := idle' } i = read d i) ∧
    (∀ limit, idle = some limit → (read d i).1 ≠ .error .abandoned ∧
      (read d i).2.clock ≤ i.clock + head + limit) ∧
    ((read d i).1 = .error .abandoned → idle = none ∧ ∃ h j,
      Head.readUnder [] [] i = (.ok h, j) ∧ h.method = .post ∧ j.clock ≤ i.clock + head) := by
  intro d
  have hp : d.patience = none := rfl
  refine ⟨read_timedOut_requestLine_iff hp, read_timedOut_head_iff hp, read_timedOut_body_iff hp,
    fun stage => due?_of_timedOut hp, read_of_inTime hp,
    fun head' idle' => read_eq_of_limitsLe hp rfl, fun limit hi => ?_, exists_form_of_abandoned hp⟩
  have hdone : doneAt (read d i) ≤ (i.clock + head + limit : ℕ) := doneAt_read_le hp hi
  exact ⟨read_ne_abandoned hp hi, Nat.cast_le.1 ((clock_le_doneAt _).trans hdone)⟩

/-- If both limits pass at one instant, it is the first line that is late. -/
example : read { head := 10, idle := some 10 } ⟨[], [.stall], 5⟩ =
    (.error (.timedOut .requestLine), ⟨[], [.stall], 15⟩) := by
  rfl

end Request

end HttpServer
