import HttpServer.Proofs.Input.Arrival
import HttpServer.Proofs.Request.Watchdog

/-!
# Requests that arrive without a failure

From a smooth input the request is read that its bytes begin with, and the bytes behind it are left,
whatever pieces they arrive in. If the waits of the input add up to no more than the limits allow,
the deadlines make no difference to that.

## Main definitions

* `Head.ofBytes`: the head at the start of a byte string, and the rest.

## Main results

* `Request.readFreely_of_smooth`: reading a smooth input without deadlines.
* `Request.read_of_smooth`: the same under deadlines, unless one of them passes.
* `Request.read_of_span_le`: none of them passes if the waits are short.
* `Request.read_eq_closed_iff`: when no request is sent at all.
-/

namespace HttpServer

open Input (Leaves)

namespace Head

/-- The head at the start of a byte string that nothing follows, and the bytes behind it. -/
def ofBytes (s : Bytes) : Except RequestError Head × Bytes :=
  match Part.cut .line s with
  | ([], rest) => (.error .closed, rest)
  | (b :: line, rest) =>
    match parseLine (lineText (b :: line)) with
    | .error e => (.error e, rest)
    | .ok (method, path, params) =>
      let (block, rest) := Part.cut (.block []) rest
      (.ok ⟨method, path, params, .ofBlock block⟩, rest)

/-- The head of a smooth input. -/
theorem readUnder_of_smooth {i : Input} (h : i.Smooth) :
    ∃ j, readUnder [] [] i = ((ofBytes i.unread).1, j) ∧ Leaves i j (ofBytes i.unread).2 := by
  obtain ⟨j, hj, hleaves⟩ := Input.read_of_smooth h .line
  rw [readUnder, List.append_nil, hj, ofBytes]
  generalize Part.cut .line i.unread = first at hleaves ⊢
  obtain ⟨line, rest⟩ := first
  cases line with
  | nil => exact ⟨j, rfl, hleaves⟩
  | cons b line =>
    simp only
    cases parseLine (lineText (b :: line)) with
    | error e => exact ⟨j, rfl, hleaves⟩
    | ok m =>
      obtain ⟨method, path, params⟩ := m
      obtain ⟨k, hk, hleaves'⟩ := Input.read_of_smooth hleaves.smooth (.block [])
      rw [hleaves.unread] at hk hleaves'
      simp only [hk]
      exact ⟨k, rfl, hleaves.trans hleaves'⟩

/-- Nobody waits in vain for bytes that are at hand. -/
theorem ofBytes_ne_abandoned (s : Bytes) : (ofBytes s).1 ≠ .error .abandoned := by
  rw [ofBytes]
  split
  · rintro ⟨⟩
  · split
    · rename_i hp
      have hbad := isBadRequest_of_parseLine hp
      rintro h
      cases h
      cases hbad
    · rintro ⟨⟩

end Head

namespace Request

theorem ofBytes_eq (s : Bytes) : ofBytes s =
    match Head.ofBytes s with
    | (.error e, rest) => (.error e, rest)
    | (.ok h, rest) =>
      if h.method = .post then (h.withForm (h.bodyPart.cut rest).1, (h.bodyPart.cut rest).2)
      else (.ok h.bodiless, rest) := by
  rw [ofBytes, Head.ofBytes]
  obtain ⟨line, rest⟩ := Part.cut .line s
  cases line with
  | nil => rfl
  | cons b line =>
    simp only
    cases Head.parseLine (lineText (b :: line)) with
    | error e => rfl
    | ok m => rfl

/-- **A smooth input holds the request that its bytes begin with**, and what follows is left. -/
theorem readFreely_of_smooth {i : Input} (h : i.Smooth) :
    ∃ j, readFreely i = ((ofBytes i.unread).1, j) ∧ Leaves i j (ofBytes i.unread).2 := by
  obtain ⟨j, hj, hleaves⟩ := Head.readUnder_of_smooth h
  rw [readFreely, hj, ofBytes_eq]
  generalize Head.ofBytes i.unread = first at hleaves ⊢
  obtain ⟨e | head, rest⟩ := first
  · exact ⟨j, rfl, hleaves⟩
  · by_cases hpost : head.method = .post
    · obtain ⟨k, hk, hleaves'⟩ := Input.read_of_smooth hleaves.smooth head.bodyPart
      rw [hleaves.unread] at hk hleaves'
      simp only [if_pos hpost, readFormUnder, hk]
      exact ⟨k, rfl, hleaves.trans hleaves'⟩
    · simp only [if_neg hpost]
      exact ⟨j, rfl, hleaves⟩

/-- Unless a deadline passes, reading is as if there were none. -/
theorem read_eq_readFreely {d : Deadlines} (hp : d.patience = none) {i : Input}
    (hlate : ∀ stage, (read d i).1 ≠ .error (.timedOut stage)) : read d i = readFreely i := by
  rcases read_cases (i := i) hp with ⟨-, hr, -⟩ | ⟨-, -, hr, -⟩ | ⟨-, -, -, hr, -⟩ |
    ⟨-, -, -, hr, -⟩
  · exact absurd hr (hlate .requestLine)
  · exact absurd hr (hlate .head)
  · exact absurd hr (hlate .body)
  · exact hr

/-- Unless a deadline passes, reading a smooth input is reading its bytes. -/
theorem read_of_smooth {d : Deadlines} (hp : d.patience = none) {i : Input} (h : i.Smooth)
    (hlate : ∀ stage, (read d i).1 ≠ .error (.timedOut stage)) :
    ∃ j, read d i = ((ofBytes i.unread).1, j) ∧ Leaves i j (ofBytes i.unread).2 := by
  rw [read_eq_readFreely hp hlate]
  exact readFreely_of_smooth h

theorem ofBytes_ne_abandoned (s : Bytes) : (ofBytes s).1 ≠ .error .abandoned := by
  have hhead := Head.ofBytes_ne_abandoned s
  rw [ofBytes_eq]
  generalize Head.ofBytes s = first at hhead ⊢
  obtain ⟨e | head, rest⟩ := first
  · exact fun h => hhead (congrArg _ (Except.error.inj h))
  · simp only
    split
    · intro h
      cases Head.isBadRequest_of_withForm h
    · rintro ⟨⟩

/-- A smooth input keeps nobody waiting without end. -/
theorem read_ne_abandoned_of_smooth {d : Deadlines} (hp : d.patience = none) {i : Input}
    (h : i.Smooth) : (read d i).1 ≠ .error .abandoned := by
  intro ha
  obtain ⟨j, hj, -⟩ := read_of_smooth hp h fun stage => by
    rw [ha]
    rintro ⟨⟩
  rw [hj] at ha
  exact ofBytes_ne_abandoned i.unread ha

/-! ### Short waits -/

theorem lineDone_le_of_smooth {i : Input} (h : i.Smooth) :
    lineDone i ≤ (i.clock + i.span : ℕ) :=
  Input.doneAt_read_le_of_smooth h .line

theorem headDone_le_of_smooth {i : Input} (h : i.Smooth) :
    headDone i ≤ (i.clock + i.span : ℕ) := by
  obtain ⟨j, hj, hleaves⟩ := Head.readUnder_of_smooth h
  rw [headDone, hj, doneAt_of_ne_abandoned (Head.ofBytes_ne_abandoned i.unread)]
  exact Nat.cast_le.2 hleaves.clock_le

/-- Nothing is late if all waits together are within the limits. -/
theorem not_late_of_span_le {d : Deadlines} {i : Input} (h : i.Smooth) (hhead : i.span ≤ d.head)
    (hidle : ∀ limit, d.idle = some limit → i.span ≤ limit) :
    ¬LateLine d i ∧ ¬LateHead d i ∧ ¬LateForm d i := by
  refine ⟨?_, ?_, ?_⟩
  · rintro ⟨limit, hi, -, hlt⟩
    have hle := hidle limit hi
    exact absurd (Nat.cast_lt.1 (hlt.trans_le (lineDone_le_of_smooth h))) (by omega)
  · intro hlt
    exact absurd (Nat.cast_lt.1 (lt_of_lt_of_le hlt (headDone_le_of_smooth h))) (by omega)
  · rintro ⟨head, j, limit, hj, -, hi, hlt⟩
    obtain ⟨j', hj', hleaves⟩ := Head.readUnder_of_smooth h
    obtain rfl : j = j' := congrArg Prod.snd (hj.symm.trans hj')
    have hle := hidle limit hi
    have hdone : formDone head j ≤ (j.clock + j.span : ℕ) :=
      Input.doneAt_read_le_of_smooth hleaves.smooth head.bodyPart
    have hspan := hleaves.span_le
    exact absurd (Nat.cast_lt.1 (hlt.trans_le hdone)) (by omega)

/-- **Short waits.** If all waits together are within the limits, no deadline passes. -/
theorem read_of_span_le {d : Deadlines} (hp : d.patience = none) {i : Input} (h : i.Smooth)
    (hhead : i.span ≤ d.head) (hidle : ∀ limit, d.idle = some limit → i.span ≤ limit)
    (stage : Stage) : (read d i).1 ≠ .error (.timedOut stage) := by
  obtain ⟨hl, hh, hf⟩ := not_late_of_span_le h hhead hidle
  rw [read_of_inTime hp hl hh hf]
  exact readFreely_ne_timedOut i stage

end Request

/-! ### Bytes that are all at hand -/

theorem Input.smooth_ofBytes (s : Bytes) : (Input.ofBytes s).Smooth :=
  List.forall_mem_nil _

theorem Input.unread_ofBytes (s : Bytes) : (Input.ofBytes s).unread = s :=
  List.append_nil s

namespace Request

theorem read_ofBytes_ne_timedOut (s : Bytes) (stage : Stage) :
    (read {} (.ofBytes s)).1 ≠ .error (.timedOut stage) :=
  read_of_span_le rfl (Input.smooth_ofBytes s) (Nat.zero_le _) (fun _ _ => Nat.zero_le _) stage

/-- Bytes that are all at hand are read in time. -/
theorem read_ofBytes (s : Bytes) : (read {} (.ofBytes s)).1 = (ofBytes s).1 := by
  obtain ⟨j, hj, -⟩ := read_of_smooth rfl (Input.smooth_ofBytes s) (read_ofBytes_ne_timedOut s)
  rw [hj, Input.unread_ofBytes]

end Request

/-! ### Inputs that end before their first byte -/

theorem RequestError.ofInterruption_ne_closed (e : Interruption) : ofInterruption e ≠ closed := by
  cases e <;> rintro ⟨⟩

theorem RequestError.ne_closed_of_isBadRequest {e : RequestError} (h : e.isBadRequest = true) :
    e ≠ closed := by
  rintro rfl
  cases h

theorem Head.readUnder_eq_closed_iff (line whole : List Alarm) (i : Input) :
    (readUnder line whole i).1 = .error .closed ↔ (i.read .line (line ++ whole)).1 = .ok [] := by
  rw [readUnder]
  split
  · rename_i e j hr
    rw [hr]
    refine iff_of_false (fun h => ?_) (by rintro ⟨⟩)
    exact RequestError.ofInterruption_ne_closed e (Except.error.inj h)
  · rename_i j hr
    rw [hr]
    exact iff_of_true rfl rfl
  · rename_i b s j hr
    rw [hr]
    refine iff_of_false ?_ (by rintro ⟨⟩)
    split
    · rename_i e hp
      intro h
      have hbad := isBadRequest_of_parseLine hp
      exact RequestError.ne_closed_of_isBadRequest hbad (Except.error.inj h)
    · split
      · exact fun h => RequestError.ofInterruption_ne_closed _ (Except.error.inj h)
      · rintro ⟨⟩

namespace Request

theorem read_eq_closed_iff_head (d : Deadlines) (i : Input) :
    (read d i).1 = .error .closed ↔ (Head.read d i).1 = .error .closed := by
  rw [read]
  split
  · rename_i e j hr
    rw [hr]
    exact ⟨fun h => congrArg _ (Except.error.inj h), fun h => congrArg _ (Except.error.inj h)⟩
  · rename_i head j hr
    rw [hr]
    refine iff_of_false ?_ (by rintro ⟨⟩)
    split
    · rw [readForm, readFormUnder]
      split
      · exact fun h => RequestError.ofInterruption_ne_closed _ (Except.error.inj h)
      · intro h
        exact RequestError.ne_closed_of_isBadRequest (Head.isBadRequest_of_withForm h) rfl
    · rintro ⟨⟩

/-- **No request at all** is sent exactly if the input ends without a byte, without a failure and
within all limits. -/
theorem read_eq_closed_iff (d : Deadlines) (i : Input) :
    (read d i).1 = .error .closed ↔
      i.Smooth ∧ i.unread = [] ∧ i.span ≤ d.head ∧
        (∀ limit, d.idle = some limit → i.span ≤ limit) ∧
        ∀ limit, d.patience = some limit → i.span ≤ limit := by
  rw [read_eq_closed_iff_head, Head.read, Head.readUnder_eq_closed_iff]
  generalize halarms : d.idleAlarm i.clock .requestLine ++
    (d.headAlarm i.clock ++ d.patienceAlarm i.clock) = alarms
  have hmem : ∀ b, b ∈ alarms ↔ (∃ limit, d.idle = some limit ∧
      b = ⟨i.clock + limit, .late .requestLine⟩) ∨ b = ⟨i.clock + d.head, .late .head⟩ ∨
      ∃ limit, d.patience = some limit ∧ b = ⟨i.clock + limit, .abandoned⟩ := by
    intro b
    rw [← halarms, List.mem_append, List.mem_append, Deadlines.headAlarm, List.mem_singleton]
    refine or_congr ?_ (or_congr Iff.rfl ?_)
    · cases hi : d.idle <;> simp [Deadlines.idleAlarm, hi]
    · cases hi : d.patience <;> simp [Deadlines.patienceAlarm, hi]
  have hhead : (⟨i.clock + d.head, .late .head⟩ : Alarm) ∈ alarms := (hmem _).2 (.inr (.inl rfl))
  obtain ⟨a, ha⟩ : ∃ a, Alarm.next? alarms = some a := by
    rw [← Option.ne_none_iff_exists', ne_eq, Alarm.next?_eq_none_iff]
    exact List.ne_nil_of_mem hhead
  have hclock : i.clock ≤ a.due := by
    rcases (hmem a).1 (Alarm.mem_of_next? ha) with ⟨limit, -, rfl⟩ | rfl | ⟨limit, -, rfl⟩
    · exact Nat.le_add_right _ _
    · exact Nat.le_add_right _ _
    · exact Nat.le_add_right _ _
  rw [Input.read_line_eq_nil_iff_of_next? ha hclock]
  refine and_congr_right fun _ => and_congr_right fun _ => ?_
  constructor
  · intro hle
    have hall : ∀ b ∈ alarms, i.clock + i.span ≤ b.due := fun b hb =>
      hle.trans (Alarm.due_le_of_next? ha hb)
    refine ⟨Nat.le_of_add_le_add_left (hall _ hhead), fun limit hi => ?_, fun limit hi => ?_⟩
    · exact Nat.le_of_add_le_add_left (hall _ ((hmem _).2 (.inl ⟨limit, hi, rfl⟩)))
    · exact Nat.le_of_add_le_add_left (hall _ ((hmem _).2 (.inr (.inr ⟨limit, hi, rfl⟩))))
  · rintro ⟨hspan, hidle, hpatience⟩
    rcases (hmem a).1 (Alarm.mem_of_next? ha) with ⟨limit, hi, rfl⟩ | rfl | ⟨limit, hi, rfl⟩
    · exact Nat.add_le_add_left (hidle limit hi) _
    · exact Nat.add_le_add_left hspan _
    · exact Nat.add_le_add_left (hpatience limit hi) _

end Request

end HttpServer
