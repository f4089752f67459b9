import HttpServer.Response.Write

/-!
# What a sink has taken

Whatever is offered to a sink, it has taken a beginning of it when the offering ends, all of it if
the offering succeeds, and it succeeds if the sink takes bytes without end and can be flushed. This
is kept by offering one thing after another (`Sink.offered_andThen`), and so it holds of a whole
response, in however many calls and pieces that is written.

## Main definitions

* `Sink.Took`: a sink before and after it has taken some bytes.
* `Sink.Accepts`: a sink that takes everything.
* `Sink.Offered`: what offering some bytes comes to.

## Main results

* `Response.offered_write`: what writing a response comes to.
-/

namespace HttpServer

namespace Sink

/-- The sink `k'` is what `k` has become by taking the bytes `s`. -/
structure Took (k k' : Sink) (s : Bytes) : Prop where
  /-- The bytes follow those that were taken before. -/
  written : k'.written = k.written ++ s
  /-- The bound on a call stays. -/
  perCall : k'.perCall = k.perCall
  /-- The room shrinks. -/
  room : k'.room = k.room.map (· - s.length)
  /-- Flushing fails as before. -/
  flushFault : k'.flushFault = k.flushFault

/-- The sink takes everything. -/
structure Accepts (k : Sink) : Prop where
  perCall : k.perCall ≠ some 0
  room : k.room = none
  flushFault : k.flushFault = none

namespace Took

variable {k k' k'' : Sink} {s t : Bytes}

theorem refl (k : Sink) : Took k k [] where
  written := (List.append_nil _).symm
  perCall := rfl
  room := by simp
  flushFault := rfl

theorem trans (h : Took k k' s) (h' : Took k' k'' t) : Took k k'' (s ++ t) where
  written := by rw [h'.written, h.written, List.append_assoc]
  perCall := h'.perCall.trans h.perCall
  room := by
    rw [h'.room, h.room, Option.map_map, List.length_append]
    congr 1
    funext n
    exact Nat.sub_sub n s.length t.length
  flushFault := h'.flushFault.trans h.flushFault

theorem accepts (h : Took k k' s) (ha : k.Accepts) : k'.Accepts where
  perCall := h.perCall ▸ ha.perCall
  room := by rw [h.room, ha.room, Option.map_none]
  flushFault := h.flushFault.trans ha.flushFault

end Took

/-! ### One call -/

theorem clip_isPrefix (bound : Option Nat) (s : Bytes) : clip bound s <+: s := by
  cases bound with
  | none => exact List.prefix_rfl
  | some n => exact List.take_prefix n s

theorem clip_ne_nil {bound : Option Nat} {s : Bytes} (hbound : bound ≠ some 0) (hs : s ≠ []) :
    clip bound s ≠ [] := by
  cases bound with
  | none => exact hs
  | some n =>
    have hn : n ≠ 0 := fun h => hbound (by rw [h])
    simp [clip, hn, hs]

theorem share_isPrefix (k : Sink) (s : Bytes) : k.share s <+: s :=
  (clip_isPrefix k.room _).trans (clip_isPrefix k.perCall s)

variable {k k' : Sink} {s : Bytes}

/-- A call that takes bytes takes the first ones. -/
theorem took_of_put {n : Nat} (h : k.put s = (.ok n, k')) : Took k k' (s.take n) := by
  have hpre := List.prefix_iff_eq_take.1 (k.share_isPrefix s)
  rw [put] at h
  split at h
  · cases h
  · rename_i b taken hshare
    cases h
    rw [hshare, List.length_cons] at hpre
    rw [← hpre]
    exact ⟨by simp [written], rfl, rfl, rfl⟩

theorem eq_of_put_error {e : Fault} (h : k.put s = (.error e, k')) : k' = k := by
  rw [put] at h
  split at h <;> cases h
  rfl

/-- A sink that takes everything takes something in each call. -/
theorem put_ne_error (ha : k.Accepts) (hs : s ≠ []) (e : Fault) : k.put s ≠ (.error e, k') := by
  have hshare : k.share s ≠ [] := by
    rw [share, ha.room]
    show clip k.perCall s ≠ []
    exact clip_ne_nil ha.perCall hs
  intro h
  rw [put] at h
  split at h
  · exact hshare ‹_›
  · cases h

/-! ### Many calls -/

/-- Offering the bytes `s` to the sink `k` ends like this: a beginning of them has been taken, all
of them if it succeeds, and it succeeds if the sink takes everything. -/
structure Offered (k : Sink) (s : Bytes) (r : Except Fault Unit × Sink) : Prop where
  some_taken : ∃ t, Took k r.2 t ∧ t <+: s
  all_taken : r.1 = .ok () → Took k r.2 s
  succeeds : k.Accepts → r.1 = .ok ()

theorem offered_done (k : Sink) : Offered k [] (.ok (), k) :=
  ⟨⟨[], .refl k, List.nil_prefix⟩, fun _ => .refl k, fun _ => rfl⟩

theorem offered_flush (k : Sink) : Offered k [] k.flush := by
  cases hf : k.flushFault with
  | none =>
    have hflush : k.flush = (.ok (), { k with flushed := true }) := by rw [flush, hf]
    have htook : Took k { k with flushed := true } [] :=
      ⟨(List.append_nil _).symm, rfl, (Took.refl k).room, rfl⟩
    rw [hflush]
    exact ⟨⟨[], htook, List.nil_prefix⟩, fun _ => htook, fun _ => rfl⟩
  | some e =>
    rw [flush, hf]
    refine ⟨⟨[], .refl k, List.nil_prefix⟩, by rintro ⟨⟩, fun ha => ?_⟩
    cases hf.symm.trans ha.flushFault

/-- One thing is offered after another. -/
theorem offered_andThen {t : Bytes} {r : Except Fault Unit × Sink}
    {next : Sink → Except Fault Unit × Sink} (h : Offered k s r)
    (hnext : ∀ k', Offered k' t (next k')) : Offered k (s ++ t) (andThen r next) := by
  obtain ⟨e | u, k'⟩ := r
  · obtain ⟨u, hu, hpre⟩ := h.some_taken
    refine ⟨⟨u, hu, hpre.trans (List.prefix_append s t)⟩, by rintro ⟨⟩, fun ha => ?_⟩
    cases h.succeeds ha
  · have hs : Took k k' s := h.all_taken rfl
    obtain ⟨⟨u, hu, hpre⟩, hall, hok⟩ := hnext k'
    exact ⟨⟨s ++ u, hs.trans hu, (List.prefix_append_right_inj s).2 hpre⟩,
      fun hr => hs.trans (hall hr), fun ha => hok (hs.accepts ha)⟩

theorem offered_putAll (k : Sink) (s : Bytes) : Offered k s (k.putAll s) := by
  -- Every call that does not fail takes something, so less is left for the next one.
  induction hn : s.length using Nat.strongRecOn generalizing k s with
  | ind n ih =>
    rw [putAll]
    by_cases hs : s = []
    · rw [dif_pos hs, hs]
      exact offered_done k
    · rw [dif_neg hs]
      split
      · rename_i e k' hput
        have hk := eq_of_put_error hput
        rw [hk]
        refine ⟨⟨[], .refl k, List.nil_prefix⟩, by rintro ⟨⟩, fun ha => ?_⟩
        exact absurd hput (put_ne_error ha hs e)
      · rename_i m k' hput
        have htook := took_of_put hput
        have hm := put_pos hput
        have hlen : (s.drop m).length < n := by
          have := List.length_pos_iff.2 hs
          rw [List.length_drop]
          omega
        obtain ⟨⟨u, hu, hpre⟩, hall, hok⟩ := ih _ hlen k' (s.drop m) rfl
        refine ⟨⟨s.take m ++ u, htook.trans hu, ?_⟩, fun hr => ?_, fun ha => hok (htook.accepts ha)⟩
        · have happ := (List.prefix_append_right_inj (s.take m)).2 hpre
          rwa [List.take_append_drop] at happ
        · have happ := htook.trans (hall hr)
          rwa [List.take_append_drop] at happ

theorem offered_copy (k : Sink) (parts : List Bytes) :
    Offered k parts.flatten (k.copy parts) := by
  induction parts generalizing k with
  | nil => exact offered_flush k
  | cons piece parts ih =>
    have hpiece := offered_andThen (offered_putAll k piece) offered_flush
    rw [List.append_nil] at hpiece
    exact offered_andThen hpiece ih

theorem offered_putBody (k : Sink) (body : Body) : Offered k body.all (k.putBody body) := by
  cases body with
  | empty => exact offered_done k
  | bytes s => exact offered_putAll k s
  | file content position =>
    have h := offered_copy k (pieces copySize (content.bytesFrom position))
    rwa [flatten_pieces] at h

end Sink

/-- **Writing a response** leaves a beginning of it in the sink, and all of it if the sink takes
everything. -/
theorem Response.offered_write (r : Response) (date : Text) (k : Sink) :
    Sink.Offered k (r.bytes date) (r.write date k) := by
  have hbody := fun k => Sink.offered_andThen (Sink.offered_putBody k r.body) Sink.offered_flush
  simp only [List.append_nil] at hbody
  exact Sink.offered_andThen (Sink.offered_putAll k (r.head date)) hbody

end HttpServer
