import HttpServer.Proofs.Response.Sink

/-!
# A sink with little room

What a sink has taken when a response has been written does not depend on how many bytes it takes in
one call, only on the room that is left: the sink is filled with as much of the response as there is
room for. If that is all of it, the writing succeeds, and otherwise it fails as the full sink does.
Both are kept by offering one thing after another (`Sink.fills_andThen`), because the room that is
left behind the first bytes is what is filled with the next ones (`Sink.clip_append`).

A flush can fail on its own. It comes after everything else, unless a file is copied, so then it
decides how the writing ends just if all bytes have been taken.

## Main definitions

* `Sink.Fits`: bytes for which there is room.
* `Sink.Fills`: what offering some bytes to a sink of any room comes to.

## Main results

* `Sink.fills_putAll`, `Sink.fills_putBody`: many calls, whatever each of them takes.
* `Response.write_fills`: a whole response.
-/

namespace HttpServer

namespace Sink

variable {k k' : Sink} {s t : Bytes}

/-! ### Room -/

/-- There is room for the bytes. -/
def Fits (k : Sink) (s : Bytes) : Prop :=
  ∀ n ∈ k.room, s.length ≤ n

instance (k : Sink) (s : Bytes) : Decidable (k.Fits s) :=
  inferInstanceAs (Decidable (∀ n ∈ k.room, s.length ≤ n))

theorem fits_nil (k : Sink) : k.Fits [] := fun n _ => Nat.zero_le n

/-- Bytes for which there is room are taken whole. -/
theorem clip_of_fits (h : k.Fits s) : clip k.room s = s := by
  cases hr : k.room with
  | none => rfl
  | some n => exact List.take_of_length_le (h n hr)

theorem not_fits_iff : ¬k.Fits s ↔ ∃ n, k.room = some n ∧ n < s.length := by
  simp [Fits]

/-- The room behind some bytes is filled with those that follow them. -/
theorem clip_append (h : k.Fits s) (htook : Took k k' s) (t : Bytes) :
    clip k.room (s ++ t) = s ++ clip k'.room t := by
  rw [htook.room]
  cases hr : k.room with
  | none => rfl
  | some n =>
    show (s ++ t).take n = s ++ t.take (n - s.length)
    rw [List.take_append, List.take_of_length_le (h n hr)]

theorem fits_append_iff (h : k.Fits s) (htook : Took k k' s) {t : Bytes} :
    k.Fits (s ++ t) ↔ k'.Fits t := by
  rw [Fits, Fits, htook.room]
  cases hr : k.room with
  | none => simp
  | some n =>
    have hn := h n hr
    simp only [Option.mem_def, Option.some.injEq, Option.map_some, forall_eq', List.length_append]
    omega

/-- Where the room is too small already, what follows makes no difference. -/
theorem clip_append_of_not_fits (h : ¬k.Fits s) (t : Bytes) :
    clip k.room (s ++ t) = clip k.room s ∧ ¬k.Fits (s ++ t) := by
  obtain ⟨n, hr, hn⟩ := not_fits_iff.1 h
  refine ⟨?_, not_fits_iff.2 ⟨n, hr, ?_⟩⟩
  · rw [hr]
    exact List.take_append_of_le_length (Nat.le_of_lt hn)
  · rw [List.length_append]
    omega

/-! ### One call -/

/-- A call fails only if there is no room left, and then as the full sink does. -/
theorem room_of_put_error (hper : k.perCall ≠ some 0) (hs : s ≠ []) {e : Fault}
    (h : k.put s = (.error e, k')) : k.room = some 0 ∧ e = k.whenFull := by
  have hclip : clip k.perCall s ≠ [] := clip_ne_nil hper hs
  rw [put] at h
  split at h
  · rename_i hshare
    refine ⟨?_, (Except.error.inj (Prod.mk.inj h).1).symm⟩
    cases hr : k.room with
    | none =>
      rw [share, hr] at hshare
      exact absurd hshare hclip
    | some n =>
      rw [share, hr] at hshare
      rw [(List.take_eq_nil_iff.1 hshare).resolve_right hclip]
  · cases h

/-- A call takes only what there is room for. -/
theorem fits_of_put {n : Nat} (h : k.put s = (.ok n, k')) : k.Fits (s.take n) := by
  have hpre := List.prefix_iff_eq_take.1 (k.share_isPrefix s)
  intro m hm
  rw [put] at h
  split at h
  · cases h
  · rename_i b taken hshare
    cases h
    have hlen : (k.share s).length ≤ m := by
      rw [share, hm]
      exact List.length_take_le m _
    rw [hshare, List.length_cons] at hpre hlen
    rwa [← hpre, List.length_cons]

/-- A call changes neither how the sink fails when it is full nor whether it has been flushed. -/
theorem kept_of_put {r : Except Fault Nat} (h : k.put s = (r, k')) :
    k'.whenFull = k.whenFull ∧ k'.flushed = k.flushed := by
  rw [put] at h
  split at h <;> cases h <;> exact ⟨rfl, rfl⟩

/-! ### Many calls -/

/-- Offering the bytes `s` to the sink `k` fills it: as many of them are taken as there is room for.
If these are all it succeeds, and otherwise it fails as the full sink does. -/
structure Fills (k : Sink) (s : Bytes) (r : Except Fault Unit × Sink) : Prop where
  took : Took k r.2 (clip k.room s)
  /-- A full sink fails as before. -/
  whenFull : r.2.whenFull = k.whenFull
  result : r.1 = if k.Fits s then .ok () else .error k.whenFull

theorem fills_done (k : Sink) : Fills k [] (.ok (), k) where
  took := by
    rw [clip_of_fits k.fits_nil]
    exact .refl k
  whenFull := rfl
  result := (if_pos k.fits_nil).symm

/-- The sink has taken some bytes and is filled with the next ones. -/
theorem Fills.after {r : Except Fault Unit × Sink} (htook : Took k k' s) (hfits : k.Fits s)
    (hfull : k'.whenFull = k.whenFull) (h : Fills k' t r) : Fills k (s ++ t) r where
  took := by
    rw [clip_append hfits htook]
    exact htook.trans h.took
  whenFull := h.whenFull.trans hfull
  result := by
    simp only [h.result, hfull, fits_append_iff hfits htook]

/-- One thing is offered after another. -/
theorem fills_andThen {r : Except Fault Unit × Sink} {next : Sink → Except Fault Unit × Sink}
    (h : Fills k s r)
    (hnext : ∀ k', k'.perCall = k.perCall → k'.flushFault = k.flushFault → Fills k' t (next k')) :
    Fills k (s ++ t) (andThen r next) := by
  obtain ⟨result, k'⟩ := r
  obtain ⟨htook, hfull, hresult⟩ := h
  obtain rfl : result = if k.Fits s then .ok () else .error k.whenFull := hresult
  by_cases hfits : k.Fits s
  · rw [clip_of_fits hfits] at htook
    rw [if_pos hfits]
    exact .after htook hfits hfull (hnext k' htook.perCall htook.flushFault)
  · obtain ⟨hclip, hmore⟩ := clip_append_of_not_fits hfits t
    rw [if_neg hfits]
    refine ⟨?_, hfull, (if_neg hmore).symm⟩
    rwa [hclip]

/-- Many calls fill the sink, however little each of them takes. -/
theorem fills_putAll (hper : k.perCall ≠ some 0) (s : Bytes) : Fills k s (k.putAll s) := by
  -- Every call that does not fail takes something, so less is left for the next one.
  induction hn : s.length using Nat.strongRecOn generalizing k s with
  | ind n ih =>
    rw [putAll]
    by_cases hs : s = []
    · rw [dif_pos hs, hs]
      exact fills_done k
    · rw [dif_neg hs]
      split
      · rename_i e k' hput
        obtain ⟨hroom, rfl⟩ := room_of_put_error hper hs hput
        rw [eq_of_put_error hput]
        have hnot : ¬k.Fits s := not_fits_iff.2 ⟨0, hroom, List.length_pos_iff.2 hs⟩
        refine ⟨?_, rfl, (if_neg hnot).symm⟩
        rw [hroom]
        exact .refl k
      · rename_i m k' hput
        have htook := took_of_put hput
        have hlen : (s.drop m).length < n := by
          have hm := put_pos hput
          have := List.length_pos_iff.2 hs
          rw [List.length_drop]
          omega
        have hrest := ih _ hlen (k := k') (by rwa [htook.perCall]) (s.drop m) rfl
        have hall := hrest.after htook (fits_of_put hput) (kept_of_put hput).1
        rwa [List.take_append_drop] at hall

theorem fills_flush (hflush : k.flushFault = none) : Fills k [] k.flush := by
  have heq : k.flush = (.ok (), { k with flushed := true }) := by rw [flush, hflush]
  rw [heq]
  refine ⟨?_, rfl, (if_pos k.fits_nil).symm⟩
  rw [clip_of_fits k.fits_nil]
  exact ⟨(List.append_nil _).symm, rfl, (Took.refl k).room, rfl⟩

/-- So does copying a file, if it can be flushed between the pieces. -/
theorem fills_copy (hper : k.perCall ≠ some 0) (hflush : k.flushFault = none)
    (parts : List Bytes) : Fills k parts.flatten (k.copy parts) := by
  induction parts generalizing k with
  | nil => exact fills_flush hflush
  | cons piece parts ih =>
    have hpiece : Fills k piece (andThen (k.putAll piece) flush) := by
      have h := fills_andThen (fills_putAll hper piece) fun k' _ hf =>
        fills_flush (hf.trans hflush)
      rwa [List.append_nil] at h
    exact fills_andThen hpiece fun k' hp hf => ih (by rwa [hp]) (hf.trans hflush)

theorem fills_putBody (hper : k.perCall ≠ some 0) {body : Body}
    (hbody : body.isFile = true → k.flushFault = none) : Fills k body.all (k.putBody body) := by
  cases body with
  | empty => exact fills_done k
  | bytes s => exact fills_putAll hper s
  | file content position =>
    have h := fills_copy hper (hbody rfl) (pieces copySize (content.bytesFrom position))
    rwa [flatten_pieces] at h

/-! ### Flushing -/

theorem flushed_putAll (k : Sink) (s : Bytes) : (k.putAll s).2.flushed = k.flushed := by
  fun_induction putAll k s with
  | case1 => rfl
  | case2 k s hs e k' hput => exact (kept_of_put hput).2
  | case3 k s hs n k' hput ih => exact ih.trans (kept_of_put hput).2

/-- A body that is not a file is written without a flush. -/
theorem flushed_putBody (k : Sink) {body : Body} (hbody : body.isFile = false) :
    (k.putBody body).2.flushed = k.flushed := by
  cases body with
  | empty => rfl
  | bytes s => exact flushed_putAll k s
  | file content position => cases hbody

theorem flushed_andThen {r : Except Fault Unit × Sink} {next : Sink → Except Fault Unit × Sink}
    (h : r.2.flushed = k.flushed) (hnext : ∀ k', (next k').2.flushed = k'.flushed) :
    (andThen r next).2.flushed = k.flushed := by
  obtain ⟨e | u, k'⟩ := r
  · exact h
  · exact (hnext k').trans h

theorem andThen_assoc (r : Except Fault Unit × Sink) (f g : Sink → Except Fault Unit × Sink) :
    andThen r (fun k => andThen (f k) g) = andThen (andThen r f) g := by
  obtain ⟨e | u, k⟩ := r <;> rfl

end Sink

/-! ### A whole response -/

namespace Response

open Sink

variable (r : Response) (date : Text) {k : Sink}

/-- The head and the body, before the last flush. -/
def put (k : Sink) : Except Fault Unit × Sink :=
  andThen (k.putAll (r.head date)) fun k => k.putBody r.body

theorem write_eq (k : Sink) : r.write date k = andThen (r.put date k) flush :=
  andThen_assoc _ _ _

theorem fills_put (hper : k.perCall ≠ some 0)
    (hbody : r.body.isFile = true → k.flushFault = none) : Fills k (r.bytes date) (r.put date k) :=
  fills_andThen (fills_putAll hper _) fun k' hp hf =>
    fills_putBody (by rwa [hp]) fun h => hf.trans (hbody h)

/-- **Short writes.** If a flush succeeds, writing a response leaves in the sink as much of it as
there is room for, however little a single call takes, and it succeeds if that is all of it and
otherwise fails as the full sink does. A response whose body is not a file leaves the same in a sink
that cannot be flushed: a flush comes only when all bytes have been taken, and then it decides. -/
theorem write_fills (k : Sink) (hper : k.perCall ≠ some 0) :
    (k.flushFault = none →
      (r.write date k).2.written = k.written ++ clip k.room (r.bytes date) ∧
      (r.write date k).1 = if k.Fits (r.bytes date) then .ok () else .error k.whenFull) ∧
    (r.body.isFile = false → ∃ k' : Sink,
      k'.written = k.written ++ clip k.room (r.bytes date) ∧
      k'.flushFault = k.flushFault ∧ k'.flushed = k.flushed ∧
      r.write date k = if k.Fits (r.bytes date) then k'.flush else (.error k.whenFull, k')) := by
  rw [write_eq]
  constructor
  · intro hflush
    have h := fills_andThen (r.fills_put date hper fun _ => hflush) fun k' _ hf =>
      fills_flush (hf.trans hflush)
    rw [List.append_nil] at h
    exact ⟨h.took.written, h.result⟩
  · intro hbody
    have h := r.fills_put date hper fun hfile => by cases hbody.symm.trans hfile
    have hquiet : (r.put date k).2.flushed = k.flushed :=
      flushed_andThen (flushed_putAll k _) fun k' => flushed_putBody k' hbody
    generalize r.put date k = done at h hquiet
    obtain ⟨result, k'⟩ := done
    obtain rfl : result = if k.Fits (r.bytes date) then .ok () else .error k.whenFull := h.result
    refine ⟨k', h.took.written, h.took.flushFault, hquiet, ?_⟩
    split <;> rfl

/-- There is room for all of a response but one byte, or for just all of it. In the second case the
sink cannot be flushed. -/
theorem write_fills_exactly :
    let r : Response := ⟨.ok, some "text/plain".toList, [], .bytes (Utf8.encode "hello".toList)⟩
    let date := "Tue, 08 Nov 1994 08:49:37 GMT".toList
    let small : Sink := { perCall := some 3, room := some ((r.bytes date).length - 1) }
    let whole : Sink :=
      { perCall := some 3, room := some (r.bytes date).length, flushFault := some .other }
    small.perCall ≠ some 0 ∧ whole.perCall ≠ some 0 ∧ r.body.isFile = false ∧
      (r.write date small).2.written = (r.bytes date).dropLast ∧
      (r.write date small).1 = .error .brokenPipe ∧
      (r.write date whole).2.written = r.bytes date ∧ (r.write date whole).1 = .error .other := by
  intro r date small whole
  have hlen : (r.bytes date).length - 1 < (r.bytes date).length := by decide +kernel
  have hfull : ¬small.Fits (r.bytes date) := not_fits_iff.2 ⟨_, rfl, hlen⟩
  have hfits : whole.Fits (r.bytes date) := fun n hn => Nat.le_of_eq (Option.some.inj hn)
  obtain ⟨hwritten, hresult⟩ := (write_fills r date small (by decide)).1 rfl
  obtain ⟨k', hwritten', hfault, -, heq⟩ := (write_fills r date whole (by decide)).2 rfl
  rw [clip_of_fits hfits] at hwritten'
  rw [if_pos hfits, Sink.flush, hfault] at heq
  refine ⟨by decide, by decide, rfl, ?_, hresult.trans (if_neg hfull), ?_, by rw [heq]⟩
  · rw [List.dropLast_eq_take]
    exact hwritten
  · rw [heq]
    exact hwritten'

end Response

end HttpServer
