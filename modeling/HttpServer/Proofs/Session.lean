import HttpServer.Connection
import HttpServer.Proofs.Request.Arrival
import HttpServer.Proofs.Response.Sink

/-!
# One session, one response

A connection that comes to its end has read one request, called the handler at most once, and
written at most one response. Which of these it does depends on the reading alone: a request is
handed to the handler, an error is answered with a rejection, and a client that closes without a
word gets no answer (`Connection.history_of_read`).

## Main definitions

* `Connection.states`, `Connection.calls`: the states of a connection in turn, and the requests with
  which it calls the handler.
* `Service.answer?`: the response to what has been read.
* `Connection.offered`: the bytes that the peer is to get.

## Main results

* `Connection.closed_run_iff`: when a connection comes to its end.
* `Connection.reply_of_read`: what a client receives who takes everything.
* `Connection.run_exchange`: the whole course of a connection.
-/

namespace HttpServer

/-- The response to what has been read, if there is one. -/
def Service.answer? (s : Service) (w : World) : Except RequestError Request → Option Response
  | .ok request =>
    match s.handler w request with
    | .ok response => some response
    | .error failure =>
      some (.error w.output .internalServerError
        ("SERVER INTERNAL ERROR: serve() failed: ".toList ++ failure.message))
  | .error e =>
    match e with
    | .closed | .abandoned => none
    | .missingMethod | .missingTarget | .decode _ =>
      some (.error w.output .badRequest ("BAD REQUEST: ".toList ++ e.message))
    | .timedOut _ | .io _ =>
      some (.error w.output .internalServerError ("SERVER INTERNAL ERROR: ".toList ++ e.message))

theorem Service.answer?_eq_none_iff {s : Service} {w : World}
    {parsed : Except RequestError Request} :
    s.answer? w parsed = none ↔ parsed = .error .closed ∨ parsed = .error .abandoned := by
  rcases parsed with e | request
  · cases e <;> simp [answer?]
  · rw [answer?]
    cases s.handler w request <;> simp

theorem Response.bytes_ne_nil (r : Response) (date : Text) : r.bytes date ≠ [] := by
  have htext : r.headText date ≠ [] := List.append_ne_nil_of_right_ne_nil _ (by decide)
  exact List.append_ne_nil_of_left_ne_nil (Utf8.encode_ne_nil htext) _

namespace Connection

/-- The request that is handed to the handler in this state. -/
def State.request? : State → Option Request
  | dispatching request => some request
  | _ => none

/-- The states of a connection, one after another. -/
def states (s : Service) (w : World) (c : Connection) : List State :=
  (c.history s w).map state

/-- The requests with which the handler is called, one after another. -/
def calls (s : Service) (w : World) (c : Connection) : List Request :=
  (c.states s w).filterMap State.request?

variable {s : Service} {w : World}

/-! ### The course of a connection -/

theorem history_of_step?_eq_none {c : Connection} (h : c.step? s w = none) :
    c.history s w = [c] := by
  rw [history]
  split
  · rfl
  · rename_i c' hc
    cases h.symm.trans hc

theorem history_of_step? {c c' : Connection} (h : c.step? s w = some c') :
    c.history s w = c :: c'.history s w := by
  rw [history]
  split
  · rename_i hc
    cases h.symm.trans hc
  · rename_i c'' hc
    obtain rfl : c' = c'' := Option.some.inj (h.symm.trans hc)
    rfl

/-- The first connection of a history is the one that makes the steps. -/
theorem getElem?_history_zero (c : Connection) : (c.history s w)[0]? = some c := by
  cases h : c.step? s w with
  | none => rw [history_of_step?_eq_none h]; rfl
  | some c' => rw [history_of_step? h]; rfl

/-- In a history every step that is possible follows. -/
theorem getElem?_history_succ {c c' c'' : Connection} {k : Nat}
    (h : (c.history s w)[k]? = some c') (hstep : c'.step? s w = some c'') :
    (c.history s w)[k + 1]? = some c'' := by
  induction k generalizing c with
  | zero =>
    obtain rfl : c = c' := Option.some.inj ((getElem?_history_zero c).symm.trans h)
    rw [history_of_step? hstep]
    exact getElem?_history_zero c''
  | succ k ih =>
    cases hc : c.step? s w with
    | none =>
      rw [history_of_step?_eq_none hc] at h
      cases h
    | some d =>
      rw [history_of_step? hc] at h ⊢
      exact ih h

/-- Every connection of a history comes to the same end. -/
theorem run_of_mem_history {c c' : Connection} (h : c' ∈ c.history s w) :
    c'.run s w = c.run s w := by
  induction c using history.induct s w with
  | case1 c hc =>
    rw [history_of_step?_eq_none hc] at h
    rw [List.mem_singleton.1 h]
  | case2 c d hd ih =>
    rw [history_of_step? hd] at h
    rcases List.mem_cons.1 h with rfl | h
    · rfl
    · rw [ih h, run_of_step? hd]

/-- No step takes back what was written. -/
theorem written_prefix_of_step? {c c' : Connection} (h : c.step? s w = some c') :
    c.sink.written <+: c'.sink.written := by
  rw [step?] at h
  split at h
  · split at h <;> cases h <;> exact List.prefix_rfl
  · cases h
    exact List.prefix_rfl
  · rename_i response _
    cases h
    obtain ⟨t, ht, -⟩ := (response.offered_write w.date c.sink).some_taken
    exact ⟨t, ht.written.symm⟩
  · cases h

theorem written_prefix_run (c : Connection) : c.sink.written <+: (c.run s w).sink.written := by
  induction c using history.induct s w with
  | case1 c hc => simp only [run_of_step?_eq_none hc, List.prefix_refl]
  | case2 c d hd ih =>
    rw [run_of_step? hd]
    exact (written_prefix_of_step? hd).trans ih

variable {i j : Input}

theorem history_closed (i : Input) (k : Sink) :
    history s w ⟨.closed, i, k⟩ = [⟨.closed, i, k⟩] :=
  history_of_step?_eq_none rfl

theorem history_writing (r : Response) (i : Input) (k : Sink) :
    history s w ⟨.writing r, i, k⟩ =
      [⟨.writing r, i, k⟩, ⟨.closed, i, (r.write w.date k).2⟩] := by
  have hstep : step? s w ⟨.writing r, i, k⟩ = some ⟨.closed, i, (r.write w.date k).2⟩ := rfl
  rw [history_of_step? hstep, history_closed]

/-- A read that does not end leaves everything as it is. -/
theorem history_of_abandoned (h : Request.read s.deadlines i = (.error .abandoned, j))
    (k : Sink) : history s w { input := i, sink := k } = [⟨.reading, i, k⟩] := by
  have hread : step? s w { input := i, sink := k } = none := by
    rw [step?, h]
  exact history_of_step?_eq_none hread

/-- What becomes of the sink when a response is written, if there is one. -/
def sinkAfter (date : Text) (answer : Option Response) (k : Sink) : Sink :=
  match answer with
  | none => k
  | some r => (r.write date k).2

/-- **The course of a connection** whose read ends: the request is dispatched, if one was read, and
the response is written, if there is one. -/
theorem history_of_read {parsed : Except RequestError Request}
    (h : Request.read s.deadlines i = (parsed, j)) (ha : parsed ≠ .error .abandoned) (k : Sink) :
    history s w { input := i, sink := k } =
      ⟨.reading, i, k⟩ :: (parsed.toOption.toList.map (fun q => ⟨.dispatching q, j, k⟩) ++
        (s.answer? w parsed).toList.map (fun r => ⟨.writing r, j, k⟩) ++
        [⟨.closed, j, sinkAfter w.date (s.answer? w parsed) k⟩]) := by
  rcases parsed with e | request
  · by_cases hc : e = .closed
    · rw [hc] at h ⊢
      have hread : step? s w { input := i, sink := k } = some ⟨.closed, j, k⟩ := by
        rw [step?, h]
      rw [history_of_step? hread, history_closed]
      rfl
    · have hread : step? s w { input := i, sink := k } =
          some ⟨.writing (e.response w.output), j, k⟩ := by
        rw [step?, h]
        cases e <;> first | rfl | exact absurd rfl hc | exact absurd rfl ha
      have hanswer : s.answer? w (.error e) = some (e.response w.output) := by
        cases e <;> first | rfl | exact absurd rfl hc | exact absurd rfl ha
      rw [history_of_step? hread, history_writing, hanswer]
      rfl
  · have hread : step? s w { input := i, sink := k } = some ⟨.dispatching request, j, k⟩ := by
      rw [step?, h]
    have hserve : step? s w ⟨.dispatching request, j, k⟩ =
        some ⟨.writing (s.handler.respond w request), j, k⟩ := rfl
    have hanswer : s.answer? w (.ok request) = some (s.handler.respond w request) := by
      rw [Service.answer?, Handler.respond]
      cases s.handler w request <;> rfl
    rw [history_of_step? hread, history_of_step? hserve, history_writing, hanswer]
    rfl

/-- A connection has come to the last connection of its history. -/
theorem run_of_history {c last : Connection} (before : List Connection)
    (h : c.history s w = before ++ [last]) : c.run s w = last := by
  simp only [run, h, List.getLast_append_singleton]

/-- The handler is called where a request is dispatched, and nowhere else. -/
theorem calls_of_states {c : Connection} {requests : List Request} {answer : Option Response}
    (h : c.states s w = .reading ::
      (requests.map State.dispatching ++ answer.toList.map State.writing ++ [.closed])) :
    c.calls s w = requests := by
  have hdispatching : (requests.map State.dispatching).filterMap State.request? = requests := by
    rw [List.filterMap_map]
    exact List.filterMap_some
  have hwriting : (answer.toList.map State.writing).filterMap State.request? = [] := by
    cases answer <;> rfl
  rw [calls, h, List.filterMap_cons_none rfl, List.filterMap_append, List.filterMap_append,
    hdispatching, hwriting]
  simp [State.request?]

/-- A connection comes to its end unless its read does not. -/
theorem closed_run_iff (k : Sink) :
    (run s w { input := i, sink := k }).state = .closed ↔
      (Request.read s.deadlines i).1 ≠ .error .abandoned := by
  have hread : Request.read s.deadlines i =
    ((Request.read s.deadlines i).1, (Request.read s.deadlines i).2) := rfl
  by_cases ha : (Request.read s.deadlines i).1 = .error .abandoned
  · rw [ha] at hread
    rw [run_of_history [] (history_of_abandoned hread k)]
    exact iff_of_false (by rintro ⟨⟩) fun h => h ha
  · have hhist := history_of_read (w := w) hread ha k
    rw [← List.cons_append] at hhist
    rw [run_of_history _ hhist]
    exact iff_of_true rfl ha

/-! ### What the peer gets -/

/-- The bytes of a response, if there is one. -/
def offered (date : Text) (answer : Option Response) : Bytes :=
  match answer with
  | none => []
  | some r => r.bytes date

theorem offered_eq_nil_iff {date : Text} {answer : Option Response} :
    offered date answer = [] ↔ answer = none := by
  cases answer with
  | none => exact iff_of_true rfl rfl
  | some r => exact iff_of_false (r.bytes_ne_nil date) (by rintro ⟨⟩)

/-- The peer gets a beginning of the response, and all of it if it takes everything. -/
theorem exists_written_sinkAfter (date : Text) (answer : Option Response) (k : Sink) :
    ∃ t, (sinkAfter date answer k).written = k.written ++ t ∧ t <+: offered date answer ∧
      (k.Accepts → t = offered date answer) := by
  cases answer with
  | none => exact ⟨[], (List.append_nil _).symm, List.nil_prefix, fun _ => rfl⟩
  | some r =>
    obtain ⟨⟨t, ht, hpre⟩, hall, hok⟩ := r.offered_write date k
    refine ⟨t, ht.written, hpre, fun ha => ?_⟩
    have hw := (hall (hok ha)).written
    rw [ht.written] at hw
    exact List.append_cancel_left hw

/-- **What a client receives** is the response to what was read, if there is one. -/
theorem reply_of_read {parsed : Except RequestError Request}
    (h : Request.read s.deadlines i = (parsed, j)) (ha : parsed ≠ .error .abandoned) :
    s.reply w i = offered w.date (s.answer? w parsed) := by
  have hhist := history_of_read (w := w) h ha {}
  rw [← List.cons_append] at hhist
  obtain ⟨t, ht, -, hall⟩ := exists_written_sinkAfter w.date (s.answer? w parsed) {}
  have haccepts : Sink.Accepts {} := ⟨by rintro ⟨⟩, rfl, rfl⟩
  rw [Service.reply, run_of_history _ hhist, ht, hall haccepts]
  rfl

/-! ### The whole exchange -/

/-- **One session, one response.** A connection comes to its end unless its read does not. It has
then been reading once, has called the handler with the request that was read and only with it, and
has written the response to what was read and nothing else: that of the handler, or the failure of
the handler, or a rejection, which blames the client exactly if the request was malformed. The peer
gets a beginning of that response, and all of it if it takes everything. Nothing at all is offered
to a client exactly if it closes before its first byte, and that is if its input ends without a byte
and without a failure before any limit has passed. -/
theorem run_exchange (s : Service) (w : World) (i : Input) (k : Sink) :
    let c : Connection := { input := i, sink := k }
    let parsed := (Request.read s.deadlines i).1
    let answer := s.answer? w parsed
    ((c.run s w).state = .closed ↔ parsed ≠ .error .abandoned) ∧
    ((c.run s w).state ≠ .closed → c.history s w = [c]) ∧
    ((c.run s w).state = .closed →
      c.calls s w = parsed.toOption.toList ∧
      c.states s w = .reading :: (parsed.toOption.toList.map State.dispatching ++
        answer.toList.map State.writing ++ [.closed]) ∧
      (∃ t, (c.run s w).sink.written = k.written ++ t ∧ t <+: offered w.date answer ∧
        (k.Accepts → t = offered w.date answer)) ∧
      (offered w.date answer = [] ↔ parsed = .error .closed) ∧
      (parsed = .error .closed ↔ i.Smooth ∧ i.unread = [] ∧ i.span ≤ s.deadlines.head ∧
        (∀ limit, s.deadlines.idle = some limit → i.span ≤ limit) ∧
        ∀ limit, s.deadlines.patience = some limit → i.span ≤ limit)) := by
  intro c parsed answer
  have hread : Request.read s.deadlines i = (parsed, (Request.read s.deadlines i).2) := rfl
  by_cases ha : parsed = .error .abandoned
  · rw [ha] at hread
    have hhist : c.history s w = [c] := history_of_abandoned hread k
    have hrun : c.run s w = c := run_of_history [] hhist
    rw [hrun]
    exact ⟨iff_of_false (by rintro ⟨⟩) fun h => h ha, fun _ => hhist, by rintro ⟨⟩⟩
  · have hhist := history_of_read (w := w) hread ha k
    have hstates : c.states s w = .reading :: (parsed.toOption.toList.map State.dispatching ++
        answer.toList.map State.writing ++ [.closed]) := by
      rw [states, hhist]
      simp [answer, Function.comp_def]
    have hanswer : answer = none ↔ parsed = .error .closed :=
      Service.answer?_eq_none_iff.trans (or_iff_left ha)
    rw [← List.cons_append] at hhist
    rw [run_of_history _ hhist]
    exact ⟨iff_of_true rfl ha, fun h => absurd rfl h, fun _ => ⟨calls_of_states hstates, hstates,
      exists_written_sinkAfter w.date answer k, offered_eq_nil_iff.trans hanswer,
      Request.read_eq_closed_iff s.deadlines i⟩⟩

end Connection

end HttpServer
