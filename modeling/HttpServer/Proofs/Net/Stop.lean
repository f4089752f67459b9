import HttpServer.Handler
import HttpServer.Proofs.Net.Server

/-!
# Stopping a server

When a server is told to stop, its accept loop may be past the point where it looks for the signal,
and then it still accepts one connection, but it looks again before the next one. Once the loop has
ended nothing starts it again, so the sessions are those that there were. The signal says nothing to
them: with all that was done to stop the server taken out of a run, the rest is still a run, and the
sessions come out of it the same. Only the accept loop takes another course, and where the server
was stopped it takes none.

## Main definitions

* `Server.Unstopped`: a server beside one on which only the stopping has been left out.

## Main results

* `Server.accepted_le_of_run?`: one more connection at most.
* `Server.returned_of_run?`: nothing starts again.
* `Server.exists_unstopped_of_run?`: a run without the stopping.
* `Server.stop_attempt_termination`: stopping comes to its end.
* `Server.run_any_order`: what holds in every run.
-/

namespace HttpServer

namespace Server

variable {w : World} {s s' t : Server}

/-! ### After the signal -/

/-- How many more connections the accept loop may accept before it looks for the signal. -/
def Loop.allowance : Loop → Nat
  | .accepting => 1
  | _ => 0

/-- After the signal no action adds to what is accepted and what may still be. -/
theorem accepted_le_of_step {a : Action} (h : s.stop ≠ .idle) (hs : Step w s a s') :
    s'.stop ≠ .idle ∧
      s'.accepted.length + s'.loop.allowance ≤ s.accepted.length + s.loop.allowance := by
  cases hs with
  | look hloop hstop | lookAgain hloop hstop | fail hloop hstop | stop hstop =>
    exact absurd hstop h
  | arrive _ _ _ | session _ | stopAgain _ => exact ⟨h, Nat.le_refl _⟩
  | lookLast _ _ | failLast _ _ | acceptNone _ _ | resume _ | hand _ =>
    exact ⟨h, Nat.add_le_add_left (Nat.zero_le _) _⟩
  | accept hloop _ =>
    refine ⟨h, ?_⟩
    rw [hloop, List.length_append]
    exact Nat.le_refl _
  | join _ _ => exact ⟨nofun, Nat.le_refl _⟩

/-- **At most one more connection** is accepted after the signal. -/
theorem accepted_le_of_run? {actions : List Action} (h : s.stop ≠ .idle)
    (hs : run? w s actions = some s') : s'.accepted.length ≤ s.accepted.length + 1 := by
  have hbound : s.loop.allowance ≤ 1 := by
    cases s.loop <;> simp [Loop.allowance]
  have hkept := run?_induction (P := fun s' => s'.stop ≠ .idle ∧
      s'.accepted.length + s'.loop.allowance ≤ s.accepted.length + s.loop.allowance)
    (fun ht hstep =>
      have hle := accepted_le_of_step ht.1 hstep
      ⟨hle.1, hle.2.trans ht.2⟩) ⟨h, Nat.le_refl _⟩ hs
  have hle := hkept.2
  omega

/-- **Nothing starts again** when stopping is over: the listener stays closed, and there are no new
sessions. -/
theorem returned_of_run? {actions : List Action} (hended : s.loop = .ended)
    (hreturned : s.stop = .returned) (hs : run? w s actions = some s') :
    s'.loop = .ended ∧ s'.stop = .returned ∧ s'.accepted = s.accepted ∧
      s'.sessions.map Prod.fst = s.sessions.map Prod.fst := by
  refine run?_induction (P := fun s' => s'.loop = .ended ∧ s'.stop = .returned ∧
      s'.accepted = s.accepted ∧ s'.sessions.map Prod.fst = s.sessions.map Prod.fst) ?_
    ⟨hended, hreturned, rfl, rfl⟩ hs
  intro u u' a ⟨hloop, hstop, haccepted, hsessions⟩ hstep
  cases hstep with
  | arrive _ hopen _ => exact absurd hloop hopen
  | session hsession =>
    exact ⟨hloop, hstop, haccepted, (map_fst_stepSession? hsession).trans hsessions⟩
  | stopAgain _ => exact ⟨hloop, hstop, haccepted, hsessions⟩
  | lookLast hother _ =>
    rcases hother with hother | hother <;> cases hloop.symm.trans hother
  | look hother _ | lookAgain hother _ | accept hother _ | acceptNone hother _ | fail hother _
  | failLast hother _ | resume hother | hand hother => cases hloop.symm.trans hother
  | stop hother | join hother _ => cases hstop.symm.trans hother

/-- **Stopping comes to its end**, wherever the accept loop stands when it begins. -/
theorem stop_attempt_termination (w : World) (s : Server) :
    (s.attempt w termination).stop = .returned := by
  obtain ⟨service, loop, waiting, accepted, sessions, stop⟩ := s
  -- The loop looks for the signal after one round at most: that takes a client or it does not.
  cases stop <;> cases loop <;> rcases waiting with _ | ⟨⟨id, c⟩, rest⟩ <;> rfl

/-! ### Without the signal -/

/-- The action has to do with stopping the server. -/
def Action.isStop : Action → Bool
  | .stop | .join => true
  | _ => false

/-- The second server has not been told to stop and is otherwise like the first, unless the accept
loop of that has ended. -/
structure Unstopped (s t : Server) : Prop where
  service_eq : t.service = s.service
  accepted_eq : t.accepted = s.accepted
  sessions_eq : t.sessions = s.sessions
  idle : t.stop = .idle
  loop_eq : s.loop ≠ .ended → t.loop = s.loop ∧ t.waiting = s.waiting

namespace Unstopped

theorem refl (h : s.stop = .idle) : Unstopped s s :=
  ⟨rfl, rfl, rfl, h, fun _ => ⟨rfl, rfl⟩⟩

/-- Where the first server does something, so does the second, unless that has to do with
stopping. -/
theorem step (h : Unstopped s t) {a : Action} (hs : Step w s a s') :
    (a.isStop = true → Unstopped s' t) ∧
      (a.isStop = false → ∃ t', Step w t a t' ∧ Unstopped s' t') := by
  obtain ⟨hservice, haccepted, hsessions, hidle, hsame⟩ := h
  have hloop : ∀ {loop : Loop}, s.loop = loop → loop ≠ .ended → t.loop = loop :=
    fun hl hne => (hsame (hl ▸ hne)).1.trans hl
  have hwaiting : ∀ {loop : Loop}, s.loop = loop → loop ≠ .ended → t.waiting = s.waiting :=
    fun hl hne => (hsame (hl ▸ hne)).2
  cases hs with
  | arrive input hopen hnew =>
    obtain ⟨hl, hw⟩ := hsame hopen
    refine ⟨nofun, fun _ => ⟨_, .arrive input (hl ▸ hopen) (by rwa [haccepted, hw]), hservice,
      haccepted, hsessions, hidle, fun _ => ⟨hl, ?_⟩⟩⟩
    rw [hw]
  | look hl _ =>
    exact ⟨nofun, fun _ => ⟨_, .look (hloop hl nofun) hidle, hservice, haccepted, hsessions, hidle,
      fun _ => ⟨rfl, hwaiting hl nofun⟩⟩⟩
  | lookAgain hl _ =>
    exact ⟨nofun, fun _ => ⟨_, .lookAgain (hloop hl nofun) hidle, hservice, haccepted, hsessions,
      hidle, hsame⟩⟩
  | lookLast hl _ =>
    -- The second server does not see a signal, and goes on or waits on.
    refine ⟨nofun, fun _ => ?_⟩
    rcases hl with hl | hl
    · exact ⟨_, .look (hloop hl nofun) hidle, hservice, haccepted, hsessions, hidle,
        fun hne => absurd rfl hne⟩
    · exact ⟨_, .lookAgain (hloop hl nofun) hidle, hservice, haccepted, hsessions, hidle,
        fun hne => absurd rfl hne⟩
  | accept hl hw =>
    refine ⟨nofun, fun _ => ⟨_, .accept (hloop hl nofun) ((hwaiting hl nofun).trans hw), hservice,
      ?_, hsessions, hidle, fun _ => ⟨rfl, rfl⟩⟩⟩
    rw [haccepted]
  | acceptNone hl hw =>
    exact ⟨nofun, fun _ => ⟨_, .acceptNone (hloop hl nofun) ((hwaiting hl nofun).trans hw),
      hservice, haccepted, hsessions, hidle, fun _ => ⟨rfl, hwaiting hl nofun⟩⟩⟩
  | fail hl _ =>
    exact ⟨nofun, fun _ => ⟨_, .fail (hloop hl nofun) hidle, hservice, haccepted, hsessions, hidle,
      fun _ => ⟨rfl, hwaiting hl nofun⟩⟩⟩
  | failLast hl _ =>
    exact ⟨nofun, fun _ => ⟨_, .fail (hloop hl nofun) hidle, hservice, haccepted, hsessions, hidle,
      fun hne => absurd rfl hne⟩⟩
  | resume hl =>
    exact ⟨nofun, fun _ => ⟨_, .resume (hloop hl nofun), hservice, haccepted, hsessions, hidle,
      fun _ => ⟨rfl, hwaiting hl nofun⟩⟩⟩
  | hand hl =>
    refine ⟨nofun, fun _ => ⟨_, .hand (hloop hl nofun), hservice, haccepted, ?_, hidle,
      fun _ => ⟨rfl, hwaiting hl nofun⟩⟩⟩
    rw [hsessions]
  | session hstep =>
    rw [← hservice, ← hsessions] at hstep
    exact ⟨nofun, fun _ => ⟨_, .session hstep, hservice, haccepted, rfl, hidle, hsame⟩⟩
  | stop _ | stopAgain _ | join _ _ =>
    exact ⟨fun _ => ⟨hservice, haccepted, hsessions, hidle, hsame⟩, nofun⟩

end Unstopped

/-- **A run without the stopping** has the same sessions. -/
theorem exists_unstopped_of_run? {actions : List Action} (h : Unstopped s t)
    (hs : run? w s actions = some s') :
    ∃ t', run? w t (actions.filter fun a => !a.isStop) = some t' ∧ Unstopped s' t' := by
  induction actions generalizing s t with
  | nil => exact ⟨t, rfl, Option.some.inj hs ▸ h⟩
  | cons a actions ih =>
    obtain ⟨u, hu, hs⟩ := Option.bind_eq_some_iff.1 hs
    obtain ⟨hstop, hgo⟩ := h.step (step_of_step? hu)
    cases ha : a.isStop with
    | true =>
      rw [List.filter_cons_of_neg (by simp [ha])]
      exact ih (hstop ha) hs
    | false =>
      obtain ⟨v, hv, huv⟩ := hgo ha
      obtain ⟨t', ht', hend⟩ := ih huv hs
      refine ⟨t', ?_, hend⟩
      rw [List.filter_cons_of_pos (by simp [ha]), run?, step?_of_step hv]
      exact ht'

/-! ### Every run -/

/-- The connection that the accept loop has in its hands can get its session. -/
theorem Sound.exists_hand (h : Sound s) (hhanded : s.loop.handed ≠ []) :
    ∃ t, s.step? w .hand = some t ∧ t.accepted = s.accepted ∧
      t.sessions.map Prod.fst = s.accepted := by
  cases hloop : s.loop with
  | looking | accepting | pausing | ended =>
    rw [hloop] at hhanded
    exact absurd rfl hhanded
  | handing id c =>
    refine ⟨_, step?_of_step (.hand hloop), rfl, ?_⟩
    rw [h.accepted, hloop, List.map_append]
    rfl

/-- A server is running until it is told to stop. -/
theorem Sound.isRunning_iff (h : Sound s) : s.isRunning = true ↔ s.stop = .idle := by
  rw [isRunning, Bool.and_eq_true, isListening_iff, Bool.not_eq_true', ← Bool.not_eq_true,
    isStopping_iff, not_not]
  exact and_iff_right_of_imp fun hidle hended => h.ended hended hidle

/-- A session can make a step exactly when its connection can. -/
theorem isSome_stepSession? {service : Service} {id : Nat} {c : Connection}
    {l : List (Nat × Connection)} (hnodup : (l.map Prod.fst).Nodup) (h : (id, c) ∈ l) :
    (stepSession? service w id l).isSome = (c.step? service w).isSome := by
  induction l with
  | nil => cases h
  | cons p l ih =>
    obtain ⟨n, d⟩ := p
    rw [List.map_cons, List.nodup_cons] at hnodup
    rw [stepSession?]
    rcases List.mem_cons.1 h with heq | hmem
    · cases heq
      rw [if_pos rfl, Option.isSome_map]
    · have hid : id ∈ l.map Prod.fst := List.mem_map_of_mem (f := Prod.fst) hmem
      have hne : n ≠ id := fun heq => hnodup.1 (heq ▸ hid)
      rw [if_neg hne, Option.isSome_map, ih hnodup.2 hmem]

/-- Where a session stands, it stands as a connection that is alone. -/
theorem Traced.session_eq {service : Service} {past : List Action} (h : Traced service w past s)
    {id : Nat} {c : Connection} (hmem : (id, c) ∈ s.sessions) :
    ∃ input, (∀ input', .arrive id input' ∈ past ↔ input' = input) ∧
      (Connection.history service w { input })[past.countP (Action.isStepOf id)]? = some c ∧
      c.sink.written <+: service.reply w input ∧
      (c.step? service w = none → c.sink.written = service.reply w input) := by
  obtain ⟨input, harrive, hcourse⟩ := h.course _ hmem
  have hrun : c.run service w = Connection.run service w { input } :=
    Connection.run_of_mem_history (List.mem_of_getElem? hcourse)
  refine ⟨input, fun input' => ⟨fun hi => h.unique id input' input hi harrive, ?_⟩, hcourse, ?_,
    fun hend => ?_⟩
  · rintro rfl
    exact harrive
  · rw [Service.reply, ← hrun]
    exact Connection.written_prefix_run c
  · rw [Service.reply, ← hrun, Connection.run_of_step?_eq_none hend]

/-- **Whatever the order of events**, every connection that the listener accepted has exactly one
session, or the accept loop is about to start it and can do so. The server is running until it is
told to stop. A session is, with what it has written, where a connection with the same input that is
alone in the world is after as many steps, and can make a step when that can. After the stop signal
at most one more connection is accepted. Once stopping is over the listener is closed, no session
starts any more, and stopping again changes nothing. What is done to stop the server makes no
difference to the sessions: the same run without it leads to the same ones. -/
theorem run_any_order {service : Service} {actions : List Action}
    (h : run? w (start service) actions = some s) :
    (s.accepted.Nodup ∧ s.accepted = s.sessions.map Prod.fst ++ s.loop.handed ∧
      (s.loop.handed ≠ [] → ∃ t, s.step? w .hand = some t ∧
        t.accepted = s.accepted ∧ t.sessions.map Prod.fst = s.accepted)) ∧
    (s.isRunning = true ↔ s.stop = .idle) ∧
    (∀ id c, (id, c) ∈ s.sessions → ∃ input,
      (∀ input', .arrive id input' ∈ actions ↔ input' = input) ∧
      (Connection.history service w { input })[actions.countP (Action.isStepOf id)]? = some c ∧
      c.sink.written <+: service.reply w input ∧
      (c.step? service w = none → c.sink.written = service.reply w input) ∧
      (s.step? w (.session id)).isSome = (c.step? service w).isSome) ∧
    ∀ more s', run? w s more = some s' →
      (s.stop ≠ .idle → s'.accepted.length ≤ s.accepted.length + 1) ∧
      (s.stop = .returned → s'.isListening = false ∧ s'.isRunning = false ∧
        s'.accepted = s.accepted ∧ s'.sessions.map Prod.fst = s.sessions.map Prod.fst ∧
        s'.step? w .stop = some s') ∧
      (s.stop = .idle → ∃ t, run? w s (more.filter fun a => !a.isStop) = some t ∧
        t.stop = .idle ∧ t.sessions = s'.sessions) := by
  have hsound : Sound s := sound_of_run? (sound_start service) h
  have htraced : Traced service w actions s :=
    traced_of_run? (traced_start service w) (sound_start service) h
  refine ⟨⟨hsound.nodup.of_append_left, hsound.accepted, hsound.exists_hand⟩,
    hsound.isRunning_iff, fun id c hmem => ?_, fun more s' hs =>
      ⟨fun hstop => accepted_le_of_run? hstop hs, fun hstop => ?_, fun hstop => ?_⟩⟩
  · obtain ⟨input, harrive, hcourse, hwritten, hend⟩ := htraced.session_eq hmem
    refine ⟨input, harrive, hcourse, hwritten, hend, ?_⟩
    rw [step?, Option.isSome_map, htraced.service_eq,
      isSome_stepSession? hsound.nodup_sessions hmem]
  · obtain ⟨hloop, hstop', haccepted, hsessions⟩ :=
      returned_of_run? (hsound.returned hstop) hstop hs
    have hclosed : s'.isListening = false :=
      Bool.eq_false_iff.2 (mt isListening_iff.1 (not_not_intro hloop))
    refine ⟨hclosed, ?_, haccepted, hsessions, step?_of_step (.stopAgain hstop')⟩
    rw [isRunning, hclosed, Bool.false_and]
  · obtain ⟨t, ht, hu⟩ := exists_unstopped_of_run? (Unstopped.refl hstop) hs
    exact ⟨t, ht, hu.idle, hu.sessions_eq⟩

/-- A server that is told to stop when its accept loop has looked for the signal already: the second
client is accepted after it, and has its session when stopping is over. -/
theorem run_any_order_late_signal :
    let service : Service := { handler := Handler.echo }
    let w : World := ⟨⟨.dir [], []⟩, none, []⟩
    let get := Input.ofBytes (Utf8.encode "GET / HTTP/1.0\r\n\r\n".toList)
    ∃ s, run? w (start service) [.arrive 0 get, .look, .accept, .hand, .arrive 1 get, .look, .stop,
        .session 0, .accept, .hand, .look, .join] = some s ∧
      s.accepted = [0, 1] ∧ s.sessions.map Prod.fst = [0, 1] ∧
      ∀ more s', run? w s more = some s' → s'.isRunning = false ∧ s'.accepted = [0, 1] := by
  intro service w get
  have hview : (run? w (start service) [.arrive 0 get, .look, .accept, .hand, .arrive 1 get, .look,
      .stop, .session 0, .accept, .hand, .look, .join]).map
      (fun s => (s.accepted, s.loop.handed, s.stop)) = some ([0, 1], [], .returned) := by
    decide +kernel
  obtain ⟨s, hs, hview⟩ := Option.map_eq_some_iff.1 hview
  obtain ⟨haccepted, hrest⟩ := Prod.mk.inj hview
  obtain ⟨hhanded, hstop⟩ := Prod.mk.inj hrest
  obtain ⟨⟨-, hsessions, -⟩, -, -, hafter⟩ := run_any_order hs
  rw [haccepted, hhanded, List.append_nil] at hsessions
  refine ⟨s, hs, haccepted, hsessions.symm, fun more s' hs' => ?_⟩
  obtain ⟨-, hrunning, haccepted', -⟩ := (hafter more s' hs').2.1 hstop
  exact ⟨hrunning, haccepted'.trans haccepted⟩

end Server

end HttpServer
