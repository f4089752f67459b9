import HttpServer.Net.Server
import HttpServer.Proofs.Session
import Mathlib.Data.List.Nodup

/-!
# What happens to connections

Whatever the order of events, a connection that the listener has accepted is either in the hands of
the accept loop or has its session, and it has one session only. A session makes the steps of a
connection that is alone in the world: where it stands is told by its own input and by how many
steps it has made, and by nothing that happens to the server or to other sessions meanwhile.

All of this is proved from what a single action does (`Server.Step`).

## Main definitions

* `Server.Step`: the effect of an action, with what makes it possible.
* `Server.Sound`: no connection is lost or handed to two sessions.
* `Server.Traced`: the connections of a server come from the actions in its past.

## Main results

* `Server.step?_eq_some_iff`: which actions are possible, and what they do.
* `Server.reachable_iff`: the reachable states are those in which runs end.
* `Server.sound_of_run?`, `Server.traced_of_run?`: both hold after every run.
-/

namespace HttpServer

namespace Server

variable {w : World} {s s' : Server}

/-! ### The effect of an action -/

/-- What an action makes of a server, with what makes it possible. -/
inductive Step (w : World) (s : Server) : Action → Server → Prop where
  | arrive {id : Nat} (input : Input) (hopen : s.loop ≠ .ended)
      (hnew : id ∉ s.accepted ++ s.waiting.map Prod.fst) :
      Step w s (.arrive id input) { s with waiting := s.waiting ++ [(id, { input })] }
  | look (hloop : s.loop = .looking) (hstop : s.stop = .idle) :
      Step w s .look { s with loop := .accepting }
  | lookAgain (hloop : s.loop = .pausing) (hstop : s.stop = .idle) : Step w s .look s
  | lookLast (hloop : s.loop = .looking ∨ s.loop = .pausing) (hstop : s.stop ≠ .idle) :
      Step w s .look s.close
  | accept {id : Nat} {c : Connection} {rest : List (Nat × Connection)}
      (hloop : s.loop = .accepting) (hwaiting : s.waiting = (id, c) :: rest) :
      Step w s .accept
        { s with loop := .handing id c, waiting := rest, accepted := s.accepted ++ [id] }
  | acceptNone (hloop : s.loop = .accepting) (hwaiting : s.waiting = []) :
      Step w s .accept { s with loop := .looking }
  | fail (hloop : s.loop = .accepting) (hstop : s.stop = .idle) :
      Step w s .fail { s with loop := .pausing }
  | failLast (hloop : s.loop = .accepting) (hstop : s.stop ≠ .idle) : Step w s .fail s.close
  | resume (hloop : s.loop = .pausing) : Step w s .resume { s with loop := .looking }
  | hand {id : Nat} {c : Connection} (hloop : s.loop = .handing id c) :
      Step w s .hand { s with loop := .looking, sessions := s.sessions ++ [(id, c)] }
  | session {id : Nat} {sessions : List (Nat × Connection)}
      (hstep : stepSession? s.service w id s.sessions = some sessions) :
      Step w s (.session id) { s with sessions }
  | stop (hstop : s.stop = .idle) : Step w s .stop { s with stop := .joining }
  | stopAgain (hstop : s.stop = .returned) : Step w s .stop s
  | join (hstop : s.stop = .joining) (hloop : s.loop = .ended) :
      Step w s .join { s with stop := .returned }

theorem isListening_iff : s.isListening = true ↔ s.loop ≠ .ended := by
  rw [isListening]
  cases s.loop <;> simp

theorem isStopping_iff : s.isStopping = true ↔ s.stop ≠ .idle := by
  rw [isStopping, bne_iff_ne]

theorem knows_iff {id : Nat} : s.knows id = true ↔ id ∈ s.accepted ++ s.waiting.map Prod.fst := by
  simp [knows, or_comm]

theorem step_of_step? {a : Action} (h : s.step? w a = some s') : Step w s a s' := by
  cases a with
  | arrive id input =>
    rw [step?] at h
    split at h
    · rename_i hnew
      cases h
      simp only [Bool.and_eq_true, isListening_iff, Bool.not_eq_true', Bool.eq_false_iff, ne_eq,
        knows_iff] at hnew
      exact .arrive input hnew.1 hnew.2
    · cases h
  | look =>
    rw [step?] at h
    split at h
    · split at h
      · cases h
        exact .lookLast (.inl ‹_›) (isStopping_iff.1 ‹_›)
      · cases h
        exact .look ‹_› (Decidable.not_not.1 (mt isStopping_iff.2 ‹_›))
    · split at h
      · cases h
        exact .lookLast (.inr ‹_›) (isStopping_iff.1 ‹_›)
      · cases h
        exact .lookAgain ‹_› (Decidable.not_not.1 (mt isStopping_iff.2 ‹_›))
    · cases h
  | accept =>
    rw [step?] at h
    split at h
    · cases h
      exact .accept ‹_› ‹_›
    · cases h
      exact .acceptNone ‹_› ‹_›
    · cases h
  | fail =>
    rw [step?] at h
    split at h
    · split at h
      · cases h
        exact .failLast ‹_› (isStopping_iff.1 ‹_›)
      · cases h
        exact .fail ‹_› (Decidable.not_not.1 (mt isStopping_iff.2 ‹_›))
    · cases h
  | resume =>
    rw [step?] at h
    split at h
    · cases h
      exact .resume ‹_›
    · cases h
  | hand =>
    rw [step?] at h
    split at h
    · cases h
      exact .hand ‹_›
    · cases h
  | session id =>
    obtain ⟨sessions, hsessions, rfl⟩ := Option.map_eq_some_iff.1 h
    exact .session hsessions
  | stop =>
    rw [step?] at h
    split at h
    · cases h
      exact .stop ‹_›
    · cases h
    · cases h
      exact .stopAgain ‹_›
  | join =>
    rw [step?] at h
    split at h
    · cases h
      exact .join ‹_› ‹_›
    · cases h

theorem step?_of_step {a : Action} (h : Step w s a s') : s.step? w a = some s' := by
  cases h with
  | arrive input hopen hnew =>
    rw [step?, isListening_iff.2 hopen, Bool.eq_false_iff.2 (mt knows_iff.1 hnew)]
    rfl
  | look hloop hstop | fail hloop hstop => simp [step?, hloop, isStopping, hstop]
  | lookAgain hloop hstop => simp [step?, hloop, isStopping, hstop]
  | lookLast hloop hstop =>
    rcases hloop with hloop | hloop <;> simp [step?, hloop, isStopping, hstop]
  | accept hloop hwaiting | acceptNone hloop hwaiting => simp [step?, hloop, hwaiting]
  | failLast hloop hstop => simp [step?, hloop, isStopping, hstop]
  | resume hloop | hand hloop => simp [step?, hloop]
  | session hstep => simp [step?, hstep]
  | stop hstop | stopAgain hstop => simp [step?, hstop]
  | join hstop hloop => simp [step?, hstop, hloop]

/-- **Which actions are possible**, and what they do. -/
theorem step?_eq_some_iff {a : Action} : s.step? w a = some s' ↔ Step w s a s' :=
  ⟨step_of_step?, step?_of_step⟩

/-! ### Runs -/

theorem run?_concat {actions : List Action} (a : Action) :
    run? w s (actions ++ [a]) = (run? w s actions).bind fun s => s.step? w a := by
  induction actions generalizing s with
  | nil =>
    rw [List.nil_append]
    exact Option.bind_fun_some _
  | cons b actions ih =>
    rw [List.cons_append, run?, run?, Option.bind_assoc]
    exact Option.bind_congr fun t _ => ih

/-- **The reachable states** are those in which runs end. -/
theorem reachable_iff {service : Service} :
    Reachable w service s ↔ ∃ actions, run? w (start service) actions = some s := by
  constructor
  · intro h
    induction h with
    | start => exact ⟨[], rfl⟩
    | @step s s' a _ ha ih =>
      obtain ⟨actions, hs⟩ := ih
      refine ⟨actions ++ [a], ?_⟩
      rw [run?_concat, hs]
      exact ha
  · rintro ⟨actions, hs⟩
    exact reachable_of_run? .start hs

/-- What every action keeps, a run keeps. -/
theorem run?_induction {P : Server → Prop}
    (hstep : ∀ {s s' : Server} {a : Action}, P s → Step w s a s' → P s') {s s' : Server}
    {actions : List Action} (h : P s) (hs : run? w s actions = some s') : P s' := by
  induction actions generalizing s with
  | nil => exact Option.some.inj hs ▸ h
  | cons a actions ih =>
    obtain ⟨t, ht, hs⟩ := Option.bind_eq_some_iff.1 hs
    exact ih (hstep h (step_of_step? ht)) hs

/-! ### No connection is lost -/

/-- The connection that the accept loop has in its hands. -/
def Loop.held : Loop → List (Nat × Connection)
  | .handing id c => [(id, c)]
  | _ => []

/-- Every connection that was accepted has one session, unless the accept loop still has it in its
hands. The loop ends only after it was told to, and is waited for until it has ended. -/
structure Sound (s : Server) : Prop where
  accepted : s.accepted = s.sessions.map Prod.fst ++ s.loop.handed
  nodup : (s.accepted ++ s.waiting.map Prod.fst).Nodup
  ended : s.loop = .ended → s.stop ≠ .idle
  returned : s.stop = .returned → s.loop = .ended

theorem sound_start (service : Service) : Sound (start service) :=
  ⟨rfl, List.nodup_nil, nofun, nofun⟩

/-- A session that makes a step keeps its place and its number. -/
theorem map_fst_stepSession? {service : Service} {id : Nat} {l l' : List (Nat × Connection)}
    (h : stepSession? service w id l = some l') : l'.map Prod.fst = l.map Prod.fst := by
  induction l generalizing l' with
  | nil => cases h
  | cons p l ih =>
    obtain ⟨n, c⟩ := p
    rw [stepSession?] at h
    split at h
    · obtain ⟨c', -, rfl⟩ := Option.map_eq_some_iff.1 h
      rfl
    · obtain ⟨rest, hrest, rfl⟩ := Option.map_eq_some_iff.1 h
      rw [List.map_cons, List.map_cons, ih hrest]

namespace Sound

/-- Outside of the hand-over every connection that was accepted has its session. -/
theorem accepted_eq (h : Sound s) (hloop : s.loop.handed = []) :
    s.accepted = s.sessions.map Prod.fst := by
  rw [h.accepted, hloop, List.append_nil]

theorem nodup_sessions (h : Sound s) : (s.sessions.map Prod.fst).Nodup := by
  have haccepted := h.nodup.of_append_left
  rw [h.accepted] at haccepted
  exact haccepted.of_append_left

theorem close (h : Sound s) (hloop : s.loop.handed = []) (hstop : s.stop ≠ .idle) :
    Sound s.close where
  accepted := (h.accepted_eq hloop).trans (List.append_nil _).symm
  nodup := h.nodup.sublist ((List.nil_sublist _).append_left s.accepted)
  ended _ := hstop
  returned _ := rfl

/-- The loop may move on while it has no connection in its hands. -/
theorem moveOn (h : Sound s) {loop : Loop} (hopen : s.loop ≠ .ended) (hfree : s.loop.handed = [])
    (hopen' : loop ≠ .ended) (hfree' : loop.handed = []) : Sound { s with loop } where
  accepted := by rw [h.accepted_eq hfree, hfree', List.append_nil]
  nodup := h.nodup
  ended hended := absurd hended hopen'
  returned hreturned := absurd (h.returned hreturned) hopen

/-- **No action loses a connection**, or hands it to a second session. -/
theorem step (h : Sound s) {a : Action} (hs : Step w s a s') : Sound s' := by
  cases hs with
  | @arrive id input hopen hnew =>
    refine ⟨h.accepted, ?_, h.ended, h.returned⟩
    rw [List.map_append, ← List.append_assoc]
    refine List.nodup_append.2 ⟨h.nodup, List.nodup_singleton id, fun n hn m hm hnm => hnew ?_⟩
    rwa [hnm, List.mem_singleton.1 hm] at hn
  | look hloop _ | acceptNone hloop _ | fail hloop _ | resume hloop =>
    exact h.moveOn (hloop ▸ nofun) (hloop ▸ rfl) nofun rfl
  | lookAgain _ _ => exact h
  | lookLast hloop hstop =>
    refine h.close ?_ hstop
    rcases hloop with hloop | hloop <;> rw [hloop] <;> rfl
  | @accept id c rest hloop hwaiting =>
    refine ⟨?_, ?_, nofun, fun hr => ?_⟩
    · rw [h.accepted_eq (by rw [hloop]; rfl)]
      rfl
    · have hnodup := h.nodup
      rw [hwaiting, List.map_cons] at hnodup
      rwa [List.append_assoc]
    · cases hloop.symm.trans (h.returned hr)
  | failLast hloop hstop => exact h.close (by rw [hloop]; rfl) hstop
  | @hand id c hloop =>
    refine ⟨?_, h.nodup, nofun, fun hr => ?_⟩
    · rw [h.accepted, hloop, List.map_append, List.append_assoc]
      rfl
    · cases hloop.symm.trans (h.returned hr)
  | session hstep =>
    exact ⟨h.accepted.trans (by rw [map_fst_stepSession? hstep]), h.nodup, h.ended, h.returned⟩
  | stop hstop => exact ⟨h.accepted, h.nodup, nofun, nofun⟩
  | stopAgain hstop => exact h
  | join hstop hloop => exact ⟨h.accepted, h.nodup, nofun, fun _ => hloop⟩

end Sound

/-- **No run loses a connection**, or hands it to two sessions. -/
theorem sound_of_run? {actions : List Action} (h : Sound s) (hs : run? w s actions = some s') :
    Sound s' :=
  run?_induction (fun h => h.step) h hs

/-! ### Where connections come from -/

/-- The action is a step of this session. -/
def Action.isStepOf (id : Nat) : Action → Bool
  | .session n => n == id
  | _ => false

/-- Every connection came with an action of the past, which is the only one with its number, and a
session has made as many steps as there are for it in the past, those of its connection alone. -/
structure Traced (service : Service) (w : World) (past : List Action) (s : Server) : Prop where
  service_eq : s.service = service
  known : s.loop ≠ .ended → ∀ id input, .arrive id input ∈ past →
    id ∈ s.accepted ++ s.waiting.map Prod.fst
  unique : ∀ id input input', .arrive id input ∈ past → .arrive id input' ∈ past → input = input'
  fresh : ∀ p ∈ s.loop.held ++ s.waiting, ∃ input, .arrive p.1 input ∈ past ∧ p.2 = { input }
  course : ∀ p ∈ s.sessions, ∃ input, .arrive p.1 input ∈ past ∧
    (Connection.history service w { input })[past.countP (Action.isStepOf p.1)]? = some p.2
  unstarted : ∀ id, id ∉ s.sessions.map Prod.fst → past.countP (Action.isStepOf id) = 0

theorem traced_start (service : Service) (w : World) : Traced service w [] (start service) where
  service_eq := rfl
  known _ _ _ h := absurd h List.not_mem_nil
  unique _ _ _ h := absurd h List.not_mem_nil
  fresh := List.forall_mem_nil _
  course := List.forall_mem_nil _
  unstarted _ _ := rfl

/-- What a step of a session makes of the sessions. -/
theorem mem_of_stepSession? {service : Service} {id : Nat} {l l' : List (Nat × Connection)}
    (hnodup : (l.map Prod.fst).Nodup) (h : stepSession? service w id l = some l') :
    id ∈ l.map Prod.fst ∧ ∀ p ∈ l', p.1 ≠ id ∧ p ∈ l ∨
      p.1 = id ∧ ∃ c, (id, c) ∈ l ∧ c.step? service w = some p.2 := by
  induction l generalizing l' with
  | nil => cases h
  | cons q l ih =>
    obtain ⟨n, c⟩ := q
    rw [List.map_cons, List.nodup_cons] at hnodup
    rw [stepSession?] at h
    split at h
    · rename_i hn
      obtain ⟨c', hc', rfl⟩ := Option.map_eq_some_iff.1 h
      refine ⟨hn ▸ List.mem_cons_self, List.forall_mem_cons.2 ⟨.inr ⟨hn, c, ?_, hc'⟩, ?_⟩⟩
      · exact hn ▸ List.mem_cons_self
      · intro p hp
        refine .inl ⟨fun hid => hnodup.1 ?_, List.mem_cons_of_mem _ hp⟩
        have hmem := List.mem_map_of_mem (f := Prod.fst) hp
        rwa [hid, ← hn] at hmem
    · rename_i hn
      obtain ⟨rest, hrest, rfl⟩ := Option.map_eq_some_iff.1 h
      obtain ⟨hid, hmem⟩ := ih hnodup.2 hrest
      refine ⟨List.mem_cons_of_mem n hid, List.forall_mem_cons.2 ⟨.inl ⟨hn, ?_⟩, fun p hp => ?_⟩⟩
      · exact List.mem_cons_self
      · rcases hmem p hp with ⟨hne, hl⟩ | ⟨heq, c', hl, hc'⟩
        · exact .inl ⟨hne, List.mem_cons_of_mem _ hl⟩
        · exact .inr ⟨heq, c', List.mem_cons_of_mem _ hl, hc'⟩

namespace Traced

variable {service : Service} {past : List Action}

theorem mem_concat_iff {a b : Action} (hne : a ≠ b) : a ∈ past ++ [b] ↔ a ∈ past := by
  simp [hne]

/-- An action that neither brings a client nor lets a session proceed leaves everything traced, if
it takes no connection from anywhere but the hands of the accept loop and the listener. -/
theorem of_quiet (h : Traced service w past s) {a : Action}
    (harrive : ∀ id input, a ≠ .arrive id input) (hsession : ∀ id, a.isStepOf id = false)
    (hservice : s'.service = s.service)
    (hknown : s'.loop ≠ .ended → s.loop ≠ .ended ∧
      s.accepted ++ s.waiting.map Prod.fst ⊆ s'.accepted ++ s'.waiting.map Prod.fst)
    (hfresh : s'.loop.held ++ s'.waiting ⊆ s.loop.held ++ s.waiting)
    (hsessions : ∃ started, s'.sessions = s.sessions ++ started ∧ started ⊆ s.loop.held ∧
      ∀ p ∈ started, p.1 ∉ s.sessions.map Prod.fst) :
    Traced service w (past ++ [a]) s' := by
  have hpast : ∀ {id input}, .arrive id input ∈ past ++ [a] ↔ .arrive id input ∈ past :=
    mem_concat_iff (harrive _ _).symm
  have hcount : ∀ id, (past ++ [a]).countP (Action.isStepOf id) =
      past.countP (Action.isStepOf id) := by
    intro id
    simp [List.countP_append, hsession]
  obtain ⟨started, hsessions, hheld, hnew⟩ := hsessions
  refine ⟨hservice.trans h.service_eq, fun hloop id input hmem => ?_, fun id input input' hi hi' =>
    ?_, fun p hp => ?_, fun p hp => ?_, fun id hid => ?_⟩
  · obtain ⟨hopen, hsub⟩ := hknown hloop
    exact hsub (h.known hopen id input (hpast.1 hmem))
  · exact h.unique id input input' (hpast.1 hi) (hpast.1 hi')
  · obtain ⟨input, hmem, hp⟩ := h.fresh p (hfresh hp)
    exact ⟨input, hpast.2 hmem, hp⟩
  · rw [hsessions] at hp
    rw [hcount]
    rcases List.mem_append.1 hp with hp | hp
    · obtain ⟨input, hmem, hp⟩ := h.course p hp
      exact ⟨input, hpast.2 hmem, hp⟩
    · obtain ⟨input, hmem, hc⟩ := h.fresh p (List.mem_append_left _ (hheld hp))
      refine ⟨input, hpast.2 hmem, ?_⟩
      rw [h.unstarted p.1 (hnew p hp), hc]
      exact Connection.getElem?_history_zero _
  · rw [hcount]
    refine h.unstarted id fun hmem => hid ?_
    rw [hsessions, List.map_append]
    exact List.mem_append_left _ hmem

theorem arrive (h : Traced service w past s) {id : Nat} (input : Input) (hopen : s.loop ≠ .ended)
    (hnew : id ∉ s.accepted ++ s.waiting.map Prod.fst) :
    Traced service w (past ++ [.arrive id input])
      { s with waiting := s.waiting ++ [(id, { input })] } := by
  have hcases : ∀ {n i}, .arrive n i ∈ past ++ [.arrive id input] ↔
      .arrive n i ∈ past ∨ n = id ∧ i = input := by simp
  have hnot : ∀ i, .arrive id i ∉ past := fun i hi => hnew (h.known hopen id i hi)
  have hcount : ∀ n, (past ++ [Action.arrive id input]).countP (Action.isStepOf n) =
      past.countP (Action.isStepOf n) := by
    intro n
    simp [List.countP_append, Action.isStepOf]
  refine ⟨h.service_eq, fun _ n i hmem => ?_, fun n i i' hi hi' => ?_, fun p hp => ?_,
    fun p hp => ?_, fun n hn => (hcount n).trans (h.unstarted n hn)⟩
  · rw [List.map_append, ← List.append_assoc]
    rcases hcases.1 hmem with hmem | ⟨rfl, -⟩
    · exact List.mem_append_left _ (h.known hopen n i hmem)
    · exact List.mem_append_right _ List.mem_cons_self
  · rcases hcases.1 hi with hold | ⟨rfl, rfl⟩
    · rcases hcases.1 hi' with hold' | ⟨rfl, rfl⟩
      · exact h.unique n i i' hold hold'
      · exact absurd hold (hnot i)
    · rcases hcases.1 hi' with hold' | ⟨-, rfl⟩
      · exact absurd hold' (hnot i')
      · rfl
  · rw [← List.append_assoc] at hp
    rcases List.mem_append.1 hp with hp | hp
    · obtain ⟨i, hmem, hp⟩ := h.fresh p hp
      exact ⟨i, hcases.2 (.inl hmem), hp⟩
    · rw [List.mem_singleton.1 hp]
      exact ⟨input, hcases.2 (.inr ⟨rfl, rfl⟩), rfl⟩
  · obtain ⟨i, hmem, hp⟩ := h.course p hp
    rw [hcount]
    exact ⟨i, hcases.2 (.inl hmem), hp⟩

theorem session (h : Traced service w past s) (hsound : Sound s) {id : Nat}
    {sessions : List (Nat × Connection)}
    (hstep : stepSession? s.service w id s.sessions = some sessions) :
    Traced service w (past ++ [.session id]) { s with sessions } := by
  have hpast : ∀ {n i}, .arrive n i ∈ past ++ [.session id] ↔ .arrive n i ∈ past :=
    mem_concat_iff nofun
  have hcount : ∀ n, (past ++ [Action.session id]).countP (Action.isStepOf n) =
      past.countP (Action.isStepOf n) + if id = n then 1 else 0 := by
    intro n
    simp [List.countP_append, List.countP_singleton, Action.isStepOf]
  obtain ⟨hid, hmem⟩ := mem_of_stepSession? hsound.nodup_sessions hstep
  refine ⟨h.service_eq, fun hloop n i hi => h.known hloop n i (hpast.1 hi),
    fun n i i' hi hi' => h.unique n i i' (hpast.1 hi) (hpast.1 hi'), fun p hp => ?_,
    fun p hp => ?_, fun n hn => ?_⟩
  · obtain ⟨i, hi, hp⟩ := h.fresh p hp
    exact ⟨i, hpast.2 hi, hp⟩
  · rcases hmem p hp with ⟨hne, hold⟩ | ⟨heq, c, hold, hc⟩
    · obtain ⟨i, hi, hp⟩ := h.course p hold
      rw [hcount, if_neg (Ne.symm hne)]
      exact ⟨i, hpast.2 hi, hp⟩
    · obtain ⟨i, hi, hp⟩ := h.course _ hold
      rw [h.service_eq] at hc
      rw [hcount, if_pos heq.symm, heq]
      exact ⟨i, hpast.2 hi, Connection.getElem?_history_succ hp hc⟩
  · rw [map_fst_stepSession? hstep] at hn
    have hne : id ≠ n := fun heq => hn (heq ▸ hid)
    rw [hcount, if_neg hne]
    exact h.unstarted n hn

/-- **Every action leaves everything traced.** -/
theorem step (h : Traced service w past s) (hsound : Sound s) {a : Action} (hs : Step w s a s') :
    Traced service w (past ++ [a]) s' := by
  have hnone : ∃ started, s.sessions = s.sessions ++ started ∧ started ⊆ s.loop.held ∧
      ∀ p ∈ started, p.1 ∉ s.sessions.map Prod.fst :=
    ⟨[], (List.append_nil _).symm, List.nil_subset _, List.forall_mem_nil _⟩
  have hkept : s.loop ≠ .ended → s.loop ≠ .ended ∧
      s.accepted ++ s.waiting.map Prod.fst ⊆ s.accepted ++ s.waiting.map Prod.fst := fun hopen =>
    ⟨hopen, List.Subset.refl _⟩
  have hopen : ∀ {loop : Loop}, s.loop = loop → loop ≠ .ended → s.loop ≠ .ended ∧
      s.accepted ++ s.waiting.map Prod.fst ⊆ s.accepted ++ s.waiting.map Prod.fst :=
    fun hloop hne => hkept (hloop ▸ hne)
  have hwaiting : s.waiting ⊆ s.loop.held ++ s.waiting := List.subset_append_right _ _
  cases hs with
  | arrive input hopen hnew => exact h.arrive input hopen hnew
  | look hloop _ | acceptNone hloop _ | fail hloop _ | resume hloop =>
    exact h.of_quiet nofun (fun _ => rfl) rfl (fun _ => hopen hloop nofun) hwaiting hnone
  | lookAgain _ _ | stop _ | stopAgain _ | join _ _ =>
    exact h.of_quiet nofun (fun _ => rfl) rfl hkept (List.Subset.refl _) hnone
  | lookLast _ _ | failLast _ _ =>
    exact h.of_quiet nofun (fun _ => rfl) rfl (fun hne => absurd rfl hne) (List.nil_subset _) hnone
  | @accept id c rest hloop hrest =>
    refine h.of_quiet nofun (fun _ => rfl) rfl (fun _ => ?_) (hrest ▸ hwaiting) hnone
    have hsub := hopen hloop nofun
    refine ⟨hsub.1, ?_⟩
    rw [hrest, List.append_assoc]
    exact List.Subset.refl _
  | @hand id c hloop =>
    refine h.of_quiet nofun (fun _ => rfl) rfl (fun _ => hopen hloop nofun) hwaiting
      ⟨[(id, c)], rfl, ?_, List.forall_mem_singleton.2 ?_⟩
    · rw [hloop]
      exact List.Subset.refl _
    · have hnodup := hsound.nodup.of_append_left
      rw [hsound.accepted, hloop] at hnodup
      exact fun hmem => (List.nodup_append.1 hnodup).2.2 id hmem id List.mem_cons_self rfl
  | session hstep => exact h.session hsound hstep

end Traced

/-- **Every run leaves everything traced**, to what was done before and to the run. -/
theorem traced_of_run? {service : Service} {past actions : List Action}
    (h : Traced service w past s) (hsound : Sound s) (hs : run? w s actions = some s') :
    Traced service w (past ++ actions) s' := by
  induction actions generalizing s past with
  | nil =>
    rw [List.append_nil]
    exact Option.some.inj hs ▸ h
  | cons a actions ih =>
    obtain ⟨t, ht, hs⟩ := Option.bind_eq_some_iff.1 hs
    have hstep := step_of_step? ht
    rw [List.append_cons]
    exact ih (h.step hsound hstep) (hsound.step hstep) hs

end Server

end HttpServer
