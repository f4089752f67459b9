import HttpServer.Connection

/-!
# The accept loop

A server accepts connections in a loop and starts a session for each. At the head of each round the
loop looks for the stop signal; if there is none it asks the listener for the next connection, and
one that it has been given is handed to a session before the next round. When the listener fails
instead, the loop pauses, and during the pause it looks for the signal too. Stopping sends the
signal and waits for the loop to end. The listener is closed with the loop, and clients that have
not been accepted by then are turned away; sessions that have started go on by themselves.

All of this is interleaved: clients arrive, the listener fails, the loop proceeds, sessions make
steps and the server is stopped in any order. A run of a server is a list of actions, each of which
must be possible when its turn comes. Whoever stops a server waits until that is done, and only then
can the server be told again. Connections are numbered, so that they can be told apart.

## Main definitions

* `Server`, `Server.start`: a server and its accept loop.
* `Server.Action`, `Server.step?`, `Server.run?`: what can happen next.
* `Server.Reachable`: the states that a server can get into.
* `Server.attempt`: the actions that are possible, in turn.

## Main statements

* `Server.reachable_of_run?`, `Server.reachable_attempt`: runs stay within the reachable states.
-/

namespace HttpServer

/-- Where the accept loop stands. -/
inductive Server.Loop where
  /-- It is about to look for the stop signal. -/
  | looking
  /-- It has seen no stop signal and asks for the next connection. -/
  | accepting
  /-- It has accepted a connection and has to start its session. -/
  | handing (id : Nat) (c : Connection)
  /-- The listener has failed, and the loop waits before it tries again. -/
  | pausing
  /-- It has ended, and the listener is closed. -/
  | ended

/-- How far stopping a server has come. -/
inductive Server.Stop where
  /-- The server has not been told to stop. -/
  | idle
  /-- The stop signal has been sent, and the end of the accept loop is waited for. -/
  | joining
  /-- The wait is over. -/
  | returned
  deriving DecidableEq, Repr

/-- A server and its accept loop. -/
structure Server where
  /-- What the sessions do. -/
  service : Service
  /-- Where the accept loop stands. -/
  loop : Server.Loop := .looking
  /-- The clients that the listener holds, in the order in which they arrived. -/
  waiting : List (Nat × Connection) := []
  /-- The numbers of all connections that were accepted, in that order. -/
  accepted : List Nat := []
  /-- The sessions, in the order in which they started. -/
  sessions : List (Nat × Connection) := []
  /-- How far stopping it has come. -/
  stop : Server.Stop := .idle

namespace Server

/-- A server that has just been bound. -/
def start (s : Service) : Server :=
  { service := s }

/-- The listener is open. -/
def isListening (s : Server) : Bool :=
  match s.loop with
  | .ended => false
  | _ => true

/-- The stop signal has been sent. -/
def isStopping (s : Server) : Bool :=
  s.stop != .idle

/-- The server accepts connections and has not been told to stop. -/
def isRunning (s : Server) : Bool :=
  s.isListening && !s.isStopping

/-- The server when its accept loop has ended. -/
def close (s : Server) : Server :=
  { s with loop := .ended, waiting := [] }

/-- The number of the connection that is accepted and has no session yet. -/
def Loop.handed : Loop → List Nat
  | .handing id _ => [id]
  | _ => []

/-- The server has a connection of this number, waiting or accepted. -/
def knows (s : Server) (id : Nat) : Bool :=
  s.waiting.any (·.1 == id) || s.accepted.contains id

/-- Something that can happen to a server. -/
inductive Action where
  /-- A client arrives, with what it is going to send. -/
  | arrive (id : Nat) (input : Input)
  /-- The loop looks for the stop signal. -/
  | look
  /-- The loop asks the listener for the next connection. -/
  | accept
  /-- The listener fails. -/
  | fail
  /-- The pause after a failure is over. -/
  | resume
  /-- The loop starts the session of the connection that it has accepted. -/
  | hand
  /-- A session makes a step. -/
  | session (id : Nat)
  /-- The server is told to stop. -/
  | stop
  /-- Whoever has told the server to stop sees that its accept loop has ended. -/
  | join

/-- Numbered connections of which one has made a step. -/
def stepSession? (s : Service) (w : World) (id : Nat) :
    List (Nat × Connection) → Option (List (Nat × Connection))
  | [] => none
  | (n, c) :: rest =>
    if n = id then (c.step? s w).map fun c => (n, c) :: rest
    else (stepSession? s w id rest).map fun rest => (n, c) :: rest

/-- The server after an action, if that is possible. Being told to stop once more changes nothing,
and an accept without a client waiting goes on to the next round. -/
def step? (w : World) (s : Server) : Action → Option Server
  | .arrive id input =>
    if s.isListening && !s.knows id then some { s with waiting := s.waiting ++ [(id, { input })] }
    else none
  | .look =>
    match s.loop with
    | .looking => if s.isStopping then some s.close else some { s with loop := .accepting }
    | .pausing => if s.isStopping then some s.close else some s
    | _ => none
  | .accept =>
    match s.loop, s.waiting with
    | .accepting, (id, c) :: rest =>
      some { s with loop := .handing id c, waiting := rest, accepted := s.accepted ++ [id] }
    | .accepting, [] => some { s with loop := .looking }
    | _, _ => none
  | .fail =>
    match s.loop with
    | .accepting => if s.isStopping then some s.close else some { s with loop := .pausing }
    | _ => none
  | .resume =>
    match s.loop with
    | .pausing => some { s with loop := .looking }
    | _ => none
  | .hand =>
    match s.loop with
    | .handing id c => some { s with loop := .looking, sessions := s.sessions ++ [(id, c)] }
    | _ => none
  | .session id =>
    (stepSession? s.service w id s.sessions).map fun sessions => { s with sessions }
  | .stop =>
    match s.stop with
    | .idle => some { s with stop := .joining }
    | .joining => none
    | .returned => some s
  | .join =>
    match s.stop, s.loop with
    | .joining, .ended => some { s with stop := .returned }
    | _, _ => none

/-- The server after a list of actions, if each is possible in its turn. -/
def run? (w : World) : Server → List Action → Option Server
  | s, [] => some s
  | s, a :: actions => (s.step? w a).bind fun s => run? w s actions

/-- A server with this service can get into this state. -/
inductive Reachable (w : World) (service : Service) : Server → Prop
  /-- It starts there. -/
  | start : Reachable w service (start service)
  /-- An action leads there. -/
  | step {s s' : Server} {a : Action} (h : Reachable w service s) (ha : s.step? w a = some s') :
      Reachable w service s'

theorem reachable_of_run? {w : World} {service : Service} {s s' : Server} {actions : List Action}
    (h : Reachable w service s) (hs : run? w s actions = some s') : Reachable w service s' := by
  induction actions generalizing s with
  | nil =>
    cases hs
    exact h
  | cons a actions ih =>
    obtain ⟨t, ht, hs⟩ := Option.bind_eq_some_iff.1 hs
    exact ih (h.step ht) hs

/-- The server after those of some actions that are possible in their turn. -/
def attempt (w : World) (s : Server) (actions : List Action) : Server :=
  actions.foldl (fun s a => (s.step? w a).getD s) s

theorem reachable_attempt {w : World} {service : Service} {s : Server}
    (h : Reachable w service s) (actions : List Action) :
    Reachable w service (s.attempt w actions) := by
  induction actions generalizing s with
  | nil => exact h
  | cons a actions ih =>
    rw [attempt, List.foldl_cons]
    refine ih ?_
    cases ha : s.step? w a with
    | none => exact h
    | some t => exact h.step ha

/-- What happens until a client that arrives at the head of a round has a session. -/
def admission (id : Nat) (input : Input) : List Action :=
  [.arrive id input, .look, .accept, .hand]

/-- What happens until a session has come to rest. -/
def completion (id : Nat) : List Action :=
  [.session id, .session id, .session id]

/-- What happens until a server has stopped, wherever its accept loop stands. -/
def termination : List Action :=
  [.stop, .accept, .hand, .look, .join]

/-- What the client of a session has received so far. -/
def received (s : Server) (id : Nat) : Bytes :=
  match s.sessions.lookup id with
  | none => []
  | some c => c.sink.written

end Server

end HttpServer
