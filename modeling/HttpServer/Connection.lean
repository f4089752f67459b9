import HttpServer.Handler
import HttpServer.Request.Read
import HttpServer.Response.Write

/-!
# Connections

A connection carries one request and one response. It is first read, then the request is handed to
the handler, then the response is written, and then it is closed. A request that cannot be read is
answered with a rejection instead, and a client that closes without a word gets no answer. A
failure to write ends the connection like a success: nothing escapes from it.

Each step leads to a later state, so a connection comes to rest after at most three steps. It rests
only when it is closed, except that a read to which no deadline applies may wait for ever.

## Main definitions

* `Service`: the handler and the deadlines that all connections of a server share.
* `RequestError.response`: the rejection.
* `Connection.step?`, `Connection.history`, `Connection.run`: one step, and all of them.
* `Service.reply`: everything that a client receives.
-/

namespace HttpServer

/-- What all connections of a server share. -/
structure Service where
  /-- What answers the requests. -/
  handler : Handler
  /-- How long the stages of a request may take. -/
  deadlines : Deadlines := {}

/-- The answer to a request that could not be read. -/
def RequestError.response (output : OutputEncoding) (e : RequestError) : Response :=
  if e.isBadRequest then .error output .badRequest ("BAD REQUEST: ".toList ++ e.message)
  else .error output .internalServerError ("SERVER INTERNAL ERROR: ".toList ++ e.message)

/-- How far a connection has come. -/
inductive Connection.State where
  /-- The request is to be read. -/
  | reading
  /-- The request is to be handed to the handler. -/
  | dispatching (request : Request)
  /-- The response is to be written. -/
  | writing (response : Response)
  /-- Everything is done. -/
  | closed

/-- One exchange with a client, from its first byte to its last. -/
structure Connection where
  /-- How far it has come. -/
  state : Connection.State := .reading
  /-- What the client sends. -/
  input : Input
  /-- What the client receives. -/
  sink : Sink := {}

namespace Connection

/-- How many steps may still be made from a state. -/
def State.ahead : State → Nat
  | reading => 3
  | dispatching _ => 2
  | writing _ => 1
  | closed => 0

/-- One step of a connection, if it can make one. -/
def step? (s : Service) (w : World) (c : Connection) : Option Connection :=
  match c.state with
  | .reading =>
    match Request.read s.deadlines c.input with
    | (.ok request, i) => some { c with state := .dispatching request, input := i }
    | (.error .closed, i) => some { c with state := .closed, input := i }
    | (.error .abandoned, _) => none
    | (.error e, i) => some { c with state := .writing (e.response w.output), input := i }
  | .dispatching request => some { c with state := .writing (s.handler.respond w request) }
  | .writing response => some { c with state := .closed, sink := (response.write w.date c.sink).2 }
  | .closed => none

theorem ahead_lt_of_step? {s : Service} {w : World} {c c' : Connection}
    (h : c.step? s w = some c') : c'.state.ahead < c.state.ahead := by
  rw [step?] at h
  split at h
  · rename_i hc
    rw [hc]
    split at h <;> cases h <;> simp [State.ahead]
  · rename_i hc
    rw [hc]
    cases h
    simp [State.ahead]
  · rename_i hc
    rw [hc]
    cases h
    simp [State.ahead]
  · cases h

/-- The connection after each of its steps, with itself first, until it comes to rest. -/
def history (s : Service) (w : World) (c : Connection) : List Connection :=
  match _h : c.step? s w with
  | none => [c]
  | some c' => c :: history s w c'
termination_by c.state.ahead
decreasing_by exact ahead_lt_of_step? _h

theorem history_ne_nil (s : Service) (w : World) (c : Connection) : c.history s w ≠ [] := by
  rw [history]
  split <;> simp

/-- The connection when it has come to rest. -/
def run (s : Service) (w : World) (c : Connection) : Connection :=
  (c.history s w).getLast (history_ne_nil s w c)

theorem run_of_step?_eq_none {s : Service} {w : World} {c : Connection}
    (h : c.step? s w = none) : c.run s w = c := by
  have hh : c.history s w = [c] := by
    rw [history]
    split <;> simp_all
  simp [run, hh]

theorem run_of_step? {s : Service} {w : World} {c c' : Connection}
    (h : c.step? s w = some c') : c.run s w = c'.run s w := by
  have hh : c.history s w = c :: c'.history s w := by
    rw [history]
    split <;> simp_all
  simp [run, hh, List.getLast_cons (history_ne_nil s w c')]

end Connection

/-- Everything that a client receives who sends this. -/
def Service.reply (s : Service) (w : World) (i : Input) : Bytes :=
  (Connection.run s w { input := i }).sink.written

end HttpServer
