import HttpServer.Input.Basic
import HttpServer.Response.Basic

/-!
# Writing a response

A sink takes bytes call by call. One call takes as many of the offered bytes as the sink's bound on
a call and the room that is left allow; a call that can take nothing fails. Everything is offered
until it is taken or a call fails, so a short write loses and repeats nothing.

The head goes first. Bytes in memory follow in one go; a file is copied in pieces of at most eight
kilobytes, and what has been written is flushed whenever the next piece has to be waited for. At the
end of any response the sink is flushed.

## Main definitions

* `Sink`, `Sink.put`, `Sink.putAll`, `Sink.flush`: where the bytes go.
* `Response.write`: a whole response.
-/

namespace HttpServer

/-- Where the bytes of a response go. -/
structure Sink where
  /-- What each call so far has taken, the latest first. -/
  calls : List Bytes := []
  /-- The most bytes that one call takes, if that is bounded. -/
  perCall : Option Nat := none
  /-- The bytes that can still be taken, if that is bounded. -/
  room : Option Nat := none
  /-- How a call fails that can take nothing. -/
  whenFull : Fault := .brokenPipe
  /-- How a flush fails, if it does. -/
  flushFault : Option Fault := none
  /-- A flush has succeeded. -/
  flushed : Bool := false
  deriving DecidableEq, Repr

namespace Sink

/-- All bytes taken so far. -/
def written (k : Sink) : Bytes :=
  k.calls.reverse.flatten

/-- As many of the bytes as a bound allows. -/
def clip (bound : Option Nat) (s : Bytes) : Bytes :=
  match bound with
  | none => s
  | some n => s.take n

/-- What one call takes of the bytes offered. -/
def share (k : Sink) (s : Bytes) : Bytes :=
  clip k.room (clip k.perCall s)

/-- Offers some bytes in one call; the answer is how many were taken. -/
def put (k : Sink) (s : Bytes) : Except Fault Nat × Sink :=
  match k.share s with
  | [] => (.error k.whenFull, k)
  | b :: taken =>
    (.ok (taken.length + 1),
      { k with calls := (b :: taken) :: k.calls, room := k.room.map (· - (taken.length + 1)) })

theorem put_pos {k k' : Sink} {s : Bytes} {n : Nat} (h : k.put s = (.ok n, k')) : 0 < n := by
  rw [put] at h
  split at h
  · cases h
  · cases h
    omega

/-- Offers bytes until all are taken or a call fails. -/
def putAll (k : Sink) (s : Bytes) : Except Fault Unit × Sink :=
  if _hs : s = [] then (.ok (), k)
  else
    match _h : k.put s with
    | (.error e, k) => (.error e, k)
    | (.ok n, k) => putAll k (s.drop n)
termination_by s.length
decreasing_by
  have := put_pos _h
  have := List.length_pos_iff.2 _hs
  rw [List.length_drop]
  omega

/-- Passes on what was taken. -/
def flush (k : Sink) : Except Fault Unit × Sink :=
  match k.flushFault with
  | some e => (.error e, k)
  | none => (.ok (), { k with flushed := true })

/-- Does one thing after another, unless the first has failed. -/
def andThen (r : Except Fault Unit × Sink) (next : Sink → Except Fault Unit × Sink) :
    Except Fault Unit × Sink :=
  match r with
  | (.error e, k) => (.error e, k)
  | (.ok (), k) => next k

/-- The most bytes of a file that are copied at a time. -/
def copySize : Nat := 8192

/-- Copies the pieces of a file, flushing after each piece and at the end. -/
def copy (k : Sink) : List Bytes → Except Fault Unit × Sink
  | [] => k.flush
  | piece :: rest => andThen (andThen (k.putAll piece) flush) fun k => copy k rest

/-- Writes a body. -/
def putBody (k : Sink) : Body → Except Fault Unit × Sink
  | .empty => (.ok (), k)
  | .bytes s => k.putAll s
  | .file content position => k.copy (pieces copySize (content.bytesFrom position))

end Sink

/-- Writes a response on a given date: its head, its body, and a flush. -/
def Response.write (r : Response) (date : Text) (k : Sink) : Except Fault Unit × Sink :=
  Sink.andThen (k.putAll (r.head date)) fun k => Sink.andThen (k.putBody r.body) Sink.flush

end HttpServer
