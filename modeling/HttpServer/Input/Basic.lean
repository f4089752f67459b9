import HttpServer.Input.Part
import HttpServer.Text.Split

/-!
# Input that arrives over time

What a client sends is a script of events: bytes that are there at once, spans in which nothing
arrives, reads that fail, and a client that falls silent for good. After the last event the input
has ended. An `Input` is such a script together with the bytes that have arrived and have not been
used, and a clock in milliseconds that moves only while a read waits.

`Input.read` reads one part under a list of alarms. Bytes at hand come first: a part that is
complete when an alarm is due is in time. Of several alarms due at one instant the first of the
list rings. A read that ends in an alarm or a failure loses the bytes it had taken; a wait that was
running goes on, and what comes after it is seen by the next read.

A read buffers at most a given number of bytes at a time. `Input.ofScript` cuts the data into
such pieces in advance, which is all that the size of a buffer can do.

## Main definitions

* `Fault`: how a single read or write on a connection can fail.
* `Event`, `Input`, `Input.ofScript`: scripts and their state while they are read.
* `Alarm`, `Alarm.next?`: when a read is cut off, and why.
* `Input.read`: reading one part.
-/

namespace HttpServer

/-- Why a read or a write failed. -/
inductive Fault where
  /-- The peer reset the connection. -/
  | connectionReset
  /-- The peer takes no more bytes. -/
  | brokenPipe
  /-- The input ended where it must not. -/
  | unexpectedEnd
  /-- The operating system gave up waiting. -/
  | timedOut
  /-- The call was interrupted; it can simply be made again. -/
  | interrupted
  /-- A write took no byte at all. -/
  | writeZero
  /-- Any other failure. -/
  | other
  deriving DecidableEq, Repr

/-- The wording of a fault. -/
def Fault.message : Fault → Text
  | connectionReset => "connection reset".toList
  | brokenPipe => "broken pipe".toList
  | unexpectedEnd => "unexpected end of file".toList
  | timedOut => "timed out".toList
  | interrupted => "operation interrupted".toList
  | writeZero => "write zero".toList
  | other => "other error".toList

/-- Something that happens on the way from the client. -/
inductive Event where
  /-- These bytes are available at once. -/
  | data (bytes : Bytes)
  /-- Nothing arrives for this many milliseconds, counted from the moment a read asks for more. -/
  | wait (ms : Nat)
  /-- One read fails. -/
  | fail (fault : Fault)
  /-- Nothing arrives any more, and the input does not end. -/
  | stall
  deriving DecidableEq, Repr

/-- What a client sends, as far as it has not been used. -/
structure Input where
  /-- Bytes that have arrived and have not been used. -/
  ready : Bytes
  /-- What happens next. -/
  coming : List Event
  /-- The time in milliseconds. -/
  clock : Nat
  deriving DecidableEq, Repr

/-- The stage of a request that a deadline bounds. -/
inductive Stage where
  /-- The first line. -/
  | requestLine
  /-- The first line and the header. -/
  | head
  /-- The body of a form. -/
  | body
  deriving DecidableEq, Repr

/-- The wording of a stage. -/
def Stage.message : Stage → Text
  | requestLine => "request line".toList
  | head => "request head".toList
  | body => "body".toList

/-- Why a read did not come to its end. -/
inductive Interruption where
  /-- The deadline of a stage passed. -/
  | late (stage : Stage)
  /-- The read failed. -/
  | failed (fault : Fault)
  /-- No deadline applies and nothing will ever arrive, or nobody waits any longer. -/
  | abandoned
  deriving DecidableEq, Repr

/-- An instant at which a read is cut off, and what the cut means. -/
structure Alarm where
  /-- The instant, on the clock of the input. -/
  due : Nat
  /-- What the cut means. -/
  reason : Interruption
  deriving DecidableEq, Repr

/-- The alarm that rings first: the earliest, and of several at one instant the first listed. -/
def Alarm.next? : List Alarm → Option Alarm
  | [] => none
  | a :: rest =>
    match next? rest with
    | none => some a
    | some b => if a.due ≤ b.due then some a else some b

namespace Event

/-- An event as a reader with a buffer of the given size meets it. -/
def buffered (capacity : Nat) : Event → List Event
  | .data s => (pieces capacity s).map .data
  | e => [e]

end Event

namespace Input

/-- The start of a script, read through a buffer of the given size. -/
def ofScript (capacity : Nat) (script : List Event) : Input :=
  ⟨[], script.flatMap (Event.buffered capacity), 0⟩

/-- These bytes, followed by the end of the input. -/
def ofBytes (s : Bytes) : Input :=
  ⟨s, [], 0⟩

/-- The bytes of a script that have not been used. -/
def unread (i : Input) : Bytes :=
  i.ready ++ i.coming.flatMap fun
    | .data s => s
    | _ => []

/-- Reads on: the bytes `taken` have been read, last byte first, and the part `p` is left. -/
def collect (p : Part) (alarms : List Alarm) (clock : Nat) (taken : Bytes) :
    List Event → Except Interruption Bytes × Input
  | [] => (.ok taken.reverse, ⟨[], [], clock⟩)
  | .data s :: rest =>
    match p.size? s with
    | some n => (.ok (taken.reverse ++ s.take n), ⟨s.drop n, rest, clock⟩)
    | none => collect (p.after s) alarms clock (s.reverseAux taken) rest
  | .wait ms :: rest =>
    match Alarm.next? alarms with
    | none => collect p alarms (clock + ms) taken rest
    | some a =>
      if clock + ms ≤ a.due then collect p alarms (clock + ms) taken rest
      else (.error a.reason, ⟨[], .wait (clock + ms - a.due) :: rest, a.due⟩)
  | .fail fault :: rest =>
    if fault = .interrupted then collect p alarms clock taken rest
    else (.error (.failed fault), ⟨[], rest, clock⟩)
  | .stall :: rest =>
    match Alarm.next? alarms with
    | none => (.error .abandoned, ⟨[], .stall :: rest, clock⟩)
    | some a => (.error a.reason, ⟨[], .stall :: rest, a.due⟩)

/-- Reads one part under some alarms. At the end of the input the part is what there is. -/
def read (p : Part) (alarms : List Alarm) (i : Input) : Except Interruption Bytes × Input :=
  match p.size? i.ready with
  | some n => (.ok (i.ready.take n), { i with ready := i.ready.drop n })
  | none => collect (p.after i.ready) alarms i.clock i.ready.reverse i.coming

end Input

end HttpServer
