import HttpServer.Request.Head

/-!
# Reading a request

One request is read from an input under deadlines: a limit for the whole head, and if set an idle
limit for the first line and another run of it for the body of a form. The first line is judged
before any header line is read. `Request.read` is the reading over time; `Request.ofBytes` is the
same grammar over bytes that are all at hand, without a clock.

## Main definitions

* `Deadlines`: the limits.
* `Request.read`: reads one request and leaves what follows it.
* `Request.readFreely`: the same reading without deadlines.
* `Request.readMany`: several requests in turn.
* `Request.ofBytes`: the request at the start of a byte string, and the rest.
-/

namespace HttpServer

/-- How long the stages of a request may take, in milliseconds. -/
structure Deadlines where
  /-- The limit for the first line and the header. -/
  head : Nat := 5000
  /-- The limit for the first line, and again for the body of a form. -/
  idle : Option Nat := none
  /-- How long anybody waits for a request in all. -/
  patience : Option Nat := none
  deriving DecidableEq, Repr

namespace Deadlines

/-- The alarm of the idle limit for a stage that starts now. -/
def idleAlarm (d : Deadlines) (now : Nat) (stage : Stage) : List Alarm :=
  match d.idle with
  | none => []
  | some limit => [⟨now + limit, .late stage⟩]

/-- The alarm of the limit for the head of a request that starts now. -/
def headAlarm (d : Deadlines) (now : Nat) : List Alarm :=
  [⟨now + d.head, .late .head⟩]

/-- The alarm of whoever waits for a request that starts now. -/
def patienceAlarm (d : Deadlines) (now : Nat) : List Alarm :=
  match d.patience with
  | none => []
  | some limit => [⟨now + limit, .abandoned⟩]

end Deadlines

namespace Head

/-- Reads the head of a request, under alarms for its first line alone and for all of it. A
malformed first line is reported before any header line is read. -/
def readUnder (line whole : List Alarm) (i : Input) : Except RequestError Head × Input :=
  match i.read .line (line ++ whole) with
  | (.error e, i) => (.error (.ofInterruption e), i)
  | (.ok [], i) => (.error .closed, i)
  | (.ok (b :: s), i) =>
    match parseLine (lineText (b :: s)) with
    | .error e => (.error e, i)
    | .ok (method, path, params) =>
      match i.read (.block []) whole with
      | (.error e, i) => (.error (.ofInterruption e), i)
      | (.ok block, i) => (.ok ⟨method, path, params, .ofBlock block⟩, i)

/-- Reads the head of a request that starts now. -/
def read (d : Deadlines) (i : Input) : Except RequestError Head × Input :=
  readUnder (d.idleAlarm i.clock .requestLine) (d.headAlarm i.clock ++ d.patienceAlarm i.clock) i

end Head

namespace Request

/-- Reads the body of a form whose head has just been read, under some alarms. -/
def readFormUnder (alarms : List Alarm) (h : Head) (i : Input) :
    Except RequestError Request × Input :=
  match i.read h.bodyPart alarms with
  | (.error e, i) => (.error (.ofInterruption e), i)
  | (.ok body, i) => (h.withForm body, i)

/-- Reads the body of a form whose head has just been read; `since` is when the request started. -/
def readForm (d : Deadlines) (since : Nat) (h : Head) (i : Input) :
    Except RequestError Request × Input :=
  readFormUnder (d.idleAlarm i.clock .body ++ d.patienceAlarm since) h i

/-- Reads one request. Only a `POST` has a body. -/
def read (d : Deadlines) (i : Input) : Except RequestError Request × Input :=
  match Head.read d i with
  | (.error e, i') => (.error e, i')
  | (.ok h, i') => if h.method = .post then readForm d i.clock h i' else (.ok h.bodiless, i')

/-- Reads one request without any deadline. -/
def readFreely (i : Input) : Except RequestError Request × Input :=
  match Head.readUnder [] [] i with
  | (.error e, i') => (.error e, i')
  | (.ok h, i') => if h.method = .post then readFormUnder [] h i' else (.ok h.bodiless, i')

/-- Reads up to a number of requests in turn, each starting where the one before it ended. The list
ends with a request for which nobody waits any longer. -/
def readMany (d : Deadlines) : Nat → Input → List (Except RequestError Request) × Input
  | 0, i => ([], i)
  | n + 1, i =>
    match read d i with
    | (.error .abandoned, i) => ([.error .abandoned], i)
    | (r, i) =>
      let (rs, i) := readMany d n i
      (r :: rs, i)

/-- The request at the start of a byte string that nothing follows, and the bytes behind it. -/
def ofBytes (s : Bytes) : Except RequestError Request × Bytes :=
  match Part.cut .line s with
  | ([], rest) => (.error .closed, rest)
  | (b :: line, rest) =>
    match Head.parseLine (lineText (b :: line)) with
    | .error e => (.error e, rest)
    | .ok (method, path, params) =>
      let (block, rest) := Part.cut (.block []) rest
      let h : Head := ⟨method, path, params, .ofBlock block⟩
      if h.method = .post then
        let (body, rest) := h.bodyPart.cut rest
        (h.withForm body, rest)
      else (.ok h.bodiless, rest)

end Request

end HttpServer
