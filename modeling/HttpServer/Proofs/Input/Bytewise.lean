import HttpServer.Proofs.Input.Arrival
import HttpServer.Proofs.Input.Complete

/-!
# Inputs that arrive byte by byte

However the bytes of an input are cut into data events, and however much of them is buffered
already, they are the same bytes, with the same waits, failures and silences between them. That is
what is left of an input when each of its bytes is made an event of its own. Reading a part commutes
with it: the part is the same, and what remains is the same but for the cuts.

## Main definitions

* `Event.merge`: a script with its neighbouring data events put together.
* `Event.bytewise`, `Input.bytewise`: every byte as an event of its own.

## Main results

* `Event.flatMap_bytewise_merge`, `Input.bytewise_ofScript`: scripts that are merged, and inputs
  that are read through a buffer, are the same byte by byte.
* `Input.read_bytewise`: reading byte by byte.
-/

namespace HttpServer

/-! ### Scripts -/

namespace Event

/-- These bytes, each arriving on its own. -/
def singly (s : Bytes) : List Event :=
  s.map fun b => .data [b]

/-- An event with its bytes one by one. -/
def bytewise : Event → List Event
  | .data s => singly s
  | e => [e]

/-- A script with its neighbouring data events put together. -/
def merge : List Event → List Event
  | [] => []
  | .data s :: script =>
    match merge script with
    | .data t :: rest => .data (s ++ t) :: rest
    | rest => .data s :: rest
  | e :: script => e :: merge script

theorem singly_append (s t : Bytes) : singly (s ++ t) = singly s ++ singly t :=
  List.map_append

theorem flatMap_bytes_singly (s : Bytes) : (singly s).flatMap bytes = s := by
  rw [singly, List.flatMap_map]
  exact List.flatMap_singleton' s

theorem flatMap_bytes_bytewise (e : Event) : e.bytewise.flatMap bytes = e.bytes := by
  cases e with
  | data s => exact flatMap_bytes_singly s
  | _ => rfl

/-- Merging moves no byte past a wait, a failure or a silence. -/
theorem flatMap_bytewise_merge (script : List Event) :
    (merge script).flatMap bytewise = script.flatMap bytewise := by
  induction script with
  | nil => rfl
  | cons e script ih =>
    cases e with
    | data s =>
      rw [merge, List.flatMap_cons, ← ih]
      split
      · rename_i t rest hmerge
        rw [hmerge, List.flatMap_cons, List.flatMap_cons, ← List.append_assoc]
        exact congrArg (· ++ rest.flatMap bytewise) (singly_append s t)
      · rw [List.flatMap_cons]
    | _ => exact congrArg (_ :: ·) ih

/-- A data event may be cut anywhere. -/
theorem merge_cut (before after : List Event) (s t : Bytes) :
    merge (before ++ .data s :: .data t :: after) = merge (before ++ .data (s ++ t) :: after) := by
  induction before with
  | nil =>
    simp only [List.nil_append, merge]
    cases merge after with
    | nil => rfl
    | cons e rest => cases e <;> simp only [List.append_assoc]
  | cons e before ih =>
    cases e with
    | data u => rw [List.cons_append, List.cons_append, merge, merge, ih]
    | _ => exact congrArg (_ :: ·) ih

/-- A buffer cuts data and does nothing else. -/
theorem flatMap_bytewise_buffered (capacity : Nat) (e : Event) :
    (buffered capacity e).flatMap bytewise = e.bytewise := by
  cases e with
  | data s =>
    have hpieces : (pieces capacity s).flatMap singly = singly s := by
      conv_rhs => rw [← flatten_pieces capacity s, singly, List.map_flatten]
      exact List.flatMap_def
    rw [buffered, List.flatMap_map]
    exact hpieces
  | _ => rfl

end Event

/-! ### Parts -/

namespace Part

variable {p : Part}

theorem size?_nil (hd : p.isDone = false) : p.size? [] = none := by
  rw [size?, sizeFrom?, hd]
  rfl

theorem size?_of_isDone (hd : p.isDone = true) (s : Bytes) : p.size? s = some 0 := by
  cases s <;> rw [size?, sizeFrom?, if_pos hd]

theorem size?_cons_of_endsWith {b : UInt8} (hd : p.isDone = false) (he : p.endsWith b = true)
    (s : Bytes) : p.size? (b :: s) = some 1 := by
  rw [size?, sizeFrom?, hd, he]
  rfl

/-- A byte that does not end a part leaves something of it. -/
theorem isDone_next {b : UInt8} (hd : p.isDone = false) (he : p.endsWith b = false) :
    (p.next b).isDone = false := by
  cases p with
  | count n =>
    have hzero : n ≠ 0 := beq_eq_false_iff_ne.1 hd
    have hone : n ≠ 1 := beq_eq_false_iff_ne.1 he
    exact beq_false_of_ne (by omega)
  | _ => rfl

/-- Bytes that do not complete a part leave something of it. -/
theorem isDone_after {s : Bytes} (hs : p.size? s = none) : (p.after s).isDone = false := by
  have hnil := size?_append_of_none hs []
  rw [List.append_nil, hs] at hnil
  by_contra hd
  rw [size?_of_isDone (Bool.eq_true_of_not_eq_false hd)] at hnil
  cases hnil

end Part

/-! ### Reading -/

namespace Input

/-- The same input with all its bytes to come one by one. -/
def bytewise (i : Input) : Input :=
  ⟨[], Event.singly i.ready ++ i.coming.flatMap Event.bytewise, i.clock⟩

@[simp] theorem clock_bytewise (i : Input) : i.bytewise.clock = i.clock := rfl

@[simp] theorem unread_bytewise (i : Input) : i.bytewise.unread = i.unread := by
  have hcoming : i.coming.flatMap (fun e => e.bytewise.flatMap Event.bytes) =
      i.coming.flatMap Event.bytes :=
    List.flatMap_congr fun e _ => Event.flatMap_bytes_bytewise e
  rw [unread_eq, unread_eq, bytewise, List.flatMap_append, Event.flatMap_bytes_singly,
    List.flatMap_assoc, hcoming, List.nil_append]

/-- The size of the buffer is the size of the pieces, and no more. -/
theorem bytewise_ofScript (capacity : Nat) (script : List Event) :
    (ofScript capacity script).bytewise = ⟨[], script.flatMap Event.bytewise, 0⟩ := by
  have hscript : script.flatMap (fun e => (Event.buffered capacity e).flatMap Event.bytewise) =
      script.flatMap Event.bytewise :=
    List.flatMap_congr fun e _ => Event.flatMap_bytewise_buffered capacity e
  rw [bytewise, ofScript, List.flatMap_assoc, hscript]
  rfl

variable (alarms : List Alarm)

/-- Bytes that come one by one are taken up to the one that ends the part. -/
theorem collect_singly {p : Part} (hd : p.isDone = false) (clock : Nat) (taken s : Bytes)
    (rest : List Event) :
    collect p alarms clock taken (Event.singly s ++ rest) =
      match p.size? s with
      | some n =>
        (.ok (taken.reverse ++ s.take n), ⟨[], Event.singly (s.drop n) ++ rest, clock⟩)
      | none => collect (p.after s) alarms clock (s.reverseAux taken) rest := by
  induction s generalizing p taken with
  | nil =>
    rw [Part.size?_nil hd]
    rfl
  | cons b s ih =>
    show collect p alarms clock taken (.data [b] :: (Event.singly s ++ rest)) = _
    rw [collect]
    cases he : p.endsWith b with
    | true =>
      rw [Part.size?_cons_of_endsWith hd he, Part.size?_cons_of_endsWith hd he]
      rfl
    | false =>
      have hnext := Part.isDone_next hd he
      have hrest := ih hnext (b :: taken)
      rw [Part.size?_singleton hd he hnext, Part.size?_cons hd he]
      simp only [Part.after, List.foldl_cons, List.foldl_nil, List.reverseAux_cons,
        List.reverseAux_nil] at hrest ⊢
      rw [hrest]
      cases (p.next b).size? s with
      | none => rfl
      | some n => simp [Nat.add_comm 1]

theorem collect_bytewise {p : Part} (hd : p.isDone = false) (clock : Nat) (taken : Bytes)
    (coming : List Event) :
    collect p alarms clock taken (coming.flatMap Event.bytewise) =
      Prod.map id bytewise (collect p alarms clock taken coming) := by
  induction coming generalizing p clock taken with
  | nil => rfl
  | cons e coming ih =>
    cases e with
    | data s =>
      rw [List.flatMap_cons, Event.bytewise, collect_singly alarms hd, collect]
      cases hs : p.size? s with
      | some n => rfl
      | none => exact ih (Part.isDone_after hs) clock (s.reverseAux taken)
    | wait ms =>
      show collect p alarms clock taken (.wait ms :: coming.flatMap Event.bytewise) = _
      rw [collect, collect]
      cases Alarm.next? alarms with
      | none => exact ih hd (clock + ms) taken
      | some a =>
        by_cases hdue : clock + ms ≤ a.due
        · simp only [if_pos hdue]
          exact ih hd (clock + ms) taken
        · simp only [if_neg hdue]
          rfl
    | fail fault =>
      show collect p alarms clock taken (.fail fault :: coming.flatMap Event.bytewise) = _
      rw [collect, collect]
      by_cases hfault : fault = .interrupted
      · simp only [if_pos hfault]
        exact ih hd clock taken
      · simp only [if_neg hfault]
        rfl
    | stall =>
      show collect p alarms clock taken (.stall :: coming.flatMap Event.bytewise) = _
      rw [collect, collect]
      cases Alarm.next? alarms <;> rfl

/-- **Reading a part byte by byte** gives the same part, and leaves the same input byte by byte. -/
theorem read_bytewise (p : Part) (i : Input) :
    i.bytewise.read p alarms = Prod.map id bytewise (i.read p alarms) := by
  cases hd : p.isDone with
  | true =>
    rw [read, read, Part.size?_of_isDone hd, Part.size?_of_isDone hd]
    rfl
  | false =>
    have hready : i.bytewise.read p alarms = collect p alarms i.clock []
        (Event.singly i.ready ++ i.coming.flatMap Event.bytewise) := by
      rw [read, bytewise, Part.size?_nil hd]
      rfl
    rw [hready, collect_singly alarms hd, read]
    cases hs : p.size? i.ready with
    | some n => rfl
    | none =>
      exact collect_bytewise alarms (Part.isDone_after hs) i.clock i.ready.reverse i.coming

end Input

end HttpServer
