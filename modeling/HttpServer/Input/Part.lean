import HttpServer.Text.Blank
import HttpServer.Text.Utf8

/-!
# The parts of a request on the wire

A request is read in at most three parts: its first line, the block of header lines up to a blank
one, and for a form its body, which is either a given number of bytes or everything through the
first CR LF. Such a part is read byte by byte: each byte either ends it or leaves the rest of a part
to be read, so that bytes which have been read need not be looked at again.

`Part.size?` says how many of the bytes at hand make up a part, and nothing as long as the part is
incomplete. A line ends with LF; CRs and LFs at its end are not part of its text. A line is blank if
it has no character but white space.

## Main definitions

* `lineText`: the text of a line.
* `Part`, `Part.next`, `Part.after`: the parts, and what is left of them.
* `Part.size?`: where a part ends.
* `Part.cut`: the part at the start of bytes that are all at hand.

## Main statements

* `Part.size?_append`: once a part is complete, further bytes do not change its size.
* `Part.size?_append_of_none`: an incomplete part goes on with what is left of it, so it does not
  matter in which pieces the bytes arrive.
-/

namespace HttpServer

/-- The text of a line: its bytes without the CRs and LFs at the end, read leniently. -/
def lineText (s : Bytes) : Text :=
  Utf8.decodeLossy (s.reverse.dropWhile fun b => b == 0x0A || b == 0x0D).reverse

/-- A part of a request that is read in one go, or what is left of it. -/
inductive Part where
  /-- Everything through the next LF. -/
  | line
  /-- The lines through the next blank one, where `begun` has already been read of the line at hand,
  last byte first. -/
  | block (begun : Bytes)
  /-- This number of bytes. -/
  | count (n : Nat)
  /-- Everything through the next CR LF, where the CR may be the byte before. -/
  | crlf (afterCr : Bool)
  deriving DecidableEq, Repr

namespace Part

/-- Nothing is left. -/
def isDone : Part → Bool
  | count n => n == 0
  | _ => false

/-- The part ends with this byte. -/
def endsWith : Part → UInt8 → Bool
  | line, b => b == 0x0A
  | block begun, b => b == 0x0A && (lineText begun.reverse).isBlank
  | count n, _ => n == 1
  | crlf afterCr, b => afterCr && b == 0x0A

/-- What is left of the part behind a byte that does not end it. -/
def next : Part → UInt8 → Part
  | line, _ => line
  | block begun, b => block (if b = 0x0A then [] else b :: begun)
  | count n, _ => count (n - 1)
  | crlf _, b => crlf (b == 0x0D)

/-- What is left of the part behind bytes that do not complete it. -/
def after (p : Part) (s : Bytes) : Part :=
  s.foldl next p

/-- The number of bytes that make up the part, if it is complete, where `read` ones have been read
before. -/
def sizeFrom? (read : Nat) (p : Part) : Bytes → Option Nat
  | [] => if p.isDone then some read else none
  | b :: s =>
    if p.isDone then some read
    else if p.endsWith b then some (read + 1)
    else sizeFrom? (read + 1) (p.next b) s

/-- The number of bytes at the start of `s` that make up the part, if it is complete. -/
def size? (p : Part) (s : Bytes) : Option Nat :=
  p.sizeFrom? 0 s

/-- The part at the start of a byte string, which is all of it if the part is incomplete, and what
follows. -/
def cut (p : Part) (s : Bytes) : Bytes × Bytes :=
  match p.size? s with
  | some n => (s.take n, s.drop n)
  | none => (s, [])

theorem sizeFrom?_eq (read : Nat) (p : Part) (s : Bytes) :
    p.sizeFrom? read s = (p.size? s).map (read + ·) := by
  induction s generalizing read p with
  | nil => cases h : p.isDone <;> simp [size?, sizeFrom?, h]
  | cons b s ih =>
    cases hd : p.isDone with
    | true => simp [size?, sizeFrom?, hd]
    | false =>
      cases he : p.endsWith b with
      | true => simp [size?, sizeFrom?, hd, he]
      | false =>
        rw [size?]
        simp only [sizeFrom?, hd, he]
        rw [ih (read + 1), ih (0 + 1)]
        cases (p.next b).size? s <;> simp [Nat.add_assoc]

theorem sizeFrom?_append {p : Part} {s : Bytes} {read n : Nat}
    (h : p.sizeFrom? read s = some n) (t : Bytes) : p.sizeFrom? read (s ++ t) = some n := by
  induction s generalizing read p with
  | nil =>
    rw [sizeFrom?] at h
    split at h
    · rename_i hd
      cases t <;> simpa [sizeFrom?, hd] using h
    · cases h
  | cons b s ih =>
    rw [sizeFrom?] at h
    rw [List.cons_append, sizeFrom?]
    split at h
    · rename_i hd
      rw [if_pos hd]
      exact h
    · rename_i hd
      rw [if_neg hd]
      split at h
      · rename_i he
        rw [if_pos he]
        exact h
      · rename_i he
        rw [if_neg he]
        exact ih h

theorem sizeFrom?_append_of_none {p : Part} {s : Bytes} {read : Nat}
    (h : p.sizeFrom? read s = none) (t : Bytes) :
    p.sizeFrom? read (s ++ t) = (p.after s).sizeFrom? (read + s.length) t := by
  induction s generalizing read p with
  | nil => rfl
  | cons b s ih =>
    rw [sizeFrom?] at h
    rw [List.cons_append, sizeFrom?]
    split at h
    · cases h
    · rename_i hd
      rw [if_neg hd]
      split at h
      · cases h
      · rename_i he
        rw [if_neg he, ih h, List.length_cons, Nat.add_assoc, Nat.add_comm 1]
        rfl

/-- A part that is complete stays so, with the same size, when more bytes arrive. -/
theorem size?_append {p : Part} {s : Bytes} {n : Nat} (h : p.size? s = some n) (t : Bytes) :
    p.size? (s ++ t) = some n :=
  sizeFrom?_append h t

/-- A part that is incomplete is completed by what completes the rest of it. -/
theorem size?_append_of_none {p : Part} {s : Bytes} (h : p.size? s = none) (t : Bytes) :
    p.size? (s ++ t) = ((p.after s).size? t).map (s.length + ·) := by
  rw [size?, sizeFrom?_append_of_none h, sizeFrom?_eq, Nat.zero_add]

end Part

end HttpServer
