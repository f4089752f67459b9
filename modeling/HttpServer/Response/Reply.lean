import HttpServer.Text.Split

/-!
# What a client receives

A client tells the head of a response from its body by the first blank line: everything through the
first CR LF CR LF is the head.

## Main definitions

* `blankLine`: the bytes that end a head.
* `Reply.ofBytes?`: the head and the body.

## Main statements

* `Reply.bytes_of_ofBytes?`: nothing is lost.
-/

namespace HttpServer

/-- The end of a head: that of its last line, and an empty line. -/
def blankLine : Bytes := [0x0D, 0x0A, 0x0D, 0x0A]

/-- A response as a client tells it apart. -/
structure Reply where
  /-- The head, with the blank line at its end. -/
  head : Bytes
  /-- The body. -/
  body : Bytes
  deriving DecidableEq, Repr

namespace Reply

/-- All bytes of a reply. -/
def bytes (r : Reply) : Bytes :=
  r.head ++ r.body

/-- The reply that some bytes are, if they have a blank line. -/
def ofBytes? : Bytes → Option Reply
  | [] => none
  | b :: s =>
    match dropLead? blankLine (b :: s) with
    | some body => some ⟨blankLine, body⟩
    | none => (ofBytes? s).map fun r => { r with head := b :: r.head }

theorem bytes_of_ofBytes? {s : Bytes} {r : Reply} (h : ofBytes? s = some r) : r.bytes = s := by
  induction s generalizing r with
  | nil => simp [ofBytes?] at h
  | cons b s ih =>
    rw [ofBytes?] at h
    split at h
    · rename_i body hbody
      cases h
      exact eq_append_of_dropLead? hbody |>.symm
    · obtain ⟨r, hr, rfl⟩ := Option.map_eq_some_iff.1 h
      have := ih hr
      simp_all [bytes]

end Reply

end HttpServer
