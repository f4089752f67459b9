import HttpServer.Proofs.Input.Bytewise
import HttpServer.Request.Read

/-!
# How input is cut never shows

A request may arrive in any pieces, cut anywhere: between a CR and its LF, within a character of
several bytes, within an escape. It may wait in a buffer of any size. Nothing of this changes what
is read, under any deadlines, with waits, failures and silences at any place, and for any number of
requests in turn, because each of these readings commutes with giving every byte an event of its
own.

## Main results

* `Request.read_bytewise`, `Request.readMany_bytewise`: reading requests byte by byte.
* `Request.readMany_merge`: scripts that are the same when their data is put together.
-/

namespace HttpServer

open Input (bytewise)

namespace Head

theorem readUnder_bytewise (line whole : List Alarm) (i : Input) :
    readUnder line whole i.bytewise = Prod.map id bytewise (readUnder line whole i) := by
  rw [readUnder, readUnder, Input.read_bytewise]
  obtain ⟨e | s, j⟩ := i.read .line (line ++ whole)
  · rfl
  · cases s with
    | nil => rfl
    | cons b s =>
      simp only [Prod.map_apply, id_eq]
      cases parseLine (lineText (b :: s)) with
      | error e => rfl
      | ok m =>
        simp only [Input.read_bytewise]
        obtain ⟨e | block, k⟩ := j.read (.block []) whole <;> rfl

theorem read_bytewise (d : Deadlines) (i : Input) :
    read d i.bytewise = Prod.map id bytewise (read d i) :=
  readUnder_bytewise _ _ i

end Head

namespace Request

theorem readFormUnder_bytewise (alarms : List Alarm) (h : Head) (i : Input) :
    readFormUnder alarms h i.bytewise = Prod.map id bytewise (readFormUnder alarms h i) := by
  rw [readFormUnder, readFormUnder, Input.read_bytewise]
  obtain ⟨e | body, j⟩ := i.read h.bodyPart alarms <;> rfl

/-- **Reading a request byte by byte** gives the same request or the same error at the same time. -/
theorem read_bytewise (d : Deadlines) (i : Input) :
    read d i.bytewise = Prod.map id bytewise (read d i) := by
  rw [read, read, Head.read_bytewise]
  obtain ⟨e | h, j⟩ := Head.read d i
  · rfl
  · simp only [Prod.map_apply, id_eq]
    split
    · exact readFormUnder_bytewise _ h j
    · rfl

theorem readMany_bytewise (d : Deadlines) (n : Nat) (i : Input) :
    readMany d n i.bytewise = Prod.map id bytewise (readMany d n i) := by
  induction n generalizing i with
  | zero => rfl
  | succ n ih =>
    have hnext : ∀ (r : Except RequestError Request) (j : Input),
        (r :: (readMany d n j.bytewise).1, (readMany d n j.bytewise).2) =
          Prod.map id bytewise (r :: (readMany d n j).1, (readMany d n j).2) := by
      intro r j
      rw [ih]
      rfl
    rw [readMany, readMany, read_bytewise]
    obtain ⟨e | r, j⟩ := read d i
    · cases e with
      | abandoned => rfl
      | _ => exact hnext _ j
    · exact hnext _ j

/-- The results, the clock and what is left are all that the bytes one by one tell. -/
theorem readMany_congr {i i' : Input} (h : i.bytewise = i'.bytewise) (d : Deadlines) (n : Nat) :
    (readMany d n i).1 = (readMany d n i').1 ∧
      (readMany d n i).2.clock = (readMany d n i').2.clock ∧
      (readMany d n i).2.unread = (readMany d n i').2.unread := by
  have hmap : Prod.map id bytewise (readMany d n i) = Prod.map id bytewise (readMany d n i') := by
    rw [← readMany_bytewise, ← readMany_bytewise, h]
  obtain ⟨hresults, hleft⟩ := Prod.mk.inj hmap
  have hclock := congrArg Input.clock hleft
  have hunread := congrArg Input.unread hleft
  rw [Input.clock_bytewise, Input.clock_bytewise] at hclock
  rw [Input.unread_bytewise, Input.unread_bytewise] at hunread
  exact ⟨hresults, hclock, hunread⟩

/-- **How input is cut never shows.** Two scripts that are the same when neighbouring data events
are put together, each read through a buffer of any size, give the same requests and errors in turn
under any deadlines; the clock is the same after each of them, and so are the bytes that are left.
In particular the bytes of a data event may be cut anywhere. -/
theorem readMany_merge (d : Deadlines) (capacity capacity' n : Nat) :
    (∀ script script', Event.merge script = Event.merge script' →
      let r := readMany d n (.ofScript capacity script)
      let r' := readMany d n (.ofScript capacity' script')
      r.1 = r'.1 ∧ r.2.clock = r'.2.clock ∧ r.2.unread = r'.2.unread) ∧
    ∀ (before after : List Event) (s t : Bytes),
      Event.merge (before ++ .data s :: .data t :: after) =
        Event.merge (before ++ .data (s ++ t) :: after) := by
  refine ⟨fun script script' h => ?_, Event.merge_cut⟩
  refine readMany_congr ?_ d n
  rw [Input.bytewise_ofScript, Input.bytewise_ofScript, ← Event.flatMap_bytewise_merge script, h,
    Event.flatMap_bytewise_merge]

/-- Cuts within a character, an escape, two line ends and the end of a form. -/
theorem readMany_merge_form :
    let first := Utf8.encode "POST /".toList ++ [0xC3]
    let second := 0xA4 :: Utf8.encode "?k=%4".toList
    let third := Utf8.encode "1 HTTP/1.0\r".toList
    let fourth := Utf8.encode "\n\r".toList
    let fifth := Utf8.encode "\na=1\r".toList
    let sixth := Utf8.encode "\nGET /".toList
    let script := [.data first, .data second, .data third, .data fourth, .wait 3, .data fifth,
      .data sixth, .fail .brokenPipe]
    let script' := [.data (first ++ second ++ third ++ fourth), .wait 3, .data (fifth ++ sixth),
      .fail .brokenPipe]
    let r := readMany {} 2 (.ofScript 1 script)
    let r' := readMany {} 2 (.ofScript 8192 script')
    Event.merge script = Event.merge script' ∧ r.1 = r'.1 ∧ r.2.clock = r'.2.clock ∧
      r.2.unread = r'.2.unread := by
  intro first second third fourth fifth sixth script script' r r'
  have hmerge : Event.merge script = Event.merge script' := by decide
  exact ⟨hmerge, (readMany_merge {} 1 8192 2).1 script script' hmerge⟩

end Request

end HttpServer
