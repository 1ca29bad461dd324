import Mathlib.Data.List.TakeWhile
import Screenscrab.Library.Utf8
import Screenscrab.Session.Incoming

/-! `ClipboardService::set_text` under every outcome of the Win32 calls it makes. -/
namespace Screenscrab.Session
open Protocol

/-- What the clipboard holds: the code units under `CF_UNICODETEXT`, and the data under other
formats, by their numbers. -/
structure Clipboard where
  unicodeText : Option (List Nat) := none
  others : List (UInt32 × Bytes) := []
  deriving DecidableEq, Repr

/-- The outcomes of the calls in order. `memory` is what the block holds when the second
conversion fails. -/
structure ClipboardCalls where
  opened : Bool := true
  emptied : Bool := true
  measured : Bool := true
  allocated : Bool := true
  locked : Bool := true
  converted : Bool := true
  memory : List Nat := []
  stored : Bool := true

/-- `text.c_str()` as a callee reads it. -/
def cStr (text : Bytes) : Bytes := text.takeWhile (· ≠ 0)

/-- What a conversion with the length -1 writes, which ends with the terminator. -/
def written (wide : Bytes → List Nat) (calls : ClipboardCalls) (text : Bytes) : List Nat :=
  if calls.converted then wide (cStr text) ++ [0] else calls.memory

/-- `set_text`, with `wide` for what `MultiByteToWideChar` makes of the bytes before the
terminator. -/
def setText (wide : Bytes → List Nat) (calls : ClipboardCalls) (clipboard : Clipboard)
    (text : Bytes) : Clipboard × Bool :=
  if ¬ calls.opened then (clipboard, false)
  else
    let clipboard := if calls.emptied then {} else clipboard
    if ¬ calls.measured then (clipboard, false)
    else if ¬ calls.allocated then (clipboard, false)
    else if ¬ calls.locked then (clipboard, false)
    else
      let clipboard :=
        if calls.stored then { clipboard with unicodeText := some (written wide calls text) }
        else clipboard
      (clipboard, true)

/-- The clipboard holds the whole text and nothing else. -/
def Clipboard.Holds (clipboard : Clipboard) (text : Bytes) : Prop :=
  ∃ units, Utf8.decode text = some units ∧
    clipboard = { unicodeText := some (units ++ [0]), others := [] }

/-- Either all of the call has happened, or nothing. -/
def Atomic (clipboard : Clipboard) (text : Bytes) (result : Clipboard × Bool) : Prop :=
  result.2 = true ∧ result.1.Holds text ∨ result.2 = false ∧ result.1 = clipboard

/-- The block gets the whole text. -/
def Whole (calls : ClipboardCalls) (text : Bytes) : Prop :=
  ∃ units, Utf8.decode text = some units ∧
    if calls.converted then 0 ∉ text else calls.memory = units ++ [0]

/-- Every way in which a call ends well. -/
def EndsWell (calls : ClipboardCalls) (clipboard : Clipboard) (text : Bytes) : Prop :=
  if calls.opened = false then True
  else if calls.measured = false ∨ calls.allocated = false ∨ calls.locked = false then
    calls.emptied = false ∨ clipboard = {}
  else if calls.stored then
    Whole calls text ∧ (calls.emptied = true ∨ clipboard.others = [])
  else calls.emptied = false ∧ clipboard.Holds text

/-- Every payload whose format is text comes to `set_text` with the bytes behind the format. -/
theorem handleClipboardPacket_text {s : Settings} (enabled : s.clipboardEnabled = true)
    (text : Bytes) :
    handleClipboardPacket s ([1, 0, 0, 0] ++ text) = some (.calls (.setText text)) := by
  have format : readU32 ([1, 0, 0, 0] ++ text) 0 = some 1 := rfl
  have size : ([1, 0, 0, 0] ++ text : Bytes).length = text.length + 4 := by simp
  unfold handleClipboardPacket
  rw [if_neg (by rw [enabled, size]; simp), format]
  rfl

theorem zero_notMem_cStr (text : Bytes) : 0 ∉ cStr text := by
  intro member
  simpa using List.mem_takeWhile_imp member

theorem cStr_split {text : Bytes} (terminated : 0 ∈ text) :
    ∃ rest, text = cStr text ++ 0 :: rest := by
  have split : cStr text ++ text.dropWhile (· ≠ 0) = text := List.takeWhile_append_dropWhile
  cases behind : text.dropWhile (· ≠ 0) with
  | nil =>
      rw [behind, List.append_nil] at split
      rw [← split] at terminated
      exact absurd terminated (zero_notMem_cStr _)
  | cons b rest =>
      have stop := List.head?_dropWhile_not (fun b : UInt8 => decide (b ≠ 0)) text
      rw [behind] at stop
      obtain rfl : b = 0 := by simpa using stop
      rw [behind] at split
      exact ⟨rest, split.symm⟩

theorem cStr_eq {text : Bytes} (unterminated : 0 ∉ text) : cStr text = text := by
  apply List.takeWhile_eq_self_iff.mpr
  intro b member
  apply decide_eq_true
  rintro rfl
  exact unterminated member

/-- The bytes before the first NUL of a text that can be decoded can be decoded, and are the
whole text only without a NUL. -/
theorem decode_cStr {text : Bytes} {units : List Nat} (decoded : Utf8.decode text = some units) :
    ∃ front, Utf8.decode (cStr text) = some front ∧ (front = units ↔ 0 ∉ text) := by
  by_cases terminated : 0 ∈ text
  · obtain ⟨rest, split⟩ := cStr_split terminated
    rw [split, Utf8.decode_append (by decide)] at decoded
    obtain ⟨front, first, later⟩ := Option.bind_eq_some_iff.mp decoded
    obtain ⟨more, second, rfl⟩ := Option.map_eq_some_iff.mp later
    refine ⟨front, first, iff_of_false ?_ (not_not_intro terminated)⟩
    intro same
    have tail := @Utf8.decode_ascii_append [0] (List.forall_mem_singleton.mpr (by decide)) rest
    rw [List.singleton_append, second, eq_comm, Option.map_eq_some_iff] at tail
    obtain ⟨later, -, rfl⟩ := tail
    have lengths := congrArg List.length same
    simp at lengths
  · rw [cStr_eq terminated]
    exact ⟨units, decoded, iff_of_true rfl terminated⟩

section outcomes
variable {wide : Bytes → List Nat} {calls : ClipboardCalls} {clipboard : Clipboard} {text : Bytes}

/-- What is written is the whole text, given how valid UTF-8 is converted. -/
theorem written_whole_iff (documented : ∀ text units, 0 ∉ text →
    Utf8.decode text = some units → wide text = units) :
    (∃ units, Utf8.decode text = some units ∧ written wide calls text = units ++ [0]) ↔
      Whole calls text := by
  apply exists_congr
  intro units
  apply and_congr_right
  intro decoded
  unfold written
  split
  · obtain ⟨front, first, whole⟩ := decode_cStr decoded
    rw [documented _ front (zero_notMem_cStr text) first, List.append_left_inj]
    exact whole
  · rfl

/-- The clipboard after `EmptyClipboard`. -/
def emptying (calls : ClipboardCalls) (clipboard : Clipboard) : Clipboard :=
  if calls.emptied then {} else clipboard

theorem emptying_eq_iff :
    emptying calls clipboard = clipboard ↔ calls.emptied = false ∨ clipboard = {} := by
  unfold emptying
  cases calls.emptied with
  | true => simp [eq_comm]
  | false => simp

theorem emptying_others_iff :
    (emptying calls clipboard).others = [] ↔ calls.emptied = true ∨ clipboard.others = [] := by
  unfold emptying
  cases calls.emptied <;> simp

theorem emptying_holds_iff :
    (emptying calls clipboard).Holds text ↔ calls.emptied = false ∧ clipboard.Holds text := by
  unfold emptying
  cases calls.emptied with
  | true =>
      refine iff_of_false ?_ (by simp)
      rintro ⟨units, -, same⟩
      cases same
  | false => simp

theorem holds_stored_iff (units' : List Nat) :
    ({ clipboard with unicodeText := some units' } : Clipboard).Holds text ↔
      (∃ units, Utf8.decode text = some units ∧ units' = units ++ [0]) ∧
        clipboard.others = [] := by
  unfold Clipboard.Holds
  simp only [Clipboard.mk.injEq, Option.some.injEq]
  constructor
  · rintro ⟨units, decoded, same, others⟩
    exact ⟨⟨units, decoded, same⟩, others⟩
  · rintro ⟨⟨units, decoded, same⟩, others⟩
    exact ⟨units, decoded, same, others⟩

theorem setText_unprepared (opened : calls.opened = true)
    (failed : calls.measured = false ∨ calls.allocated = false ∨ calls.locked = false) :
    setText wide calls clipboard text = (emptying calls clipboard, false) := by
  unfold setText emptying
  rcases failed with failed | failed | failed
  all_goals simp [opened, failed]

theorem setText_prepared (opened : calls.opened = true)
    (ready : ¬ (calls.measured = false ∨ calls.allocated = false ∨ calls.locked = false)) :
    setText wide calls clipboard text =
      (if calls.stored then
        { emptying calls clipboard with unicodeText := some (written wide calls text) }
      else emptying calls clipboard, true) := by
  simp only [not_or, Bool.not_eq_false] at ready
  obtain ⟨measured, allocated, locked⟩ := ready
  unfold setText emptying
  simp [opened, measured, allocated, locked]

end outcomes

/-- A call puts the whole text on the clipboard or leaves the clipboard alone exactly when it
ends well. -/
theorem setText_atomic_iff {wide : Bytes → List Nat}
    (documented : ∀ text units, 0 ∉ text → Utf8.decode text = some units → wide text = units)
    (calls : ClipboardCalls) (clipboard : Clipboard) (text : Bytes) :
    Atomic clipboard text (setText wide calls clipboard text) ↔
      EndsWell calls clipboard text := by
  unfold Atomic EndsWell
  cases opened : calls.opened with
  | false => simp [setText, opened]
  | true =>
  rw [if_neg (by simp)]
  split
  · next failed =>
      rw [setText_unprepared opened failed, ← emptying_eq_iff]
      simp
  · next ready =>
      rw [setText_prepared opened ready]
      simp only [true_and, Bool.true_eq_false, false_and, or_false]
      cases calls.stored with
      | true =>
          rw [if_pos rfl, if_pos rfl, holds_stored_iff, written_whole_iff documented,
            emptying_others_iff]
      | false =>
          rw [if_neg (by simp), if_neg (by simp), emptying_holds_iff]

/-- A conversion that is right about valid UTF-8. -/
def toWide (text : Bytes) : List Nat := (Utf8.decode text).getD []

theorem setText_atomic_iff_empty :
    Atomic {} (ascii "ok") (setText toWide {} {} (ascii "ok")) ↔ EndsWell {} {} (ascii "ok") := by
  refine setText_atomic_iff (fun text units _ decoded => ?_) {} {} (ascii "ok")
  rw [toWide, decoded]
  rfl

/-- Of a text with a NUL in it only the part before the NUL is put on the clipboard. -/
theorem setText_cuts :
    ¬ ∀ (wide : Bytes → List Nat) (calls : ClipboardCalls) (clipboard : Clipboard) (text : Bytes),
      (∀ text units, 0 ∉ text → Utf8.decode text = some units → wide text = units) →
      Atomic clipboard text (setText wide calls clipboard text) := by
  intro atomic
  have ended := atomic toWide {} {} [97, 0, 98] fun text units _ decoded => by
    rw [toWide, decoded]
    rfl
  rcases ended with ⟨-, units, decoded, same⟩ | ⟨failed, -⟩
  · cases decoded
    exact absurd same (by decide)
  · cases failed

/-- The outcomes of the calls of `get_text` in order. `memory` is what the string holds when the
second conversion fails. -/
structure ReadingCalls where
  opened : Bool := true
  found : Bool := true
  locked : Bool := true
  measured : Bool := true
  converted : Bool := true
  memory : Bytes := []
  deriving DecidableEq, Repr

/-- `get_text`, with `narrow` for what `WideCharToMultiByte` makes of the units before the
terminator, and `text` for what the caller's string holds before. -/
def getText (narrow : List Nat → Bytes) (calls : ReadingCalls) (clipboard : Clipboard)
    (text : Bytes) : Bytes × Bool :=
  if ¬ calls.opened then (text, false)
  else
    match if calls.found then clipboard.unicodeText else none with
    | none => (text, false)
    | some buffer =>
      if ¬ calls.locked then (text, false)
      else if ¬ calls.measured then (text, false)
      else if calls.converted then (narrow (buffer.takeWhile (· ≠ 0)), true)
      else (calls.memory, true)

end Screenscrab.Session
