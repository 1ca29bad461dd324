import Mathlib.Data.List.Induction
import Screenscrab.Library.Surrogates
import Screenscrab.Remote.Exchange
import Screenscrab.Session.ClipboardService

/-! A clipboard text on its way: from the user at the client to the clipboard of the host, and
out of it again. -/
namespace Screenscrab.Remote
open Protocol Dart Client Session
open Transition (exec Along)

/-- What is documented of the two conversions, for text that is well formed. -/
structure Converts (wide : Bytes → List Nat) (narrow : List Nat → Bytes) : Prop where
  wide : ∀ text units, 0 ∉ text → Utf8.decode text = some units → wide text = units
  narrow : ∀ units, (∀ unit ∈ units, unit < 0x10000) → 0 ∉ units → Utf8.mend units = units →
    narrow units = Utf8.encode units

/-- A text of Dart: its code units. -/
def Units (text : List Nat) : Prop := ∀ unit ∈ text, unit < 0x10000

/-- The code units that a text leaves on the clipboard. -/
def kept (text : List Nat) : List Nat := Utf8.mend (text.takeWhile (· ≠ 0))

/-- What stands under `CF_UNICODETEXT` for a text of the client. -/
def terminated (text : List Nat) : List Nat := kept text ++ [0]

theorem Units.front {text : List Nat} (units : Units text) : Units (text.takeWhile (· ≠ 0)) :=
  fun unit member => units unit ((List.takeWhile_sublist _).subset member)

theorem zero_notMem_takeWhile (text : List Nat) : 0 ∉ text.takeWhile (· ≠ 0) := by
  intro member
  simpa using List.mem_takeWhile_imp member

theorem decode_cStr_encode {text : List Nat} (units : Units text) :
    Utf8.decode (cStr (Utf8.encode text)) = some (kept text) := by
  rw [cStr, Utf8.takeWhile_encode units]
  exact Utf8.decode_encode units.front

/-- A text is kept as it is when it has no NUL and its surrogates are paired. -/
theorem kept_eq_iff (text : List Nat) : kept text = text ↔ 0 ∉ text ∧ Utf8.mend text = text := by
  have whole (clean : 0 ∉ text) : text.takeWhile (· ≠ 0) = text := by
    apply List.takeWhile_eq_self_iff.mpr
    intro unit member
    apply decide_eq_true
    rintro rfl
    exact clean member
  constructor
  · intro same
    have sizes := congrArg List.length same
    rw [kept, Utf8.mend_length] at sizes
    have all := (List.takeWhile_prefix (· ≠ 0)).eq_of_length sizes
    rw [kept, all] at same
    exact ⟨all ▸ zero_notMem_takeWhile text, same⟩
  · rintro ⟨clean, paired⟩
    rw [kept, whole clean, paired]

section
variable {wide : Bytes → List Nat} {narrow : List Nat → Bytes} {text : List Nat}
  {clipboard : Clipboard}

/-- No call of `set_text` fails but perhaps `EmptyClipboard`. -/
def Succeed (calls : ClipboardCalls) : Prop :=
  calls.opened = true ∧ calls.measured = true ∧ calls.allocated = true ∧ calls.locked = true ∧
    calls.converted = true ∧ calls.stored = true

theorem setText_succeed (converts : Converts wide narrow) (units : Units text)
    {calls : ClipboardCalls} (succeed : Succeed calls) :
    (setText wide calls clipboard (Utf8.encode text)).1.unicodeText = some (terminated text) := by
  obtain ⟨opened, measured, allocated, locked, converted, stored⟩ := succeed
  have content := converts.wide _ _ (zero_notMem_cStr _) (decode_cStr_encode units)
  have ready : ¬ (calls.measured = false ∨ calls.allocated = false ∨ calls.locked = false) := by
    simp [measured, allocated, locked]
  rw [setText_prepared opened ready, stored, if_pos rfl, written, converted, if_pos rfl, content]
  rfl

/-- What a call that reports success has got through. -/
theorem setText_reports {calls : ClipboardCalls} {bytes : Bytes}
    (fine : (setText wide calls clipboard bytes).2 = true) :
    calls.opened = true ∧ calls.measured = true ∧ calls.allocated = true ∧
      calls.locked = true := by
  by_cases opened : calls.opened = true
  · by_cases failed : calls.measured = false ∨ calls.allocated = false ∨ calls.locked = false
    · rw [setText_unprepared opened failed] at fine
      cases fine
    · simp only [not_or, Bool.not_eq_false] at failed
      exact ⟨opened, failed⟩
  · rw [setText, if_pos opened] at fine
    cases fine

/-- After a call that fails the clipboard is as before or has no text. -/
theorem setText_fails {calls : ClipboardCalls} {bytes : Bytes}
    (fails : (setText wide calls clipboard bytes).2 = false) :
    (setText wide calls clipboard bytes).1 = clipboard ∨
      (setText wide calls clipboard bytes).1.unicodeText = none := by
  by_cases opened : calls.opened = true
  · by_cases failed : calls.measured = false ∨ calls.allocated = false ∨ calls.locked = false
    · rw [setText_unprepared opened failed, emptying]
      cases calls.emptied with
      | true => exact .inr rfl
      | false => exact .inl rfl
    · rw [setText_prepared opened failed] at fails
      cases fails
  · rw [setText, if_pos opened]
    exact .inl rfl

end

section
variable {wide : Bytes → List Nat} {narrow : List Nat → Bytes} {settings : Settings}
  {os : Nat → ClipboardCalls} {clipboard : Clipboard}

/-- The clipboard after the packets that the host has handled. While it handles the `i`-th of
them, Windows answers `os i`. -/
def clipboardAfter (wide : Bytes → List Nat) (settings : Settings) (os : Nat → ClipboardCalls)
    (clipboard : Clipboard) (packets : List Bytes) : Clipboard :=
  packets.zipIdx.foldl (fun clipboard (packet, i) =>
    match handlePacket settings packet with
    | some (.calls (.setText text)) => (setText wide (os i) clipboard text).1
    | _ => clipboard) clipboard

/-- Windows answers as the run goes on: `set_text` has returned what the host has gone on with. The
two calls of which it does not look at the result have succeeded. -/
def Answered (wide : Bytes → List Nat) (settings : Settings) (os : Nat → ClipboardCalls)
    (handled : List (Bytes × Bool)) : Prop :=
  ∀ i packet ok text, handled[i]? = some (packet, ok) →
    handlePacket settings packet = some (.calls (.setText text)) →
    (os i).converted = true ∧ (os i).stored = true ∧
      ∀ clipboard, (setText wide (os i) clipboard text).2 = ok

/-- The text of a message that carries one. -/
def syncedText : SessionCodec.Call → Option (List Nat)
  | .clipboardText text => some text
  | _ => none

theorem syncedText_input (calls : List SessionCodec.Call) :
    calls.filterMap syncedText = (calls.filter isInput).filterMap syncedText := by
  rw [List.filterMap_filter]
  refine congrArg (List.filterMap · calls) (funext fun call => ?_)
  cases call <;> rfl

/-- The host calls `set_text` for a message with a text, and for no other. -/
theorem handlePacket_synced (enabled : settings.clipboardEnabled = true) {m : Posted}
    (posts : Posts m.1) {bytes : Bytes} :
    handlePacket settings m.bytes = some (.calls (.setText bytes)) ↔
      ∃ text, syncedText m.1 = some text ∧ bytes = Utf8.encode text := by
  obtain ⟨handling, handled, does⟩ := handlePacket_effect settings posts
  have called : handlePacket settings m.bytes = some (.calls (.setText bytes)) ↔
      effect settings m.1 = some (.setText bytes) := by
    rw [handled, does]
    cases effect settings m.1 with
    | none => exact iff_of_false nofun nofun
    | some call => simp
  rw [called]
  obtain ⟨call, now⟩ := m
  cases call with
  | clipboardText text =>
      simp only [effect, enabled, not_true_eq_false, if_false, syncedText, Option.some.injEq,
        HandlerCall.setText.injEq, exists_eq_left', eq_comm]
  | mouseEvent x y wheelDelta buttons flags =>
      simp only [effect, syncedText]
      split
      · simp
      split
      · simp
      split <;> simp
  | keyEvent virtualKey scanCode down =>
      simp only [effect, syncedText]
      split <;> simp
  | _ => simp [effect, syncedText]

theorem clipboardAfter_concat (packets : List Bytes) (packet : Bytes) :
    clipboardAfter wide settings os clipboard (packets ++ [packet]) =
      match handlePacket settings packet with
      | some (.calls (.setText text)) =>
        (setText wide (os packets.length)
          (clipboardAfter wide settings os clipboard packets) text).1
      | _ => clipboardAfter wide settings os clipboard packets := by
  simp only [clipboardAfter, List.zipIdx_append, List.foldl_append, List.zipIdx_singleton,
    List.foldl_cons, List.foldl_nil, Nat.zero_add]

/-- A message without a text leaves the clipboard alone. -/
theorem clipboardAfter_other (enabled : settings.clipboardEnabled = true) {m : Posted}
    (posts : Posts m.1) (other : syncedText m.1 = none) (packets : List Bytes) :
    clipboardAfter wide settings os clipboard (packets ++ [m.bytes]) =
      clipboardAfter wide settings os clipboard packets := by
  rw [clipboardAfter_concat]
  split
  · next text called =>
      obtain ⟨_, synced, _⟩ := (handlePacket_synced enabled posts).mp called
      cases other.symm.trans synced
  · rfl

theorem clipboardAfter_text (enabled : settings.clipboardEnabled = true) {m : Posted}
    (posts : Posts m.1) {text : List Nat} (synced : syncedText m.1 = some text)
    (packets : List Bytes) :
    clipboardAfter wide settings os clipboard (packets ++ [m.bytes]) =
      (setText wide (os packets.length) (clipboardAfter wide settings os clipboard packets)
        (Utf8.encode text)).1 := by
  rw [clipboardAfter_concat, (handlePacket_synced enabled posts).mpr ⟨text, synced, rfl⟩]

/-- A message with which `set_text` fails leaves the clipboard alone or without a text. -/
theorem clipboardAfter_fails (enabled : settings.clipboardEnabled = true) {m : Posted}
    (posts : Posts m.1) {packets : List Bytes}
    (fails : ∀ text, syncedText m.1 = some text → ∀ clipboard,
      (setText wide (os packets.length) clipboard (Utf8.encode text)).2 = false) :
    clipboardAfter wide settings os clipboard (packets ++ [m.bytes]) =
        clipboardAfter wide settings os clipboard packets ∨
      (clipboardAfter wide settings os clipboard (packets ++ [m.bytes])).unicodeText = none := by
  cases synced : syncedText m.1 with
  | none => exact .inl (clipboardAfter_other enabled posts synced packets)
  | some text =>
      rw [clipboardAfter_text enabled posts synced]
      exact setText_fails (fails text synced _)

/-- While no call has failed, the clipboard holds the last of the texts. -/
theorem clipboardAfter_last (converts : Converts wide narrow)
    (enabled : settings.clipboardEnabled = true) {taken : List Posted}
    (posts : ∀ m ∈ taken, Posts m.1)
    (units : ∀ text ∈ (taken.map Prod.fst).filterMap syncedText, Units text)
    (succeed : ∀ i m text, taken[i]? = some m → syncedText m.1 = some text → Succeed (os i)) :
    (clipboardAfter wide settings os clipboard (taken.map Posted.bytes)).unicodeText =
      (((taken.map Prod.fst).filterMap syncedText).getLast?.map terminated).or
        clipboard.unicodeText := by
  induction taken using List.reverseRecOn with
  | nil => rfl
  | append_singleton taken m ih =>
      obtain ⟨posts, here⟩ := List.forall_mem_append.mp posts
      have here := here m (List.mem_singleton_self m)
      rw [List.map_append, List.filterMap_append] at units
      obtain ⟨units, last⟩ := List.forall_mem_append.mp units
      have earlier : ∀ i m' text, taken[i]? = some m' → syncedText m'.1 = some text →
          Succeed (os i) := by
        intro i m' text found synced
        obtain ⟨inside, _⟩ := List.getElem?_eq_some_iff.mp found
        exact succeed i m' text ((List.getElem?_append_left inside).trans found) synced
      have ih := ih posts units earlier
      rw [List.map_append, List.map_append, List.filterMap_append]
      cases synced : syncedText m.1 with
      | none =>
          have nothing : ([m].map Prod.fst).filterMap syncedText = [] := by simp [synced]
          rw [nothing, List.append_nil, ← ih]
          exact congrArg Clipboard.unicodeText (clipboardAfter_other enabled here synced _)
      | some text =>
          have only : ([m].map Prod.fst).filterMap syncedText = [text] := by simp [synced]
          rw [only] at last ⊢
          have done : Succeed (os (taken.map Posted.bytes).length) := by
            rw [List.length_map]
            exact succeed taken.length m text List.getElem?_concat_length synced
          rw [List.getLast?_concat]
          refine Eq.trans (congrArg Clipboard.unicodeText
            (clipboardAfter_text enabled here synced _)) ?_
          exact setText_succeed converts (last text (List.mem_singleton_self text)) done

namespace Answered
variable {handled : List (Bytes × Bool)} {taken : List Posted}

theorem front {more : List (Bytes × Bool)}
    (answered : Answered wide settings os (handled ++ more)) :
    Answered wide settings os handled := by
  intro i packet ok text at_ called
  obtain ⟨inside, _⟩ := List.getElem?_eq_some_iff.mp at_
  exact answered i packet ok text ((List.getElem?_append_left inside).trans at_) called

theorem reports (answered : Answered wide settings os handled)
    (enabled : settings.clipboardEnabled = true) {i : Nat} {m : Posted} {ok : Bool}
    {text : List Nat} (posts : Posts m.1) (at_ : handled[i]? = some (m.bytes, ok))
    (synced : syncedText m.1 = some text) :
    (os i).converted = true ∧ (os i).stored = true ∧
      ∀ clipboard, (setText wide (os i) clipboard (Utf8.encode text)).2 = ok :=
  answered i m.bytes ok _ at_ ((handlePacket_synced enabled posts).mpr ⟨text, synced, rfl⟩)

/-- While every packet is accepted, the clipboard holds the last of the texts. -/
theorem holds (answered : Answered wide settings os handled) (converts : Converts wide narrow)
    (enabled : settings.clipboardEnabled = true) (posts : ∀ m ∈ taken, Posts m.1)
    (units : ∀ text ∈ (taken.map Prod.fst).filterMap syncedText, Units text)
    (same : handled.map Prod.fst = taken.map Posted.bytes)
    (accepted : ∀ entry ∈ handled, entry.2 = true) (clipboard : Clipboard) :
    (clipboardAfter wide settings os clipboard (handled.map Prod.fst)).unicodeText =
      (((taken.map Prod.fst).filterMap syncedText).getLast?.map terminated).or
        clipboard.unicodeText := by
  rw [same]
  refine clipboardAfter_last converts enabled posts units ?_
  intro i m text found synced
  have packet : (handled.map Prod.fst)[i]? = some m.bytes := by
    rw [same, List.getElem?_map, found]
    rfl
  rw [List.getElem?_map] at packet
  obtain ⟨⟨_, ok⟩, at_, rfl⟩ := Option.map_eq_some_iff.mp packet
  obtain rfl : ok = true := accepted _ (List.mem_of_getElem? at_)
  obtain ⟨converted, stored, reports⟩ :=
    answered.reports enabled (posts m (List.mem_of_getElem? found)) at_ synced
  obtain ⟨opened, measured, allocated, locked⟩ := setText_reports (reports {})
  exact ⟨opened, measured, allocated, locked, converted, stored⟩

/-- When the last packet is refused, what was set before it is still there, or nothing is. -/
theorem refused {m : Posted} (answered : Answered wide settings os (handled ++ [(m.bytes, false)]))
    (converts : Converts wide narrow) (enabled : settings.clipboardEnabled = true)
    (posts : ∀ other ∈ taken, Posts other.1) (here : Posts m.1)
    (units : ∀ text ∈ (taken.map Prod.fst).filterMap syncedText, Units text)
    (same : handled.map Prod.fst = taken.map Posted.bytes)
    (accepted : ∀ entry ∈ handled, entry.2 = true) :
    let held :=
      clipboardAfter wide settings os clipboard ((handled ++ [(m.bytes, false)]).map Prod.fst)
    held.unicodeText = (((taken.map Prod.fst).filterMap syncedText).getLast?.map terminated).or
      clipboard.unicodeText ∨ held.unicodeText = none := by
  have before := answered.front.holds converts enabled posts units same accepted clipboard
  have fails : ∀ text, syncedText m.1 = some text → ∀ clipboard,
      (setText wide (os (handled.map Prod.fst).length) clipboard (Utf8.encode text)).2 = false := by
    intro text synced
    rw [List.length_map]
    exact (answered.reports enabled here List.getElem?_concat_length synced).2.2
  rw [List.map_append]
  refine (clipboardAfter_fails enabled here fails).imp_left fun unchanged => ?_
  exact (congrArg Clipboard.unicodeText unchanged).trans before

/-- Only the last packet can have been refused. What has been set are the texts before it. -/
theorem follows (answered : Answered wide settings os handled) (converts : Converts wide narrow)
    (enabled : settings.clipboardEnabled = true) (posts : ∀ m ∈ taken, Posts m.1)
    (units : ∀ text ∈ (taken.map Prod.fst).filterMap syncedText, Units text)
    (same : handled.map Prod.fst = taken.map Posted.bytes)
    (accepted : ∀ entry ∈ handled.dropLast, entry.2 = true) :
    let texts := (taken.map Prod.fst).filterMap syncedText
    let held := clipboardAfter wide settings os clipboard (handled.map Prod.fst)
    ∃ arrived, arrived <+: texts ∧
      (held.unicodeText = (arrived.getLast?.map terminated).or clipboard.unicodeText ∨
        (¬ ∀ entry ∈ handled, entry.2 = true) ∧ held.unicodeText = none) ∧
      ((∀ entry ∈ handled, entry.2 = true) → arrived = texts) := by
  by_cases fine : ∀ entry ∈ handled, entry.2 = true
  · have whole := answered.holds converts enabled posts units same fine clipboard
    exact ⟨_, List.prefix_rfl, .inl whole, fun _ => rfl⟩
  rcases List.eq_nil_or_concat' handled with rfl | ⟨front, ⟨packet, ok⟩, rfl⟩
  · exact absurd (List.forall_mem_nil _) fine
  rw [List.dropLast_concat] at accepted
  obtain rfl : ok = false := by
    rw [← Bool.not_eq_true]
    intro good
    exact fine (List.forall_mem_append.mpr ⟨accepted, List.forall_mem_singleton.mpr good⟩)
  rw [List.map_append] at same
  obtain ⟨before, last, rfl, sameBefore, sameLast⟩ := List.map_eq_append_iff.mp same.symm
  obtain ⟨m, rfl, rfl⟩ := List.map_eq_singleton_iff.mp sameLast
  obtain ⟨posts, here⟩ := List.forall_mem_append.mp posts
  rw [List.map_append, List.filterMap_append] at units ⊢
  refine ⟨(before.map Prod.fst).filterMap syncedText, List.prefix_append _ _, ?_,
    fun good => absurd good fine⟩
  refine (answered.refused converts enabled posts (here m (List.mem_singleton_self m))
    (List.forall_mem_append.mp units).1 sameBefore.symm accepted).imp_right ?_
  exact fun none_ => ⟨fine, none_⟩

end Answered

end

section
variable {Double : Type} {d : Doubles Double} {clock : Nat → DateTime} {s : Nat}
  {transport : Transport} {calls : HelloCalls} {host : String} {port : Nat}
  {earlier : RemoteSessionClient} {rendering : Nat} {labels : List (Label Double)} {l : Link}

/-- The texts that are synced are those of the user. -/
theorem mem_performed {text : List Nat} {m : Link}
    (synced : text ∈ (performed d clock s m labels).filterMap syncedText) :
    .input (.clipboard text) ∈ labels := by
  induction labels generalizing m with
  | nil => cases synced
  | cons label labels ih =>
      rw [performed, List.filterMap_append] at synced
      rcases List.mem_append.mp synced with here | later
      · obtain ⟨call, member, found⟩ := List.mem_filterMap.mp here
        obtain rfl : call = .clipboardText text := by
          cases call <;> cases found
          rfl
        cases label with
        | input input =>
            rw [performedBy] at member
            split at member
            · cases member
            · rw [RemoteSessionClient.callOf_clipboard d (Option.mem_toList.mp member)]
              exact List.mem_cons_self
        | _ => cases member
      · refine List.mem_cons_of_mem label ?_
        cases taken : m.step d clock s label with
        | none =>
            rw [taken] at later
            cases later
        | some next =>
            rw [taken] at later
            exact ih later

/-- What was handled before the last packet was accepted, and that one too while the connection is
open. -/
theorem Upward.accepted
    (run : Upward d clock s transport calls host port earlier rendering labels l) :
    (∀ entry ∈ l.host.incoming.handled.dropLast, entry.2 = true) ∧
      (l.host.connected = true → ∀ entry ∈ l.host.incoming.handled, entry.2 = true) := by
  obtain ⟨posted, rest, up, _⟩ := run.upstream
  exact ⟨up.accepted, fun open_ => (up.live open_).2⟩

/-- In every run the clipboard of the host holds the last of the texts that have arrived, cut at
its first NUL and with its lone surrogates replaced; the texts arrive in the order in which the
user syncs them, and all of them when nothing is on its way. Only when `set_text` has failed, which
ends the connection, there may be no text. -/
theorem clipboard_holds_last_synced {wide : Bytes → List Nat} {narrow : List Nat → Bytes}
    (converts : Converts wide narrow) {settings : Settings}
    (enabled : settings.clipboardEnabled = true)
    (run : Upward d clock s transport calls host port earlier rendering labels l)
    (units : ∀ text, .input (.clipboard text) ∈ labels → Units text) {os : Nat → ClipboardCalls}
    (answered : Answered wide settings os l.host.incoming.handled) (clipboard : Clipboard) :
    let first := Link.start clock s transport calls host port earlier rendering
    let texts := (performed d clock s first labels).filterMap syncedText
    let held := clipboardAfter wide settings os clipboard (l.host.incoming.handled.map Prod.fst)
    ∃ arrived, arrived <+: texts ∧
      (held.unicodeText = (arrived.getLast?.map terminated).or clipboard.unicodeText ∨
        l.host.connected = false ∧ held.unicodeText = none) ∧
      (l.host.connected = true → l.host.incoming.wire = [] → arrived = texts) := by
  intro first texts held
  obtain ⟨taken, posts, same, inside, all⟩ := run.taken
  obtain ⟨before_, open_⟩ := run.accepted
  have arrives : (taken.map Prod.fst).filterMap syncedText <+: texts := by
    rw [syncedText_input]
    exact inside.filterMap syncedText
  have known : ∀ text ∈ (taken.map Prod.fst).filterMap syncedText, Units text :=
    fun text member => units text (mem_performed (arrives.subset member))
  obtain ⟨arrived, front, holds, whole⟩ :=
    answered.follows converts enabled posts known same before_
  refine ⟨arrived, front.trans arrives, ?_, ?_⟩
  · refine holds.imp_right fun ⟨refused, none_⟩ => ⟨?_, none_⟩
    rw [← Bool.not_eq_true]
    exact fun here => refused (open_ here)
  · intro here empty
    rw [whole (open_ here), syncedText_input, all here empty]

end

theorem converts_documented : Converts toWide Utf8.encode := by
  constructor
  · intro text units _ decoded
    rw [toWide, decoded]
    rfl
  · intro units _ _ _
    rfl

/-- Two texts are synced, the second with a lone surrogate and a NUL in it, and the host reads all
packets. -/
def syncVisit : List (Label Int) :=
  let a : Answers := ⟨false, .ok true, [24], [16], inputOn, true⟩
  [.input (.clipboard [97]), .receive a [], .receive a [], .receive a [],
    .input (.clipboard [104, 0xD800, 105, 0, 106]), .receive a []]

theorem clipboard_holds_last_synced_cut :
    ∃ l : Link, l.host.incoming.handled.length = 4 ∧
      (clipboardAfter toWide inputOn (fun _ => {}) {}
        (l.host.incoming.handled.map Prod.fst)).unicodeText = some [104, 0xFFFD, 105, 0] := by
  let first := Link.start epoch 7 { socket := some 1 } shortHello "host" 4545 {} 0
  have ends : (exec (Link.step Pointing.wholeDoubles epoch 7) first syncVisit).map (fun l =>
      (l.host.connected, l.host.incoming.wire, l.host.incoming.handled.length)) =
        some (true, [], 4) := by
    decide +kernel
  obtain ⟨l, reached, facts⟩ := Option.map_eq_some_iff.mp ends
  simp only [Prod.mk.injEq] at facts
  obtain ⟨open_, empty, size⟩ := facts
  have short : ∀ label ∈ syncVisit, label.Short := by
    have first : (Utf8.encode [97]).length ≤ clipboardLimit := by decide
    have second : (Utf8.encode [104, 0xD800, 105, 0, 106]).length ≤ clipboardLimit := by decide
    simp only [syncVisit, List.forall_mem_cons]
    exact ⟨first, trivial, trivial, trivial, second, trivial, nofun⟩
  have run : Upward Pointing.wholeDoubles epoch 7 { socket := some 1 } shortHello "host" 4545 {} 0
      syncVisit l := ⟨short, reached⟩
  have units : ∀ text, .input (.clipboard text) ∈ syncVisit → Units text := by
    simp [syncVisit, Units]
  have answered : Answered toWide inputOn (fun _ => {}) l.host.incoming.handled := by
    intro i packet ok text at_ _
    refine ⟨rfl, rfl, fun clipboard => ?_⟩
    exact (run.accepted.2 open_ _ (List.mem_of_getElem? at_)).symm
  obtain ⟨arrived, _, holds, all⟩ :=
    clipboard_holds_last_synced converts_documented rfl run units answered {}
  have texts : (performed Pointing.wholeDoubles epoch 7 first syncVisit).filterMap syncedText =
      [[97], [104, 0xD800, 105, 0, 106]] := by
    decide +kernel
  rw [all open_ empty, texts] at holds
  refine ⟨l, size, holds.resolve_right fun closed => ?_⟩
  exact Bool.false_ne_true (closed.1.symm.trans open_)

section
variable {wide : Bytes → List Nat} {narrow : List Nat → Bytes} {text : List Nat}
  {clipboard : Clipboard}

/-- No call of `get_text` fails. -/
def Reads (calls : ReadingCalls) : Prop :=
  calls.opened = true ∧ calls.found = true ∧ calls.locked = true ∧ calls.measured = true ∧
    calls.converted = true

/-- What is read of a text that is kept: the bytes that were set, up to the first NUL. -/
theorem getText_kept (converts : Converts wide narrow) (units : Units text)
    (here : clipboard.unicodeText = some (kept text ++ [0])) {calls : ReadingCalls}
    (reads : Reads calls) (old : Bytes) :
    getText narrow calls clipboard old = (cStr (Utf8.encode text), true) := by
  obtain ⟨opened, found, locked, measured, converted⟩ := reads
  have small : ∀ unit ∈ kept text, unit < 0x10000 := Utf8.mend_lt units.front
  have clean : 0 ∉ kept text := by
    intro member
    exact zero_notMem_takeWhile text ((Utf8.zero_mem_mend _).mp member)
  have whole : (kept text ++ [0]).takeWhile (· ≠ 0) = kept text := by
    rw [List.takeWhile_append_of_pos, List.takeWhile_cons_of_neg (by decide), List.append_nil]
    intro unit member
    apply decide_eq_true
    rintro rfl
    exact clean member
  have bytes : narrow (kept text) = cStr (Utf8.encode text) := by
    rw [converts.narrow _ small clean (Utf8.mend_mend units.front), kept, Utf8.encode_mend, cStr,
      Utf8.takeWhile_encode units]
  simp only [getText, opened, found, here, locked, measured, converted, not_true_eq_false,
    if_false, if_true]
  rw [whole, bytes]

theorem getText_empty (empty : clipboard.unicodeText = none) (calls : ReadingCalls)
    (old : Bytes) : getText narrow calls clipboard old = (old, false) := by
  rw [getText, empty, ite_self]
  split <;> rfl

end

/-- A text of the client that is set on the host's clipboard is read off it unchanged exactly when
it has no NUL and its surrogates are paired. A call that fails to set it leaves what was there to
be read, or nothing, and then the caller's string is untouched, as it is when the clipboard holds
no text. -/
theorem getText_after_setText {wide : Bytes → List Nat} {narrow : List Nat → Bytes}
    (converts : Converts wide narrow) {text : List Nat} (units : Units text)
    (set : ClipboardCalls) (read : ReadingCalls) (clipboard : Clipboard) (old : Bytes) :
    let next := setText wide set clipboard (Utf8.encode text)
    let got := getText narrow read next.1 old
    (Succeed set → Reads read →
      got.2 = true ∧ (Utf8.decode got.1 = some text ↔ 0 ∉ text ∧ Utf8.mend text = text)) ∧
    (next.2 = false → got = getText narrow read clipboard old ∨ got = (old, false)) ∧
    (clipboard.unicodeText = none → getText narrow read clipboard old = (old, false)) := by
  intro next got
  refine ⟨?_, ?_, fun empty => getText_empty empty read old⟩
  · intro succeed reads
    have same : got = (cStr (Utf8.encode text), true) :=
      getText_kept converts units (setText_succeed converts units succeed) reads old
    rw [same, decode_cStr_encode units, Option.some_inj, kept_eq_iff]
    exact ⟨rfl, .rfl⟩
  · intro fails
    rcases setText_fails fails with unchanged | empty
    · exact .inl (congrArg (getText narrow read · old) unchanged)
    · exact .inr (getText_empty empty read old)

theorem getText_after_setText_pair :
    Utf8.decode (getText Utf8.encode {} (setText toWide {} {} (Utf8.encode [104, 0xD83D, 0xDE00])).1
      []).1 = some [104, 0xD83D, 0xDE00] := by
  have units : Units [104, 0xD83D, 0xDE00] := by
    simp [Units]
  have whole := (getText_after_setText converts_documented units {} {} {} []).1
    ⟨rfl, rfl, rfl, rfl, rfl, rfl⟩ ⟨rfl, rfl, rfl, rfl, rfl⟩
  exact whole.2.mpr ⟨by decide, rfl⟩

end Screenscrab.Remote
