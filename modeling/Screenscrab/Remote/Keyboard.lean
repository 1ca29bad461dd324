import Screenscrab.Client.Input
import Screenscrab.Remote.Accepted
import Mathlib.Data.List.Nodup

/-! The keys of the client as the host presses them. -/
namespace Screenscrab.Remote
open Dart Client Session

/-- The host's view of a virtual key: whether its last injected transition is a key-down. -/
def regards (calls : List HandlerCall) (virtualKey : UInt16) : Bool :=
  calls.foldl (fun pressed call =>
    match call with
    | .key down key => if key = virtualKey then down else pressed
    | _ => pressed) false

theorem regards_key (calls : List HandlerCall) (down : Bool) (key virtualKey : UInt16) :
    regards (calls ++ [.key down key]) virtualKey =
      if key = virtualKey then down else regards calls virtualKey := by
  simp only [regards, List.foldl_append, List.foldl_cons, List.foldl_nil]

/-- The keys that are held, each with the logical key it was pressed as, and the client. -/
structure Keyboard (Physical Key : Type) where
  held : List (Physical × Key) := []
  client : RemoteSessionClient

namespace Keyboard
variable {Physical Key : Type} [DecidableEq Key] (k : LogicalKeys Key)

/-- `_windowsVirtualKey` maps the key to this virtual key of the host. -/
def Maps (key : Key) (virtualKey : UInt16) : Prop :=
  ∃ n, windowsVirtualKey k key = some n ∧ n ≠ 0 ∧ UInt16.ofNat n = virtualKey

variable {k}

/-- The packet of a key, as the host handles it. -/
theorem handlePacket_key {s : Settings} (enabled : s.inputEnabled = true) {n : Nat}
    (small : n < 0x100) (down : Bool) (now : DateTime) :
    handlePacket s (SessionCodec.keyEvent n 0 down now).encode =
      some (.calls (.key down (UInt16.ofNat n))) := by
  have word : (UInt32.ofNat n).toNat = n := by
    rw [UInt32.toNat_ofNat']
    omega
  have same : SessionCodec.keyEvent n 0 down now =
      (Message.key (UInt32.ofNat n) 0 down).packet now := by
    rw [Message.packet, word]
    rfl
  have size : (SessionCodec.keyEvent n 0 down now).payload.length = 16 := by
    rw [same, packet_payload, make_length]
    rfl
  have fits : (SessionCodec.keyEvent n 0 down now).OnWire := .unflagged (by omega) rfl
  obtain ⟨view, type, payload, handled⟩ := handlePacket_encode s fits (by omega)
  have key : (UInt32.ofNat n).toUInt16 = UInt16.ofNat n := by
    apply UInt16.toNat_inj.mp
    rw [UInt32.toNat_toUInt16, word, UInt16.toNat_ofNat']
  rw [handled, dispatch, type, payload, same, packet_payload]
  exact (handleInput_key enabled (UInt32.ofNat n) 0 down).trans (by rw [key])

/-- What an event makes of the host's view of a virtual key. -/
theorem regards_event {s : Settings} (enabled : s.inputEnabled = true)
    {c : RemoteSessionClient} (connected : c.socket ≠ none) (event : KeyEvent Physical Key)
    (now : DateTime) (virtualKey : UInt16) :
    (Maps k event.logicalKey virtualKey →
      regards (injected s (sendKeyEvent k c event now).added) virtualKey =
        decide (event.kind = .down)) ∧
    (¬ Maps k event.logicalKey virtualKey →
      regards (injected s (sendKeyEvent k c event now).added) virtualKey =
        regards (injected s c.added) virtualKey) := by
  have result : ∀ n, windowsVirtualKey k event.logicalKey = some n → n ≠ 0 →
      regards (injected s (sendKeyEvent k c event now).added) virtualKey =
        if UInt16.ofNat n = virtualKey then decide (event.kind = .down)
        else regards (injected s c.added) virtualKey := by
    intro n mapped named
    have handled := handlePacket_key enabled (windowsVirtualKey_lt k mapped)
      (decide (event.kind = .down)) now
    simp only [sendKeyEvent, mapped, if_neg named, RemoteSessionClient.sendKeyEvent]
    rw [RemoteSessionClient.added_send connected, injected_concat _ handled, regards_key]
  constructor
  · rintro ⟨n, mapped, named, same⟩
    rw [result n mapped named, if_pos same]
  · intro other
    cases mapped : windowsVirtualKey k event.logicalKey with
    | none => simp only [sendKeyEvent, mapped]
    | some n =>
        by_cases named : n = 0
        · simp only [sendKeyEvent, mapped, if_pos named]
        · rw [result n mapped named, if_neg fun same => other ⟨n, mapped, named, same⟩]

theorem sendKeyEvent_socket (c : RemoteSessionClient) (event : KeyEvent Physical Key)
    (now : DateTime) : (sendKeyEvent k c event now).socket = c.socket := by
  unfold sendKeyEvent
  split
  · rfl
  · split
    · rfl
    · exact c.send_socket _

variable [DecidableEq Physical] (k) (clock : Nat → DateTime)

/-- One key event. A key goes down only when it is up, and repeats and is released as the logical
key it was pressed as. -/
def step (b : Keyboard Physical Key) (event : KeyEvent Physical Key) :
    Option (Keyboard Physical Key) :=
  let client := sendKeyEvent k b.client event (clock b.client.trace.length)
  match event.kind with
  | .down =>
    if event.physicalKey ∈ b.held.map Prod.fst then none
    else some { held := (event.physicalKey, event.logicalKey) :: b.held, client }
  | .repeat =>
    if (event.physicalKey, event.logicalKey) ∈ b.held then some { b with client } else none
  | .up =>
    if (event.physicalKey, event.logicalKey) ∈ b.held then
      some { held := b.held.filter (·.1 ≠ event.physicalKey), client }
    else none

/-- The host regards as pressed what is held. -/
def Follows (s : Settings) (b : Keyboard Physical Key) : Prop :=
  ∀ virtualKey, regards (injected s b.client.added) virtualKey = true ↔
    ∃ entry ∈ b.held, Maps k entry.2 virtualKey

/-- No repeat of a key that the host has, and no release of a key while another one that is held
has the same virtual key. -/
def Plain (b : Keyboard Physical Key) (event : KeyEvent Physical Key) : Prop :=
  ∀ virtualKey, Maps k event.logicalKey virtualKey → event.kind ≠ .repeat ∧
    (event.kind = .up → ∀ entry ∈ b.held, entry.1 ≠ event.physicalKey → ¬ Maps k entry.2 virtualKey)

variable {k} {clock}

/-- What an enabled event does to the client and to the keys that are held. -/
theorem step_cases {b next : Keyboard Physical Key} {event : KeyEvent Physical Key}
    (taken : step k clock b event = some next) :
    next.client = sendKeyEvent k b.client event (clock b.client.trace.length) ∧
    ((event.kind = .down ∧ event.physicalKey ∉ b.held.map Prod.fst ∧
        next.held = (event.physicalKey, event.logicalKey) :: b.held) ∨
      (event.kind = .repeat ∧ (event.physicalKey, event.logicalKey) ∈ b.held ∧
        next.held = b.held) ∨
      (event.kind = .up ∧ (event.physicalKey, event.logicalKey) ∈ b.held ∧
        next.held = b.held.filter (·.1 ≠ event.physicalKey))) := by
  unfold step at taken
  split at taken
  · next kind =>
      split at taken <;> cases taken
      next free => exact ⟨rfl, .inl ⟨kind, free, rfl⟩⟩
  · next kind =>
      split at taken <;> cases taken
      next held => exact ⟨rfl, .inr (.inl ⟨kind, held, rfl⟩)⟩
  · next kind =>
      split at taken <;> cases taken
      next held => exact ⟨rfl, .inr (.inr ⟨kind, held, rfl⟩)⟩

/-- A connected client, no key pressed twice, and a host that follows. -/
structure Sound (k : LogicalKeys Key) (s : Settings) (b : Keyboard Physical Key) : Prop where
  connected : b.client.socket ≠ none
  once : (b.held.map Prod.fst).Nodup
  follows : Follows k s b

theorem once_step {b next : Keyboard Physical Key} {event : KeyEvent Physical Key}
    (once : (b.held.map Prod.fst).Nodup) (taken : step k clock b event = some next) :
    (next.held.map Prod.fst).Nodup := by
  obtain ⟨_, ⟨_, free, held⟩ | ⟨_, _, held⟩ | ⟨_, _, held⟩⟩ := step_cases taken
  · rw [held]
    exact List.nodup_cons.mpr ⟨free, once⟩
  · rw [held]
    exact once
  · rw [held]
    exact once.sublist (List.filter_sublist.map Prod.fst)

/-- A key that an event does not concern stays mapped as it was. -/
theorem held_other {b next : Keyboard Physical Key} {event : KeyEvent Physical Key}
    (once : (b.held.map Prod.fst).Nodup) (taken : step k clock b event = some next)
    {virtualKey : UInt16} (other : ¬ Maps k event.logicalKey virtualKey) :
    (∃ entry ∈ next.held, Maps k entry.2 virtualKey) ↔
      ∃ entry ∈ b.held, Maps k entry.2 virtualKey := by
  obtain ⟨_, ⟨_, _, held⟩ | ⟨_, _, held⟩ | ⟨_, member, held⟩⟩ := step_cases taken
  · rw [held]
    constructor
    · rintro ⟨entry, here, maps⟩
      rcases List.mem_cons.mp here with rfl | before
      · exact absurd maps other
      · exact ⟨entry, before, maps⟩
    · rintro ⟨entry, here, maps⟩
      exact ⟨entry, List.mem_cons_of_mem _ here, maps⟩
  · rw [held]
  · rw [held]
    constructor
    · rintro ⟨entry, here, maps⟩
      exact ⟨entry, (List.mem_filter.mp here).1, maps⟩
    · rintro ⟨entry, here, maps⟩
      refine ⟨entry, List.mem_filter.mpr ⟨here, ?_⟩, maps⟩
      refine decide_eq_true fun same => other ?_
      obtain rfl : entry = (event.physicalKey, event.logicalKey) :=
        List.inj_on_of_nodup_map once here member same
      exact maps

theorem Sound.step {s : Settings} (enabled : s.inputEnabled = true)
    {b next : Keyboard Physical Key} {event : KeyEvent Physical Key} (sound : Sound k s b)
    (plain : Plain k b event) (taken : Keyboard.step k clock b event = some next) :
    Sound k s next := by
  obtain ⟨client, cases_⟩ := step_cases taken
  refine ⟨by rw [client, sendKeyEvent_socket]; exact sound.connected,
    once_step sound.once taken, ?_⟩
  intro virtualKey
  obtain ⟨changed, kept⟩ := regards_event enabled sound.connected event
    (clock b.client.trace.length) virtualKey
  rw [← client] at changed kept
  by_cases maps : Maps k event.logicalKey virtualKey
  · obtain ⟨first, alone⟩ := plain virtualKey maps
    rw [changed maps]
    rcases cases_ with ⟨kind, _, held⟩ | ⟨kind, _⟩ | ⟨kind, _, held⟩
    · rw [kind, held]
      exact ⟨fun _ => ⟨_, List.mem_cons_self, maps⟩, fun _ => rfl⟩
    · exact absurd kind first
    · rw [kind, held]
      constructor
      · nofun
      · rintro ⟨entry, here, maps'⟩
        obtain ⟨member, different⟩ := List.mem_filter.mp here
        exact absurd maps' (alone kind entry member (of_decide_eq_true different))
  · rw [kept maps, held_other sound.once taken maps]
    exact sound.follows virtualKey

def online : RemoteSessionClient := { socket := some 1 }

/-- A key that is pressed and released. -/
def tap : List (KeyEvent Nat Nat) :=
  [⟨.down, 4, 0x61⟩, ⟨.up, 4, 0x61⟩]

end Keyboard
end Screenscrab.Remote
