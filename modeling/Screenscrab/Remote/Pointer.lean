import Screenscrab.Client.Input
import Screenscrab.Remote.Accepted
import Mathlib.Tactic.Tauto

/-! The pointer of the host while the client moves it and presses buttons. -/
namespace Screenscrab.Remote
open Dart Client Session Protocol
open LittleEndian (fields)

theorem stored_ofInt (n : Int) : (n % 256 ^ 4).toNat = (Int32.ofInt n).toUInt32.toNat := by
  have power : (256 : Int) ^ 4 = (2 ^ 32 : Nat) := by norm_num
  rw [← stored_i32, Int32.toInt_ofInt, power]
  exact congrArg Int.toNat (Int.bmod_emod (x := n)).symm

theorem stored_ofInt_unsigned (n : Int) : (n % 256 ^ 4).toNat = (UInt32.ofInt n).toNat := by
  rw [UInt32.ofInt, UInt32.toNat_ofNat']
  omega

/-- A mouse event with any integers is one with their low 32 bits. -/
theorem mouseEvent_make (x y buttons : Int) (flags : UInt32) (now : DateTime) :
    (SessionCodec.mouseEvent x y 0 buttons flags.toNat now).payload =
      (Message.mouse (Int32.ofInt x) (Int32.ofInt y) 0 (UInt32.ofInt buttons) flags).make := by
  rw [SessionCodec.mouseEvent_payload, make_layout]
  simp only [stored, List.map_cons, List.map_nil, stored_u32, Message.layout, Message.text,
    List.append_nil]
  rw [stored_ofInt x, stored_ofInt y, stored_ofInt_unsigned buttons]
  rfl

/-- The bounds under which the host sees the coordinate that was sent. -/
theorem bmod_eq_iff {n m : Int} (natural : 0 ≤ n ∧ n < 2 ^ 32) (natural' : 0 ≤ m ∧ m < 2 ^ 32) :
    n.bmod (2 ^ 32) = m ↔ n = m ∧ m < 2 ^ 31 := by
  rw [Int.bmod_def]
  split <;> omega

theorem handlePacket_mouse {s : Settings} (enabled : s.inputEnabled = true) (x y buttons : Int)
    (flags : UInt32) (unwheeled : flags &&& 0x4 = 0) (now : DateTime) :
    handlePacket s (SessionCodec.mouseEvent x y 0 buttons flags.toNat now).encode =
      some (.calls (if flags &&& 0x2 ≠ 0 then
          .mouseButton (flags &&& 0x1 ≠ 0) (UInt32.ofInt buttons)
        else .moveMouse (x.bmod (2 ^ 32)) (y.bmod (2 ^ 32)))) := by
  have size : (SessionCodec.mouseEvent x y 0 buttons flags.toNat now).payload.length = 24 := by
    rw [mouseEvent_make, make_length]
    rfl
  have fits : (SessionCodec.mouseEvent x y 0 buttons flags.toNat now).OnWire :=
    .unflagged (by omega) rfl
  obtain ⟨view, type, payload, handled⟩ := handlePacket_encode s fits (by omega)
  have input : (SessionCodec.mouseEvent x y 0 buttons flags.toNat now).type = .inputEvent := rfl
  rw [handled, dispatch, type, payload, input, mouseEvent_make]
  refine (handleInput_mouse enabled _ _ _ _ _).trans ?_
  rw [if_neg (by simp [unwheeled]), Int32.toInt_ofInt, Int32.toInt_ofInt]
  rfl

/-- The place the host last moved its pointer to. -/
def pointer (calls : List HandlerCall) : Option (Int × Int) :=
  calls.foldl (fun place call =>
    match call with
    | .moveMouse x y => some (x, y)
    | _ => place) none

theorem pointer_concat (calls : List HandlerCall) (call : HandlerCall) :
    pointer (calls ++ [call]) =
      match call with
      | .moveMouse x y => some (x, y)
      | _ => pointer calls := by
  simp only [pointer, List.foldl_append, List.foldl_cons, List.foldl_nil]

/-- The client and the place that its last position event was about. -/
structure Pointing where
  client : RemoteSessionClient
  last : Option (Int × Int) := none

namespace Pointing
variable {Double : Type} (d : Doubles Double) (clock : Nat → DateTime)

/-- A call of one of the two functions, or metadata that arrives between them. -/
inductive Label (Double : Type) where
  | metadata (payload : Bytes)
  | position (localPosition : Offset Double) (surfaceSize : Size Double)
  | button (localPosition : Offset Double) (surfaceSize : Size Double) (down : Bool) (button : Int)

/-- The metadata of a screen has a positive size. -/
def step (p : Pointing) : Label Double → Option Pointing
  | .metadata payload =>
    match RemoteFrameMetadata.fromBytes payload with
    | none => none
    | some metadata =>
      if 0 < metadata.width ∧ 0 < metadata.height then
        some { p with client := { p.client with pendingMetadata := some metadata } }
      else none
  | .position localPosition surfaceSize =>
    let place := remotePosition d p.client.pendingMetadata localPosition surfaceSize
    some
      { client :=
          p.client.sendMousePosition d localPosition surfaceSize (clock p.client.trace.length)
        last := place.or p.last }
  | .button localPosition surfaceSize down button =>
    some
      { p with
        client := p.client.sendMouseButton d localPosition surfaceSize down button
          (clock p.client.trace.length) }

/-- A screen whose size the client has read from 32-bit words. -/
def Screen (metadata : Option RemoteFrameMetadata) : Prop :=
  ∀ m, metadata = some m → (0 < m.width ∧ m.width < 2 ^ 32) ∧ 0 < m.height ∧ m.height < 2 ^ 32

def Place (x y : Int) : Prop := (0 ≤ x ∧ x < 2 ^ 32) ∧ 0 ≤ y ∧ y < 2 ^ 32

variable {d} {clock}

theorem remoteCoordinate_bound {place surface : Double} {remote n : Int} (positive : 0 < remote)
    (small : remote < 2 ^ 32) (found : remoteCoordinate d place surface remote = some n) :
    0 ≤ n ∧ n < 2 ^ 32 := by
  unfold remoteCoordinate at found
  split at found
  · cases found
    decide
  · simp only [Option.bind_eq_bind, Option.bind_eq_some_iff] at found
    obtain ⟨rounded, _, clamped⟩ := found
    unfold clamp at clamped
    split at clamped
    · cases clamped
    · cases clamped
      omega

theorem remoteExtent_bound {announced : Option Nat} {surface : Double} {remote : Int}
    (screen : ∀ n, announced = some n → 0 < n ∧ n < 2 ^ 32)
    (found : remoteExtent d announced surface = some remote) : 0 < remote ∧ remote < 2 ^ 32 := by
  unfold remoteExtent at found
  split at found
  · next extent =>
      have bounds := screen extent rfl
      cases found
      omega
  · simp only [Option.bind_eq_bind, Option.bind_eq_some_iff] at found
    obtain ⟨rounded, _, clamped⟩ := found
    unfold clamp at clamped
    split at clamped
    · cases clamped
    · cases clamped
      omega

theorem remotePosition_place {metadata : Option RemoteFrameMetadata} (screen : Screen metadata)
    {localPosition : Offset Double} {surfaceSize : Size Double} {x y : Int}
    (found : remotePosition d metadata localPosition surfaceSize = some (x, y)) : Place x y := by
  simp only [remotePosition, Option.bind_eq_bind, Option.bind_eq_some_iff, Option.pure_def] at found
  obtain ⟨width, atWidth, height, atHeight, x', atX, y', atY, pair⟩ := found
  cases pair
  have wide : 0 < width ∧ width < 2 ^ 32 := by
    refine remoteExtent_bound ?_ atWidth
    intro n announced
    obtain ⟨m, present, rfl⟩ := Option.map_eq_some_iff.mp announced
    exact (screen m present).1
  have high : 0 < height ∧ height < 2 ^ 32 := by
    refine remoteExtent_bound ?_ atHeight
    intro n announced
    obtain ⟨m, present, rfl⟩ := Option.map_eq_some_iff.mp announced
    exact (screen m present).2
  exact ⟨remoteCoordinate_bound wide.1 wide.2 atX, remoteCoordinate_bound high.1 high.2 atY⟩

theorem screen_fromBytes {payload : Bytes} {m : RemoteFrameMetadata}
    (read : RemoteFrameMetadata.fromBytes payload = some m) (wide : 0 < m.width)
    (high : 0 < m.height) : Screen (some m) := by
  have word {offset n : Nat} (got : getUint payload offset 4 = some n) : n < 2 ^ 32 := by
    unfold getUint at got
    split at got <;> cases got
    exact LittleEndian.word_lt payload offset 4
  simp only [RemoteFrameMetadata.fromBytes, Option.bind_eq_bind, Option.bind_eq_some_iff,
    Option.pure_def] at read
  obtain ⟨monitorIndex, _, width, atWidth, height, atHeight, strideBytes, _, frameId, _, made⟩ :=
    read
  cases made
  rintro _ ⟨⟩
  exact ⟨⟨wide, word atWidth⟩, high, word atHeight⟩

/-- What the host does for a position event: it moves the pointer there. -/
theorem injected_position {s : Settings} (enabled : s.inputEnabled = true)
    {c : RemoteSessionClient} (connected : c.socket ≠ none) {localPosition : Offset Double}
    {surfaceSize : Size Double} {x y : Int} (now : DateTime)
    (found : remotePosition d c.pendingMetadata localPosition surfaceSize = some (x, y)) :
    injected s (c.sendMousePosition d localPosition surfaceSize now).added =
      injected s c.added ++ [.moveMouse (x.bmod (2 ^ 32)) (y.bmod (2 ^ 32))] := by
  have handled := handlePacket_mouse enabled x y 0 0 (by decide) now
  rw [if_neg (by decide)] at handled
  simp only [RemoteSessionClient.sendMousePosition, found]
  rw [RemoteSessionClient.added_send connected]
  exact injected_concat _ handled

/-- What the host does for a button event: it presses or releases the button where it is. -/
theorem injected_button {s : Settings} (enabled : s.inputEnabled = true)
    {c : RemoteSessionClient} (connected : c.socket ≠ none) {localPosition : Offset Double}
    {surfaceSize : Size Double} {x y : Int} (down : Bool) (button : Int) (now : DateTime)
    (found : remotePosition d c.pendingMetadata localPosition surfaceSize = some (x, y)) :
    injected s (c.sendMouseButton d localPosition surfaceSize down button now).added =
      injected s c.added ++ [.mouseButton down (UInt32.ofInt button)] := by
  simp only [RemoteSessionClient.sendMouseButton, found]
  rw [RemoteSessionClient.added_send connected]
  refine injected_concat _ ?_
  cases down with
  | true =>
      have handled := handlePacket_mouse enabled x y button 3 (by decide) now
      rw [if_pos (by decide)] at handled
      exact handled
  | false =>
      have handled := handlePacket_mouse enabled x y button 2 (by decide) now
      rw [if_pos (by decide)] at handled
      exact handled

/-- The host's pointer is where the last position event was, read as signed coordinates. -/
structure Tracks (s : Settings) (p : Pointing) : Prop where
  connected : p.client.socket ≠ none
  screen : Screen p.client.pendingMetadata
  place : ∀ x y, p.last = some (x, y) → Place x y
  pointer : pointer (injected s p.client.added) =
    p.last.map fun place => (place.1.bmod (2 ^ 32), place.2.bmod (2 ^ 32))

theorem Tracks.step {s : Settings} (enabled : s.inputEnabled = true) {p next : Pointing}
    {label : Label Double} (tracks : Tracks s p) (taken : step d clock p label = some next) :
    Tracks s next := by
  obtain ⟨connected, screen, place, at_⟩ := tracks
  cases label with
  | metadata payload =>
      simp only [Pointing.step] at taken
      split at taken
      · cases taken
      · next m read =>
          split at taken <;> cases taken
          next positive =>
            exact ⟨connected, screen_fromBytes read positive.1 positive.2, place, at_⟩
  | position localPosition surfaceSize =>
      simp only [Pointing.step] at taken
      cases taken
      cases found : remotePosition d p.client.pendingMetadata localPosition surfaceSize with
      | none =>
          simp only [RemoteSessionClient.sendMousePosition, found, Option.none_or]
          exact ⟨connected, screen, place, at_⟩
      | some pair =>
          obtain ⟨x, y⟩ := pair
          have moved := injected_position enabled connected (clock p.client.trace.length) found
          refine ⟨?_, ?_, ?_, ?_⟩
          · simp only [RemoteSessionClient.sendMousePosition, found,
              RemoteSessionClient.send_socket]
            exact connected
          · simp only [RemoteSessionClient.sendMousePosition, found,
              RemoteSessionClient.send_metadata]
            exact screen
          · rintro _ _ ⟨⟩
            exact remotePosition_place screen found
          · rw [moved, pointer_concat]
            rfl
  | button localPosition surfaceSize down button =>
      simp only [Pointing.step] at taken
      cases taken
      cases found : remotePosition d p.client.pendingMetadata localPosition surfaceSize with
      | none =>
          simp only [RemoteSessionClient.sendMouseButton, found]
          exact ⟨connected, screen, place, at_⟩
      | some pair =>
          obtain ⟨x, y⟩ := pair
          have pressed :=
            injected_button enabled connected down button (clock p.client.trace.length) found
          refine ⟨?_, ?_, place, ?_⟩
          · simp only [RemoteSessionClient.sendMouseButton, found, RemoteSessionClient.send_socket]
            exact connected
          · simp only [RemoteSessionClient.sendMouseButton, found,
              RemoteSessionClient.send_metadata]
            exact screen
          · rw [pressed, pointer_concat]
            exact at_

/-- Doubles that are whole numbers. -/
def wholeDoubles : Doubles Int where
  isNonPositive size := size ≤ 0
  scaled place remote size := place * remote / size
  round := some

def metadata : RemoteFrameMetadata where
  monitorIndex := 0
  width := 200
  height := 100
  strideBytes := 800
  frameId := 1

end Pointing
end Screenscrab.Remote
