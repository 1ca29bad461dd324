import Screenscrab.Client.Codec

/-! The input that the client sends: pointer, keys and clipboard. What Flutter and the double
arithmetic of Dart contribute is a parameter. -/
namespace Screenscrab.Client
open Dart

/-- The operations on doubles that map a place on the surface to one on the remote screen. -/
structure Doubles (Double : Type) where
  /-- `d <= 0`. -/
  isNonPositive : Double → Bool
  /-- `d * n / size`. -/
  scaled : Double → Int → Double → Double
  /-- `none` is the error that `round` throws for NaN and infinities. -/
  round : Double → Option Int

structure Offset (Double : Type) where
  dx : Double
  dy : Double

structure Size (Double : Type) where
  width : Double
  height : Double

/-- `int.clamp`; `none` is the error for limits in the wrong order. -/
def clamp (n lower upper : Int) : Option Int :=
  if upper < lower then none else some (max lower (min n upper))

section
variable {Double : Type} (d : Doubles Double)

def remoteExtent (announced : Option Nat) (surface : Double) : Option Int :=
  match announced with
  | some extent => some extent
  | none => do clamp (← d.round surface) 1 10000

def remoteCoordinate (place surface : Double) (remote : Int) : Option Int :=
  if d.isNonPositive surface then some 0
  else do clamp (← d.round (d.scaled place remote surface)) 0 (remote - 1)

/-- The place on the remote screen, as both pointer functions compute it. -/
def remotePosition (metadata : Option RemoteFrameMetadata) (localPosition : Offset Double)
    (surfaceSize : Size Double) : Option (Int × Int) := do
  let remoteWidth ← remoteExtent d (metadata.map (·.width)) surfaceSize.width
  let remoteHeight ← remoteExtent d (metadata.map (·.height)) surfaceSize.height
  let x ← remoteCoordinate d localPosition.dx surfaceSize.width remoteWidth
  let y ← remoteCoordinate d localPosition.dy surfaceSize.height remoteHeight
  return (x, y)

namespace RemoteSessionClient

/-- `_socket!.add` of a packet of the codec, unless there is no socket. -/
def send (c : RemoteSessionClient) (packet : WirePacket) : RemoteSessionClient :=
  if c.socket = none then c else c.act (.add packet.encode)

/-- An error on the way to the packet leaves the client as it was. -/
def sendMousePosition (c : RemoteSessionClient) (localPosition : Offset Double)
    (surfaceSize : Size Double) (now : DateTime) : RemoteSessionClient :=
  match remotePosition d c.pendingMetadata localPosition surfaceSize with
  | none => c
  | some (x, y) => c.send (SessionCodec.mouseEvent x y 0 0 0 now)

def sendMouseButton (c : RemoteSessionClient) (localPosition : Offset Double)
    (surfaceSize : Size Double) (down : Bool) (button : Int) (now : DateTime) :
    RemoteSessionClient :=
  match remotePosition d c.pendingMetadata localPosition surfaceSize with
  | none => c
  | some (x, y) =>
    c.send (SessionCodec.mouseEvent x y 0 button (if down then 0x3 else 0x2) now)

def sendKeyEvent (c : RemoteSessionClient) (keyCode : Int) (down : Bool) (now : DateTime) :
    RemoteSessionClient :=
  c.send (SessionCodec.keyEvent keyCode 0 down now)

def sendWheel (c : RemoteSessionClient) (delta : Int) (now : DateTime) : RemoteSessionClient :=
  c.send (SessionCodec.mouseEvent 0 0 delta 0 0x4 now)

def syncClipboard (c : RemoteSessionClient) (text : List Nat) (now : DateTime) :
    RemoteSessionClient :=
  c.send (SessionCodec.clipboardText text now)

/-- The packets that have been added to a socket so far. -/
def added (c : RemoteSessionClient) : List Bytes :=
  c.trace.filterMap fun
    | .add bytes => some bytes
    | _ => none

theorem added_send {c : RemoteSessionClient} (connected : c.socket ≠ none) (packet : WirePacket) :
    (c.send packet).added = c.added ++ [packet.encode] := by
  rw [send, if_neg connected]
  simp only [added, act, List.filterMap_append, List.filterMap_cons, List.filterMap_nil]

theorem send_socket (c : RemoteSessionClient) (packet : WirePacket) :
    (c.send packet).socket = c.socket := by
  unfold send
  split <;> rfl

theorem send_metadata (c : RemoteSessionClient) (packet : WirePacket) :
    (c.send packet).pendingMetadata = c.pendingMetadata := by
  unfold send
  split <;> rfl

end RemoteSessionClient
end

/-- What Flutter knows of a logical key, and the keys that `_windowsVirtualKey` names. -/
structure LogicalKeys (Key : Type) where
  keyLabel : Key → List Nat
  toUpperCase : List Nat → List Nat
  enter : Key
  escape : Key
  backspace : Key
  tab : Key
  space : Key
  arrowLeft : Key
  arrowUp : Key
  arrowRight : Key
  arrowDown : Key
  delete : Key
  home : Key
  end_ : Key
  pageUp : Key
  pageDown : Key
  shiftLeft : Key
  shiftRight : Key
  controlLeft : Key
  controlRight : Key
  altLeft : Key
  altRight : Key

section
variable {Key : Type} [DecidableEq Key] (k : LogicalKeys Key)

/-- The comparisons with the named keys. -/
def namedVirtualKey (key : Key) : Nat :=
  if key = k.enter then 0x0D
  else if key = k.escape then 0x1B
  else if key = k.backspace then 0x08
  else if key = k.tab then 0x09
  else if key = k.space then 0x20
  else if key = k.arrowLeft then 0x25
  else if key = k.arrowUp then 0x26
  else if key = k.arrowRight then 0x27
  else if key = k.arrowDown then 0x28
  else if key = k.delete then 0x2E
  else if key = k.home then 0x24
  else if key = k.end_ then 0x23
  else if key = k.pageUp then 0x21
  else if key = k.pageDown then 0x22
  else if key = k.shiftLeft ∨ key = k.shiftRight then 0x10
  else if key = k.controlLeft ∨ key = k.controlRight then 0x11
  else if key = k.altLeft ∨ key = k.altRight then 0x12
  else 0

/-- `_windowsVirtualKey`; `none` is the error of `codeUnitAt` on an empty text. -/
def windowsVirtualKey (key : Key) : Option Nat :=
  let label := k.keyLabel key
  if label.length = 1 then
    match (k.toUpperCase label)[0]? with
    | none => none
    | some code =>
      if (code ≥ 0x30 ∧ code ≤ 0x39) ∨ (code ≥ 0x41 ∧ code ≤ 0x5A) then some code
      else some (namedVirtualKey k key)
  else some (namedVirtualKey k key)

/-- The three subclasses of `KeyEvent`. -/
inductive KeyEventKind where
  | down
  | repeat
  | up
  deriving DecidableEq, Repr

structure KeyEvent (Physical Key : Type) where
  kind : KeyEventKind
  physicalKey : Physical
  logicalKey : Key

variable {Physical : Type}

/-- `_sendKeyEvent`. -/
def sendKeyEvent (c : RemoteSessionClient) (event : KeyEvent Physical Key) (now : DateTime) :
    RemoteSessionClient :=
  match windowsVirtualKey k event.logicalKey with
  | none => c
  | some virtualKey =>
    if virtualKey = 0 then c else c.sendKeyEvent virtualKey (event.kind = .down) now

theorem namedVirtualKey_lt (key : Key) : namedVirtualKey k key < 0x100 := by
  have choose {c : Prop} [Decidable c] {n m : Nat} (yes : n < 0x100) (no : m < 0x100) :
      (if c then n else m) < 0x100 := by
    split <;> assumption
  unfold namedVirtualKey
  repeat refine choose (by decide) ?_
  decide

theorem windowsVirtualKey_lt {key : Key} {virtualKey : Nat}
    (mapped : windowsVirtualKey k key = some virtualKey) : virtualKey < 0x100 := by
  have named := namedVirtualKey_lt k key
  simp only [windowsVirtualKey] at mapped
  split at mapped
  · split at mapped
    · cases mapped
    · split at mapped
      · cases mapped
        omega
      · cases mapped
        exact named
  · cases mapped
    exact named

end
end Screenscrab.Client
