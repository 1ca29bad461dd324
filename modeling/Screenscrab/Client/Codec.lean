import Screenscrab.Client.Session
import Screenscrab.Library.Utf8

/-! The remaining packets of `SessionCodec`. An `int` argument may be any integer, and a text is
the list of its UTF-16 code units. -/
namespace Screenscrab.Client
open Dart

/-- `ByteData.setInt32`, which stores the low bytes as `setUint32` does. -/
def setInt32 (data : Bytes) (offset : Nat) (value : Int) : Bytes := setUint data offset 4 value

/-- `Uint8List.setAll`. -/
def setAll (data : Bytes) (offset : Nat) (bytes : Bytes) : Bytes :=
  data.take offset ++ bytes ++ data.drop (offset + bytes.length)

namespace SessionCodec

def frameMetadata (monitorIndex width height strideBytes frameId : Int) (now : DateTime) :
    WirePacket :=
  let payload := setUint (List.replicate 24 0) 0 4 monitorIndex
  let payload := setUint payload 4 4 width
  let payload := setUint payload 8 4 height
  let payload := setUint payload 12 4 strideBytes
  { type := .frameMetadata, payload := setUint payload 16 8 frameId, timestampUtc := now }

def mouseEvent (x y wheelDelta buttons flags : Int) (now : DateTime) : WirePacket :=
  let payload := setUint (List.replicate 24 0) 0 4 0
  let payload := setInt32 payload 4 x
  let payload := setInt32 payload 8 y
  let payload := setInt32 payload 12 wheelDelta
  let payload := setUint payload 16 4 buttons
  { type := .inputEvent, payload := setUint payload 20 4 flags, timestampUtc := now }

def keyEvent (virtualKey scanCode : Int) (down : Bool) (now : DateTime) : WirePacket :=
  let payload := setUint (List.replicate 16 0) 0 4 1
  let payload := setUint payload 4 4 virtualKey
  let payload := setUint payload 8 4 scanCode
  let payload := setUint payload 12 4 (if down then 1 else 0)
  { type := .inputEvent, payload, timestampUtc := now }

def clipboardText (text : List Nat) (now : DateTime) : WirePacket :=
  let data := Utf8.encode text
  let header := setUint (List.replicate (4 + data.length) 0) 0 4 1
  { type := .clipboardSync, payload := setAll header 4 data, timestampUtc := now }

def disconnect (reasonCode : Int) (reason : List Nat) (now : DateTime) : WirePacket :=
  let reasonBytes := Utf8.encode reason
  let header := setUint (List.replicate (8 + reasonBytes.length) 0) 0 4 reasonCode
  let header := setUint header 4 4 reasonBytes.length
  { type := .disconnect, payload := setAll header 8 reasonBytes, timestampUtc := now }

/-- A call of a function of the codec. -/
inductive Call where
  | hello (apiVersion protocolVersion : Int) (granted : SessionCapabilities)
  | capabilities (host client : SessionCapabilities)
  | frameMetadata (monitorIndex width height strideBytes frameId : Int)
  | ping (nonce : Int)
  | pong (nonce : Int)
  | mouseEvent (x y wheelDelta buttons flags : Int)
  | keyEvent (virtualKey scanCode : Int) (down : Bool)
  | clipboardText (text : List Nat)
  | disconnect (reasonCode : Int) (reason : List Nat)
  deriving DecidableEq

def Call.packet (now : DateTime) : Call → WirePacket
  | .hello apiVersion protocolVersion granted =>
    SessionCodec.hello apiVersion protocolVersion granted now
  | .capabilities host client => SessionCodec.capabilities host client now
  | .frameMetadata monitorIndex width height strideBytes frameId =>
    SessionCodec.frameMetadata monitorIndex width height strideBytes frameId now
  | .ping nonce => SessionCodec.ping nonce now
  | .pong nonce => SessionCodec.pong nonce now
  | .mouseEvent x y wheelDelta buttons flags =>
    SessionCodec.mouseEvent x y wheelDelta buttons flags now
  | .keyEvent virtualKey scanCode down => SessionCodec.keyEvent virtualKey scanCode down now
  | .clipboardText text => SessionCodec.clipboardText text now
  | .disconnect reasonCode reason => SessionCodec.disconnect reasonCode reason now

theorem hello_payload (apiVersion protocolVersion : Int) (capabilities : SessionCapabilities)
    (now : DateTime) :
    (hello apiVersion protocolVersion capabilities now).payload = LittleEndian.fields
      (stored [(4, apiVersion), (4, protocolVersion), (4, capabilities.toBitmask)]) :=
  setFields_zeros 12 [(4, apiVersion), (4, protocolVersion), (4, capabilities.toBitmask)] rfl

theorem capabilities_payload (host client : SessionCapabilities) (now : DateTime) :
    (capabilities host client now).payload =
      LittleEndian.fields (stored [(4, host.toBitmask), (4, client.toBitmask)]) :=
  setFields_zeros 8 [(4, host.toBitmask), (4, client.toBitmask)] rfl

theorem frameMetadata_payload (monitorIndex width height strideBytes frameId : Int)
    (now : DateTime) :
    (frameMetadata monitorIndex width height strideBytes frameId now).payload =
      LittleEndian.fields (stored
        [(4, monitorIndex), (4, width), (4, height), (4, strideBytes), (8, frameId)]) :=
  setFields_zeros 24
    [(4, monitorIndex), (4, width), (4, height), (4, strideBytes), (8, frameId)] rfl

theorem ping_payload (nonce : Int) (now : DateTime) :
    (ping nonce now).payload = LittleEndian.fields (stored [(8, nonce)]) :=
  setFields_zeros 8 [(8, nonce)] rfl

theorem mouseEvent_payload (x y wheelDelta buttons flags : Int) (now : DateTime) :
    (mouseEvent x y wheelDelta buttons flags now).payload = LittleEndian.fields
      (stored [(4, 0), (4, x), (4, y), (4, wheelDelta), (4, buttons), (4, flags)]) :=
  setFields_zeros 24 [(4, 0), (4, x), (4, y), (4, wheelDelta), (4, buttons), (4, flags)] rfl

theorem keyEvent_payload (virtualKey scanCode : Int) (down : Bool) (now : DateTime) :
    (keyEvent virtualKey scanCode down now).payload = LittleEndian.fields
      (stored [(4, 1), (4, virtualKey), (4, scanCode), (4, if down then 1 else 0)]) :=
  setFields_zeros 16 [(4, 1), (4, virtualKey), (4, scanCode), (4, if down then 1 else 0)] rfl

/-- A record in front of room that is then filled to its end. -/
theorem setAll_fields (layout : List (Nat × Int)) (data : Bytes) {offset : Nat}
    (place : LittleEndian.extent (stored layout) = offset) :
    setAll (setFields (List.replicate (offset + data.length) 0) 0 layout) offset data =
      LittleEndian.fields (stored layout) ++ data := by
  have filled : setFields (List.replicate (offset + data.length) 0) 0 layout =
      LittleEndian.fields (stored layout) ++ List.replicate data.length 0 :=
    setFields_fill [] layout data.length List.length_nil (by rw [place])
  have size : (LittleEndian.fields (stored layout)).length = offset :=
    (LittleEndian.fields_length _).trans place
  rw [filled, setAll, ← size, List.take_left, List.drop_eq_nil_of_le (by simp), List.append_nil]

theorem clipboardText_payload (text : List Nat) (now : DateTime) :
    (clipboardText text now).payload =
      LittleEndian.fields (stored [(4, 1)]) ++ Utf8.encode text :=
  setAll_fields [(4, 1)] (Utf8.encode text) rfl

theorem disconnect_payload (reasonCode : Int) (reason : List Nat) (now : DateTime) :
    (disconnect reasonCode reason now).payload =
      LittleEndian.fields (stored [(4, reasonCode), (4, (Utf8.encode reason).length)]) ++
        Utf8.encode reason :=
  setAll_fields [(4, reasonCode), (4, (Utf8.encode reason).length)] (Utf8.encode reason) rfl

end SessionCodec
end Screenscrab.Client
