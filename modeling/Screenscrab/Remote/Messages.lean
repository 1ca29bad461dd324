import Screenscrab.Client.Codec
import Screenscrab.Client.Frames
import Screenscrab.Session.Incoming
import Screenscrab.Wire.Agreement

/-! The payloads that both programs build: the bytes are the same, and the side that receives
them recovers the arguments. -/
namespace Screenscrab.Remote
open Protocol Dart Client Session
open LittleEndian (word fields)

/-- A text with its code units, as Dart holds it, and its bytes, as C++ does. -/
structure Text where
  units : List Nat
  bytes : Bytes
  same : Utf8.decode bytes = some units

/-- A message with arguments that both programs can hold. -/
inductive Message where
  | hello (apiVersion protocolVersion : UInt32) (capabilities : SessionCapabilities)
  | capabilities (host client : SessionCapabilities)
  | frameMetadata (monitorIndex width height strideBytes : UInt32) (frameId : UInt64)
  | ping (nonce : UInt64)
  | pong (nonce : UInt64)
  | mouse (x y wheelDelta : Int32) (buttons flags : UInt32)
  | key (virtualKey scanCode : UInt32) (down : Bool)
  | clipboardText (text : Text)
  | disconnect (reasonCode : UInt32) (reason : Text)

namespace Message

/-- The payload in C++. -/
def make : Message → Bytes
  | .hello apiVersion protocolVersion granted =>
    makeHello apiVersion protocolVersion (UInt32.ofNat granted.toBitmask)
  | .capabilities host client =>
    makeCapabilities (UInt32.ofNat host.toBitmask) (UInt32.ofNat client.toBitmask)
  | .frameMetadata monitorIndex width height strideBytes frameId =>
    makeFrameMetadata monitorIndex width height strideBytes frameId
  | .ping nonce => makePing nonce
  | .pong nonce => makePong nonce
  | .mouse x y wheelDelta buttons flags => makeInputMouse x y wheelDelta buttons flags
  | .key virtualKey scanCode down => makeInputKey virtualKey scanCode (if down then 1 else 0)
  | .clipboardText text => makeClipboard text.bytes
  | .disconnect reasonCode reason => makeDisconnect reasonCode reason.bytes

/-- The packet in Dart, whose 64-bit integers are signed. -/
def packet (now : DateTime) : Message → WirePacket
  | .hello apiVersion protocolVersion granted =>
    SessionCodec.hello apiVersion.toNat protocolVersion.toNat granted now
  | .capabilities host client => SessionCodec.capabilities host client now
  | .frameMetadata monitorIndex width height strideBytes frameId =>
    SessionCodec.frameMetadata monitorIndex.toNat width.toNat height.toNat strideBytes.toNat
      (signed64 frameId.toNat) now
  | .ping nonce => SessionCodec.ping (signed64 nonce.toNat) now
  | .pong nonce => SessionCodec.pong (signed64 nonce.toNat) now
  | .mouse x y wheelDelta buttons flags =>
    SessionCodec.mouseEvent x.toInt y.toInt wheelDelta.toInt buttons.toNat flags.toNat now
  | .key virtualKey scanCode down =>
    SessionCodec.keyEvent virtualKey.toNat scanCode.toNat down now
  | .clipboardText text => SessionCodec.clipboardText text.units now
  | .disconnect reasonCode reason =>
    SessionCodec.disconnect reasonCode.toNat reason.units now

/-- The fields of the payload in front of its text, if it has one. -/
def layout : Message → List (Nat × Nat)
  | .hello apiVersion protocolVersion granted =>
    [(4, apiVersion.toNat), (4, protocolVersion.toNat), (4, granted.toBitmask)]
  | .capabilities host client => [(4, host.toBitmask), (4, client.toBitmask)]
  | .frameMetadata monitorIndex width height strideBytes frameId =>
    [(4, monitorIndex.toNat), (4, width.toNat), (4, height.toNat), (4, strideBytes.toNat),
      (8, frameId.toNat)]
  | .ping nonce => [(8, nonce.toNat)]
  | .pong nonce => [(8, nonce.toNat)]
  | .mouse x y wheelDelta buttons flags =>
    [(4, 0), (4, x.toUInt32.toNat), (4, y.toUInt32.toNat), (4, wheelDelta.toUInt32.toNat),
      (4, buttons.toNat), (4, flags.toNat)]
  | .key virtualKey scanCode down =>
    [(4, 1), (4, virtualKey.toNat), (4, scanCode.toNat), (4, if down then 1 else 0)]
  | .clipboardText _ => [(4, 1)]
  | .disconnect reasonCode reason => [(4, reasonCode.toNat), (4, reason.bytes.length)]

def text : Message → Bytes
  | .clipboardText text => text.bytes
  | .disconnect _ reason => reason.bytes
  | _ => []

end Message

theorem toBitmask_lt (c : SessionCapabilities) : c.toBitmask < 128 := by
  obtain ⟨video, audio, clipboard, input, fileTransfer, multiMonitor, lockedScreen⟩ := c
  revert video audio clipboard input fileTransfer multiMonitor lockedScreen
  decide

theorem appendU32_nil (value : UInt32) : appendU32 [] value = fields [(4, value.toNat)] :=
  appendU32_fields [] value

theorem appendU64_nil (value : UInt64) : appendU64 [] value = fields [(8, value.toNat)] :=
  appendU64_fields [] value

theorem make_layout (m : Message) : m.make = fields m.layout ++ m.text := by
  have mask (c : SessionCapabilities) : (UInt32.ofNat c.toBitmask).toNat = c.toBitmask := by
    have small := toBitmask_lt c
    rw [UInt32.toNat_ofNat']
    omega
  cases m with
  | hello apiVersion protocolVersion granted =>
      simp only [Message.make, makeHello, appendU32_nil, appendU32_fields, mask, Message.text,
        List.append_nil]
      rfl
  | capabilities host client =>
      simp only [Message.make, makeCapabilities, appendU32_nil, appendU32_fields, mask,
        Message.text, List.append_nil]
      rfl
  | frameMetadata monitorIndex width height strideBytes frameId =>
      simp only [Message.make, makeFrameMetadata, appendU32_nil, appendU32_fields,
        appendU64_fields, Message.text, List.append_nil]
      rfl
  | ping nonce | pong nonce =>
      exact (appendU64_nil nonce).trans (List.append_nil _).symm
  | mouse x y wheelDelta buttons flags =>
      simp only [Message.make, makeInputMouse, appendU32_nil, appendU32_fields, Message.text,
        List.append_nil]
      rfl
  | key virtualKey scanCode down =>
      simp only [Message.make, makeInputKey, appendU32_nil, appendU32_fields, Message.text,
        List.append_nil]
      cases down <;> rfl
  | clipboardText text =>
      simp only [Message.make, makeClipboard, appendBytes, appendU32_nil]
      rfl
  | disconnect reasonCode reason =>
      have size : fields [(4, reasonCode.toNat), (4, (UInt32.ofNat reason.bytes.length).toNat)] =
          fields [(4, reasonCode.toNat), (4, reason.bytes.length)] := by
        simp only [fields, UInt32.toNat_ofNat']
        rw [show 2 ^ 32 = 256 ^ 4 from rfl, LittleEndian.encode_mod]
      simp only [Message.make, makeDisconnect, appendBytes, appendU32_nil, appendU32_fields]
      exact congrArg (· ++ reason.bytes) size

theorem stored_u32 (value : UInt32) : ((value.toNat : Int) % 256 ^ 4).toNat = value.toNat := by
  have bound := value.toNat_lt
  omega

theorem stored_u64 (value : UInt64) :
    (signed64 value.toNat % 256 ^ 8).toNat = value.toNat := by
  have bound := value.toNat_lt
  unfold signed64
  split <;> omega

/-- A signed coordinate is stored as the cast to `std::uint32_t` is. -/
theorem stored_i32 (value : Int32) : (value.toInt % 256 ^ 4).toNat = value.toUInt32.toNat := by
  have bound := value.toUInt32.toNat_lt
  have cast : value.toInt = (value.toUInt32.toNat : Int).bmod (2 ^ 32) :=
    value.toBitVec.toInt_eq_toNat_bmod
  have power : (256 : Int) ^ 4 = (2 ^ 32 : Nat) := by norm_num
  rw [cast, power, Int.bmod_emod]
  omega

theorem packet_layout (now : DateTime) (m : Message) :
    (m.packet now).payload = fields m.layout ++ m.text := by
  have mask (c : SessionCapabilities) :
      ((c.toBitmask : Int) % 256 ^ 4).toNat = c.toBitmask := by
    have small := toBitmask_lt c
    omega
  cases m with
  | hello apiVersion protocolVersion granted =>
      simp only [Message.packet, SessionCodec.hello_payload, stored, List.map_cons, List.map_nil,
        stored_u32, mask, Message.layout, Message.text, List.append_nil]
  | capabilities host client =>
      simp only [Message.packet, SessionCodec.capabilities_payload, stored, List.map_cons,
        List.map_nil, mask, Message.layout, Message.text, List.append_nil]
  | frameMetadata monitorIndex width height strideBytes frameId =>
      simp only [Message.packet, SessionCodec.frameMetadata_payload, stored, List.map_cons,
        List.map_nil, stored_u32, stored_u64, Message.layout, Message.text, List.append_nil]
  | ping nonce =>
      simp only [Message.packet, SessionCodec.ping_payload, stored, List.map_cons, List.map_nil,
        stored_u64, Message.layout, Message.text, List.append_nil]
  | pong nonce =>
      simp only [Message.packet, SessionCodec.pong, SessionCodec.ping_payload, stored,
        List.map_cons, List.map_nil, stored_u64, Message.layout, Message.text, List.append_nil]
  | mouse x y wheelDelta buttons flags =>
      simp only [Message.packet, SessionCodec.mouseEvent_payload, stored, List.map_cons,
        List.map_nil, stored_u32, stored_i32, Message.layout, Message.text, List.append_nil]
      rfl
  | key virtualKey scanCode down =>
      simp only [Message.packet, SessionCodec.keyEvent_payload, stored, List.map_cons,
        List.map_nil, stored_u32, Message.layout, Message.text, List.append_nil]
      cases down <;> rfl
  | clipboardText text =>
      simp only [Message.packet, SessionCodec.clipboardText_payload, Utf8.encode_decode text.same]
      rfl
  | disconnect reasonCode reason =>
      have size : ((reason.bytes.length : Int) % 256 ^ 4).toNat =
          reason.bytes.length % 256 ^ 4 := by
        omega
      simp only [Message.packet, SessionCodec.disconnect_payload, Utf8.encode_decode reason.same,
        stored, List.map_cons, List.map_nil, stored_u32, size, Message.layout, Message.text, fields,
        LittleEndian.encode_mod]

theorem packet_payload (now : DateTime) (m : Message) : (m.packet now).payload = m.make :=
  (packet_layout now m).trans (make_layout m).symm

theorem make_length (m : Message) :
    m.make.length = LittleEndian.extent m.layout + m.text.length := by
  rw [make_layout, List.length_append, LittleEndian.fields_length]

/-- The words of a mouse event where the host looks for them. -/
theorem mouse_words (x y wheelDelta : Int32) (buttons flags : UInt32) :
    let payload := (Message.mouse x y wheelDelta buttons flags).make
    readU32 payload 0 = some 0 ∧ readU32 payload 4 = some x.toUInt32 ∧
    readU32 payload 8 = some y.toUInt32 ∧ readU32 payload 12 = some wheelDelta.toUInt32 ∧
    readU32 payload 16 = some buttons ∧ readU32 payload 20 = some flags := by
  dsimp only
  rw [make_layout]
  let front := [(4, 0), (4, x.toUInt32.toNat), (4, y.toUInt32.toNat),
    (4, wheelDelta.toUInt32.toNat), (4, buttons.toNat)]
  exact ⟨readU32_fields [] 0 _ [] rfl, readU32_fields (front.take 1) x.toUInt32 _ [] rfl,
    readU32_fields (front.take 2) y.toUInt32 _ [] rfl,
    readU32_fields (front.take 3) wheelDelta.toUInt32 _ [] rfl,
    readU32_fields (front.take 4) buttons _ [] rfl, readU32_fields front flags [] [] rfl⟩

/-- Which call a mouse event becomes is decided by its flags and its wheel delta. -/
theorem handleInput_mouse {s : Settings} (enabled : s.inputEnabled = true)
    (x y wheelDelta : Int32) (buttons flags : UInt32) :
    handleInputPacket s (Message.mouse x y wheelDelta buttons flags).make =
      some (.calls
        (if flags &&& 0x4 ≠ 0 ∨ wheelDelta ≠ 0 then .scroll wheelDelta.toInt
        else if flags &&& 0x2 ≠ 0 then .mouseButton (flags &&& 0x1 ≠ 0) buttons
        else .moveMouse x.toInt y.toInt)) := by
  have size : (Message.mouse x y wheelDelta buttons flags).make.length = 24 :=
    make_length (.mouse x y wheelDelta buttons flags)
  obtain ⟨kind, atX, atY, atWheel, atButtons, atFlags⟩ := mouse_words x y wheelDelta buttons flags
  unfold handleInputPacket
  rw [if_neg (by rw [enabled]; decide), if_neg (by omega), kind, atX, atY, atWheel, atButtons,
    atFlags]
  simp only [Option.bind_eq_bind, Option.bind_some, Option.pure_def, Int32.toInt32_toUInt32]
  rw [if_pos trivial, if_neg (by omega)]
  split
  · rfl
  · split <;> rfl

theorem handleInput_key {s : Settings} (enabled : s.inputEnabled = true)
    (virtualKey scanCode : UInt32) (down : Bool) :
    handleInputPacket s (Message.key virtualKey scanCode down).make =
      some (.calls (.key down virtualKey.toUInt16)) := by
  have size : (Message.key virtualKey scanCode down).make.length = 16 :=
    make_length (.key virtualKey scanCode down)
  have kind : readU32 (Message.key virtualKey scanCode down).make 0 = some 1 := by
    rw [make_layout]
    exact readU32_fields [] 1 _ [] rfl
  have atKey : readU32 (Message.key virtualKey scanCode down).make 4 = some virtualKey := by
    rw [make_layout]
    exact readU32_fields [(4, 1)] virtualKey _ [] rfl
  have atFlags : readU32 (Message.key virtualKey scanCode down).make 12 =
      some (if down then 1 else 0) := by
    rw [make_layout]
    cases down with
    | true =>
        exact readU32_fields [(4, 1), (4, virtualKey.toNat), (4, scanCode.toNat)] 1 [] [] rfl
    | false =>
        exact readU32_fields [(4, 1), (4, virtualKey.toNat), (4, scanCode.toNat)] 0 [] [] rfl
  unfold handleInputPacket
  rw [if_neg (by rw [enabled]; decide), if_neg (by omega), kind, atKey, atFlags]
  simp only [Option.bind_eq_bind, Option.bind_some, Option.pure_def]
  rw [if_neg (by decide), if_pos trivial, if_neg (by omega)]
  cases down <;> rfl

theorem handleClipboard_text {s : Settings} (enabled : s.clipboardEnabled = true) (text : Text) :
    handleClipboardPacket s (Message.clipboardText text).make =
      some (.calls (.setText text.bytes)) := by
  have size : (Message.clipboardText text).make.length = 4 + text.bytes.length :=
    make_length (.clipboardText text)
  have format : readU32 (Message.clipboardText text).make 0 = some 1 := by
    rw [make_layout]
    exact readU32_fields [] 1 [] text.bytes rfl
  have body : (Message.clipboardText text).make.drop 4 = text.bytes := by
    rw [make_layout]
    rfl
  unfold handleClipboardPacket
  rw [if_neg (by rw [enabled]; simp only [not_true_eq_false, false_or]; omega), format, body]
  rfl

theorem handlePing_ping (s : Settings) (nonce : UInt64) :
    handlePingPacket s (Message.ping nonce).make =
      some (.calls (.sendPong (makePacket .pong 0 (Message.pong nonce).make s.nowMicros))) := by
  have size : (Message.ping nonce).make.length = 8 := make_length (.ping nonce)
  have atNonce : readU64 (Message.ping nonce).make 0 = some nonce := by
    rw [make_layout]
    exact readU64_fields [] nonce [] [] rfl
  unfold handlePingPacket
  rw [if_neg (by omega), atNonce]
  rfl

/-- The answer of a connected client to a ping. -/
theorem handlePacket_ping (clock : Nat → DateTime) {c : RemoteSessionClient}
    (connected : c.socket ≠ none) {packet : WirePacket} (type : packet.type = .ping)
    {nonce : UInt64} (payload : packet.payload = (Message.ping nonce).make) :
    ∃ now, (c.handlePacket clock packet).trace =
      c.trace ++ [.handled packet, .add ((Message.pong nonce).packet now).encode] := by
  have bound : nonce.toNat < 256 ^ 8 := nonce.toNat_lt
  have size : packet.payload.length ≥ 8 := by
    rw [payload, make_length]
    exact Nat.le_refl 8
  have atNonce : word packet.payload 0 8 = nonce.toNat := by
    rw [payload, make_layout]
    exact (LittleEndian.word_fields [] 8 nonce.toNat [] [] rfl).trans (Nat.mod_eq_of_lt bound)
  unfold RemoteSessionClient.handlePacket
  simp only [type, RemoteSessionClient.act, atNonce]
  rw [if_pos ⟨size, connected⟩]
  exact ⟨_, List.append_assoc ..⟩

/-- Both programs write the same payload for the same message, and what the side that receives
it does depends on the arguments alone. -/
theorem messages_agree :
    (∀ (m : Message) (now : DateTime), (m.packet now).payload = m.make) ∧
    (∀ (monitorIndex width height strideBytes : UInt32) (frameId : UInt64),
      RemoteFrameMetadata.fromBytes
        (Message.frameMetadata monitorIndex width height strideBytes frameId).make =
      some { monitorIndex := monitorIndex.toNat, width := width.toNat, height := height.toNat,
             strideBytes := strideBytes.toNat, frameId := signed64 frameId.toNat }) ∧
    (∀ (s : Settings) (nonce : UInt64), handlePingPacket s (Message.ping nonce).make =
      some (.calls (.sendPong (makePacket .pong 0 (Message.pong nonce).make s.nowMicros)))) ∧
    (∀ (clock : Nat → DateTime) (c : RemoteSessionClient) (packet : WirePacket) (nonce : UInt64),
      c.socket ≠ none → packet.type = .ping → packet.payload = (Message.ping nonce).make →
      ∃ now, (c.handlePacket clock packet).trace =
        c.trace ++ [.handled packet, .add ((Message.pong nonce).packet now).encode]) ∧
    (∀ s : Settings, s.inputEnabled = true →
      (∀ (x y : Int32) (buttons flags : UInt32), flags &&& 0x4 = 0 → flags &&& 0x2 = 0 →
        handleInputPacket s (Message.mouse x y 0 buttons flags).make =
          some (.calls (.moveMouse x.toInt y.toInt))) ∧
      (∀ (x y : Int32) (buttons flags : UInt32), flags &&& 0x4 = 0 → flags &&& 0x2 ≠ 0 →
        handleInputPacket s (Message.mouse x y 0 buttons flags).make =
          some (.calls (.mouseButton (flags &&& 0x1 ≠ 0) buttons))) ∧
      (∀ (x y wheelDelta : Int32) (buttons flags : UInt32), flags &&& 0x4 ≠ 0 ∨ wheelDelta ≠ 0 →
        handleInputPacket s (Message.mouse x y wheelDelta buttons flags).make =
          some (.calls (.scroll wheelDelta.toInt))) ∧
      (∀ (virtualKey scanCode : UInt32) (down : Bool), ∃ pressed : UInt16,
        pressed.toNat = virtualKey.toNat % 2 ^ 16 ∧
        handleInputPacket s (Message.key virtualKey scanCode down).make =
          some (.calls (.key down pressed)))) ∧
    (∀ (s : Settings) (text : Text), s.clipboardEnabled = true →
      handleClipboardPacket s (Message.clipboardText text).make =
        some (.calls (.setText text.bytes))) := by
  refine ⟨fun m now => packet_payload now m, fromBytes_makeFrameMetadata, handlePing_ping,
    fun clock c packet nonce connected type payload =>
      handlePacket_ping clock connected type payload,
    ?_, fun s text enabled => handleClipboard_text enabled text⟩
  intro s enabled
  refine ⟨?_, ?_, ?_, ?_⟩
  · intro x y buttons flags unwheeled still
    rw [handleInput_mouse enabled, if_neg (by simp [unwheeled]), if_neg (by simp [still])]
  · intro x y buttons flags unwheeled pressed
    rw [handleInput_mouse enabled, if_neg (by simp [unwheeled]), if_pos pressed]
  · intro x y wheelDelta buttons flags wheel
    rw [handleInput_mouse enabled, if_pos wheel]
  · intro virtualKey scanCode down
    exact ⟨virtualKey.toUInt16, UInt32.toNat_toUInt16 virtualKey,
      handleInput_key enabled virtualKey scanCode down⟩

/-- The left button pressed at a place with a negative coordinate. -/
theorem messages_agree_button :
    handleInputPacket { inputEnabled := true, clipboardEnabled := true, nowMicros := 0 }
      ((Message.mouse (-4) 7 0 1 3).packet ⟨0, by decide⟩).payload =
      some (.calls (.mouseButton true 1)) := by
  obtain ⟨same, _, _, _, input, _⟩ := messages_agree
  rw [same]
  exact (input _ rfl).2.1 (-4) 7 1 3 (by decide) (by decide)

end Screenscrab.Remote
