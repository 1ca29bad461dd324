import Screenscrab.Remote.Messages

/-! Which packets of `SessionCodec` the host accepts: all but those that are larger than its
receive loop allows, and of those only a clipboard text can be one. -/
namespace Screenscrab.Remote
open Protocol Dart Client Session
open LittleEndian (word fields)
open Incoming (Delivers)

/-- The handler returns `true` by itself, or the result of a call that it makes. -/
def Benign (handling : Handling) : Prop :=
  handling = .returns true ∨ ∃ call, handling = .calls call

theorem handleInput_benign (s : Settings) {payload : Bytes} {kind : UInt32}
    (atKind : readU32 payload 0 = some kind)
    (known : kind = 0 ∧ payload.length = 24 ∨ kind = 1 ∧ payload.length = 16) :
    ∃ handling, handleInputPacket s payload = some handling ∧ Benign handling := by
  unfold handleInputPacket
  by_cases enabled : s.inputEnabled = true
  · rw [if_neg (not_not.mpr enabled), if_neg (by omega), atKind]
    simp only [Option.bind_eq_bind, Option.bind_some, Option.pure_def]
    rcases known with ⟨rfl, size⟩ | ⟨rfl, size⟩
    · rw [if_pos rfl, if_neg (by omega), readU32_eq (by omega), readU32_eq (by omega),
        readU32_eq (by omega), readU32_eq (by omega), readU32_eq (by omega)]
      simp only [Option.bind_some]
      split
      · exact ⟨_, rfl, .inr ⟨_, rfl⟩⟩
      · split
        · exact ⟨_, rfl, .inr ⟨_, rfl⟩⟩
        · exact ⟨_, rfl, .inr ⟨_, rfl⟩⟩
    · rw [if_neg (by decide), if_pos rfl, if_neg (by omega), readU32_eq (by omega),
        readU32_eq (by omega)]
      exact ⟨_, rfl, .inr ⟨_, rfl⟩⟩
  · rw [if_pos enabled]
    exact ⟨_, rfl, .inl rfl⟩

theorem handleClipboard_benign (s : Settings) (payload : Bytes) :
    ∃ handling, handleClipboardPacket s payload = some handling ∧ Benign handling := by
  unfold handleClipboardPacket
  split
  · exact ⟨_, rfl, .inl rfl⟩
  · next guarded =>
      push Not at guarded
      rw [readU32_eq (by omega)]
      simp only [Option.bind_eq_bind, Option.bind_some, Option.pure_def]
      split
      · exact ⟨_, rfl, .inl rfl⟩
      · exact ⟨_, rfl, .inr ⟨_, rfl⟩⟩

theorem handlePing_benign (s : Settings) {payload : Bytes} (size : 8 ≤ payload.length) :
    ∃ handling, handlePingPacket s payload = some handling ∧ Benign handling := by
  unfold handlePingPacket
  rw [if_neg (by omega), readU64_eq (by omega)]
  exact ⟨_, rfl, .inr ⟨_, rfl⟩⟩

/-- What the dispatcher makes of a packet of the codec. -/
theorem dispatch_benign (s : Settings) (now : DateTime) (call : SessionCodec.Call)
    (stays : (call.packet now).type ≠ .disconnect) {view : WirePacketView}
    (type : view.type = (call.packet now).type)
    (payload : view.payload = (call.packet now).payload) :
    ∃ handling, dispatch s view = some handling ∧ Benign handling := by
  unfold dispatch
  rw [type, payload]
  cases call with
  | hello | capabilities | frameMetadata | pong => exact ⟨_, rfl, .inl rfl⟩
  | ping nonce =>
      refine handlePing_benign s ?_
      rw [SessionCodec.Call.packet, SessionCodec.ping_payload, LittleEndian.fields_length]
      exact Nat.le_refl 8
  | mouseEvent x y wheelDelta buttons flags =>
      rw [SessionCodec.Call.packet, SessionCodec.mouseEvent_payload,
        ← List.append_nil (fields (stored _))]
      refine handleInput_benign s (readU32_fields [] 0 _ [] rfl) (.inl ⟨rfl, ?_⟩)
      rw [List.append_nil, LittleEndian.fields_length]
      rfl
  | keyEvent virtualKey scanCode down =>
      rw [SessionCodec.Call.packet, SessionCodec.keyEvent_payload,
        ← List.append_nil (fields (stored _))]
      refine handleInput_benign s (readU32_fields [] 1 _ [] rfl) (.inr ⟨rfl, ?_⟩)
      rw [List.append_nil, LittleEndian.fields_length]
      rfl
  | clipboardText text => exact handleClipboard_benign s _
  | disconnect reasonCode reason => exact absurd rfl stays

/-- The calls that the handlers make for packets that arrive one after another. -/
def injected (s : Settings) (packets : List Bytes) : List HandlerCall :=
  packets.filterMap fun packet =>
    match handlePacket s packet with
    | some (.calls call) => some call
    | _ => none

theorem injected_concat {s : Settings} (packets : List Bytes) {packet : Bytes}
    {call : HandlerCall} (handled : handlePacket s packet = some (.calls call)) :
    injected s (packets ++ [packet]) = injected s packets ++ [call] := by
  simp only [injected, List.filterMap_append, List.filterMap_cons, handled, List.filterMap_nil]

/-- The limit of the receive loop on a payload, minus the format word of a clipboard packet. -/
def clipboardLimit : Nat := 1024 * 1024 - 4

theorem payload_small (now : DateTime) (call : SessionCodec.Call)
    (stays : (call.packet now).type ≠ .disconnect)
    (fits : ∀ text, call = .clipboardText text → (Utf8.encode text).length ≤ clipboardLimit) :
    (call.packet now).payload.length ≤ 1024 * 1024 := by
  have small {n : Nat} (size : n ≤ 24) : n ≤ 1024 * 1024 := by omega
  cases call with
  | hello apiVersion protocolVersion granted =>
      rw [SessionCodec.Call.packet, SessionCodec.hello_payload, LittleEndian.fields_length]
      exact small (show 12 ≤ 24 by decide)
  | capabilities host client =>
      rw [SessionCodec.Call.packet, SessionCodec.capabilities_payload, LittleEndian.fields_length]
      exact small (show 8 ≤ 24 by decide)
  | frameMetadata monitorIndex width height strideBytes frameId =>
      rw [SessionCodec.Call.packet, SessionCodec.frameMetadata_payload, LittleEndian.fields_length]
      exact small (show 24 ≤ 24 by decide)
  | ping nonce =>
      rw [SessionCodec.Call.packet, SessionCodec.ping_payload, LittleEndian.fields_length]
      exact small (show 8 ≤ 24 by decide)
  | pong nonce =>
      rw [SessionCodec.Call.packet, SessionCodec.pong, SessionCodec.ping_payload,
        LittleEndian.fields_length]
      exact small (show 8 ≤ 24 by decide)
  | mouseEvent x y wheelDelta buttons flags =>
      rw [SessionCodec.Call.packet, SessionCodec.mouseEvent_payload, LittleEndian.fields_length]
      exact small (show 24 ≤ 24 by decide)
  | keyEvent virtualKey scanCode down =>
      rw [SessionCodec.Call.packet, SessionCodec.keyEvent_payload, LittleEndian.fields_length]
      exact small (show 16 ≤ 24 by decide)
  | clipboardText text =>
      have bound := fits text rfl
      unfold clipboardLimit at bound
      have format : LittleEndian.extent (stored [(4, 1)]) = 4 := rfl
      rw [SessionCodec.Call.packet, SessionCodec.clipboardText_payload, List.length_append,
        LittleEndian.fields_length, format]
      omega
  | disconnect reasonCode reason => exact absurd rfl stays

theorem packet_flags (now : DateTime) (call : SessionCodec.Call) : (call.packet now).flags = 0 := by
  cases call <;> rfl

/-- The host looks at the type and the payload of the packet that the client built. -/
theorem handlePacket_encode (s : Settings) {p : WirePacket} (fits : p.OnWire)
    (small : p.payload.length ≤ 1024 * 1024) :
    ∃ view : WirePacketView, view.type = p.type ∧ view.payload = p.payload ∧
      handlePacket s p.encode = dispatch s view := by
  have known : word p.encode 6 2 ≤ MessageType.error.value := by
    have words := WirePacket.encode_words fits []
    rw [List.append_nil] at words
    rw [words.type]
    exact Nat.le_of_lt_succ p.type.value_lt
  have view := viewOf_encode fits []
  rw [List.append_nil] at view
  refine ⟨viewOf p.encode, view.1, view.2, ?_⟩
  simp only [handlePacket, parsePacket_framed (framed_encode fits small), if_pos known,
    Option.bind_eq_bind, Option.bind_some]

/-- A benign handler that succeeds leaves the connection as it is. -/
theorem handle_benign (c : Incoming) {a : Answers} {packet : Bytes} {handling : Handling}
    (chosen : handlePacket a.settings packet = some handling) (benign : Benign handling)
    (succeeds : a.callResult = true) :
    ∃ next, c.handle a packet = some next ∧ next.wire = c.wire ∧ next.consumed = c.consumed ∧
      next.handled = c.handled ++ [(packet, true)] ∧ next.transport = c.transport := by
  unfold Incoming.handle
  rw [chosen]
  rcases benign with rfl | ⟨call, rfl⟩
  · exact ⟨_, rfl, rfl, rfl, rfl, rfl⟩
  · simp only [succeeds]
    exact ⟨_, rfl, rfl, rfl, rfl, rfl⟩

/-- Every packet of the codec but a disconnect and a clipboard text beyond the limit is consumed
to its last byte, and the loop goes on with the connection open. -/
theorem codec_packets_accepted {c : Incoming} (connected : c.transport.connected = true)
    (call : SessionCodec.Call) (now : DateTime)
    (stays : ∀ reasonCode reason, call ≠ .disconnect reasonCode reason)
    (fits : ∀ text, call = .clipboardText text → (Utf8.encode text).length ≤ clipboardLimit)
    {rest : Bytes} (wire : c.wire = (call.packet now).encode ++ rest)
    {a : Answers} (running : a.stopRequested = false) (readable : a.poll = .ok true)
    (header : Delivers 24 c.wire a.header)
    (payload : Delivers (call.packet now).payload.length ((call.packet now).payload ++ rest)
      a.payload)
    (succeeds : a.callResult = true) (answers : List Answers) :
    ∃ next : Incoming,
      c.processIncomingPackets (a :: answers) = next.processIncomingPackets answers ∧
      next.wire = rest ∧ next.consumed = c.consumed ++ (call.packet now).encode ∧
      next.handled = c.handled ++ [((call.packet now).encode, true)] ∧
      next.transport.connected = true := by
  have type : (call.packet now).type ≠ .disconnect := by
    cases call with
    | disconnect reasonCode reason => exact absurd rfl (stays reasonCode reason)
    | _ => nofun
  have small := payload_small now call type fits
  have onWire : (call.packet now).OnWire := .unflagged (by omega) (packet_flags now call)
  have framed := framed_encode onWire small
  obtain ⟨view, viewType, viewPayload, same⟩ := handlePacket_encode a.settings onWire small
  obtain ⟨handling, dispatched, benign⟩ :=
    dispatch_benign a.settings now call type viewType viewPayload
  have chosen : handlePacket a.settings (call.packet now).encode = some handling :=
    same.trans dispatched
  have body : (call.packet now).encode.drop 24 = (call.packet now).payload := by
    rw [WirePacket.encode, ← WirePacket.header_length (call.packet now), List.drop_left]
  obtain ⟨d, received, left, consumed, handled, transport⟩ :=
    Incoming.receivePacket_delivered connected framed wire header
      (by rw [body, WirePacket.encode_length, Nat.add_sub_cancel_left]; exact payload)
  obtain ⟨next, taken, sameWire, sameConsumed, logged, sameTransport⟩ :=
    handle_benign d chosen benign succeeds
  have waiting := Incoming.awaits_ready connected running readable
  refine ⟨next, ?_, sameWire.trans left, sameConsumed.trans consumed, ?_, ?_⟩
  · rw [Incoming.processIncomingPackets]
    simp only [waiting, received, taken, Option.bind_some]
  · rw [logged, handled]
  · rw [sameTransport, transport]
    exact connected

/-- A clock that stands still, and a host that has everything enabled. -/
def epoch : Nat → DateTime := fun _ => ⟨0, by decide⟩

def inputOn : Settings := { inputEnabled := true, clipboardEnabled := true, nowMicros := 0 }

/-- An open connection on which a packet has arrived in one piece. -/
def arrived (packet : WirePacket) : Incoming := .start { socket := some 1 } packet.encode

/-- The answers to an iteration in which everything succeeds. -/
def succeeding (packet : WirePacket) : Answers where
  stopRequested := false
  poll := .ok true
  header := [24]
  payload := [packet.payload.length]
  settings := inputOn
  callResult := true

theorem codec_packets_accepted_mouse :
    let packet := SessionCodec.mouseEvent 5 7 0 1 3 (epoch 0)
    ∃ next : Incoming, (arrived packet).processIncomingPackets [succeeding packet] = some next ∧
      next.consumed = packet.encode ∧ next.transport.connected = true := by
  let packet := SessionCodec.mouseEvent 5 7 0 1 3 (epoch 0)
  obtain ⟨next, run, _, consumed, _, connected⟩ :=
    @codec_packets_accepted (arrived packet) rfl (.mouseEvent 5 7 0 1 3) (epoch 0) nofun nofun
      [] (List.append_nil _).symm (succeeding packet) rfl rfl
      (Incoming.delivers_once (by decide) (by decide))
      (Incoming.delivers_once (by decide) (by decide)) rfl []
  exact ⟨next, run, consumed, connected⟩

/-- A larger packet is not even handled: the host closes the connection behind its header. -/
theorem large_packet_dropped {p : WirePacket} (fits : p.OnWire)
    (large : 1024 * 1024 < p.payload.length) :
    ∃ next : Incoming, (arrived p).processIncomingPackets [succeeding p] = some next ∧
      next.consumed = p.header ∧ next.handled = [] ∧
      next.errors = [(-7, ascii "packet payload too large")] ∧
      next.transport.connected = false := by
  have split : (arrived p).wire = p.header ++ p.payload := rfl
  have enough : p.header.length ≤ (arrived p).wire.length := by
    rw [split, List.length_append]
    exact Nat.le_add_right _ _
  obtain ⟨d, received, _, consumed, handled, _⟩ :=
    @Incoming.receiveAll_delivered (arrived p) rfl p.header p.payload split _
      (Incoming.delivers_once (by rw [WirePacket.header_length]; decide) enough)
  rw [WirePacket.header_length] at received
  have errors : d.errors = [] := congrArg (·.1.errors) received.symm
  have words := WirePacket.header_words fits
  have open_ : (arrived p).transport.connected = true := rfl
  have running : (succeeding p).stopRequested = false := rfl
  have waiting := Incoming.awaits_ready open_ running rfl
  have dropped : (arrived p).receivePacket (succeeding p) = _ :=
    Incoming.receivePacket_header received p.header_length
  rw [words.magic, words.version, words.size, if_neg (by decide), if_pos large] at dropped
  refine ⟨(d.applyError (-7) (ascii "packet payload too large")).disconnect, ?_, consumed, handled,
    ?_, rfl⟩
  · rw [Incoming.processIncomingPackets]
    simp only [waiting, dropped, Option.bind_some]
    rfl
  · simp only [Incoming.disconnect, Incoming.applyError, errors]
    rfl

theorem encode_replicate (n : Nat) :
    Utf8.encode (List.replicate n 0x61) = List.replicate n 0x61 := by
  induction n with
  | zero => rfl
  | succ n ih =>
      rw [List.replicate_succ, Utf8.encode_cons (by decide), ih]
      rfl

/-- A text of 1048576 letters, which `syncClipboard` sends as it is. -/
theorem large_clipboard_dropped :
    let packet := SessionCodec.clipboardText (List.replicate 1048576 0x61) (epoch 0)
    ∃ next : Incoming, (arrived packet).processIncomingPackets [succeeding packet] = some next ∧
      next.consumed = packet.header ∧ next.handled = [] ∧
      next.errors = [(-7, ascii "packet payload too large")] ∧
      next.transport.connected = false := by
  have size : (SessionCodec.clipboardText (List.replicate 1048576 0x61)
      (epoch 0)).payload.length = 4 + 1048576 := by
    have format : LittleEndian.extent (stored [(4, 1)]) = 4 := rfl
    rw [SessionCodec.clipboardText_payload, encode_replicate, List.length_append,
      LittleEndian.fields_length, List.length_replicate, format]
  exact large_packet_dropped ⟨by rw [size]; decide, by decide⟩ (by rw [size]; decide)

end Screenscrab.Remote
