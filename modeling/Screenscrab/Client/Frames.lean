import Screenscrab.Client.Stream
import Screenscrab.Session.Outgoing
import Screenscrab.Wire.Agreement

/-! Frames on their way from `send_frame` of the host to `renderFrame` of the client. The
metadata and the pixels travel in packets of their own. -/
namespace Screenscrab.Client
open Dart Protocol Session

/-- The arguments of a `renderFrame` call. -/
structure RenderCall where
  frameBytes : Bytes
  width : Nat
  height : Nat
  strideBytes : Nat
  deriving DecidableEq, Repr

def RenderCall.ofFrame (encoded : EncodedFrame) : RenderCall where
  frameBytes := encoded.payload
  width := encoded.width.toNat
  height := encoded.height.toNat
  strideBytes := encoded.strideBytes.toNat

namespace RemoteSessionClient

/-- The `renderFrame` calls made so far, in order. -/
def renders (c : RemoteSessionClient) : List RenderCall :=
  c.trace.filterMap fun
    | .renderFrame frameBytes width height strideBytes =>
        some { frameBytes, width, height, strideBytes }
    | _ => none

end RemoteSessionClient

/-- The client reads the metadata back as the host wrote it. -/
theorem fromBytes_makeFrameMetadata (monitorIndex width height strideBytes : UInt32)
    (frameId : UInt64) :
    RemoteFrameMetadata.fromBytes
        (makeFrameMetadata monitorIndex width height strideBytes frameId) =
      some { monitorIndex := monitorIndex.toNat, width := width.toNat, height := height.toNat,
             strideBytes := strideBytes.toNat, frameId := signed64 frameId.toNat } := by
  let layout : List (Nat × Nat) :=
    [(4, monitorIndex.toNat), (4, width.toNat), (4, height.toNat), (4, strideBytes.toNat),
      (8, frameId.toNat)]
  have written : makeFrameMetadata monitorIndex width height strideBytes frameId =
      LittleEndian.fields layout := by
    simp only [makeFrameMetadata, appendU32_eq, appendU64_eq, LittleEndian.fields, layout,
      List.nil_append, List.append_nil, List.append_assoc]
  have monitorAt : getUint (LittleEndian.fields layout) 0 4 = some monitorIndex.toNat :=
    getUint_fields [] monitorIndex.toNat_lt _ rfl
  have widthAt : getUint (LittleEndian.fields layout) 4 4 = some width.toNat :=
    getUint_fields (layout.take 1) width.toNat_lt _ rfl
  have heightAt : getUint (LittleEndian.fields layout) 8 4 = some height.toNat :=
    getUint_fields (layout.take 2) height.toNat_lt _ rfl
  have strideAt : getUint (LittleEndian.fields layout) 12 4 = some strideBytes.toNat :=
    getUint_fields (layout.take 3) strideBytes.toNat_lt _ rfl
  have idAt : getUint (LittleEndian.fields layout) 16 8 = some frameId.toNat :=
    getUint_fields (layout.take 4) frameId.toNat_lt [] rfl
  rw [written, RemoteFrameMetadata.fromBytes, monitorAt, widthAt, heightAt, strideAt, idAt]
  rfl

/-- The packets of one call of the host, as the client receives them. -/
def receivedPackets : Sending → List WirePacket
  | .frame encoded _ _ =>
    [received .frameMetadata
        (makeFrameMetadata encoded.monitorIndex encoded.width encoded.height encoded.strideBytes
          encoded.timestampUtcUs)
        encoded.timestampUtcUs,
      received .videoFrame encoded.payload encoded.timestampUtcUs]
  | .ping now _ => [received .ping (makePing now) now]
  | .pong nonce now _ => [received .pong (makePong nonce) now]

def frameOf : Sending → Option EncodedFrame
  | .frame encoded _ _ => some encoded
  | _ => none

/-- A call of the host that a client can take: its timestamps are dates of the client, and
a frame is not larger than an `int` can count. -/
def Sendable : Sending → Prop
  | .frame encoded _ _ => OnTime encoded.timestampUtcUs ∧ encoded.payload.length < 2 ^ 31 - 24
  | .ping now _ => OnTime now
  | .pong _ now _ => OnTime now

instance : DecidablePred Sendable
  | .frame encoded _ _ =>
    inferInstanceAs
      (Decidable (OnTime encoded.timestampUtcUs ∧ encoded.payload.length < 2 ^ 31 - 24))
  | .ping now _ => inferInstanceAs (Decidable (OnTime now))
  | .pong _ now _ => inferInstanceAs (Decidable (OnTime now))

def HelloOnTime (calls : HelloCalls) : Prop :=
  OnTime calls.helloNow ∧ OnTime calls.capabilitiesNow ∧ OnTime calls.startNow

theorem packets_received {sending : Sending} (sendable : Sendable sending) :
    Outgoing.packets sending = (receivedPackets sending).map WirePacket.encode ∧
    (∀ p ∈ receivedPackets sending, p.OnWire) ∧
    ¬ RemoteSessionClient.Disconnects (receivedPackets sending) := by
  cases sending with
  | frame encoded metadata payload =>
      obtain ⟨onTime, small⟩ := sendable
      have metadataSize : (makeFrameMetadata encoded.monitorIndex encoded.width encoded.height
          encoded.strideBytes encoded.timestampUtcUs).length < 2 ^ 32 := by
        simp [makeFrameMetadata, appendU32_eq, appendU64_eq]
      refine ⟨?_, ?_, ?_⟩
      · simp only [Outgoing.packets, Outgoing.metadataPacket, Outgoing.framePacket, receivedPackets,
          makePacket_encode _ _ onTime, List.map_cons, List.map_nil]
      · simp only [receivedPackets, List.forall_mem_cons]
        exact ⟨received_onWire _ metadataSize _, received_onWire _ (by omega) _,
          List.forall_mem_nil _⟩
      · simp [RemoteSessionClient.Disconnects, receivedPackets, received]
  | ping now schedule =>
      have onTime : OnTime now := sendable
      have size : (makePing now).length < 2 ^ 32 := by simp [makePing, appendU64_eq]
      refine ⟨?_, ?_, ?_⟩
      · simp only [Outgoing.packets, receivedPackets, makePacket_encode _ _ onTime, List.map_cons,
          List.map_nil]
      · simp only [receivedPackets, List.forall_mem_singleton]
        exact received_onWire _ size _
      · simp [RemoteSessionClient.Disconnects, receivedPackets, received]
  | pong nonce now schedule =>
      have onTime : OnTime now := sendable
      have size : (makePong nonce).length < 2 ^ 32 := by simp [makePong, appendU64_eq]
      refine ⟨?_, ?_, ?_⟩
      · simp only [Outgoing.packets, receivedPackets, makePacket_encode _ _ onTime, List.map_cons,
          List.map_nil]
      · simp only [receivedPackets, List.forall_mem_singleton]
        exact received_onWire _ size _
      · simp [RemoteSessionClient.Disconnects, receivedPackets, received]

namespace RemoteSessionClient

/-- One call of the host makes the client render the frame it sends, and no other. -/
theorem handleUntil_sending (clock : Nat → DateTime) (c : RemoteSessionClient) (sending : Sending) :
    (handleUntil clock c (receivedPackets sending)).renders =
      c.renders ++ (frameOf sending).toList.map RenderCall.ofFrame := by
  cases sending with
  | frame encoded metadata payload =>
      simp [receivedPackets, received, handleUntil, handlePacket, fromBytes_makeFrameMetadata, act,
        renders, frameOf, RenderCall.ofFrame]
  | ping now schedule =>
      simp only [receivedPackets, received, handleUntil, handlePacket, reduceCtorEq, if_false]
      split <;> simp [renders, act, frameOf]
  | pong nonce now schedule =>
      simp [receivedPackets, received, handleUntil, handlePacket, act, renders, frameOf]

theorem handleUntil_sendings (clock : Nat → DateTime) {sendings : List Sending}
    (sendable : ∀ sending ∈ sendings, Sendable sending) (c : RemoteSessionClient) :
    (handleUntil clock c (sendings.flatMap receivedPackets)).renders =
      c.renders ++ (sendings.filterMap frameOf).map RenderCall.ofFrame := by
  induction sendings generalizing c with
  | nil => exact (List.append_nil _).symm
  | cons sending sendings ih =>
      have here := packets_received (sendable sending List.mem_cons_self)
      have rest := ih (fun other member => sendable other (List.mem_cons_of_mem sending member))
      rw [List.flatMap_cons, handleUntil_append, if_neg here.2.2, rest, handleUntil_sending]
      rw [List.filterMap_cons, List.append_assoc]
      cases frameOf sending <;> rfl

/-- The packets of `send_host_hello`, as the client receives them. -/
def helloPackets (calls : HelloCalls) : List WirePacket :=
  [received .hello (makeHello 1 1 capabilityMask) calls.helloNow,
    received .capabilities (makeCapabilities capabilityMask capabilityMask) calls.capabilitiesNow,
    received .sessionStart [] calls.startNow]

theorem helloPackets_onWire (calls : HelloCalls) : ∀ p ∈ helloPackets calls, p.OnWire := by
  simp only [helloPackets, List.forall_mem_cons]
  exact ⟨received_onWire _ (by decide) _, received_onWire _ (by decide) _,
    received_onWire _ (by decide) _, List.forall_mem_nil _⟩

theorem helloPackets_stay (calls : HelloCalls) : ¬ Disconnects (helloPackets calls) := by
  simp [Disconnects, helloPackets, received]

theorem handleUntil_hello (clock : Nat → DateTime) (c : RemoteSessionClient) (calls : HelloCalls) :
    (handleUntil clock c (helloPackets calls)).renders = c.renders := by
  simp [helloPackets, received, handleUntil, handlePacket, act, renders]

/-- A session without a failed send is, on the wire, the encoding of the packets the
client receives. -/
theorem session_received (transport : Transport) {calls : HelloCalls} (onTime : HelloOnTime calls)
    {sendings : List Sending} (sendable : ∀ sending ∈ sendings, Sendable sending)
    (succeeded : (Outgoing.session transport calls sendings).Succeeded) :
    (Outgoing.session transport calls sendings).wire =
      (helloPackets calls ++ sendings.flatMap receivedPackets).flatMap WirePacket.encode := by
  obtain ⟨hello, capabilities, start⟩ := onTime
  have later : sendings.flatMap Outgoing.packets =
      (sendings.flatMap receivedPackets).map WirePacket.encode := by
    rw [List.map_flatMap, List.flatMap_def, List.flatMap_def]
    exact congrArg List.flatten
      (List.map_congr_left fun sending member => (packets_received (sendable sending member)).1)
  rw [Outgoing.session_wire transport calls sendings succeeded, later,
    makePacket_encode _ _ hello, makePacket_encode _ _ capabilities, makePacket_encode _ _ start,
    List.flatMap_append, List.flatten_append, ← List.flatMap_def]
  rfl

theorem after_renders (clock : Nat → DateTime) (c : RemoteSessionClient)
    (packets : List WirePacket) (part : Bytes) (frames : Nat) :
    RemoteSessionClient.renders { after clock c packets part with framesReceived := frames } =
      (handleUntil clock c packets).renders := rfl

/-- However the sends are split and the bytes cut into chunks on arrival, the client renders
the frames sent, in order and each with the metadata it was sent with. -/
theorem frames_rendered_in_order (clock : Nat → DateTime) (host : String) (port s : Nat)
    (earlier : RemoteSessionClient) (transport : Transport) {calls : HelloCalls}
    (onTime : HelloOnTime calls) {sendings : List Sending}
    (sendable : ∀ sending ∈ sendings, Sendable sending)
    (succeeded : (Outgoing.session transport calls sendings).Succeeded) {arrivals : List Arrival}
    (whole : arrivals.flatMap Arrival.bytes = (Outgoing.session transport calls sendings).wire) :
    let start := connect clock host port s earlier
    (arrivals.foldl (arrive clock s) start).renders =
      start.renders ++ (sendings.filterMap frameOf).map RenderCall.ofFrame := by
  intro start
  obtain ⟨live, subscribed, empty⟩ := connect_fresh clock host port s earlier
  let next := received .ping [] 0
  have nextFits : next.OnWire := received_onWire _ (by decide) _
  have incomplete : Framing.Incomplete WirePacket.encode next [] :=
    ⟨next.encode, List.ne_nil_of_length_pos (by rw [WirePacket.encode_length]; omega), rfl⟩
  have fits : ∀ p ∈ helloPackets calls ++ sendings.flatMap receivedPackets, p.OnWire := by
    intro p member
    rcases List.mem_append.mp member with first | later
    · exact helloPackets_onWire calls p first
    · obtain ⟨sending, sent, inside⟩ := List.mem_flatMap.mp later
      exact (packets_received (sendable sending sent)).2.1 p inside
  rw [session_received transport onTime sendable succeeded] at whole
  have arrived := whole.trans (List.append_nil _).symm
  obtain ⟨frames, same⟩ :=
    arrivals_after clock live subscribed empty fits nextFits incomplete arrived
  rw [same, after_renders, handleUntil_append, if_neg (helloPackets_stay calls),
    handleUntil_sendings clock sendable, handleUntil_hello]

/-- Two frames of different sizes and a ping through partial sends, arriving in three chunks. -/
theorem frames_rendered_in_order_once :
    let clock : Nat → DateTime := fun _ => ⟨0, by decide⟩
    let calls : HelloCalls := ⟨5, 5, 5, [7, 100], [100], [100]⟩
    let first : EncodedFrame := ⟨6, 1, 1, 4, 0, [1, 2, 3, 255]⟩
    let image : Bytes := [4, 5, 6, 255, 0, 0, 0, 0, 7, 8, 9, 255, 0, 0, 0, 0]
    let second : EncodedFrame := ⟨7, 1, 2, 8, 3, image⟩
    let sendings := [Sending.frame first [100] [10, 100], Sending.ping 7 [100],
      Sending.frame second [3, 100] [100]]
    let wire := (Outgoing.session { socket := some 3 } calls sendings).wire
    let start := connect clock "host" 4545 7 {}
    ([Arrival.chunk (wire.take 30), .chunk ((wire.drop 30).take 130),
      .chunk (wire.drop 160)].foldl (arrive clock 7) start).renders =
        [⟨[1, 2, 3, 255], 1, 1, 4⟩, ⟨image, 1, 2, 8⟩] := by
  intro clock calls first image second sendings wire start
  have onTime : HelloOnTime calls := ⟨by decide, by decide, by decide⟩
  have whole : [Arrival.chunk (wire.take 30), .chunk ((wire.drop 30).take 130),
      .chunk (wire.drop 160)].flatMap Arrival.bytes = wire := by
    have later : wire.drop 160 = (wire.drop 30).drop 130 := by rw [List.drop_drop]
    simp only [List.flatMap_cons, List.flatMap_nil, Arrival.bytes, List.append_nil, later,
      List.take_append_drop]
  exact frames_rendered_in_order clock "host" 4545 7 {} { socket := some 3 } onTime (by decide)
    (by decide) whole

/-- A packet that the decoder refuses is removed from the buffer before the error is thrown. -/
theorem drain_throws (clock : Nat → DateTime) {c : RemoteSessionClient} {n : Nat} {e : WireError}
    (total : WirePacket.totalLength c.buffer = .ok n) (enough : n ≤ c.buffer.length)
    (thrown : WirePacket.decode (c.buffer.take n) = .error e) :
    drain clock c = ({ c with buffer := c.buffer.drop n }, some e) := by
  have front : (c.buffer.take n).length = n := List.length_take_of_le enough
  rw [drain_turn clock (List.take_append_drop n c.buffer).symm (by rw [total, front]), thrown]

theorem deliver_throws (clock : Nat → DateTime) {s : Nat} {c : RemoteSessionClient}
    (live : s ∈ c.opened ∧ s ∈ c.listening) (empty : c.buffer = []) {chunk : Bytes} {e : WireError}
    (total : WirePacket.totalLength chunk = .ok chunk.length)
    (thrown : WirePacket.decode chunk = .error e) : deliver clock s c chunk = c := by
  have arrived : { c with buffer := c.buffer ++ chunk } = { c with buffer := chunk } := by
    rw [empty, List.nil_append]
  rw [deliver, if_pos live, onData, arrived, drain_throws clock total le_rfl
    (by rw [List.take_length]; exact thrown), List.drop_length, ← empty]

/-- A frame whose timestamp no `DateTime` can hold is sent like any other and never rendered. -/
theorem late_frame_not_rendered :
    let clock : Nat → DateTime := fun _ => ⟨0, by decide⟩
    let calls : HelloCalls := ⟨5, 5, 5, [100], [100], [100]⟩
    let late : EncodedFrame := ⟨8640000000000000001, 1, 1, 4, 0, [1, 2, 3, 255]⟩
    let sendings := [Sending.frame late [100] [100]]
    let host := Outgoing.session { socket := some 3 } calls sendings
    let arrivals := [Arrival.chunk (host.wire.take 92), .chunk (Outgoing.metadataPacket late),
      .chunk (Outgoing.framePacket late)]
    let start := connect clock "host" 4545 7 {}
    host.Succeeded ∧ late.payload.length < 2 ^ 31 - 24 ∧
    arrivals.flatMap Arrival.bytes = host.wire ∧
    (arrivals.foldl (arrive clock 7) start).renders ≠
      start.renders ++ (sendings.filterMap frameOf).map RenderCall.ofFrame := by
  intro clock calls late sendings host arrivals start
  have hello : host.wire.take 92 = (helloPackets calls).flatMap WirePacket.encode := by
    decide +kernel
  have lateBytes : host.wire.drop 92 =
      Outgoing.metadataPacket late ++ Outgoing.framePacket late := by decide +kernel
  have whole : arrivals.flatMap Arrival.bytes = host.wire := by
    simp only [arrivals, List.flatMap_cons, List.flatMap_nil, Arrival.bytes, List.append_nil]
    rw [← lateBytes, List.take_append_drop]
  refine ⟨by decide, by decide, whole, ?_⟩
  obtain ⟨live, subscribed, empty⟩ := connect_fresh clock "host" 4545 7 {}
  have next : WirePacket.OnWire (received .ping [] 0) := received_onWire _ (by decide) _
  have incomplete : Framing.Incomplete WirePacket.encode (received .ping [] 0) [] :=
    ⟨(received .ping [] 0).encode, by decide, rfl⟩
  have first : [Arrival.chunk (host.wire.take 92)].flatMap Arrival.bytes =
      (helloPackets calls).flatMap WirePacket.encode ++ [] := by
    rw [List.flatMap_singleton, Arrival.bytes, hello, List.append_nil]
  obtain ⟨frames, same⟩ :=
    arrivals_after clock live subscribed empty (helloPackets_onWire calls) next incomplete first
  have still := (handleUntil_listening clock live subscribed (helloPackets calls)).mpr
    (helloPackets_stay calls)
  let middle : RemoteSessionClient :=
    { after clock start (helloPackets calls) [] with framesReceived := frames }
  have alive : 7 ∈ middle.opened ∧ 7 ∈ middle.listening := still
  have cleared : middle.buffer = [] := by
    change (if Disconnects (helloPackets calls) then ([] : Bytes) else []) = []
    exact ite_self []
  have metadataThrows :
      WirePacket.decode (Outgoing.metadataPacket late) = .error .timestampRange := by
    decide +kernel
  have frameThrows :
      WirePacket.decode (Outgoing.framePacket late) = .error .timestampRange := by
    decide +kernel
  have metadataLost : deliver clock 7 middle (Outgoing.metadataPacket late) = middle :=
    deliver_throws clock alive cleared (by decide +kernel) metadataThrows
  have frameLost : deliver clock 7 middle (Outgoing.framePacket late) = middle :=
    deliver_throws clock alive cleared (by decide +kernel) frameThrows
  have finish : arrivals.foldl (arrive clock 7) start = middle := by
    calc arrivals.foldl (arrive clock 7) start
        = deliver clock 7 (deliver clock 7 ([Arrival.chunk (host.wire.take 92)].foldl
            (arrive clock 7) start) (Outgoing.metadataPacket late))
            (Outgoing.framePacket late) := rfl
      _ = deliver clock 7 (deliver clock 7 middle (Outgoing.metadataPacket late))
            (Outgoing.framePacket late) := by rw [same]
      _ = middle := by rw [metadataLost, frameLost]
  have nothing : middle.renders = start.renders :=
    (after_renders clock start (helloPackets calls) [] frames).trans
      (handleUntil_hello clock start calls)
  rw [finish, nothing]
  simp [sendings, frameOf]

end RemoteSessionClient
end Screenscrab.Client
