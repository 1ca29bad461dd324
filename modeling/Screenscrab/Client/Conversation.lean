import Screenscrab.Client.Frames
import Screenscrab.Client.Input
import Screenscrab.Client.Reports

/-! The client between two packets: what its user makes it send, what the packets of the host
make it send and render, and that neither touches the rest. -/
namespace Screenscrab.Client
open Dart
open LittleEndian (word)

/-- A call of the codec, and the time that its packet carries. -/
abbrev Posted := SessionCodec.Call × DateTime

def Posted.bytes (m : Posted) : Bytes := (m.1.packet m.2).encode

/-- What the user interface calls with what the user does. -/
inductive UserInput (Double : Type) where
  | position (localPosition : Offset Double) (surfaceSize : Size Double)
  | button (localPosition : Offset Double) (surfaceSize : Size Double) (down : Bool) (button : Int)
  | wheel (delta : Int)
  | key (keyCode : Int) (down : Bool)
  | clipboard (text : List Nat)

/-- The nonce of a ping that is answered. -/
def nonce? (p : WirePacket) : Option Int :=
  if p.type = .ping ∧ p.payload.length ≥ 8 then some (signed64 (word p.payload 0 8)) else none

/-- The metadata that is pending when a packet has been handled. -/
def metadataAfter (metadata : Option RemoteFrameMetadata) (p : WirePacket) :
    Option RemoteFrameMetadata :=
  if p.type = .frameMetadata then (RemoteFrameMetadata.fromBytes p.payload).or metadata
  else metadata

/-- What is rendered of some packets, when `metadata` is pending at first. -/
def drawn (metadata : Option RemoteFrameMetadata) : List WirePacket → List RenderCall
  | [] => []
  | p :: packets =>
    let call (m : RemoteFrameMetadata) : RenderCall := ⟨p.payload, m.width, m.height, m.strideBytes⟩
    (if p.type = .videoFrame then (metadata.map call).toList else []) ++
      drawn (metadataAfter metadata p) packets

theorem drawn_append (metadata : Option RemoteFrameMetadata) (packets more : List WirePacket) :
    drawn metadata (packets ++ more) =
      drawn metadata packets ++ drawn (packets.foldl metadataAfter metadata) more := by
  induction packets generalizing metadata with
  | nil => rfl
  | cons p packets ih =>
      rw [List.cons_append, drawn, drawn, ih, List.append_assoc]
      rfl

theorem drawn_mono (metadata : Option RemoteFrameMetadata) {packets all : List WirePacket}
    (front : packets <+: all) : drawn metadata packets <+: drawn metadata all := by
  obtain ⟨more, rfl⟩ := front
  rw [drawn_append]
  exact List.prefix_append _ _

theorem metadataAfter_other (metadata : Option RemoteFrameMetadata) {p : WirePacket}
    (other : p.type ≠ .frameMetadata) : metadataAfter metadata p = metadata := if_neg other

theorem drawn_hidden (metadata : Option RemoteFrameMetadata) {p : WirePacket}
    (hidden : p.type ≠ .videoFrame) : drawn metadata [p] = [] := by
  rw [drawn, if_neg hidden]
  rfl

/-- A frame behind its own metadata is drawn with it, whatever was pending before. -/
theorem drawn_frame (metadata : Option RemoteFrameMetadata) (encoded : Session.EncodedFrame)
    (sizes pixels : List Nat) :
    drawn metadata (receivedPackets (.frame encoded sizes pixels)) =
      [RenderCall.ofFrame encoded] := by
  simp only [receivedPackets, received, drawn, metadataAfter, reduceCtorEq, if_false, if_true,
    fromBytes_makeFrameMetadata, Option.some_or, Option.map_some, Option.toList_some,
    List.nil_append]
  rfl

namespace RemoteSessionClient
variable {Double : Type} (d : Doubles Double)

def perform (c : RemoteSessionClient) (input : UserInput Double) (now : DateTime) :
    RemoteSessionClient :=
  match input with
  | .position localPosition surfaceSize => c.sendMousePosition d localPosition surfaceSize now
  | .button localPosition surfaceSize down button =>
    c.sendMouseButton d localPosition surfaceSize down button now
  | .wheel delta => c.sendWheel delta now
  | .key keyCode down => c.sendKeyEvent keyCode down now
  | .clipboard text => c.syncClipboard text now

/-- The call of the codec that an input becomes; `none` where the place cannot be computed. -/
def callOf (metadata : Option RemoteFrameMetadata) : UserInput Double → Option SessionCodec.Call
  | .position localPosition surfaceSize => do
    let (x, y) ← remotePosition d metadata localPosition surfaceSize
    return .mouseEvent x y 0 0 0
  | .button localPosition surfaceSize down button => do
    let (x, y) ← remotePosition d metadata localPosition surfaceSize
    return .mouseEvent x y 0 button (if down then 0x3 else 0x2)
  | .wheel delta => some (.mouseEvent 0 0 delta 0 0x4)
  | .key keyCode down => some (.keyEvent keyCode 0 down)
  | .clipboard text => some (.clipboardText text)

theorem callOf_clipboard {metadata : Option RemoteFrameMetadata} {input : UserInput Double}
    {text : List Nat} (found : callOf d metadata input = some (.clipboardText text)) :
    input = .clipboard text := by
  cases input with
  | clipboard other =>
      cases found
      rfl
  | position | button =>
      obtain ⟨place, _, mouse⟩ := Option.bind_eq_some_iff.mp found
      cases mouse
  | _ => cases found

/-- Every input sends at most one packet and leaves the rest of the client alone. -/
theorem perform_eq (c : RemoteSessionClient) (input : UserInput Double) (now : DateTime) :
    c.perform d input now =
      match callOf d c.pendingMetadata input with
      | none => c
      | some call => c.send (call.packet now) := by
  cases input with
  | position localPosition surfaceSize =>
      simp only [perform, sendMousePosition, callOf]
      cases remotePosition d c.pendingMetadata localPosition surfaceSize <;> rfl
  | button localPosition surfaceSize down button =>
      simp only [perform, sendMouseButton, callOf]
      cases remotePosition d c.pendingMetadata localPosition surfaceSize <;> rfl
  | wheel delta => rfl
  | key keyCode down => rfl
  | clipboard text => rfl

/-- The client after an input: one packet has been added to its socket, or none. -/
theorem perform_posted (c : RemoteSessionClient) (input : UserInput Double) (now : DateTime) :
    c.perform d input now = c ∨ ∃ call, callOf d c.pendingMetadata input = some call ∧
      c.perform d input now = c.act (.add (Posted.bytes (call, now))) := by
  rw [perform_eq]
  cases callOf d c.pendingMetadata input with
  | none => exact .inl rfl
  | some call =>
      dsimp only [send]
      by_cases closed : c.socket = none
      · rw [if_pos closed]
        exact .inl rfl
      · rw [if_neg closed]
        exact .inr ⟨call, rfl, rfl⟩

/-- The packets that are handled before the first disconnect packet, one after another. -/
theorem handleUntil_foldl (clock : Nat → DateTime) {packets : List WirePacket}
    (stay : ∀ p ∈ packets, p.type ≠ .disconnect) (c : RemoteSessionClient) :
    handleUntil clock c packets = packets.foldl (handlePacket clock) c := by
  induction packets generalizing c with
  | nil => rfl
  | cons p packets ih =>
      obtain ⟨here, later⟩ := List.forall_mem_cons.mp stay
      rw [handleUntil, if_neg here, List.foldl_cons, ih later]

theorem not_disconnects {packets : List WirePacket} (stay : ∀ p ∈ packets, p.type ≠ .disconnect) :
    ¬ Disconnects packets := by
  rintro ⟨p, member, last⟩
  exact stay p member last

theorem handlePacket_added (clock : Nat → DateTime) {c : RemoteSessionClient}
    (connected : c.socket ≠ none) (p : WirePacket) :
    (handlePacket clock c p).added = c.added ++
      (nonce? p).toList.map
        fun nonce => Posted.bytes (.pong nonce, clock (c.trace.length + 1)) := by
  unfold nonce?
  unfold handlePacket
  cases type : p.type with
  | ping =>
      dsimp only
      by_cases long : p.payload.length ≥ 8
      · rw [if_pos ⟨long, connected⟩, if_pos ⟨rfl, long⟩]
        simp [added, act, Posted.bytes, SessionCodec.Call.packet]
      · rw [if_neg fun both => long both.1, if_neg fun both => long both.2]
        simp [added, act]
  | frameMetadata =>
      dsimp only
      rw [if_neg (by simp)]
      cases RemoteFrameMetadata.fromBytes p.payload <;> simp [added, act]
  | videoFrame =>
      dsimp only [act]
      rw [if_neg (by simp)]
      cases c.pendingMetadata <;> simp [added]
  | _ => simp [added, act, beginDisconnect]

/-- Any packet but a disconnect packet shows and remembers what `drawn` says. -/
theorem handlePacket_shown (clock : Nat → DateTime) (c : RemoteSessionClient) {p : WirePacket}
    (stays : p.type ≠ .disconnect) :
    (handlePacket clock c p).renders = c.renders ++ drawn c.pendingMetadata [p] ∧
    (handlePacket clock c p).pendingMetadata = metadataAfter c.pendingMetadata p := by
  unfold handlePacket
  cases type : p.type with
  | disconnect => exact absurd type stays
  | frameMetadata =>
      dsimp only
      rw [drawn, if_neg (by simp [type]), metadataAfter, if_pos type]
      cases RemoteFrameMetadata.fromBytes p.payload with
      | none => exact ⟨by simp [renders, act, drawn], rfl⟩
      | some metadata => exact ⟨by simp [renders, act, drawn], rfl⟩
  | videoFrame =>
      dsimp only [act]
      rw [drawn, if_pos type, metadataAfter_other _ (by simp [type])]
      cases c.pendingMetadata with
      | none => exact ⟨by simp [renders, drawn], rfl⟩
      | some metadata => exact ⟨by simp [renders, drawn], rfl⟩
  | ping =>
      dsimp only [act]
      rw [drawn_hidden _ (by simp [type]), metadataAfter_other _ (by simp [type])]
      split <;> exact ⟨by simp [renders], rfl⟩
  | _ =>
      rw [drawn_hidden _ (by simp [type]), metadataAfter_other _ (by simp [type])]
      exact ⟨by simp [renders, act], rfl⟩

/-- The decoding errors that have been reported. -/
def Reported (c : RemoteSessionClient) (e : WireError) : Prop := wireDecodeError e ∈ c.trace

theorem handlePacket_reported (clock : Nat → DateTime) (c : RemoteSessionClient) (p : WirePacket)
    (e : WireError) : (handlePacket clock c p).Reported e ↔ c.Reported e := by
  obtain ⟨acts, same, plain⟩ := handlePacket_trace clock c p
  rw [Reported, same, List.mem_append, or_iff_left]
  · rfl
  · intro member
    rcases List.mem_cons.mp member with other | later
    · cases other
    · exact plain _ later

/-- What a packet that ends nothing leaves alone. -/
structure Holds (c next : RemoteSessionClient) : Prop where
  socket : next.socket = c.socket
  subscription : next.subscription = c.subscription
  opened : next.opened = c.opened
  listening : next.listening = c.listening
  framesReceived : next.framesReceived = c.framesReceived

theorem Holds.refl (c : RemoteSessionClient) : Holds c c := ⟨rfl, rfl, rfl, rfl, rfl⟩

theorem Holds.trans {c middle next : RemoteSessionClient} (first : Holds c middle)
    (second : Holds middle next) : Holds c next where
  socket := second.socket.trans first.socket
  subscription := second.subscription.trans first.subscription
  opened := second.opened.trans first.opened
  listening := second.listening.trans first.listening
  framesReceived := second.framesReceived.trans first.framesReceived

theorem handlePacket_holds (clock : Nat → DateTime) (c : RemoteSessionClient) {p : WirePacket}
    (stays : p.type ≠ .disconnect) : Holds c (handlePacket clock c p) := by
  obtain ⟨socket, opened, subscription, listening⟩ := handlePacket_listening clock c p
  rw [if_neg stays] at listening
  exact ⟨socket, subscription, opened, listening, handlePacket_framesReceived clock c p⟩

/-- Only an answer of `renderFrame` counts a frame. -/
theorem drain_framesReceived (clock : Nat → DateTime) (c : RemoteSessionClient) :
    (drain clock c).1.framesReceived = c.framesReceived := by
  fun_induction drain clock c with
  | case1 | case2 | case3 | case4 => rfl
  | case5 c long n total enough bytes rest packet decoded ih =>
      exact ih.trans (handlePacket_framesReceived clock rest packet)

theorem deliver_framesReceived (clock : Nat → DateTime) (s : Nat) (c : RemoteSessionClient)
    (chunk : Bytes) : (deliver clock s c chunk).framesReceived = c.framesReceived := by
  unfold deliver
  split
  · exact drain_framesReceived clock _
  · rfl

/-- Whatever the packets are, the client posts nothing but pongs. -/
theorem handlePacket_answers (clock : Nat → DateTime) (c : RemoteSessionClient) (p : WirePacket) :
    ∃ (posted : List Posted) (nonces : List Int),
      (handlePacket clock c p).added = c.added ++ posted.map Posted.bytes ∧
      posted.map Prod.fst = nonces.map .pong := by
  by_cases connected : c.socket = none
  · refine ⟨[], [], ?_, rfl⟩
    unfold handlePacket
    cases p.type with
    | ping =>
        dsimp only
        rw [if_neg fun both => both.2 connected]
        simp [added, act]
    | frameMetadata =>
        dsimp only
        cases RemoteFrameMetadata.fromBytes p.payload <;> simp [added, act]
    | videoFrame =>
        dsimp only [act]
        cases c.pendingMetadata <;> simp [added]
    | _ => simp [added, act, beginDisconnect]
  · let answer (nonce : Int) : Posted := (.pong nonce, clock (c.trace.length + 1))
    refine ⟨(nonce? p).toList.map answer, (nonce? p).toList, ?_, ?_⟩
    · rw [handlePacket_added clock connected, List.map_map]
      rfl
    · rw [List.map_map]
      rfl

theorem drain_answers (clock : Nat → DateTime) (c : RemoteSessionClient) :
    ∃ (posted : List Posted) (nonces : List Int),
      (drain clock c).1.added = c.added ++ posted.map Posted.bytes ∧
      posted.map Prod.fst = nonces.map .pong := by
  fun_induction drain clock c with
  | case1 | case3 | case4 => exact ⟨[], [], (List.append_nil _).symm, rfl⟩
  | case2 c long e total => exact ⟨[], [], by simp [added, act], rfl⟩
  | case5 c long n total enough bytes rest packet decoded ih =>
      obtain ⟨first, here, added_, calls⟩ := handlePacket_answers clock rest packet
      obtain ⟨more, later, grown, calls'⟩ := ih
      refine ⟨first ++ more, here ++ later, ?_, ?_⟩
      · rw [grown, added_, List.map_append, List.append_assoc]
        rfl
      · rw [List.map_append, List.map_append, calls, calls']

theorem deliver_answers (clock : Nat → DateTime) (s : Nat) (c : RemoteSessionClient)
    (chunk : Bytes) :
    ∃ (posted : List Posted) (nonces : List Int),
      (deliver clock s c chunk).added = c.added ++ posted.map Posted.bytes ∧
      posted.map Prod.fst = nonces.map .pong := by
  unfold deliver
  split
  · exact drain_answers clock _
  · exact ⟨[], [], (List.append_nil _).symm, rfl⟩

/-- What packets of a host that goes on make of a connected client. -/
structure Heard (c next : RemoteSessionClient) (packets : List WirePacket) : Prop where
  holds : Holds c next
  handled : next.handled = c.handled ++ packets
  renders : next.renders = c.renders ++ drawn c.pendingMetadata packets
  metadata : next.pendingMetadata = packets.foldl metadataAfter c.pendingMetadata
  reported : ∀ e, next.Reported e ↔ c.Reported e
  answers : ∃ posted : List Posted, next.added = c.added ++ posted.map Posted.bytes ∧
    posted.map Prod.fst = (packets.filterMap nonce?).map .pong

theorem handlePackets_heard (clock : Nat → DateTime) {c : RemoteSessionClient}
    (connected : c.socket ≠ none) {packets : List WirePacket}
    (stay : ∀ p ∈ packets, p.type ≠ .disconnect) :
    Heard c (packets.foldl (handlePacket clock) c) packets := by
  induction packets generalizing c with
  | nil =>
      refine ⟨.refl c, (List.append_nil _).symm, (List.append_nil _).symm, rfl, fun _ => .rfl,
        [], ?_, rfl⟩
      exact (List.append_nil _).symm
  | cons p packets ih =>
      obtain ⟨here, later⟩ := List.forall_mem_cons.mp stay
      have holds := handlePacket_holds clock c here
      obtain ⟨renders, metadata⟩ := handlePacket_shown clock c here
      have added := handlePacket_added clock connected p
      have rest := ih (by rw [holds.socket]; exact connected) later
      obtain ⟨posted, grown, calls⟩ := rest.answers
      refine ⟨holds.trans rest.holds, ?_, ?_, ?_, ?_, ?_⟩
      · rw [List.foldl_cons, rest.handled, handlePacket_handled, List.append_assoc]
        rfl
      · have parts := drawn_append c.pendingMetadata [p] packets
        rw [List.foldl_cons, rest.renders, renders, metadata, List.append_assoc]
        exact congrArg (c.renders ++ ·) parts.symm
      · rw [List.foldl_cons, rest.metadata, metadata]
        rfl
      · intro e
        exact (rest.reported e).trans (handlePacket_reported clock c p e)
      · refine ⟨(nonce? p).toList.map (fun nonce =>
          (.pong nonce, clock (c.trace.length + 1))) ++ posted, ?_, ?_⟩
        · rw [List.foldl_cons, grown, added, List.map_append, List.map_map, List.append_assoc]
          rfl
        · rw [List.map_append, calls, List.map_map, List.filterMap_cons]
          cases nonce? p <;> rfl

/-- The capabilities that the client announces. -/
def announced : SessionCapabilities where
  video := true
  audio := true
  clipboard := true
  input := true
  fileTransfer := true
  multiMonitor := true
  lockedScreen := true

/-- A client that has just connected has greeted the host, and nothing else. -/
theorem connect_added (clock : Nat → DateTime) (host : String) (port s : Nat)
    (c : RemoteSessionClient) :
    ∃ now later, (c.connect clock host port s).added = c.added ++
      [Posted.bytes (.hello 1 1 announced, now),
        Posted.bytes (.capabilities announced announced, later)] := by
  let dialed := (c.beginDisconnect.endDisconnect).dial host port
  refine ⟨clock dialed.trace.length, clock (dialed.trace.length + 1), ?_⟩
  simp only [dialed, connect, install, sendInitialHandshake, dial, endDisconnect, beginDisconnect,
    added, act, reduceCtorEq, if_false, List.filterMap_append, List.filterMap_cons,
    List.filterMap_nil, List.append_assoc, List.cons_append, List.nil_append, List.length_append,
    List.length_cons, List.length_nil]
  rfl

end RemoteSessionClient
end Screenscrab.Client
