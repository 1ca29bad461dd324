import Screenscrab.Client.Conversation
import Screenscrab.Remote.Accepted
import Screenscrab.Session.HostLoop

/-! One connection from both ends: the host that captures a screen, the client that shows it,
and the bytes that are on their way between them. The two take their steps in any order. -/
namespace Screenscrab.Remote
open Protocol Dart Client Session

/-- The host on one connection: what it receives, the packets that it has handed to `send_all`
with the results, and the frames that `send_frame` has sent. `arriving` are the bytes that
`send` has taken and that have not reached the client. -/
structure HostEnd where
  incoming : Incoming
  arriving : Bytes := []
  results : List Bool := []
  sent : List Bytes := []
  frames : List EncodedFrame := []

namespace HostEnd

def connected (h : HostEnd) : Bool := h.incoming.transport.connected

def sendAll (h : HostEnd) (bytes : Bytes) (schedule : List Nat) : HostEnd × Bool :=
  let outgoing : Outgoing :=
    { transport := h.incoming.transport, wire := h.arriving, results := h.results }
  let (outgoing, ok) := outgoing.sendAll bytes schedule
  ({ h with
    incoming := { h.incoming with transport := outgoing.transport }
    arriving := outgoing.wire
    results := outgoing.results
    sent := h.sent ++ [bytes] }, ok)

def sendHostHello (h : HostEnd) (calls : HelloCalls) : HostEnd :=
  let helloPayload := makeHello 1 1 capabilityMask
  let (h, _) := h.sendAll (makePacket .hello 0 helloPayload calls.helloNow) calls.hello
  let capabilitiesPayload := makeCapabilities capabilityMask capabilityMask
  let (h, _) := h.sendAll (makePacket .capabilities 0 capabilitiesPayload calls.capabilitiesNow)
    calls.capabilities
  (h.sendAll (makePacket .sessionStart 0 [] calls.startNow) calls.start).1

def sendFrame (h : HostEnd) (encoded : EncodedFrame) (metadata payload : List Nat) :
    HostEnd × Bool :=
  match h.sendAll (Outgoing.metadataPacket encoded) metadata with
  | (h, false) => (h, false)
  | (h, true) => h.sendAll (Outgoing.framePacket encoded) payload

/-- What the loop does with an encoded frame. -/
def frame (h : HostEnd) (encoded : EncodedFrame) (metadata payload : List Nat) : HostEnd :=
  match h.sendFrame encoded metadata payload with
  | (h, false) =>
    let incoming :=
      h.incoming.applyError h.incoming.transport.lastError (ascii "frame send failed")
    { h with incoming := incoming.disconnect }
  | (h, true) => { h with frames := h.frames ++ [encoded] }

/-- What the loop does without one: nothing was captured, or nothing encoded. -/
def skip (h : HostEnd) (captured : Bool) : HostEnd :=
  { h with incoming :=
    if captured then h.incoming.applyError (-4) (ascii "encode failed")
    else h.incoming.applyError (-3) (ascii "capture failed") }

def ping (h : HostEnd) (now : UInt64) (schedule : List Nat) : HostEnd :=
  (h.sendAll (makePacket .ping 0 (makePing now) now) schedule).1

/-- An iteration of the receive loop. When its packet is a ping, the pong is sent, and what
`send_all` answers is what the handler returns. -/
def receive (h : HostEnd) (a : Answers) (pong : List Nat) : Option HostEnd := do
  let incoming ← h.incoming.step (.iteration a)
  match incoming.calls.drop h.incoming.calls.length with
  | [.sendPong packet] =>
    let (answered, ok) := h.sendAll packet pong
    if ok = a.callResult then some { answered with incoming } else none
  | _ => some { h with incoming }

def Succeeded (h : HostEnd) : Prop := ∀ ok ∈ h.results, ok = true

instance (h : HostEnd) : Decidable h.Succeeded :=
  inferInstanceAs (Decidable (∀ ok ∈ h.results, ok = true))

/-- A socket on which a `send` has failed takes nothing more. -/
def Steady (h : HostEnd) (schedule : List Nat) : Prop :=
  h.Succeeded ∨ ∀ bytes, (sendExact bytes schedule).1 = []

/-- What one `send_all` does: the packet is taken whole, or only a front of it. -/
structure Sent (h next : HostEnd) (bytes : Bytes) (ok : Bool) : Prop where
  sent : next.sent = h.sent ++ [bytes]
  frames : next.frames = h.frames
  incoming : ∃ transport, next.incoming = { h.incoming with transport }
  connected : next.connected = h.connected
  taken : ok = true → h.Succeeded ∧ next.Succeeded ∧ next.arriving = h.arriving ++ bytes
  broken : ok = false → ¬ next.Succeeded ∧ ∃ front missing, missing ≠ [] ∧
    front ++ missing = bytes ∧ next.arriving = h.arriving ++ front ∧ (¬ h.Succeeded → front = [])

end HostEnd

/-- What `send` has taken of a packet is a front of it, and all of it where nothing failed. -/
theorem sendExact_front (bytes : Bytes) (schedule : List Nat) :
    ∃ missing, (sendExact bytes schedule).1 ++ missing = bytes ∧
      ((sendExact bytes schedule).2 = false → missing ≠ []) := by
  induction schedule generalizing bytes with
  | nil =>
      refine ⟨bytes, rfl, ?_⟩
      intro failed
      exact of_decide_eq_false failed
  | cons n schedule ih =>
      unfold sendExact
      by_cases empty : bytes = []
      · rw [if_pos empty, empty]
        refine ⟨[], rfl, ?_⟩
        intro failed
        cases failed
      rw [if_neg empty]
      dsimp only
      generalize taken : bytes.take (min n (castInt bytes.length).toNat) = first
      by_cases nothing : first = []
      · rw [if_pos nothing]
        exact ⟨bytes, rfl, fun _ => empty⟩
      rw [if_neg nothing]
      have front : bytes.take first.length = first := by
        rw [← taken, List.length_take, ← List.take_take, List.take_length]
      obtain ⟨missing, whole, failed⟩ := ih (bytes.drop first.length)
      refine ⟨missing, ?_, failed⟩
      calc first ++ (sendExact (bytes.drop first.length) schedule).1 ++ missing
          = bytes.take first.length ++ bytes.drop first.length := by
            rw [List.append_assoc, whole, front]
        _ = bytes := List.take_append_drop first.length bytes

namespace HostEnd

theorem succeeded_concat {results : List Bool} {ok : Bool} :
    (∀ r ∈ results ++ [ok], r = true) ↔ (∀ r ∈ results, r = true) ∧ ok = true := by
  rw [List.forall_mem_append, List.forall_mem_singleton]

theorem sendAll_sent (h : HostEnd) {bytes : Bytes} (nonempty : bytes ≠ []) {schedule : List Nat}
    (steady : h.Steady schedule) :
    Sent h (h.sendAll bytes schedule).1 bytes (h.sendAll bytes schedule).2 := by
  have socket : (h.sendAll bytes schedule).1.connected = h.connected := by
    simp only [connected, Transport.connected, sendAll, Outgoing.sendAll, sendAll_socket]
  refine ⟨rfl, rfl, ⟨_, rfl⟩, socket, ?_, ?_⟩
  · intro ok
    have results : (h.sendAll bytes schedule).1.Succeeded ↔ h.Succeeded ∧
        (h.sendAll bytes schedule).2 = true := succeeded_concat
    have connected : h.incoming.transport.connected = true := by
      cases open_ : h.incoming.transport.connected with
      | true => rfl
      | false =>
          have none : h.incoming.transport.socket = none :=
            Option.not_isSome_iff_eq_none.mp (Bool.eq_false_iff.mp open_)
          simp only [sendAll, Outgoing.sendAll, Transport.sendAll, if_pos none] at ok
          cases ok
    have valid := Transport.socket_ne_none connected
    have took : (sendExact bytes schedule).1 = bytes := by
      refine sendExact_all bytes schedule ?_
      simpa only [sendAll, Outgoing.sendAll, Transport.sendAll, if_neg valid, if_pos connected]
        using ok
    have before : h.Succeeded := by
      rcases steady with succeeded | nothing
      · exact succeeded
      · exact absurd (took.symm.trans (nothing bytes)) nonempty
    refine ⟨before, results.mpr ⟨before, ok⟩, ?_⟩
    simp only [sendAll, Outgoing.sendAll, if_pos connected, took]
  · intro failed
    have results : ¬ (h.sendAll bytes schedule).1.Succeeded := by
      intro succeeded
      have last := (succeeded_concat.mp succeeded).2
      exact Bool.false_ne_true (failed.symm.trans last)
    refine ⟨results, ?_⟩
    cases connected : h.incoming.transport.connected with
    | false =>
        refine ⟨[], bytes, nonempty, rfl, ?_, fun _ => rfl⟩
        simp only [sendAll, Outgoing.sendAll, connected, Bool.false_eq_true, if_false]
    | true =>
        have valid := Transport.socket_ne_none connected
        obtain ⟨missing, whole, short⟩ := sendExact_front bytes schedule
        have stopped : (sendExact bytes schedule).2 = false := by
          simpa only [sendAll, Outgoing.sendAll, Transport.sendAll, if_neg valid, connected,
            if_true] using failed
        refine ⟨(sendExact bytes schedule).1, missing, short stopped, whole, ?_, ?_⟩
        · simp only [sendAll, Outgoing.sendAll, connected, if_true]
        · intro before
          exact steady.resolve_left before bytes

end HostEnd

/-- The two ends of a connection. `rendering` counts the `renderFrame` calls that have not been
answered. -/
structure Link where
  host : HostEnd
  client : RemoteSessionClient
  rendering : Nat

/-- A step of one of the two ends. -/
inductive Label (Double : Type) where
  | frame (encoded : EncodedFrame) (metadata payload : List Nat)
  | skip (captured : Bool)
  | ping (now : UInt64) (schedule : List Nat)
  | receive (a : Answers) (pong : List Nat)
  | close
  | input (input : UserInput Double)
  | data (size : Nat)
  | rendered (ok : Bool)
  | socketError (error : String)
  | socketDone
  | beginDisconnect
  | endDisconnect

/-- The user syncs no text that is too long for the host. -/
def Label.Short {Double : Type} : Label Double → Prop
  | .input (.clipboard text) => (Utf8.encode text).length ≤ clipboardLimit
  | _ => True

namespace Link

/-- The client has taken a step: what it has added to its socket is on its way to the host. -/
def reply (l : Link) (client : RemoteSessionClient) : Link :=
  let added := (client.added.drop l.client.added.length).flatten
  let incoming := { l.host.incoming with wire := l.host.incoming.wire ++ added }
  { host := { l.host with incoming }
    client
    rendering := l.rendering + (client.renders.length - l.client.renders.length) }

section
variable {Double : Type} (d : Doubles Double) (clock : Nat → DateTime) (s : Nat)

def step (l : Link) : Label Double → Option Link
  | .frame encoded metadata payload =>
    some { l with host := l.host.frame encoded metadata payload }
  | .skip captured => some { l with host := l.host.skip captured }
  | .ping now schedule => some { l with host := l.host.ping now schedule }
  | .receive a pong => (l.host.receive a pong).map fun host => { l with host }
  | .close => some { l with host := { l.host with incoming := l.host.incoming.disconnect } }
  | .input input => some (l.reply (l.client.perform d input (clock l.client.trace.length)))
  | .data size =>
    let left := { l with host := { l.host with arriving := l.host.arriving.drop size } }
    some (left.reply (RemoteSessionClient.deliver clock s l.client (l.host.arriving.take size)))
  | .rendered ok =>
    if l.rendering = 0 then none
    else some { l with client := l.client.rendered ok, rendering := l.rendering - 1 }
  | .socketError error =>
    if l.client.Live s then some { l with client := l.client.onSocketError s error } else none
  | .socketDone =>
    if l.client.Live s then
      let client := (l.client.act (.state .disconnected)).act (.status "Connection closed")
      some { l with client := client.beginDisconnect }
    else none
  | .beginDisconnect => some { l with client := l.client.beginDisconnect }
  | .endDisconnect => some { l with client := l.client.endDisconnect }

/-- The client has connected and the host has sent its hello. Of an earlier connection, answers
to `renderFrame` may still be missing. -/
def start (transport : Transport) (calls : HelloCalls) (host : String) (port : Nat)
    (earlier : RemoteSessionClient) (rendering : Nat) : Link :=
  let client := earlier.connect clock host port s
  let incoming := Incoming.start transport (client.added.drop earlier.added.length).flatten
  { host := HostEnd.sendHostHello { incoming } calls, client, rendering }

end

/-- What the two ends are given: times that are dates of the client, frames not larger than an
`int` can count, texts that the host takes, and sockets that do not recover. -/
def Sound (l : Link) {Double : Type} : Label Double → Prop
  | .frame encoded metadata payload =>
    Sendable (.frame encoded metadata payload) ∧ l.host.Steady metadata
  | .ping now schedule => OnTime now ∧ l.host.Steady schedule
  | label => label.Short

theorem Sound.short {l : Link} {Double : Type} {label : Label Double} (sound : l.Sound label) :
    label.Short := by
  cases label with
  | frame | ping => trivial
  | _ => exact sound

/-- The same for the hello. -/
def SoundHello (h : HostEnd) (calls : HelloCalls) : Prop :=
  let helloPacket := makePacket .hello 0 (makeHello 1 1 capabilityMask) calls.helloNow
  let capabilitiesPacket :=
    makePacket .capabilities 0 (makeCapabilities capabilityMask capabilityMask)
      calls.capabilitiesNow
  let greeted := (h.sendAll helloPacket calls.hello).1
  HelloOnTime calls ∧ h.Steady calls.hello ∧ greeted.Steady calls.capabilities ∧
    (greeted.sendAll capabilitiesPacket calls.capabilities).1.Steady calls.start

end Link
end Screenscrab.Remote
