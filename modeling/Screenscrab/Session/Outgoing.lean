import Screenscrab.Session.Transport

/-! What a host sends on one connection: `send_host_hello`, `send_frame`, the pings of the
session loop and the pongs of the ping handler, all through `send_all`. -/
namespace Screenscrab.Session
open Protocol

/-- `send_exact`: `send` is called until every byte is taken. A call that may take at
most `n` bytes takes the next ones; none taken, a failed call and the end of the
schedule all end the loop with `false`. -/
def sendExact (bytes : Bytes) : List Nat → Bytes × Bool
  | [] => ([], bytes = [])
  | n :: schedule =>
    if bytes = [] then ([], true)
    else
      let sent := bytes.take (min n (castInt bytes.length).toNat)
      if sent = [] then ([], false)
      else
        let (more, ok) := sendExact (bytes.drop sent.length) schedule
        (sent ++ more, ok)

theorem sendExact_all (bytes : Bytes) (schedule : List Nat)
    (ok : (sendExact bytes schedule).2 = true) : (sendExact bytes schedule).1 = bytes := by
  induction schedule generalizing bytes with
  | nil =>
      have empty : bytes = [] := by simpa only [sendExact, decide_eq_true_eq] using ok
      exact empty.symm
  | cons n schedule ih =>
      unfold sendExact at ok ⊢
      by_cases empty : bytes = []
      · rw [if_pos empty]
        exact empty.symm
      rw [if_neg empty] at ok ⊢
      set sent := bytes.take (min n (castInt bytes.length).toNat) with taken
      by_cases nothing : sent = []
      · rw [if_pos nothing] at ok
        cases ok
      rw [if_neg nothing] at ok ⊢
      have front : bytes.take sent.length = sent := by
        rw [taken, List.length_take, ← List.take_take, List.take_length]
      have rest := ih (bytes.drop sent.length) ok
      calc sent ++ (sendExact (bytes.drop sent.length) schedule).1
          = bytes.take sent.length ++ bytes.drop sent.length := by rw [rest, front]
        _ = bytes := List.take_append_drop sent.length bytes

/-- What the encoder hands to `send_frame`. -/
structure EncodedFrame where
  timestampUtcUs : UInt64
  width : UInt32
  height : UInt32
  strideBytes : UInt32
  monitorIndex : UInt32
  payload : Bytes
  deriving DecidableEq

def capabilityMask : UInt32 :=
  let u : UInt32 := 1
  u <<< 0 ||| u <<< 1 ||| u <<< 2 ||| u <<< 3 ||| u <<< 4 ||| u <<< 5 ||| u <<< 6

/-- One connection seen from its sender: the bytes that `send` has taken and the
results of the `send_all` calls. -/
structure Outgoing where
  transport : Transport
  wire : Bytes := []
  results : List Bool := []

/-- The clock readings and the schedules of `send_host_hello`. -/
structure HelloCalls where
  helloNow : UInt64
  capabilitiesNow : UInt64
  startNow : UInt64
  hello : List Nat
  capabilities : List Nat
  start : List Nat

/-- What a connected host sends after its hello. -/
inductive Sending where
  | frame (encoded : EncodedFrame) (metadata payload : List Nat)
  | ping (now : UInt64) (schedule : List Nat)
  | pong (nonce now : UInt64) (schedule : List Nat)

namespace Outgoing

def sendAll (h : Outgoing) (bytes : Bytes) (schedule : List Nat) : Outgoing × Bool :=
  let (taken, ok) := if h.transport.connected then sendExact bytes schedule else ([], false)
  let (transport, ok) := h.transport.sendAll ok
  ({ transport, wire := h.wire ++ taken, results := h.results ++ [ok] }, ok)

def sendHostHello (h : Outgoing) (calls : HelloCalls) : Outgoing :=
  let helloPayload := makeHello 1 1 capabilityMask
  let (h, _) := h.sendAll (makePacket .hello 0 helloPayload calls.helloNow) calls.hello
  let capabilitiesPayload := makeCapabilities capabilityMask capabilityMask
  let (h, _) := h.sendAll (makePacket .capabilities 0 capabilitiesPayload calls.capabilitiesNow)
    calls.capabilities
  (h.sendAll (makePacket .sessionStart 0 [] calls.startNow) calls.start).1

def metadataPacket (encoded : EncodedFrame) : Bytes :=
  makePacket .frameMetadata 0
    (makeFrameMetadata encoded.monitorIndex encoded.width encoded.height encoded.strideBytes
      encoded.timestampUtcUs)
    encoded.timestampUtcUs

def framePacket (encoded : EncodedFrame) : Bytes :=
  makePacket .videoFrame 0 encoded.payload encoded.timestampUtcUs

def sendFrame (h : Outgoing) (encoded : EncodedFrame) (metadata payload : List Nat) :
    Outgoing × Bool :=
  match h.sendAll (metadataPacket encoded) metadata with
  | (h, false) => (h, false)
  | (h, true) => h.sendAll (framePacket encoded) payload

def send (h : Outgoing) : Sending → Outgoing
  | .frame encoded metadata payload => (h.sendFrame encoded metadata payload).1
  | .ping now schedule => (h.sendAll (makePacket .ping 0 (makePing now) now) schedule).1
  | .pong nonce now schedule => (h.sendAll (makePacket .pong 0 (makePong nonce) now) schedule).1

/-- A host session from `send_host_hello` on. -/
def session (transport : Transport) (calls : HelloCalls) (sendings : List Sending) : Outgoing :=
  sendings.foldl send (sendHostHello { transport } calls)

/-- No `send_all` has failed. -/
def Succeeded (h : Outgoing) : Prop := ∀ ok ∈ h.results, ok = true

instance (h : Outgoing) : Decidable h.Succeeded :=
  inferInstanceAs (Decidable (∀ ok ∈ h.results, ok = true))

/-- A call that sends `packets` when none of its `send_all` fails. -/
def Sends (h next : Outgoing) (packets : List Bytes) : Prop :=
  next.Succeeded → h.Succeeded ∧ next.wire = h.wire ++ packets.flatten

theorem Sends.trans {h middle next : Outgoing} {packets more : List Bytes}
    (first : Sends h middle packets) (second : Sends middle next more) :
    Sends h next (packets ++ more) := by
  intro succeeded
  obtain ⟨between, later⟩ := second succeeded
  obtain ⟨before, earlier⟩ := first between
  exact ⟨before, by rw [later, earlier, List.flatten_append, List.append_assoc]⟩

theorem sendAll_sends (h : Outgoing) (bytes : Bytes) (schedule : List Nat) :
    Sends h (h.sendAll bytes schedule).1 [bytes] := by
  intro succeeded
  have last : (h.sendAll bytes schedule).2 = true :=
    succeeded _ (List.mem_append_right h.results (List.mem_singleton.mpr rfl))
  refine ⟨fun ok member => succeeded ok (List.mem_append_left _ member), ?_⟩
  rw [List.flatten_singleton]
  unfold sendAll Transport.sendAll at last ⊢
  by_cases connected : h.transport.connected = true
  · have valid : h.transport.socket ≠ none := by
      rintro missing
      rw [Transport.connected, missing] at connected
      cases connected
    simp only [if_pos connected, if_neg valid] at last ⊢
    rw [sendExact_all bytes schedule last]
  · simp only [if_neg connected] at last
    split at last <;> cases last

theorem sendHostHello_sends (h : Outgoing) (calls : HelloCalls) :
    Sends h (h.sendHostHello calls)
      [makePacket .hello 0 (makeHello 1 1 capabilityMask) calls.helloNow,
        makePacket .capabilities 0 (makeCapabilities capabilityMask capabilityMask)
          calls.capabilitiesNow,
        makePacket .sessionStart 0 [] calls.startNow] :=
  ((sendAll_sends h _ _).trans (sendAll_sends _ _ _)).trans (sendAll_sends _ _ _)

def packets : Sending → List Bytes
  | .frame encoded _ _ => [metadataPacket encoded, framePacket encoded]
  | .ping now _ => [makePacket .ping 0 (makePing now) now]
  | .pong nonce now _ => [makePacket .pong 0 (makePong nonce) now]

theorem send_sends (h : Outgoing) (sending : Sending) :
    Sends h (h.send sending) (packets sending) := by
  cases sending with
  | frame encoded metadata payload =>
      have first := sendAll_sends h (metadataPacket encoded) metadata
      have result : (h.sendAll (metadataPacket encoded) metadata).2 ∈
          (h.sendAll (metadataPacket encoded) metadata).1.results :=
        List.mem_append_right h.results (List.mem_singleton.mpr rfl)
      cases sent : h.sendAll (metadataPacket encoded) metadata with
      | mk next ok =>
          rw [sent] at first result
          cases ok with
          | false =>
              simp only [send, sendFrame, sent]
              intro succeeded
              cases succeeded false result
          | true =>
              simp only [send, sendFrame, sent]
              exact first.trans (sendAll_sends next (framePacket encoded) payload)
  | ping now schedule => exact sendAll_sends h _ schedule
  | pong nonce now schedule => exact sendAll_sends h _ schedule

theorem sendings_send (sendings : List Sending) (h : Outgoing) :
    Sends h (sendings.foldl send h) (sendings.flatMap packets) := by
  induction sendings generalizing h with
  | nil => exact fun succeeded => ⟨succeeded, (List.append_nil _).symm⟩
  | cons sending sendings ih => exact (send_sends h sending).trans (ih (h.send sending))

/-- The bytes on the wire of a session without a failed send, whatever the partial results. -/
theorem session_wire (transport : Transport) (calls : HelloCalls) (sendings : List Sending)
    (succeeded : (session transport calls sendings).Succeeded) :
    (session transport calls sendings).wire =
      ([makePacket .hello 0 (makeHello 1 1 capabilityMask) calls.helloNow,
        makePacket .capabilities 0 (makeCapabilities capabilityMask capabilityMask)
          calls.capabilitiesNow,
        makePacket .sessionStart 0 [] calls.startNow] ++ sendings.flatMap packets).flatten :=
  (((sendHostHello_sends { transport } calls).trans (sendings_send sendings _)) succeeded).2

end Outgoing
end Screenscrab.Session
