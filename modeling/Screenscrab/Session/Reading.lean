import Screenscrab.Session.HostLoop

/-! Parts of a run of `HostLoop` that do not depend on the bytes that come after them: the packets
that the receive loop of an iteration has read so far, and the iterations before. -/
namespace Screenscrab.Session
open Protocol LittleEndian
open Transition (exec)

namespace Incoming

/-- The same connection with other bytes still to come. -/
def on (c : Incoming) (wire : Bytes) : Incoming := { c with wire }

@[simp] theorem on_transport (c : Incoming) (wire : Bytes) :
    (c.on wire).transport = c.transport := rfl

/-- A packet has been received, and is still to be handled. -/
def received (c : Incoming) (packet : Bytes) : Incoming :=
  { c with consumed := c.consumed ++ packet }

theorem receiveExact_whole {data : Bytes} (small : data.length < 2 ^ 31) (rest : Bytes) :
    receiveExact data.length (data ++ rest) [data.length] = (some data, rest) := by
  have count : min data.length (castInt data.length).toNat = data.length := by
    rw [castInt_small small, Int.toNat_natCast, Nat.min_self]
  unfold receiveExact
  by_cases empty : data = []
  · rw [empty]
    rfl
  have nonempty : data.length ≠ 0 := mt List.eq_nil_of_length_eq_zero empty
  rw [if_neg nonempty, count, List.take_left]
  simp only [if_neg empty, Nat.sub_self, List.drop_left, receiveExact, if_true, Option.map_some,
    List.append_nil]

/-- All bytes that are asked for are there. -/
theorem receiveAll_whole {c : Incoming} (connected : c.transport.connected = true)
    {data : Bytes} (small : data.length < 2 ^ 31) (rest : Bytes) :
    (c.on (data ++ rest)).receiveAll data.length [data.length] =
      ((c.received data).on rest, some data) := by
  have valid := Transport.socket_ne_none connected
  have front : (data ++ rest).take ((data ++ rest).length - rest.length) = data := by
    rw [List.length_append, Nat.add_sub_cancel, List.take_left]
  simp only [receiveAll, connected, if_true, on, receiveExact_whole small, front,
    Transport.receiveAll, if_neg valid, received]

/-- The call of `recv` fails. -/
theorem receiveAll_nothing {c : Incoming} (connected : c.transport.connected = true)
    (wire : Bytes) {want : Nat} (some_ : want ≠ 0) :
    (c.on wire).receiveAll want [] = (c.on wire, none) := by
  have valid := Transport.socket_ne_none connected
  simp only [receiveAll, connected, if_true, on, receiveExact, if_neg some_,
    Nat.sub_self, List.take_zero, List.append_nil, Transport.receiveAll, if_neg valid]

/-- What is still to come does not matter for a packet that has come. -/
theorem handle_on (c : Incoming) (wire : Bytes) (a : Answers) (packet : Bytes) :
    (c.on wire).handle a packet = (c.handle a packet).map fun next => next.on wire := by
  unfold handle
  cases handlePacket a.settings packet with
  | none => rfl
  | some handling =>
      cases handling with
      | returns result => cases result <;> rfl
      | calls call =>
          simp only [Option.bind_eq_bind, Option.bind_some, Option.pure_def, Option.map_some]
          cases a.callResult <;> rfl
      | invalid => rfl
      | disconnects => rfl

end Incoming

/-- The answers with which one packet is read: it is waiting, and each `recv` fills its span. -/
def reading (packet : Bytes) (settings : Settings) (callResult : Bool) : Answers where
  stopRequested := false
  poll := .ok true
  header := [24]
  payload := [packet.length - 24]
  settings
  callResult

theorem receivePacket_on {c : Incoming} (connected : c.transport.connected = true)
    {packet : Bytes} (framed : Framed packet) (settings : Settings) (callResult : Bool)
    (rest : Bytes) :
    (c.on (packet ++ rest)).receivePacket (reading packet settings callResult) =
      ((c.received packet).handle (reading packet settings callResult) packet).map
        fun next => next.on rest := by
  have size := framed.size
  have whole : packet.take 24 ++ packet.drop 24 = packet := List.take_append_drop 24 packet
  have headerSize : (packet.take 24).length = 24 := by
    rw [List.length_take]
    omega
  have payloadSize : (packet.drop 24).length = packet.length - 24 := List.length_drop
  have at_ {offset width : Nat} (inside : offset + width ≤ 24) :
      word (packet.take 24) offset width = word packet offset width := by
    have same := word_append (packet.take 24) (packet.drop 24) (by rw [headerSize]; exact inside)
    rw [whole] at same
    exact same.symm
  have first : (c.on (packet ++ rest)).receiveAll 24 [24] =
      ((c.received (packet.take 24)).on (packet.drop 24 ++ rest), some (packet.take 24)) := by
    have read := Incoming.receiveAll_whole connected (headerSize.trans_lt (by decide))
      (packet.drop 24 ++ rest)
    rw [headerSize, ← List.append_assoc, whole] at read
    exact read
  rw [Incoming.receivePacket_header (a := reading packet settings callResult) first headerSize,
    at_ (by omega), at_ (by omega), at_ (by omega), framed.magic, framed.version,
    if_neg (by simp), if_neg (by have small := framed.small; omega)]
  split
  · next empty =>
      have nothing : packet.drop 24 = [] := List.length_eq_zero_iff.mp (by omega)
      rw [nothing, List.append_nil] at whole
      rw [nothing, List.nil_append, whole]
      exact Incoming.handle_on _ _ _ _
  · have short : (packet.drop 24).length < 2 ^ 31 := by
      have small := framed.small
      omega
    have second := Incoming.receiveAll_whole (c := c.received (packet.take 24)) connected short
      rest
    rw [payloadSize] at second
    have wanted : word packet 12 4 = packet.length - 24 := by omega
    rw [wanted, show (reading packet settings callResult).payload = [packet.length - 24] from rfl,
      second]
    have together : ((c.received (packet.take 24)).received (packet.drop 24)) =
        c.received packet := by
      simp only [Incoming.received, List.append_assoc, whole]
    simp only [together, whole]
    exact Incoming.handle_on _ _ _ _

namespace HostLoop

/-- The loop with other bytes still to come. -/
def on (l : HostLoop) (wire : Bytes) : HostLoop := { l with incoming := l.incoming.on wire }

/-- A frame has been sent, and the receive loop has got to `c`. -/
def serving (l : HostLoop) (c : Incoming) : HostLoop :=
  { l with incoming := c, framesSent := l.framesSent + 1 }

/-- Some iterations lead from one state of the loop to another, on any bytes that begin with those
that they receive. -/
def Arrives (start l : HostLoop) : Prop :=
  ∃ received iterations, ∀ rest,
    exec HostLoop.step (start.on (received ++ rest)) iterations = some (l.on rest)

/-- In the iteration of `l` the receive loop has got to `c`, and goes on from there. -/
def Reads (l : HostLoop) (c : Incoming) : Prop :=
  ∃ received answers, ∀ rest more,
    (l.incoming.on (received ++ rest)).processIncomingPackets (answers ++ more) =
      (c.on rest).processIncomingPackets more

/-- In the iteration of `l` the receive loop ends with `c`. -/
def HasRead (l : HostLoop) (c : Incoming) : Prop :=
  ∃ received answers, ∀ rest,
    (l.incoming.on (received ++ rest)).processIncomingPackets answers = some (c.on rest)

variable {start l l' : HostLoop} {c next : Incoming}

theorem Arrives.refl (l : HostLoop) : Arrives l l := ⟨[], [], fun _ => rfl⟩

theorem Arrives.turn (arrives : Arrives start l) {received : Bytes} {i : Iteration}
    (taken : ∀ rest, (l.on (received ++ rest)).step i = some (l'.on rest)) : Arrives start l' := by
  obtain ⟨before, iterations, runs⟩ := arrives
  refine ⟨before ++ received, iterations ++ [i], ?_⟩
  intro rest
  rw [List.append_assoc, Transition.exec_append, runs, Option.bind_some, Transition.exec_cons,
    taken, Option.bind_some, Transition.exec_nil]

theorem Reads.initial (l : HostLoop) : Reads l l.incoming := ⟨[], [], fun _ _ => rfl⟩

theorem Reads.receive (reads : Reads l c) (connected : c.transport.connected = true)
    {received : Bytes} {a : Answers} (running : a.stopRequested = false)
    (readable : a.poll = .ok true)
    (taken : ∀ rest, (c.on (received ++ rest)).receivePacket a = some (next.on rest)) :
    Reads l next := by
  obtain ⟨before, answers, runs⟩ := reads
  refine ⟨before ++ received, answers ++ [a], ?_⟩
  intro rest more
  rw [List.append_assoc, List.append_assoc, List.singleton_append, runs,
    Incoming.processIncomingPackets]
  simp only [Incoming.awaits_ready (c := c.on (received ++ rest)) connected running readable,
    taken, Option.bind_some]

/-- One packet is handled. -/
theorem Reads.handle (reads : Reads l c) (connected : c.transport.connected = true)
    {packet : Bytes} (framed : Framed packet) (settings : Settings) (callResult : Bool)
    (handled : (c.received packet).handle (reading packet settings callResult) packet =
      some next) : Reads l next := by
  have taken : ∀ rest,
      (c.on (packet ++ rest)).receivePacket (reading packet settings callResult) =
        some (next.on rest) := by
    intro rest
    rw [receivePacket_on connected framed, handled]
    rfl
  exact reads.receive connected rfl rfl taken

theorem Reads.ends (reads : Reads l c) {a : Answers}
    (ended : ∀ rest, (c.on rest).awaits a = (next.on rest, false)) : HasRead l next := by
  obtain ⟨received, answers, runs⟩ := reads
  refine ⟨received, answers ++ [a], ?_⟩
  intro rest
  rw [runs, Incoming.processIncomingPackets, ended]

/-! The four ways of an iteration -/

theorem step_on (connected : l.connected = true) {i : Iteration} (running : i.stopRequested = false)
    (wire : Bytes) : (l.on wire).step i = (l.on wire).iterate i := step_running connected running

/-- An iteration that gets so far and sends nothing. -/
def attempt (captures encodes : Bool) : Iteration where
  stopRequested := false
  capture := ⟨captures, 0, 0, 0, 0⟩
  encodes
  metadata := false
  frame := false
  incoming := []
  now := 0
  ping := false

theorem Arrives.captureFailed (arrives : Arrives start l) (connected : l.connected = true) :
    Arrives start (l.applyError (-3) (ascii "capture failed")) := by
  have taken : ∀ rest, (l.on ([] ++ rest)).step (attempt false false) =
      some ((l.applyError (-3) (ascii "capture failed")).on rest) := by
    intro rest
    rw [step_on connected rfl, iterate, if_pos (by decide)]
    rfl
  exact arrives.turn taken

theorem Arrives.encodeFailed (arrives : Arrives start l) (connected : l.connected = true) :
    Arrives start (l.applyError (-4) (ascii "encode failed")) := by
  have taken : ∀ rest, (l.on ([] ++ rest)).step (attempt true false) =
      some ((l.applyError (-4) (ascii "encode failed")).on rest) := by
    intro rest
    rw [step_on connected rfl, iterate, if_neg (by decide), if_pos (by decide)]
    rfl
  exact arrives.turn taken

/-- The connection as a frame that cannot be sent leaves it. -/
def dropped (l : HostLoop) : HostLoop :=
  { l with
    incoming := (l.incoming.applyError l.incoming.transport.lastError
      (ascii "frame send failed")).disconnect }

theorem Arrives.sendFailed (arrives : Arrives start l) (connected : l.connected = true) :
    Arrives start l.dropped := by
  have failed := sendFrame_connected connected (attempt true true)
  have taken : ∀ rest, (l.on ([] ++ rest)).step (attempt true true) = some (l.dropped.on rest) := by
    intro rest
    rw [step_on connected rfl, iterate, if_neg (by decide), if_neg (by decide)]
    simp only [List.nil_append, on, Incoming.on_transport, failed]
    rfl
  exact arrives.turn taken

/-- The loop after a frame, with a ping if it is time. -/
def finished (l : HostLoop) (c : Incoming) (now : UInt64) (ping : Bool) : HostLoop :=
  if now - l.lastPing > 1000000 then
    { l.serving { c with transport := (c.transport.sendAll ping).1 } with lastPing := now }
  else l.serving c

theorem Arrives.frameSent (arrives : Arrives start l) (connected : l.connected = true)
    (read : HasRead l c) (now : UInt64) (ping : Bool) : Arrives start (l.finished c now ping) := by
  obtain ⟨received, answers, runs⟩ := read
  let i : Iteration :=
    { attempt true true with metadata := true, frame := true, incoming := answers, now, ping }
  have sent : sendFrame l.incoming.transport i = (l.incoming.transport, true) :=
    sendFrame_connected connected i
  have taken : ∀ rest, (l.on (received ++ rest)).step i =
      some ((l.finished c now ping).on rest) := by
    intro rest
    have same : ({ (l.on (received ++ rest)).incoming with transport := l.incoming.transport } :
        Incoming).processIncomingPackets answers = some (c.on rest) := runs rest
    have begun : (l.on (received ++ rest)).step i = (l.on (received ++ rest)).iterate i :=
      step_on connected rfl _
    have captures : ¬¬i.capture.captures = true := not_not_intro rfl
    have encodes : ¬¬i.encodes = true := not_not_intro rfl
    rw [begun, iterate, if_neg captures, if_neg encodes]
    simp only [on, Incoming.on_transport, sent]
    simp only [on] at same
    rw [same]
    simp only [Option.bind_eq_bind, Option.bind_some, Option.pure_def, sendPing, finished, i]
    split <;> rfl
  exact arrives.turn taken

end HostLoop

/-! What the result of a handler makes of the connection -/

namespace Incoming

/-- The packet is logged with its result, and a `false` ends the session. -/
def settled (c : Incoming) (packet : Bytes) (result : Bool) : Incoming :=
  if result then { c with handled := c.handled ++ [(packet, result)] }
  else { c with handled := c.handled ++ [(packet, result)] }.disconnect

variable {c : Incoming} {a : Answers} {packet : Bytes}

theorem handle_returns {result : Bool}
    (handled : Session.handlePacket a.settings packet = some (.returns result)) :
    c.handle a packet = some (c.settled packet result) := by
  rw [handle, handled]
  rfl

theorem handle_calls {call : HandlerCall}
    (handled : Session.handlePacket a.settings packet = some (.calls call)) :
    c.handle a packet =
      some ({ c with calls := c.calls ++ [call] }.settled packet a.callResult) := by
  rw [handle, handled]
  rfl

theorem handle_invalid (handled : Session.handlePacket a.settings packet = some .invalid) :
    c.handle a packet =
      some ((c.applyError (-8) (ascii "invalid packet")).settled packet false) := by
  rw [handle, handled]
  rfl

theorem handle_disconnects (handled : Session.handlePacket a.settings packet = some .disconnects) :
    c.handle a packet = some (c.disconnect.settled packet false) := by
  rw [handle, handled]
  rfl

end Incoming

end Screenscrab.Session
