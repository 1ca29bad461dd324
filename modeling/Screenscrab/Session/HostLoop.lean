import Screenscrab.Session.Incoming

/-! The inner loop of `run_host_loop`: a frame is captured, encoded and sent, and only then are
the packets of the client read. -/
namespace Screenscrab.Session
open Protocol

/-- What the calls of `CaptureBackend::capture` in front of its row loop answer. -/
structure CaptureCalls where
  initialized : Bool
  acquireNextFrame : Int32
  queryTexture : Int32
  createTexture2D : Int32
  map : Int32

/-- The macro `FAILED` on an `HRESULT`. -/
def failed (result : Int32) : Bool := result < 0

/-- The result of `capture`. -/
def CaptureCalls.captures (calls : CaptureCalls) : Bool :=
  calls.initialized && !failed calls.acquireNextFrame && !failed calls.queryTexture &&
    !failed calls.createTexture2D && !failed calls.map

/-- What the calls of one iteration answer: `encodes` is the result of `encode`, and `metadata`,
`frame` and `ping` are what `send_exact` returns for each packet. -/
structure Iteration where
  stopRequested : Bool
  capture : CaptureCalls
  encodes : Bool
  metadata : Bool
  frame : Bool
  incoming : List Answers
  now : UInt64
  ping : Bool

/-- A frame is there to be sent. -/
def Iteration.hasFrame (i : Iteration) : Bool := i.capture.captures && i.encodes

structure HostLoop where
  incoming : Incoming
  framesSent : UInt64 := 0
  lastPing : UInt64

def sendFrame (transport : Transport) (i : Iteration) : Transport × Bool :=
  match transport.sendAll i.metadata with
  | (transport, false) => (transport, false)
  | (transport, true) => transport.sendAll i.frame

namespace HostLoop

def connected (l : HostLoop) : Bool := l.incoming.transport.connected

def applyError (l : HostLoop) (code : Int32) (message : Bytes) : HostLoop :=
  { l with incoming := l.incoming.applyError code message }

def sendPing (l : HostLoop) (i : Iteration) : HostLoop :=
  if i.now - l.lastPing > 1000000 then
    { l with
      incoming := { l.incoming with transport := (l.incoming.transport.sendAll i.ping).1 }
      lastPing := i.now }
  else l

/-- The body of the loop. -/
def iterate (l : HostLoop) (i : Iteration) : Option HostLoop :=
  if ¬ i.capture.captures then some (l.applyError (-3) (ascii "capture failed"))
  else if ¬ i.encodes then some (l.applyError (-4) (ascii "encode failed"))
  else
    match sendFrame l.incoming.transport i with
    | (transport, false) =>
      let incoming := { l.incoming with transport }
      let incoming := incoming.applyError transport.lastError (ascii "frame send failed")
      some { l with incoming := incoming.disconnect }
    | (transport, true) => do
      let incoming ← { l.incoming with transport }.processIncomingPackets i.incoming
      return { l with incoming, framesSent := l.framesSent + 1 }.sendPing i

/-- An iteration is entered while no stop is requested and the connection is open. -/
def step (l : HostLoop) (i : Iteration) : Option HostLoop :=
  if i.stopRequested = false ∧ l.connected then l.iterate i else none

end HostLoop

/-- Whole packets lie at the front of the wire, and the calls that the receive loop makes for each
of them find it there: no stop is requested, `select` reports it and `recv` delivers it. -/
def Arrived : Bytes → List Bytes → List Answers → Prop
  | _, [], _ => True
  | _, _ :: _, [] => False
  | wire, packet :: packets, a :: answers =>
    ∃ behind, wire = packet ++ behind ∧ Framed packet ∧ a.stopRequested = false ∧
      a.poll = .ok true ∧ Incoming.Delivers 24 wire a.header ∧
      Incoming.Delivers (packet.length - 24) (packet.drop 24 ++ behind) a.payload ∧
      Arrived behind packets answers

theorem Arrived.first {wire packet : Bytes} {packets : List Bytes} {answers : List Answers}
    (arrived : Arrived wire (packet :: packets) answers) : Arrived wire [packet] answers := by
  cases answers with
  | nil => cases arrived
  | cons a answers =>
      obtain ⟨behind, wire, framed, running, readable, header, payload, _⟩ := arrived
      exact ⟨behind, wire, framed, running, readable, header, payload, trivial⟩

namespace Incoming

theorem step_handled {c next : Incoming} {event : Event} (taken : c.step event = some next) :
    c.handled <+: next.handled := by
  obtain ⟨next', taken', outcome⟩ := step_outcome c event
  obtain rfl : next' = next := Option.some.inj (taken'.symm.trans taken)
  rcases outcome with ⟨_, _, _, outcome⟩ | ⟨_, _, handled, _⟩
  · cases outcome with
    | accepted packet _ passed _ | refused packet _ passed _ => exact ⟨_, passed.handled.symm⟩
    | dropped _ _ _ handled _ _ => exact ⟨[], by rw [handled, List.append_nil]⟩
  · exact ⟨[], by rw [handled, List.append_nil]⟩

theorem processIncomingPackets_handled (c : Incoming) (answers : List Answers) :
    ∃ next, c.processIncomingPackets answers = some next ∧ c.handled <+: next.handled := by
  obtain ⟨n, _, same, _⟩ := c.processIncomingPackets_exec answers
  rw [same]
  let I (d : Incoming) : Prop := c.handled <+: d.handled
  have keep : ∀ d event, I d → ∃ next, step d event = some next ∧ I next := by
    intro d event grown
    obtain ⟨next, taken, _⟩ := step_outcome d event
    exact ⟨next, taken, grown.trans (step_handled taken)⟩
  exact Transition.exec_total (I := I) keep List.prefix_rfl _

theorem processIncomingPackets_closed {c : Incoming} (closed : c.transport.connected = false)
    (answers : List Answers) :
    ∃ next, c.processIncomingPackets answers = some next ∧ next.transport.connected = false := by
  obtain ⟨n, _, same, _⟩ := c.processIncomingPackets_exec answers
  obtain ⟨next, run, _, _, _, still⟩ := exec_closed ((answers.take n).map .iteration) closed
  exact ⟨next, same.trans run, still⟩

/-- The receive loop takes every waiting packet, unless it closes the connection. -/
theorem processIncomingPackets_arrived (packets : List Bytes) {c : Incoming}
    {answers : List Answers} (connected : c.transport.connected = true)
    (arrived : Arrived c.wire packets answers) :
    ∃ next, c.processIncomingPackets answers = some next ∧ (next.transport.connected = true →
      c.handled ++ packets.map (fun packet => (packet, true)) <+: next.handled) := by
  induction packets generalizing c answers with
  | nil =>
      obtain ⟨next, run, grown⟩ := c.processIncomingPackets_handled answers
      exact ⟨next, run, fun _ => by rwa [List.map_nil, List.append_nil]⟩
  | cons packet packets ih =>
      cases answers with
      | nil => cases arrived
      | cons a answers =>
          obtain ⟨behind, wire, framed, running, readable, header, payload, more⟩ := arrived
          obtain ⟨d, received, left, _, sameHandled, sameTransport⟩ :=
            receivePacket_delivered connected framed wire header payload
          obtain ⟨e, result, handled, sameWire, _, _, logged, _, accepted, refused⟩ :=
            handle_spec d a framed
          have unfolded : c.processIncomingPackets (a :: answers) =
              e.processIncomingPackets answers := by
            simp only [processIncomingPackets, awaits_ready connected running readable, received,
              handled, Option.bind_some]
          rw [unfolded]
          cases result with
          | false =>
              obtain ⟨next, run, still⟩ := processIncomingPackets_closed (refused rfl) answers
              exact ⟨next, run, fun open_ => by rw [still] at open_; cases open_⟩
          | true =>
              have open_ : e.transport.connected = true := by
                rw [(accepted rfl).2, sameTransport]
                exact connected
              obtain ⟨next, run, served⟩ := ih open_ (by rwa [sameWire, left])
              refine ⟨next, run, fun still => ?_⟩
              have all := served still
              rw [logged, sameHandled, List.append_assoc] at all
              exact all

end Incoming

theorem sendAll_socket (transport : Transport) (sent : Bool) :
    (transport.sendAll sent).1.socket = transport.socket := by
  unfold Transport.sendAll
  split <;> rfl

theorem sendFrame_socket (transport : Transport) (i : Iteration) :
    (sendFrame transport i).1.socket = transport.socket := by
  have first := sendAll_socket transport i.metadata
  unfold sendFrame
  split
  · next same => rwa [same] at first
  · next same =>
      rw [same] at first
      exact (sendAll_socket _ i.frame).trans first

theorem sendFrame_connected {transport : Transport} (connected : transport.connected = true)
    (i : Iteration) : sendFrame transport i = (transport, i.metadata && i.frame) := by
  rw [sendFrame, Transport.sendAll_connected connected]
  cases i.metadata with
  | false => rfl
  | true => exact Transport.sendAll_connected connected i.frame

namespace HostLoop

theorem sendPing_spec (l : HostLoop) (i : Iteration) :
    (l.sendPing i).incoming.handled = l.incoming.handled ∧
      (l.sendPing i).connected = l.connected := by
  unfold sendPing
  split
  · refine ⟨rfl, ?_⟩
    simp only [connected, Transport.connected, sendAll_socket]
  · exact ⟨rfl, rfl⟩

theorem step_running {l : HostLoop} {i : Iteration} (connected : l.connected = true)
    (running : i.stopRequested = false) : l.step i = l.iterate i := if_pos ⟨running, connected⟩

/-- Without a frame the iteration ends in front of the receive loop. -/
theorem iterate_frameless (l : HostLoop) {i : Iteration} (frameless : i.hasFrame = false) :
    ∃ code message, l.iterate i = some (l.applyError code message) := by
  unfold iterate
  by_cases captures : i.capture.captures = true
  · have encodes : ¬ i.encodes = true := by
      rintro encodes
      rw [Iteration.hasFrame, captures, encodes] at frameless
      cases frameless
    rw [if_neg (not_not_intro captures), if_pos encodes]
    exact ⟨-4, ascii "encode failed", rfl⟩
  · rw [if_pos captures]
    exact ⟨-3, ascii "capture failed", rfl⟩

theorem iterate_framed (l : HostLoop) {i : Iteration} (framed : i.hasFrame = true)
    {packets : List Bytes} (connected : l.connected = true)
    (arrived : Arrived l.incoming.wire packets i.incoming) :
    ∃ next, l.iterate i = some next ∧ (next.connected = true →
      l.incoming.handled ++ packets.map (fun packet => (packet, true)) <+:
        next.incoming.handled) := by
  obtain ⟨captures, encodes⟩ := (Bool.and_eq_true _ _).mp framed
  have socket := sendFrame_socket l.incoming.transport i
  unfold iterate
  rw [if_neg (not_not_intro captures), if_neg (not_not_intro encodes)]
  generalize sendFrame l.incoming.transport i = sent at socket ⊢
  obtain ⟨transport, ok⟩ := sent
  cases ok with
  | false => exact ⟨_, rfl, nofun⟩
  | true =>
      have open_ : transport.connected = true := by
        rw [Transport.connected, socket]
        exact connected
      obtain ⟨incoming, run, served⟩ := Incoming.processIncomingPackets_arrived packets
        (c := { l.incoming with transport }) open_ arrived
      simp only [run, Option.bind_eq_bind, Option.bind_some]
      refine ⟨_, rfl, fun still => ?_⟩
      obtain ⟨handled, same⟩ := sendPing_spec
        { l with incoming, framesSent := l.framesSent + 1 } i
      rw [handled]
      exact served (same.symm.trans still)

/-- However often no frame is there, the packets stay on the wire of the open connection. -/
theorem exec_frameless {l m : HostLoop} {iterations : List Iteration}
    (frameless : ∀ i ∈ iterations, i.hasFrame = false)
    (run : Transition.exec step l iterations = some m) :
    m.incoming.wire = l.incoming.wire ∧ m.incoming.handled = l.incoming.handled ∧
      m.connected = l.connected := by
  let I (m : HostLoop) : Prop := m.incoming.wire = l.incoming.wire ∧
    m.incoming.handled = l.incoming.handled ∧ m.connected = l.connected
  have keep : ∀ m i next, I m → i.hasFrame = false → step m i = some next → I next := by
    intro m i next same frameless taken
    unfold step at taken
    split at taken
    · obtain ⟨code, message, ended⟩ := m.iterate_frameless frameless
      cases ended.symm.trans taken
      exact same
    · cases taken
  exact Transition.exec_along (I := I) keep ⟨rfl, rfl, rfl⟩ run (.of_mem frameless)

/-- In a running iteration with an open connection the packets that wait at its start are handed
to `handle_packet` by its end, or the connection is closed. -/
def Serves (l : HostLoop) (i : Iteration) : Prop :=
  l.connected = true → i.stopRequested = false →
    ∀ packets, Arrived l.incoming.wire packets i.incoming →
      ∃ next, l.step i = some next ∧ (next.connected = true →
        l.incoming.handled ++ packets.map (fun packet => (packet, true)) <+:
          next.incoming.handled)

/-- A packet waits at the start of a running iteration. -/
def Awaited (l : HostLoop) (i : Iteration) : Prop :=
  l.connected = true ∧ i.stopRequested = false ∧
    ∃ packet, Arrived l.incoming.wire [packet] i.incoming

theorem serves_iff (l : HostLoop) (i : Iteration) :
    l.Serves i ↔ (l.Awaited i → i.hasFrame = true) := by
  constructor
  · rintro serves ⟨connected, running, packet, arrived⟩
    obtain ⟨next, taken, served⟩ := serves connected running [packet] arrived
    rw [step_running connected running] at taken
    cases framed : i.hasFrame with
    | true => rfl
    | false =>
        obtain ⟨code, message, ended⟩ := l.iterate_frameless framed
        cases ended.symm.trans taken
        have more := (served connected).length_le
        rw [List.length_append, List.length_map] at more
        exact absurd more (by simp only [applyError, Incoming.applyError, List.length_singleton]
                              omega)
  · intro framed connected running packets arrived
    rw [step_running connected running]
    cases packets with
    | nil =>
        cases here : i.hasFrame with
        | true => exact l.iterate_framed here connected arrived
        | false =>
            obtain ⟨code, message, ended⟩ := l.iterate_frameless here
            exact ⟨_, ended, fun _ => by rw [List.map_nil, List.append_nil]; exact List.prefix_rfl⟩
    | cons packet packets =>
        refine l.iterate_framed (framed ⟨connected, running, packet, ?_⟩) connected arrived
        exact arrived.first

/-- Exactly in the runs in which a frame is captured and encoded whenever a packet waits, the
client is served in every iteration. -/
theorem input_served_iff (l : HostLoop) (iterations : List Iteration) :
    Transition.Along step Serves l iterations ↔
      Transition.Along step (fun m i => m.Awaited i → i.hasFrame = true) l iterations := by
  constructor
  · intro along before i after m split reached
    exact (m.serves_iff i).mp (along before i after m split reached)
  · intro along before i after m split reached
    exact (m.serves_iff i).mpr (along before i after m split reached)

/-- A connection on which a ping has arrived. -/
def pinged : HostLoop where
  incoming := { transport := { socket := some 2 }, wire := makePacket .ping 0 (makePing 7) 0 }
  lastPing := 0

/-- An iteration whose capture waits in vain for the screen to change. -/
def unchangedScreen : Iteration where
  stopRequested := false
  capture := { initialized := true, acquireNextFrame := -2005270489, queryTexture := 0,
               createTexture2D := 0, map := 0 }
  encodes := true
  metadata := true
  frame := true
  incoming := [⟨false, .ok true, [24], [8], ⟨true, true, 0⟩, true⟩]
  now := 0
  ping := true

theorem unchangedScreen_awaited : pinged.Awaited unchangedScreen := by
  refine ⟨rfl, rfl, makePacket .ping 0 (makePing 7) 0, [], rfl, ?_, rfl, rfl, ?_, ?_, trivial⟩
  · exact ⟨by decide +kernel, by decide +kernel, by decide +kernel, by decide +kernel⟩
  · decide +kernel
  · decide +kernel

theorem unchanged_screen_holds_ping :
    ¬ Transition.Along step Serves pinged [unchangedScreen, unchangedScreen] := by
  intro along
  obtain ⟨connected, running, packet, arrived⟩ := unchangedScreen_awaited
  obtain ⟨next, taken, served⟩ := along.head connected running [packet] arrived
  cases taken
  have more := (served rfl).length_le
  exact absurd more (by rw [List.length_append]; exact Nat.not_succ_le_zero 0)

end HostLoop
end Screenscrab.Session
