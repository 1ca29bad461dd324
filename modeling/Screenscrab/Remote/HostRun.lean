import Screenscrab.Remote.Dialogue
import Screenscrab.Session.TransportErrors

/-! The session loop of the host as one end of a connection: every iteration is some steps of it,
so what holds of the connection in every order of steps holds with this loop. -/
namespace Screenscrab.Remote
open Protocol Dart Client Session
open Incoming (awaits_spec step_outcome)
open Transition (exec Along)

/-- A schedule with which `send_exact` has the given result. -/
def scheduleFor (bytes : Bytes) (ok : Bool) : List Nat := if ok then [bytes.length] else []

theorem sendExact_scheduleFor {bytes : Bytes} (nonempty : bytes ≠ [])
    (small : bytes.length < 2 ^ 31) (ok : Bool) :
    (sendExact bytes (scheduleFor bytes ok)).2 = ok := by
  cases ok with
  | false => exact decide_eq_false nonempty
  | true =>
      have count : min bytes.length (castInt bytes.length).toNat = bytes.length := by
        rw [castInt_small small, Int.toNat_natCast, Nat.min_self]
      have all : bytes.take (min bytes.length (castInt bytes.length).toNat) = bytes := by
        rw [count, List.take_length]
      rw [scheduleFor, if_pos rfl, sendExact, if_neg nonempty]
      simp only [all, if_neg nonempty, List.drop_length]
      rfl

namespace HostEnd
variable {h : HostEnd} {bytes : Bytes}

theorem sendAll_scheduleFor (connected : h.connected = true) (nonempty : bytes ≠ [])
    (small : bytes.length < 2 ^ 31) (ok : Bool) :
    (h.sendAll bytes (scheduleFor bytes ok)).2 = ok := by
  have open_ : h.incoming.transport.connected = true := connected
  have valid := Transport.socket_ne_none open_
  simp only [sendAll, Outgoing.sendAll, open_, if_true, Transport.sendAll, if_neg valid]
  exact sendExact_scheduleFor nonempty small ok

/-- Sending on an open connection changes nothing that is received. -/
theorem sendAll_open (connected : h.connected = true) (bytes : Bytes) (schedule : List Nat) :
    (h.sendAll bytes schedule).1.incoming = h.incoming := by
  have valid := Transport.socket_ne_none connected
  simp only [sendAll, Outgoing.sendAll, Transport.sendAll, if_neg valid]

end HostEnd

/-- One call is made for a packet, and a call that fails closes the connection. -/
def Called (a : Answers) (c next : Incoming) : Prop :=
  ∃ packet call, handlePacket a.settings packet = some (.calls call) ∧
    next.calls = c.calls ++ [call] ∧ (a.callResult = false → next.transport.connected = false)

theorem handle_calls {c next : Incoming} {a : Answers} {packet : Bytes}
    (handled : c.handle a packet = some next) : next.calls = c.calls ∨ Called a c next := by
  cases chosen : handlePacket a.settings packet with
  | none =>
      simp only [Incoming.handle, chosen, Option.bind_eq_bind, Option.bind_none] at handled
      cases handled
  | some handling =>
      simp only [Incoming.handle, chosen, Option.bind_eq_bind, Option.bind_some,
        Option.pure_def] at handled
      cases handling with
      | returns result =>
          cases result <;> cases handled <;> exact .inl rfl
      | calls call =>
          obtain rfl := Option.some.inj handled
          refine .inr ⟨packet, call, chosen, ?_⟩
          cases a.callResult with
          | false => exact ⟨rfl, fun _ => rfl⟩
          | true =>
              refine ⟨rfl, ?_⟩
              intro failed
              cases failed
      | invalid | disconnects =>
          cases handled
          exact .inl rfl

theorem receivePacket_calls {c next : Incoming} {a : Answers}
    (connected : c.transport.connected = true) (received : c.receivePacket a = some next) :
    next.calls = c.calls ∨ Called a c next := by
  have handled {d : Incoming} {packet : Bytes} (same : d.calls = c.calls)
      (taken : d.handle a packet = some next) : next.calls = c.calls ∨ Called a c next := by
    have outcome := handle_calls taken
    unfold Called at outcome ⊢
    rwa [same] at outcome
  obtain ⟨-, -, -, filled⟩ := Incoming.receiveAll_spec connected 24 a.header
  have calls := (receiveAll_fields c 24 a.header).1
  cases first : c.receiveAll 24 a.header with
  | mk d data =>
  rw [first] at filled calls
  cases data with
  | none =>
      unfold Incoming.receivePacket at received
      rw [first] at received
      cases received
      exact .inl calls
  | some header =>
      rw [Incoming.receivePacket_header first (filled header rfl).1] at received
      split at received
      · cases received
        exact .inl calls
      split at received
      · cases received
        exact .inl calls
      split at received
      · exact handled calls received
      have calls' := (receiveAll_fields d (LittleEndian.word header 12 4) a.payload).1
      generalize d.receiveAll (LittleEndian.word header 12 4) a.payload = second
        at received calls'
      obtain ⟨e, data⟩ := second
      cases data with
      | none =>
          cases received
          exact .inl (calls'.trans calls)
      | some payload => exact handled (calls'.trans calls) received

/-- A pong is a header and a nonce. -/
theorem pong_length {s : Settings} {packet pong : Bytes}
    (chosen : handlePacket s packet = some (.calls (.sendPong pong))) : pong.length = 32 := by
  obtain ⟨view, _, chosen⟩ := Option.bind_eq_some_iff.mp chosen
  cases view with
  | none => cases chosen
  | some view =>
      have type := dispatch_pong chosen
      simp only [dispatch, type, handlePingPacket] at chosen
      split at chosen
      · cases chosen
      · obtain ⟨nonce, _, same⟩ := Option.bind_eq_some_iff.mp chosen
        cases same
        simp [makePacket_eq, makePong, appendU64_eq, LittleEndian.encode_length]

theorem step_calls {c next : Incoming} {a : Answers}
    (taken : c.step (.iteration a) = some next) :
    next.calls = c.calls ∨ c.transport.connected = true ∧ Called a c next := by
  obtain ⟨-, -, -, same, awaited⟩ := awaits_spec c a
  have calls : (c.awaits a).1.calls = c.calls := by
    unfold Incoming.awaits
    split <;> rfl
  simp only [Incoming.step] at taken
  generalize c.awaits a = waiting at same awaited calls taken
  obtain ⟨d, ready⟩ := waiting
  cases ready with
  | false =>
      cases taken
      exact .inl calls
  | true =>
      have open_ := awaited rfl
      have received := receivePacket_calls (same.trans open_) taken
      unfold Called at received ⊢
      rw [calls] at received
      exact received.imp id fun called => ⟨open_, called⟩

theorem step_connected {c next : Incoming} {event : Incoming.Event}
    (taken : c.step event = some next) (still : next.transport.connected = true) :
    c.transport.connected = true := by
  obtain ⟨next', taken', outcome⟩ := step_outcome c event
  obtain rfl : next' = next := Option.some.inj (taken'.symm.trans taken)
  rcases outcome with ⟨_, _, connected, _⟩ | ⟨_, _, _, _, connected⟩
  · exact connected
  · exact connected still

namespace HostEnd

/-- Nothing has failed on a connection that is still open. -/
def Healthy (h : HostEnd) : Prop := h.connected = true → h.Succeeded

theorem sendAll_succeeded {h : HostEnd} {bytes : Bytes} {schedule : List Nat} :
    (h.sendAll bytes schedule).1.Succeeded ↔
      h.Succeeded ∧ (h.sendAll bytes schedule).2 = true := succeeded_concat

theorem steady_scheduleFor {h : HostEnd} (bytes : Bytes) {ok : Bool}
    (healthy : ok = true → h.Succeeded) : h.Steady (scheduleFor bytes ok) := by
  cases ok with
  | false => exact .inr fun _ => rfl
  | true => exact .inl (healthy rfl)

/-- The iteration of the receive loop, with a schedule for its pong. -/
theorem receive_runs (h : HostEnd) {a : Answers} {incoming : Incoming}
    (taken : h.incoming.step (.iteration a) = some incoming) :
    ∃ pong next, h.receive a pong = some next ∧ next.incoming = incoming ∧
      next.frames = h.frames ∧ (h.Healthy → next.Healthy) := by
  by_cases answers : ∃ packet, incoming.calls.drop h.incoming.calls.length = [.sendPong packet]
  · obtain ⟨packet, last⟩ := answers
    rcases step_calls taken with same | ⟨open_, received, call, chosen, calls, closed⟩
    · rw [same, List.drop_length] at last
      cases last
    · rw [calls, List.drop_left] at last
      obtain rfl := List.singleton_inj.mp last
      have size := pong_length chosen
      have nonempty : packet ≠ [] := by
        rintro rfl
        cases size
      have answered := @sendAll_scheduleFor h packet open_ nonempty (by omega) a.callResult
      refine ⟨scheduleFor packet a.callResult,
        { (h.sendAll packet (scheduleFor packet a.callResult)).1 with incoming }, ?_, rfl, rfl,
        ?_⟩
      · simp only [receive, taken, Option.bind_eq_bind, Option.bind_some, calls, List.drop_left,
          answered, if_true]
      · intro healthy still
        refine sendAll_succeeded.mpr ⟨healthy open_, ?_⟩
        rw [answered]
        refine Bool.eq_true_of_not_eq_false fun failed => ?_
        exact Bool.false_ne_true ((closed failed).symm.trans still)
  · refine ⟨[], { h with incoming }, ?_, rfl, rfl, ?_⟩
    · simp only [receive, taken, Option.bind_eq_bind, Option.bind_some]
      split
      · next packet last => exact absurd ⟨packet, last⟩ answers
      · rfl
    · intro healthy still
      exact healthy (step_connected taken still)

theorem makePacket_length (type : MessageType) (payload : Bytes) (now : UInt64) :
    (makePacket type 0 payload now).length = 24 + payload.length := by
  simp only [makePacket_eq, List.length_append, LittleEndian.encode_length]

/-- What the loop makes of an encoded frame: it is sent, or the connection is closed. -/
theorem frame_runs (h : HostEnd) {encoded : EncodedFrame}
    (small : encoded.payload.length < 2 ^ 31 - 24) (connected : h.connected = true)
    (metadata frame : Bool) (healthy : metadata = true → h.Succeeded) :
    ∃ first second, h.Steady first ∧ let next := h.frame encoded first second
      if metadata && frame then
        next.incoming = h.incoming ∧ next.frames = h.frames ++ [encoded] ∧ next.Succeeded
      else next.frames = h.frames ∧ next.incoming =
        (h.incoming.applyError h.incoming.transport.lastError
          (ascii "frame send failed")).disconnect := by
  have metadataSize : (Outgoing.metadataPacket encoded).length = 48 := by
    simp only [Outgoing.metadataPacket, makePacket_length, makeFrameMetadata, appendU32_eq,
      appendU64_eq, List.length_append, LittleEndian.encode_length, List.length_nil]
  have frameSize : (Outgoing.framePacket encoded).length = 24 + encoded.payload.length :=
    makePacket_length ..
  have nonempty {bytes : Bytes} (long : 24 ≤ bytes.length) : bytes ≠ [] := by
    rintro rfl
    exact absurd long (by decide)
  have some_ : Outgoing.metadataPacket encoded ≠ [] := nonempty (by omega)
  have some_' : Outgoing.framePacket encoded ≠ [] := nonempty (by omega)
  refine ⟨scheduleFor (Outgoing.metadataPacket encoded) metadata,
    scheduleFor (Outgoing.framePacket encoded) frame, steady_scheduleFor _ healthy, ?_⟩
  have sent := sendAll_scheduleFor connected some_ (by omega) metadata
  have kept := sendAll_open connected (Outgoing.metadataPacket encoded)
    (scheduleFor (Outgoing.metadataPacket encoded) metadata)
  have good := @sendAll_succeeded h (Outgoing.metadataPacket encoded)
    (scheduleFor (Outgoing.metadataPacket encoded) metadata)
  have frames : (h.sendAll (Outgoing.metadataPacket encoded)
      (scheduleFor (Outgoing.metadataPacket encoded) metadata)).1.frames = h.frames := rfl
  unfold HostEnd.frame HostEnd.sendFrame
  generalize h.sendAll (Outgoing.metadataPacket encoded)
    (scheduleFor (Outgoing.metadataPacket encoded) metadata) = first at sent kept frames good ⊢
  obtain ⟨middle, ok⟩ := first
  obtain rfl : ok = metadata := sent
  cases ok with
  | false =>
      dsimp only at kept frames ⊢
      rw [Bool.false_and, if_neg (by decide), kept]
      exact ⟨frames, rfl⟩
  | true =>
      dsimp only at kept frames good ⊢
      have open_ : middle.connected = true := by
        rw [HostEnd.connected, kept]
        exact connected
      have sent' := sendAll_scheduleFor open_ some_' (by omega) frame
      have kept' := sendAll_open open_ (Outgoing.framePacket encoded)
        (scheduleFor (Outgoing.framePacket encoded) frame)
      have good' := @sendAll_succeeded middle (Outgoing.framePacket encoded)
        (scheduleFor (Outgoing.framePacket encoded) frame)
      have frames' : (middle.sendAll (Outgoing.framePacket encoded)
          (scheduleFor (Outgoing.framePacket encoded) frame)).1.frames = middle.frames := rfl
      generalize middle.sendAll (Outgoing.framePacket encoded)
        (scheduleFor (Outgoing.framePacket encoded) frame) = second at sent' kept' frames' good' ⊢
      obtain ⟨last, ok⟩ := second
      obtain rfl : ok = frame := sent'
      cases ok with
      | false =>
          dsimp only at kept' frames' ⊢
          rw [Bool.and_false, if_neg (by decide), kept', kept]
          exact ⟨frames'.trans frames, rfl⟩
      | true =>
          dsimp only at kept' frames' good' ⊢
          rw [Bool.and_true, if_pos rfl, frames', frames]
          exact ⟨kept'.trans kept, rfl, good'.mpr ⟨good.mpr ⟨healthy rfl, rfl⟩, rfl⟩⟩

theorem ping_incoming (h : HostEnd) (now : UInt64) (schedule : List Nat) (ok : Bool) :
    (h.ping now schedule).incoming =
      { h.incoming with transport := (h.incoming.transport.sendAll ok).1 } := by
  have transport (t : Transport) (ok ok' : Bool) : (t.sendAll ok).1 = (t.sendAll ok').1 := by
    unfold Transport.sendAll
    split <;> rfl
  exact congrArg (fun transport => { h.incoming with transport })
    (transport h.incoming.transport _ ok)

/-- A ping fails where the connection is closed, and else with the given result. -/
theorem ping_runs (h : HostEnd) (now : UInt64) (ok : Bool) (healthy : h.Healthy) :
    ∃ schedule, h.Steady schedule ∧ (ok = true → (h.ping now schedule).Healthy) := by
  by_cases open_ : h.connected = true
  · have size : (makePacket .ping 0 (makePing now) now).length = 32 := by
      simp only [makePacket_length, makePing, appendU64_eq, List.nil_append,
        LittleEndian.encode_length]
    have nonempty : makePacket .ping 0 (makePing now) now ≠ [] := by
      intro empty
      rw [empty] at size
      cases size
    refine ⟨scheduleFor (makePacket .ping 0 (makePing now) now) ok,
      steady_scheduleFor _ fun _ => healthy open_, ?_⟩
    intro fine _
    refine sendAll_succeeded.mpr ⟨healthy open_, ?_⟩
    exact (sendAll_scheduleFor open_ nonempty (by omega) ok).trans fine
  · refine ⟨[], .inr fun _ => rfl, ?_⟩
    intro _ still
    have same : (h.ping now []).connected = h.connected := by
      simp only [connected, ping, sendAll, Outgoing.sendAll, Transport.connected, sendAll_socket]
    exact absurd (same.symm.trans still) open_

end HostEnd

section
variable {Double : Type} {d : Doubles Double} {clock : Nat → DateTime} {s : Nat}
  {m next last : Link}

/-- Sound steps of the host alone. -/
def HostSteps (d : Doubles Double) (clock : Nat → DateTime) (s : Nat) (m next : Link) : Prop :=
  next.client = m.client ∧ next.rendering = m.rendering ∧ ∃ labels,
    Along (Link.step d clock s) (fun l label => l.Sound label) m labels ∧
    exec (Link.step d clock s) m labels = some next

theorem HostSteps.refl (m : Link) : HostSteps d clock s m m := ⟨rfl, rfl, [], .nil m, rfl⟩

theorem HostSteps.trans (first : HostSteps d clock s m next)
    (second : HostSteps d clock s next last) : HostSteps d clock s m last := by
  obtain ⟨client, rendering, labels, sound, reached⟩ := first
  obtain ⟨client', rendering', more, sound', later⟩ := second
  refine ⟨client'.trans client, rendering'.trans rendering, labels ++ more,
    sound.append reached sound', ?_⟩
  rw [Transition.exec_append, reached]
  exact later

theorem HostSteps.one (label : Label Double) {host : HostEnd} (sound : m.Sound label)
    (taken : m.step d clock s label = some { m with host }) :
    HostSteps d clock s m { m with host } := by
  refine ⟨rfl, rfl, [label], .cons sound taken (.nil _), ?_⟩
  rw [Transition.exec_cons, taken]
  rfl

variable (d clock s) in
/-- A call of `process_incoming_packets`. -/
theorem receives_run (answers : List Answers) {incoming : Incoming}
    (ran : m.host.incoming.processIncomingPackets answers = some incoming) :
    ∃ next, HostSteps d clock s m next ∧ next.host.incoming = incoming ∧
      next.host.frames = m.host.frames ∧ (m.host.Healthy → next.host.Healthy) := by
  obtain ⟨n, -, same, -⟩ := m.host.incoming.processIncomingPackets_exec answers
  rw [same] at ran
  generalize answers.take n = taken at ran
  clear same
  induction taken generalizing m with
  | nil =>
      cases ran
      exact ⟨m, .refl m, rfl, rfl, id⟩
  | cons a taken ih =>
      obtain ⟨between, stepped, later⟩ := Transition.exec_cons_some ran
      obtain ⟨pong, host, received, rfl, frames, healthy⟩ := m.host.receive_runs stepped
      have step : m.step d clock s (.receive a pong) = some { m with host } := by
        rw [Link.step, received]
        rfl
      obtain ⟨next, steps, incoming, frames', healthy'⟩ := @ih { m with host } later
      exact ⟨next, HostSteps.trans (.one (.receive a pong) trivial step) steps, incoming,
        frames'.trans frames, fun good => healthy' (healthy good)⟩

/-- A turn of the loop: an iteration, and what its encoder returns if it does. -/
abbrev Turn := Iteration × EncodedFrame

def takeTurn (l : HostLoop) (turn : Turn) : Option HostLoop := l.step turn.1

def Turn.Sound (turn : Turn) : Prop :=
  Sendable (.frame turn.2 [] []) ∧ OnTime turn.1.now

/-- The end of the connection follows the loop: it has received the same, and has sent the frames
that the loop has counted. -/
structure Follows (d : Doubles Double) (clock : Nat → DateTime) (s : Nat) (m : Link)
    (l : HostLoop) (turns : List Turn) (last : HostLoop) (next : Link) : Prop where
  steps : HostSteps d clock s m next
  incoming : next.host.incoming = last.incoming
  frames : ∃ sent, next.host.frames = m.host.frames ++ sent ∧
    sent.Sublist (turns.map Prod.snd) ∧ last.framesSent = l.framesSent + UInt64.ofNat sent.length
  healthy : m.host.Healthy → (∀ turn ∈ turns, turn.1.ping = true) → next.host.Healthy

variable {l l' : HostLoop} {turn : Turn}

/-- The host goes on without a frame. -/
theorem Follows.frameless (label : Label Double) {host : HostEnd} (sound : m.Sound label)
    (taken : m.step d clock s label = some { m with host }) (incoming : host.incoming = l'.incoming)
    (frames : host.frames = m.host.frames) (count : l'.framesSent = l.framesSent)
    (healthy : m.host.Healthy → host.Healthy) :
    Follows d clock s m l [turn] l' { m with host } where
  steps := .one label sound taken
  incoming := incoming
  frames := ⟨[], by rw [frames, List.append_nil], List.nil_sublist _,
    by rw [count]; exact (UInt64.add_zero _).symm⟩
  healthy good _ := healthy good

variable (d clock s) in
/-- One iteration of the loop. -/
theorem turn_follows (same : m.host.incoming = l.incoming) (sound : turn.Sound)
    (steady : m.host.Healthy ∨ turn.1.metadata = false) (taken : l.step turn.1 = some l') :
    ∃ next, Follows d clock s m l [turn] l' next := by
  obtain ⟨i, encoded⟩ := turn
  unfold HostLoop.step at taken
  split at taken
  case isFalse => cases taken
  next running =>
  have open_ : m.host.connected = true := by
    rw [HostEnd.connected, same]
    exact running.2
  unfold HostLoop.iterate at taken
  have refused (code : Int32) (message : Bytes) :
      m.host.incoming.applyError code message = (l.applyError code message).incoming :=
    congrArg (fun c : Incoming => c.applyError code message) same
  split at taken
  · cases taken
    exact ⟨_, .frameless (.skip false) trivial rfl (refused _ _) rfl rfl id⟩
  split at taken
  · cases taken
    exact ⟨_, .frameless (.skip true) trivial rfl (refused _ _) rfl rfl id⟩
  rw [Session.sendFrame_connected running.2] at taken
  have healthy : i.metadata = true → m.host.Succeeded := by
    intro sends
    refine (steady.resolve_right fun stuck => ?_) open_
    exact Bool.false_ne_true (stuck.symm.trans sends)
  obtain ⟨first, second, steady, framed⟩ :=
    m.host.frame_runs sound.1.2 open_ i.metadata i.frame healthy
  have sound' : m.Sound (.frame encoded first second : Label Double) := ⟨sound.1, steady⟩
  cases sent : i.metadata && i.frame with
  | false =>
      rw [sent] at framed taken
      obtain ⟨frames, incoming⟩ := framed
      cases taken
      refine ⟨_, .frameless _ sound' rfl ?_ frames rfl ?_⟩
      · rw [incoming, same]
      · intro _ still
        rw [HostEnd.connected, incoming] at still
        cases still
  | true =>
      rw [sent] at framed taken
      obtain ⟨kept, frames, good⟩ := framed
      obtain ⟨incoming, received, ended⟩ := Option.bind_eq_some_iff.mp taken
      obtain rfl := Option.some.inj ended
      rw [← same, ← kept] at received
      obtain ⟨next, steps, same', frames', good'⟩ := receives_run d clock s
        (m := { m with host := m.host.frame encoded first second }) i.incoming received
      have ran := (HostSteps.one _ sound' rfl).trans steps
      have count {next' : Link} (same : next'.host.frames = next.host.frames) :
          next'.host.frames = m.host.frames ++ [encoded] := by
        rw [same, frames', frames]
      unfold HostLoop.sendPing
      split
      · obtain ⟨schedule, steady, good⟩ :=
          next.host.ping_runs i.now i.ping (good' fun _ => good)
        have pinged :
            HostSteps d clock s next { next with host := next.host.ping i.now schedule } :=
          .one (.ping i.now schedule) ⟨sound.2, steady⟩ rfl
        refine ⟨_, ran.trans pinged, ?_, ⟨[encoded], count rfl, List.Sublist.refl _, rfl⟩, ?_⟩
        · rw [HostEnd.ping_incoming _ _ _ i.ping, same']
        · intro _ pings
          exact good (pings _ List.mem_cons_self)
      · exact ⟨next, ran, same', ⟨[encoded], count rfl, List.Sublist.refl _, rfl⟩,
          fun _ _ => good' fun _ => good⟩

theorem Follows.start (m : Link) (l : HostLoop) (same : m.host.incoming = l.incoming) :
    Follows d clock s m l [] l m where
  steps := .refl m
  incoming := same
  frames := ⟨[], (List.append_nil _).symm, List.Sublist.refl _, (UInt64.add_zero _).symm⟩
  healthy good _ := good

theorem Follows.append {turns more : List Turn} {l'' : HostLoop}
    (first : Follows d clock s m l turns l' next)
    (second : Follows d clock s next l' more l'' last) :
    Follows d clock s m l (turns ++ more) l'' last where
  steps := first.steps.trans second.steps
  incoming := second.incoming
  frames := by
    obtain ⟨sent, frames, known, count⟩ := first.frames
    obtain ⟨sent', frames', known', count'⟩ := second.frames
    refine ⟨sent ++ sent', ?_, ?_, ?_⟩
    · rw [frames', frames, List.append_assoc]
    · rw [List.map_append]
      exact known.append known'
    · rw [count', count, UInt64.add_assoc, List.length_append, UInt64.ofNat_add]
  healthy := by
    intro good pings
    obtain ⟨pings, later⟩ := List.forall_mem_append.mp pings
    exact second.healthy (first.healthy good pings) later

/-- A socket on which something has failed takes nothing more. -/
def Takes (h : HostEnd) (past : List Turn) (turn : Turn) : Prop :=
  turn.1.metadata = true → h.Healthy ∧ ∀ earlier ∈ past, earlier.1.ping = true

variable (d clock s) in
theorem turns_follow {turns : List Turn} {l'' : HostLoop} (same : m.host.incoming = l.incoming)
    (sound : ∀ before turn after, turns = before ++ turn :: after →
      turn.Sound ∧ Takes m.host before turn)
    (run : exec takeTurn l turns = some l'') :
    ∃ next, Follows d clock s m l turns l'' next := by
  let R (past : List Turn) (l' : HostLoop) (next : Link) : Prop :=
    Follows d clock s m l past l' next
  have matches_ : ∀ past l' turn l'' next, R past l' next →
      turn.Sound ∧ Takes m.host past turn → HostLoop.step l' turn.1 = some l'' →
      ∃ labels last, exec (Link.step d clock s) next labels = some last ∧
        R (past ++ [turn]) l'' last := by
    rintro past l' turn l'' next follows ⟨sound, takes⟩ taken
    have steady : next.host.Healthy ∨ turn.1.metadata = false := by
      cases sends : turn.1.metadata with
      | false => exact .inr rfl
      | true =>
          obtain ⟨good, pings⟩ := takes sends
          exact .inl (follows.healthy good pings)
    obtain ⟨last, more⟩ := turn_follows d clock s follows.incoming sound steady taken
    obtain ⟨_, _, labels, _, reached⟩ := more.steps
    exact ⟨labels, last, reached, follows.append more⟩
  obtain ⟨_, next, _, follows⟩ :=
    Transition.exec_simulation (R := R) matches_ (.start m l same) sound run
  exact ⟨next, follows⟩

variable {transport : Transport} {calls : HelloCalls} {host : String} {port : Nat}
  {earlier : RemoteSessionClient} {rendering : Nat} {labels : List (Label Double)}

/-- However often the host goes through its loop, it takes steps of the connection: the client is
left alone, what is received is the same, and the frames that the loop has counted are those that
the connection has sent, in the order in which they were encoded. -/
theorem host_loop_runs {turns : List Turn} {l'' : HostLoop}
    (ran : Ran d clock s transport calls host port earlier rendering labels m)
    (same : m.host.incoming = l.incoming)
    (sound : ∀ before turn after, turns = before ++ turn :: after →
      turn.Sound ∧ Takes m.host before turn)
    (run : exec takeTurn l turns = some l'') :
    ∃ more next, Ran d clock s transport calls host port earlier rendering (labels ++ more) next ∧
      next.client = m.client ∧ next.host.incoming = l''.incoming ∧
      ∃ sent, next.host.frames = m.host.frames ++ sent ∧ sent.Sublist (turns.map Prod.snd) ∧
        l''.framesSent = l.framesSent + UInt64.ofNat sent.length := by
  obtain ⟨next, follows⟩ := turns_follow d clock s same sound run
  obtain ⟨client, _, more, steady, reached⟩ := follows.steps
  refine ⟨more, next, ⟨ran.hello, ran.sound.append ran.reached steady, ?_⟩, client,
    follows.incoming, follows.frames⟩
  rw [Transition.exec_append, ran.reached]
  exact reached

/-- One turn with a frame, right after the hello. -/
def firstTurn : Turn :=
  ({ stopRequested := false
     capture := { initialized := true, acquireNextFrame := 0, queryTexture := 0,
                  createTexture2D := 0, map := 0 }
     encodes := true
     metadata := true
     frame := true
     incoming := []
     now := 2000000
     ping := true }, ⟨6, 1, 1, 4, 0, [1, 2, 3, 255]⟩)

theorem host_loop_runs_first :
    ∃ more next, Ran Pointing.wholeDoubles epoch 7 { socket := some 1 } shortHello "host" 4545 {} 0
      more next ∧ next.host.frames = [firstTurn.2] := by
  let m : Link := Link.start epoch 7 { socket := some 1 } shortHello "host" 4545 {} 0
  have ran : Ran Pointing.wholeDoubles epoch 7 { socket := some 1 } shortHello "host" 4545 {} 0
      [] m := ⟨shortHello_sound, .nil m, rfl⟩
  have healthy : m.host.Healthy := fun _ => (by decide +kernel : m.host.Succeeded)
  have counted : (exec takeTurn { incoming := m.host.incoming, lastPing := 0 } [firstTurn]).map
      HostLoop.framesSent = some 1 := by
    decide +kernel
  obtain ⟨l, run, counted⟩ := Option.map_eq_some_iff.mp counted
  have sound : ∀ before turn after, [firstTurn] = before ++ turn :: after →
      turn.Sound ∧ Takes m.host before turn := by
    rintro (_ | ⟨_, before⟩) turn after split
    · obtain ⟨rfl, _⟩ := List.cons.inj split
      exact ⟨⟨by decide, by decide⟩, fun _ => ⟨healthy, nofun⟩⟩
    · cases before <;> cases split
  obtain ⟨more, next, reached, _, _, sent, frames, known, count⟩ :=
    host_loop_runs ran rfl sound run
  refine ⟨more, next, reached, ?_⟩
  rw [counted] at count
  have one : sent = [firstTurn.2] := by
    cases sent with
    | nil => cases count
    | cons frame sent => exact known.eq_of_length_le (Nat.succ_le_succ (Nat.zero_le _))
  rw [frames, one]
  rfl

end

end Screenscrab.Remote
