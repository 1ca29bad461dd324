import Screenscrab.Session.Manager

/-! What a session manager publishes, in every state that calls and worker steps reach. -/
namespace Screenscrab.Session

/-- The parts of the two loops, between which the published state changes. -/
inductive Zone where
  | binding
  | opening
  | waiting
  | admitting
  | serving
  | closing
  | dialing
  | joining
  | joined
  | leaving
  | exited
  deriving DecidableEq, Repr

/-- An error that is still to be published belongs to where the worker goes on. -/
def Pc.zone : Pc → Zone
  | .listen => .binding
  | .inputInitialize | .captureInitialize | .hostReady => .opening
  | .outerHead | .accept | .acceptFailed => .waiting
  | .clientJoined => .admitting
  | .endSession => .closing
  | .connect => .dialing
  | .clientReady => .joining
  | .clientHead | .clientConnected => .joined
  | .clientDisconnect | .clientEnded => .leaving
  | .readError _ next | .applyError _ _ next => next.zone
  | .exited => .exited
  | _ => .serving

/-- The calling thread is past the point where it has joined the worker. -/
def ApiPc.pastJoin : ApiPc → Bool
  | .shutdownCapture _ | .shutdownEncoder _ | .publishStopped _ | .publishStart _ => true
  | _ => false

/-- The published fields that say what the session is doing. -/
structure Guarded.Same (g h : Guarded) : Prop where
  mode : h.mode = g.mode
  transportState : h.transportState = g.transportState
  captureActive : h.captureActive = g.captureActive
  sessionActive : h.sessionActive = g.sessionActive
  encoderName : h.encoderName = g.encoderName

theorem Guarded.Same.refl (g : Guarded) : g.Same g := ⟨rfl, rfl, rfl, rfl, rfl⟩

namespace SessionManager

/-- How a step of the worker can move it between zones, and what it does on the way. -/
inductive Moves (m next : SessionManager) (os : OsAnswers) (pc : Pc) : Zone → Zone → Prop
  | stay (zone : Zone) : m.guarded.Same next.guarded →
      (zone = .opening ∨ zone = .waiting ∨ zone = .closing →
        next.transport.listenSocket = m.transport.listenSocket) →
      (zone = .joining ∨ zone = .joined → next.transport = m.transport) →
      Moves m next os pc zone zone
  | bound : m.guarded.Same next.guarded → next.transport.listenSocket.isSome = true →
      Moves m next os pc .binding .opening
  | bindFailed : m.guarded.Same next.guarded → Moves m next os pc .binding .exited
  | openFailed : m.guarded.Same next.guarded → Moves m next os pc .opening .exited
  | opened : next.guarded = m.guarded.hostReady → next.transport = m.transport →
      Moves m next os pc .opening .waiting
  | accepted : m.guarded.Same next.guarded → pc = .accept →
      (m.transport.accept os.accept).2 = true → Moves m next os pc .waiting .admitting
  | joins : next.guarded = m.guarded.clientJoined → Moves m next os pc .admitting .serving
  | stops : m.guarded.Same next.guarded → m.stopRequested = true →
      Moves m next os pc .waiting .exited
  | closes : m.guarded.Same next.guarded → next.transport = m.transport.disconnect →
      Moves m next os pc .serving .closing
  | ended : next.guarded = m.guarded.endSession → next.transport = m.transport →
      Moves m next os pc .closing .waiting
  | dialed : m.guarded.Same next.guarded → next.transport.connected = true →
      Moves m next os pc .dialing .joining
  | dialFailed : m.guarded.Same next.guarded → Moves m next os pc .dialing .exited
  | ready : next.guarded = m.guarded.clientReady → next.transport = m.transport →
      Moves m next os pc .joining .joined
  | lost : m.guarded.Same next.guarded → m.stopRequested = true ∨ m.transport.connected = false →
      Moves m next os pc .joined .leaving
  | left : next.guarded = m.guarded.clientEnded → Moves m next os pc .leaving .exited

/-- What a step of the worker leaves alone, and how it moves it. -/
structure Worked (m next : SessionManager) (os : OsAnswers) (pc : Pc) : Prop where
  api : next.api = m.api
  stopRequested : next.stopRequested = m.stopRequested
  moves : ∃ w, next.worker = some w ∧ Moves m next os pc pc.zone w.pc.zone

theorem afterHeader_serving {header : Bytes} {pc : Pc} (next : afterHeader header = some pc) :
    pc.zone = .serving := by
  simp only [afterHeader, Option.bind_eq_bind, Option.pure_def, Option.bind_eq_some_iff] at next
  obtain ⟨magic, _, version, _, next⟩ := next
  split at next
  · cases next
    rfl
  · obtain ⟨payloadSize, _, next⟩ := Option.bind_eq_some_iff.mp next
    split at next
    · cases next
      rfl
    · split at next <;> cases next <;> rfl

theorem afterPacket_serving {m : SessionManager} {os : OsAnswers} {packet : Bytes} {pc : Pc}
    (next : m.afterPacket os packet = some pc) : pc.zone = .serving := by
  simp only [afterPacket, Option.bind_eq_bind, Option.pure_def, Option.bind_eq_some_iff] at next
  obtain ⟨handling, _, next⟩ := next
  split at next
  · cases next
    split <;> rfl
  · cases next
    rfl
  · cases next
    split <;> rfl
  · cases next
    rfl
  · cases next
    rfl

theorem Worked.stays {m m' : SessionManager} {os : OsAnswers} {w : Worker} {pc target : Pc}
    (zone : target.zone = pc.zone) (api : m'.api = m.api)
    (stop : m'.stopRequested = m.stopRequested) (same : m.guarded.Same m'.guarded)
    (listener : pc.zone = .opening ∨ pc.zone = .waiting ∨ pc.zone = .closing →
      m'.transport.listenSocket = m.transport.listenSocket)
    (transport : pc.zone = .joining ∨ pc.zone = .joined → m'.transport = m.transport) :
    Worked m (m'.goto w target) os pc := by
  refine ⟨api, stop, { w with pc := target }, rfl, ?_⟩
  rw [zone]
  exact .stay pc.zone same listener transport

/-- While a client is served, the transport may change and the published state may not. -/
theorem Worked.serves {m m' : SessionManager} {os : OsAnswers} {w : Worker} {pc target : Pc}
    (here : pc.zone = .serving) (there : target.zone = .serving) (api : m'.api = m.api)
    (stop : m'.stopRequested = m.stopRequested) (same : m.guarded.Same m'.guarded) :
    Worked m (m'.goto w target) os pc :=
  .stays (there.trans here.symm) api stop same (by rw [here]; nofun) (by rw [here]; nofun)

theorem work_worked {m next : SessionManager} {w : Worker} {os : OsAnswers}
    (taken : m.work w os = some next) : Worked m next os w.pc := by
  obtain ⟨pc, lastPing⟩ := w
  have same := Guarded.Same.refl m.guarded
  cases pc with
  | listen =>
      simp only [work] at taken
      cases taken
      cases ok : (m.transport.listen os.listen).2 with
      | true => exact ⟨rfl, rfl, _, rfl, .bound same (Transport.listen_open ok)⟩
      | false => exact ⟨rfl, rfl, _, rfl, .bindFailed same⟩
  | inputInitialize =>
      cases taken
      cases os.ok with
      | true => exact .stays rfl rfl rfl same (fun _ => rfl) nofun
      | false => exact ⟨rfl, rfl, _, rfl, .openFailed same⟩
  | captureInitialize =>
      cases taken
      cases os.ok with
      | true => exact .stays rfl rfl rfl same (fun _ => rfl) nofun
      | false => exact ⟨rfl, rfl, _, rfl, .openFailed same⟩
  | hostReady =>
      cases taken
      exact ⟨rfl, rfl, _, rfl, .opened rfl rfl⟩
  | outerHead =>
      cases taken
      cases stop : m.stopRequested with
      | true => exact ⟨rfl, rfl, _, rfl, .stops same stop⟩
      | false => exact .stays rfl rfl rfl same (fun _ => rfl) nofun
  | accept =>
      simp only [work] at taken
      cases taken
      have listener := m.transport.accept_listenSocket os.accept
      cases ok : (m.transport.accept os.accept).2 with
      | true => exact ⟨rfl, rfl, _, rfl, .accepted same rfl ok⟩
      | false => exact .stays rfl rfl rfl same (fun _ => listener) nofun
  | acceptFailed =>
      cases taken
      cases stop : m.stopRequested with
      | true => exact ⟨rfl, rfl, _, rfl, .stops same stop⟩
      | false => exact .stays rfl rfl rfl same (fun _ => rfl) nofun
  | clientJoined =>
      cases taken
      exact ⟨rfl, rfl, _, rfl, .joins rfl⟩
  | sendHello | sendCapabilities | sendSessionStart | startPing | sendFailed | countFrame
  | handlerDisconnect | processDisconnect | sendPing =>
      cases taken
      exact .serves rfl rfl rfl rfl same
  | endDisconnect =>
      cases taken
      exact ⟨rfl, rfl, _, rfl, .closes same rfl⟩
  | innerHead | innerConnected | capture | encode | processHead | processConnected =>
      cases taken
      exact .serves rfl (by split <;> rfl) rfl rfl same
  | sendMetadata | sendFrame | processPoll | sendPong =>
      simp only [work] at taken
      cases taken
      exact .serves rfl (by split <;> rfl) rfl rfl same
  | receiveHeader =>
      simp only [work] at taken
      split at taken
      · cases taken
        exact .serves rfl rfl rfl rfl same
      · obtain ⟨target, checked, rfl⟩ := Option.map_eq_some_iff.mp taken
        exact .serves rfl (afterHeader_serving checked) rfl rfl same
  | receivePayload header payloadSize =>
      simp only [work] at taken
      split at taken <;> cases taken <;> exact .serves rfl rfl rfl rfl same
  | handlePacket packet =>
      simp only [work] at taken
      obtain ⟨target, handled, rfl⟩ := Option.map_eq_some_iff.mp taken
      exact .serves rfl (afterPacket_serving handled) rfl rfl same
  | pingDue =>
      simp only [work] at taken
      split at taken <;> cases taken <;> exact .serves rfl rfl rfl rfl same
  | endSession =>
      cases taken
      exact ⟨rfl, rfl, _, rfl, .ended rfl rfl⟩
  | connect =>
      simp only [work] at taken
      cases taken
      cases ok : (m.transport.connect os.connect).2 with
      | true => exact ⟨rfl, rfl, _, rfl, .dialed same (Transport.connect_connected ok)⟩
      | false => exact ⟨rfl, rfl, _, rfl, .dialFailed same⟩
  | clientReady =>
      cases taken
      exact ⟨rfl, rfl, _, rfl, .ready rfl rfl⟩
  | clientHead =>
      cases taken
      cases stop : m.stopRequested with
      | true => exact ⟨rfl, rfl, _, rfl, .lost same (.inl stop)⟩
      | false => exact .stays rfl rfl rfl same nofun (fun _ => rfl)
  | clientConnected =>
      cases taken
      cases connected : m.transport.connected with
      | true => exact .stays rfl rfl rfl same nofun (fun _ => rfl)
      | false => exact ⟨rfl, rfl, _, rfl, .lost same (.inr connected)⟩
  | clientDisconnect =>
      cases taken
      exact .stays rfl rfl rfl same nofun nofun
  | clientEnded =>
      cases taken
      exact ⟨rfl, rfl, _, rfl, .left rfl⟩
  | readError message target =>
      cases taken
      exact .stays rfl rfl rfl same (fun _ => rfl) (fun _ => rfl)
  | applyError code message target =>
      cases taken
      exact .stays rfl rfl rfl ⟨rfl, rfl, rfl, rfl, rfl⟩ (fun _ => rfl) (fun _ => rfl)
  | exited => cases taken

/-- A host without a client. -/
structure HostIdle (g : Guarded) : Prop where
  mode : g.mode = .host
  transportState : g.transportState = .listening
  sessionActive : g.sessionActive = false

structure HostConnected (g : Guarded) : Prop where
  mode : g.mode = .host
  transportState : g.transportState = .connected
  sessionActive : g.sessionActive = true

/-- A client, which publishes nothing of capture and encoder. -/
structure Client (state : SessionTransportState) (active : Bool) (g : Guarded) : Prop where
  mode : g.mode = .client
  transportState : g.transportState = state
  sessionActive : g.sessionActive = active
  captureActive : g.captureActive = false
  encoderName : g.encoderName = ascii "none"

structure Stopped (g : Guarded) : Prop where
  mode : g.mode = .stopped
  transportState : g.transportState = .offline
  sessionActive : g.sessionActive = false
  captureActive : g.captureActive = false
  encoderName : g.encoderName = ascii "none"

/-- What any snapshot shows. -/
structure Consistent (s : SessionSnapshot) : Prop where
  active : s.sessionActive = true ↔ s.transportState = .connected
  stopped : s.mode = .stopped → s.transportState = .offline
  host : s.mode = .host → s.transportState = .listening ∨ s.transportState = .connected
  client : s.mode = .client → s.transportState = .connecting ∨ s.transportState = .connected ∨
    s.transportState = .offline
  capture : s.captureActive = true → s.mode = .host
  encoder : s.encoderName ≠ ascii "none" → s.mode = .host

/-- What is published in a zone. A client loses an open connection only to a requested stop. -/
def Fits (m : SessionManager) : Zone → Prop
  | .binding | .opening | .waiting | .admitting => HostIdle m.guarded
  | .serving | .closing => HostConnected m.guarded
  | .dialing => Client .connecting false m.guarded
  | .joining =>
    Client .connecting false m.guarded ∧ (m.stopRequested = true ∨ m.transport.connected = true)
  | .joined =>
    Client .connected true m.guarded ∧ (m.stopRequested = true ∨ m.transport.connected = true)
  | .leaving => Client .connected true m.guarded ∧ m.stopRequested = true
  | .exited =>
    HostIdle m.guarded ∨ Client .connecting false m.guarded ∨
      (Client .offline false m.guarded ∧ m.stopRequested = true)

theorem HostIdle.same {g h : Guarded} (idle : HostIdle g) (same : g.Same h) : HostIdle h :=
  ⟨same.mode.trans idle.mode, same.transportState.trans idle.transportState,
    same.sessionActive.trans idle.sessionActive⟩

theorem HostConnected.same {g h : Guarded} (connected : HostConnected g) (same : g.Same h) :
    HostConnected h :=
  ⟨same.mode.trans connected.mode, same.transportState.trans connected.transportState,
    same.sessionActive.trans connected.sessionActive⟩

theorem Client.same {state : SessionTransportState} {active : Bool} {g h : Guarded}
    (client : Client state active g) (same : g.Same h) : Client state active h :=
  ⟨same.mode.trans client.mode, same.transportState.trans client.transportState,
    same.sessionActive.trans client.sessionActive, same.captureActive.trans client.captureActive,
    same.encoderName.trans client.encoderName⟩

theorem Stopped.same {g h : Guarded} (stopped : Stopped g) (same : g.Same h) : Stopped h :=
  ⟨same.mode.trans stopped.mode, same.transportState.trans stopped.transportState,
    same.sessionActive.trans stopped.sessionActive, same.captureActive.trans stopped.captureActive,
    same.encoderName.trans stopped.encoderName⟩

/-- What fits a zone still does when the published fields, the flag and the socket are kept,
or the flag is set. -/
theorem Fits.keep {m next : SessionManager} {zone : Zone} (fits : Fits m zone)
    (same : m.guarded.Same next.guarded)
    (alive : zone = .joining ∨ zone = .joined →
      m.stopRequested = true ∨ m.transport.connected = true →
      next.stopRequested = true ∨ next.transport.connected = true)
    (stop : m.stopRequested = true → next.stopRequested = true) : Fits next zone := by
  cases zone with
  | binding | opening | waiting | admitting => exact HostIdle.same fits same
  | serving | closing => exact HostConnected.same fits same
  | dialing => exact Client.same fits same
  | joining => exact ⟨fits.1.same same, alive (.inl rfl) fits.2⟩
  | joined => exact ⟨fits.1.same same, alive (.inr rfl) fits.2⟩
  | leaving => exact ⟨fits.1.same same, stop fits.2⟩
  | exited =>
      rcases fits with host | connecting | ⟨offline, stopped⟩
      · exact .inl (host.same same)
      · exact .inr (.inl (connecting.same same))
      · exact .inr (.inr ⟨offline.same same, stop stopped⟩)

theorem Moves.fits {m next : SessionManager} {os : OsAnswers} {pc : Pc} {zone zone' : Zone}
    (moves : Moves m next os pc zone zone')
    (stop : next.stopRequested = m.stopRequested) (fits : Fits m zone) : Fits next zone' := by
  cases moves with
  | stay zone same listener transport =>
      refine fits.keep same ?_ (stop ▸ ·)
      intro here alive
      rwa [stop, transport here]
  | bound same => exact HostIdle.same fits same
  | bindFailed same => exact .inl (HostIdle.same fits same)
  | openFailed same => exact .inl (HostIdle.same fits same)
  | opened published transport =>
      rw [Fits, published]
      exact ⟨fits.mode, rfl, rfl⟩
  | accepted same => exact HostIdle.same fits same
  | joins published =>
      rw [Fits, published]
      exact ⟨fits.mode, rfl, rfl⟩
  | stops same requested => exact .inl (HostIdle.same fits same)
  | closes same => exact HostConnected.same fits same
  | ended published =>
      rw [Fits, published]
      exact ⟨fits.mode, rfl, rfl⟩
  | dialed same connected => exact ⟨Client.same fits same, .inr connected⟩
  | dialFailed same => exact .inr (.inl (Client.same fits same))
  | ready published transport =>
      obtain ⟨client, alive⟩ := fits
      rw [Fits, published, stop, transport]
      exact ⟨⟨client.mode, rfl, rfl, client.captureActive, client.encoderName⟩, alive⟩
  | lost same gone =>
      obtain ⟨client, alive⟩ := fits
      refine ⟨client.same same, ?_⟩
      rw [stop]
      rcases gone with requested | closed
      · exact requested
      · rcases alive with requested | connected
        · exact requested
        · rw [closed] at connected
          cases connected
  | left published =>
      obtain ⟨client, requested⟩ := fits
      refine .inr (.inr ⟨?_, stop.trans requested⟩)
      rw [published]
      exact ⟨client.mode, rfl, rfl, client.captureActive, client.encoderName⟩

theorem HostIdle.consistent {m : SessionManager} (idle : HostIdle m.guarded) :
    Consistent m.snapshot := by
  constructor <;> simp [snapshot, idle.mode, idle.transportState, idle.sessionActive]

theorem HostConnected.consistent {m : SessionManager} (connected : HostConnected m.guarded) :
    Consistent m.snapshot := by
  constructor <;>
    simp [snapshot, connected.mode, connected.transportState, connected.sessionActive]

theorem Stopped.consistent {m : SessionManager} (stopped : Stopped m.guarded) :
    Consistent m.snapshot := by
  constructor <;> simp [snapshot, stopped.mode, stopped.transportState, stopped.sessionActive,
    stopped.captureActive, stopped.encoderName]

theorem Client.consistent {m : SessionManager} {state : SessionTransportState} {active : Bool}
    (client : Client state active m.guarded)
    (known : state = .connecting ∨ state = .connected ∨ state = .offline)
    (agree : active = true ↔ state = .connected) : Consistent m.snapshot := by
  constructor <;> simp [snapshot, client.mode, client.transportState, client.sessionActive,
    client.captureActive, client.encoderName, known, agree]

theorem Fits.consistent {m : SessionManager} {zone : Zone} (fits : Fits m zone) :
    Consistent m.snapshot := by
  cases zone with
  | binding | opening | waiting | admitting => exact HostIdle.consistent fits
  | serving | closing => exact HostConnected.consistent fits
  | dialing => exact Client.consistent fits (.inl rfl) (by decide)
  | joining => exact fits.1.consistent (.inl rfl) (by decide)
  | joined | leaving => exact fits.1.consistent (.inr (.inl rfl)) (by decide)
  | exited =>
      rcases fits with host | connecting | ⟨offline, _⟩
      · exact host.consistent
      · exact connecting.consistent (.inl rfl) (by decide)
      · exact offline.consistent (.inr (.inr rfl)) (by decide)

/-- What is published while there is no worker. -/
def Rests (m : SessionManager) : Prop :=
  match m.api with
  | .shutdownCapture _ | .shutdownEncoder _ | .publishStopped _ => Consistent m.snapshot
  | _ => Stopped m.guarded

theorem Rests.consistent {m : SessionManager} (rests : Rests m) : Consistent m.snapshot := by
  unfold Rests at rests
  split at rests
  · exact rests
  · exact rests
  · exact rests
  · exact Stopped.consistent rests

theorem Consistent.same {m next : SessionManager} (consistent : Consistent m.snapshot)
    (same : m.guarded.Same next.guarded) : Consistent next.snapshot := by
  obtain ⟨mode, transportState, captureActive, sessionActive, encoderName⟩ := same
  obtain ⟨active, stopped, host, client, capture, encoder⟩ := consistent
  constructor <;>
    simp only [snapshot, mode, transportState, captureActive, sessionActive, encoderName] at * <;>
    assumption

theorem Rests.same {m next : SessionManager} (rests : Rests m) (api : next.api = m.api)
    (same : m.guarded.Same next.guarded) : Rests next := by
  unfold Rests at rests ⊢
  rw [api]
  split at rests
  · exact Consistent.same rests same
  · exact Consistent.same rests same
  · exact Consistent.same rests same
  · exact Stopped.same rests same

/-- The state of the two threads and of the flag that keeps what is published in order. -/
structure Valid (m : SessionManager) : Prop where
  worker : ∀ w, m.worker = some w → Fits m w.pc.zone
  rest : m.worker = none → Rests m
  joined : m.api.pastJoin = true → m.worker = none
  requested : ∀ call, m.api = .disconnect call ∨ m.api = .join call → m.stopRequested = true

theorem Valid.initial : Valid {} :=
  ⟨nofun, fun _ => ⟨rfl, rfl, rfl, rfl, rfl⟩, nofun, nofun⟩

theorem Valid.without {m : SessionManager} (none : m.worker = none) (rests : Rests m)
    (requested : ∀ call, m.api = .disconnect call ∨ m.api = .join call → m.stopRequested = true) :
    Valid m :=
  ⟨fun w present => (by cases none.symm.trans present), fun _ => rests, fun _ => none, requested⟩

/-- A step that leaves both threads where they are and keeps what the invariant reads. -/
theorem Valid.keep {m next : SessionManager} (valid : Valid m) (worker : next.worker = m.worker)
    (api : next.api = m.api) (stop : next.stopRequested = m.stopRequested)
    (transport : next.transport = m.transport) (same : m.guarded.Same next.guarded) :
    Valid next := by
  refine ⟨?_, ?_, ?_, ?_⟩
  · intro w present
    refine (valid.worker w (worker ▸ present)).keep same (fun _ alive => ?_) (stop ▸ ·)
    rwa [stop, transport]
  · intro none
    exact (valid.rest (worker ▸ none)).same api same
  · intro past
    rw [worker]
    exact valid.joined (api ▸ past)
  · intro call asked
    rw [stop]
    exact valid.requested call (api ▸ asked)

theorem Valid.work {m next : SessionManager} {w : Worker} {os : OsAnswers} (valid : Valid m)
    (present : m.worker = some w) (taken : m.work w os = some next) : Valid next := by
  obtain ⟨api, stop, w', there, moves⟩ := work_worked taken
  have fits := moves.fits stop (valid.worker w present)
  have before : m.api.pastJoin = false := by
    cases past : m.api.pastJoin with
    | false => rfl
    | true => cases (valid.joined past).symm.trans present
  refine ⟨?_, ?_, ?_, ?_⟩
  · intro v at_
    cases there.symm.trans at_
    exact fits
  · intro none
    cases there.symm.trans none
  · intro past
    rw [api, before] at past
    cases past
  · intro call asked
    rw [api] at asked
    rw [stop]
    exact valid.requested call asked

theorem Valid.callStep {m next : SessionManager} (valid : Valid m)
    (taken : m.callStep = some next) : Valid next := by
  have same := Guarded.Same.refl m.guarded
  have free {pc : ApiPc} (at_ : m.api = pc) (past : pc.pastJoin = true) : m.worker = none :=
    valid.joined (by rw [at_]; exact past)
  cases callStep_cases taken with
  | requestStop call at_ =>
      -- from here on a lost connection is a requested one
      refine ⟨fun w present => ?_, fun none => ?_, nofun, fun _ _ => rfl⟩
      · exact (valid.worker w present).keep same (fun _ _ => .inl rfl) (fun _ => rfl)
      · have rests := valid.rest none
        unfold Rests at rests ⊢
        rwa [at_] at rests
  | disconnect call at_ =>
      have asked := valid.requested call (.inl at_)
      refine ⟨fun w present => ?_, fun none => ?_, nofun, fun _ _ => asked⟩
      · exact (valid.worker w present).keep same (fun _ _ => .inl asked) (fun _ => asked)
      · have rests := valid.rest none
        unfold Rests at rests ⊢
        rwa [at_] at rests
  | noWorker call at_ none => exact .without none (valid.rest none).consistent nofun
  | joined call w at_ present => exact .without rfl (valid.worker w present).consistent nofun
  | shutdownCapture call at_ | shutdownEncoder call at_ =>
      exact .without (free at_ rfl) (valid.rest (free at_ rfl)).consistent nofun
  | stopped at_ => exact .without (free at_ rfl) ⟨rfl, rfl, rfl, rfl, rfl⟩ nofun
  | publishStopped call at_ =>
      exact .without (free at_ rfl) ⟨rfl, rfl, rfl, rfl, rfl⟩ nofun
  | startHost deviceName port at_ =>
      refine ⟨fun w present => ?_, nofun, nofun, nofun⟩
      cases present
      exact ⟨rfl, rfl, rfl⟩
  | startClient address port at_ =>
      have stopped : Stopped m.guarded := by
        have rests := valid.rest (free at_ rfl)
        unfold Rests at rests
        rwa [at_] at rests
      refine ⟨fun w present => ?_, nofun, nofun, nofun⟩
      cases present
      exact ⟨rfl, rfl, rfl, rfl, stopped.encoderName⟩

theorem Valid.step {m next : SessionManager} {label : Label} (valid : Valid m)
    (taken : m.step label = some next) : Valid next := by
  cases label with
  | call call =>
      simp only [SessionManager.step] at taken
      split at taken
      · next idle =>
          cases taken
          refine ⟨valid.worker, fun none => ?_, nofun, nofun⟩
          have rests := valid.rest none
          unfold Rests at rests ⊢
          rwa [idle] at rests
      · cases taken
  | api => exact valid.callStep taken
  | setMonitorIndex | setInputEnabled | setClipboardEnabled | setAudioEnabled =>
      cases taken
      exact valid.keep rfl rfl rfl rfl ⟨rfl, rfl, rfl, rfl, rfl⟩
  | worker os =>
      obtain ⟨w, present, worked⟩ := Option.bind_eq_some_iff.mp taken
      exact valid.work present worked

theorem valid_of_reachable {m : SessionManager}
    (reached : Transition.Reachable SessionManager.step {} m) : Valid m :=
  reached.invariant (fun _ _ _ valid taken => Valid.step valid taken) Valid.initial

/-- Every snapshot, between any two steps of the two threads, pairs its fields up. -/
theorem snapshots_consistent {m : SessionManager}
    (reached : Transition.Reachable SessionManager.step {} m) : Consistent m.snapshot := by
  have valid := valid_of_reachable reached
  cases present : m.worker with
  | none => exact (valid.rest present).consistent
  | some w => exact (valid.worker w present).consistent

/-- A host started from a stopped manager, and what the steps of its worker are answered. -/
def hostRun (answers : List OsAnswers) : List Label :=
  .call (.startHost (ascii "desk") 4545) :: List.replicate 7 .api ++ answers.map .worker

/-- A host that has just accepted a client. -/
theorem snapshots_consistent_connected :
    ∃ m, Transition.exec SessionManager.step {} (hostRun (List.replicate 7 {})) = some m ∧
      m.guarded.transportState = .connected ∧ Consistent m.snapshot :=
  ⟨_, rfl, rfl, snapshots_consistent ⟨hostRun (List.replicate 7 {}), rfl⟩⟩

theorem Moves.encoderName {m next : SessionManager} {os : OsAnswers} {pc : Pc} {zone zone' : Zone}
    (moves : Moves m next os pc zone zone') :
    next.guarded.encoderName = m.guarded.encoderName := by
  cases moves with
  | stay _ same | bound same | bindFailed same | openFailed same | accepted same | stops same
  | closes same | dialed same | dialFailed same | lost same => exact same.encoderName
  | opened published | joins published | ended published | ready published | left published =>
      rw [published]
      rfl

/-- The names that the encoder can have. -/
def EncoderKnown (m : SessionManager) : Prop :=
  m.guarded.encoderName = ascii "none" ∨ m.guarded.encoderName = ascii "raw"

theorem EncoderKnown.callStep {m next : SessionManager} (known : EncoderKnown m)
    (taken : m.callStep = some next) : EncoderKnown next := by
  cases callStep_cases taken with
  | stopped | publishStopped => exact .inl rfl
  | startHost => exact .inr rfl
  | requestStop | disconnect | noWorker | joined | shutdownCapture | shutdownEncoder
  | startClient => exact known

theorem encoder_known {m : SessionManager}
    (reached : Transition.Reachable SessionManager.step {} m) : EncoderKnown m := by
  refine reached.invariant (fun s label t known taken => ?_) (.inl rfl)
  cases label with
  | call call =>
      simp only [SessionManager.step] at taken
      split at taken <;> cases taken
      exact known
  | api => exact known.callStep taken
  | setMonitorIndex | setInputEnabled | setClipboardEnabled | setAudioEnabled =>
      cases taken
      exact known
  | worker os =>
      obtain ⟨w, _, worked⟩ := Option.bind_eq_some_iff.mp taken
      obtain ⟨_, _, _, _, moves⟩ := work_worked worked
      unfold EncoderKnown
      rwa [moves.encoderName]

/-- What is to be left of a worker that has returned on its own. -/
def Settled (m : SessionManager) : Prop :=
  m.guarded.transportState = .offline ∧ m.guarded.sessionActive = false ∧
  m.guarded.captureActive = false ∧ m.transport.socket = none ∧ m.transport.listenSocket = none

instance (m : SessionManager) : Decidable (Settled m) := by
  unfold Settled
  infer_instance

/-- A worker that returns without a requested stop leaves the state it was started with:
listening for a host and connecting for a client. -/
theorem returned_never_settled {m : SessionManager}
    (reached : Transition.Reachable SessionManager.step {} m) {w : Worker}
    (present : m.worker = some w) (returned : w.pc = .exited) (unasked : m.stopRequested = false) :
    ¬ Settled m := by
  have fits := (valid_of_reachable reached).worker w present
  rw [returned] at fits
  rintro ⟨offline, _⟩
  rcases fits with host | connecting | ⟨_, asked⟩
  · rw [host.transportState] at offline
    cases offline
  · rw [connecting.transportState] at offline
    cases offline
  · rw [unasked] at asked
    cases asked

/-- The answers to a host whose port is taken. -/
def portTaken : List OsAnswers :=
  List.replicate 3 { listen := ⟨.ok (), .ok 1, .ok (), .error 10048, .ok ()⟩ }

theorem returned_never_settled_host :
    ∃ m, Transition.exec SessionManager.step {} (hostRun portTaken) = some m ∧ ¬ Settled m :=
  ⟨_, rfl, returned_never_settled ⟨hostRun portTaken, rfl⟩ rfl rfl rfl⟩

/-- When the port is taken the worker has returned and the host still reports listening. -/
theorem failed_listen_reports_listening :
    ∃ m, Transition.exec SessionManager.step {} (hostRun portTaken) = some m ∧
      m.worker = some { pc := .exited } ∧ m.stopRequested = false ∧
      m.snapshot.transportState = .listening ∧ ¬ Settled m :=
  ⟨_, rfl, rfl, rfl, rfl, by decide⟩

end SessionManager
end Screenscrab.Session
