import Screenscrab.Session.Incoming

/-! `SessionManager`: the thread that calls the public functions and the worker thread it
starts. Each block under `mutex_`, each member call on the transport and each access to
`stop_requested_` is one step; what the operating system answers is in the label. -/
namespace Screenscrab.Session
open Protocol

inductive SessionMode where
  | stopped
  | host
  | client
  deriving DecidableEq, Repr

inductive SessionTransportState where
  | offline
  | listening
  | connecting
  | connected
  | retrying
  deriving DecidableEq, Repr

/-- The fields that `mutex_` guards. -/
structure Guarded where
  deviceName : Bytes := []
  endpoint : Bytes := []
  lastErrorMessage : Bytes := []
  mode : SessionMode := .stopped
  transportState : SessionTransportState := .offline
  captureActive : Bool := false
  sessionActive : Bool := false
  tailscaleReachable : Bool := false
  inputEnabled : Bool := true
  clipboardEnabled : Bool := true
  audioEnabled : Bool := true
  monitorIndex : UInt32 := 0
  port : UInt16 := 4545
  lastError : Int32 := 0
  encoderName : Bytes := ascii "none"
  deriving DecidableEq

structure SessionSnapshot where
  mode : SessionMode
  transportState : SessionTransportState
  captureActive : Bool
  sessionActive : Bool
  tailscaleReachable : Bool
  inputEnabled : Bool
  clipboardEnabled : Bool
  audioEnabled : Bool
  monitorIndex : UInt32
  port : UInt16
  framesSent : UInt64
  endpoint : Bytes
  encoderName : Bytes
  lastErrorMessage : Bytes
  lastError : Int32
  deriving DecidableEq

/-- Where the worker stands: what it does next, in the order of `run_host_loop`, of
`process_incoming_packets` and of `run_client_loop`. -/
inductive Pc where
  | listen
  | inputInitialize
  | captureInitialize
  | hostReady
  | outerHead
  | accept
  | acceptFailed
  | clientJoined
  | sendHello
  | sendCapabilities
  | sendSessionStart
  | startPing
  | innerHead
  | innerConnected
  | capture
  | encode
  | sendMetadata
  | sendFrame
  | sendFailed
  | countFrame
  | processHead
  | processConnected
  | processPoll
  | receiveHeader
  | receivePayload (header : Bytes) (payloadSize : Nat)
  | handlePacket (packet : Bytes)
  | handlerDisconnect
  | sendPong
  | processDisconnect
  | pingDue
  | sendPing
  | endDisconnect
  | endSession
  | connect
  | clientReady
  | clientHead
  | clientConnected
  | clientDisconnect
  | clientEnded
  | readError (message : String) (next : Pc)
  | applyError (code : Int32) (message : String) (next : Pc)
  | exited
  deriving DecidableEq

/-- The worker thread with the local variable of `run_host_loop` that outlives a step. -/
structure Worker where
  pc : Pc
  lastPing : UInt64 := 0
  deriving DecidableEq

inductive ApiCall where
  | startHost (deviceName : Bytes) (port : UInt16)
  | startClient (address : Bytes) (port : UInt16)
  | stop
  deriving DecidableEq

/-- Where a public function stands: `stop`, with which every start begins, and the start. -/
inductive ApiPc where
  | idle
  | requestStop (call : ApiCall)
  | disconnect (call : ApiCall)
  | join (call : ApiCall)
  | shutdownCapture (call : ApiCall)
  | shutdownEncoder (call : ApiCall)
  | publishStopped (call : ApiCall)
  | publishStart (call : ApiCall)
  deriving DecidableEq

structure SessionManager where
  guarded : Guarded := {}
  stopRequested : Bool := false
  framesSent : UInt64 := 0
  transport : Transport := {}
  capture : Bool := false
  encoder : Option Bytes := none
  worker : Option Worker := none
  api : ApiPc := .idle
  deriving DecidableEq

/-- What the calls of one step of the worker answer; a step looks at those it makes. -/
structure OsAnswers where
  ok : Bool := true
  listen : Transport.ListenCalls := ⟨.ok (), .ok 1, .ok (), .ok (), .ok ()⟩
  accept : Except Int32 SOCKET := .ok 2
  connect : Transport.ConnectCalls := ⟨.ok (), .ok [⟨some 3, .ok ()⟩]⟩
  poll : Except Int32 Bool := .ok false
  received : Option Bytes := none
  now : UInt64 := 0

inductive Label where
  | call (call : ApiCall)
  | api
  | setMonitorIndex (monitorIndex : UInt32)
  | setInputEnabled (enabled : Bool)
  | setClipboardEnabled (enabled : Bool)
  | setAudioEnabled (enabled : Bool)
  | worker (os : OsAnswers)

namespace Guarded

/-- The blocks of the worker that publish its progress, and `apply_error`. -/
def hostReady (g : Guarded) : Guarded :=
  { g with captureActive := true, sessionActive := false, transportState := .listening }

def clientJoined (g : Guarded) : Guarded :=
  { g with transportState := .connected, sessionActive := true, tailscaleReachable := true,
           endpoint := ascii "peer", lastErrorMessage := ascii "client connected" }

def endSession (g : Guarded) : Guarded :=
  { g with sessionActive := false, transportState := .listening, endpoint := [] }

def clientReady (g : Guarded) : Guarded :=
  { g with sessionActive := true, transportState := .connected, tailscaleReachable := true,
           lastErrorMessage := ascii "client connected" }

def clientEnded (g : Guarded) : Guarded :=
  { g with sessionActive := false, transportState := .offline }

def applyError (g : Guarded) (code : Int32) (message : String) : Guarded :=
  { g with lastError := code, lastErrorMessage := ascii message }

/-- The blocks of `stop`, `start_host` and `start_client`. -/
def publishStopped (g : Guarded) : Guarded :=
  { g with mode := .stopped, transportState := .offline, sessionActive := false,
           captureActive := false, encoderName := ascii "none" }

def startHost (g : Guarded) (deviceName : Bytes) (port : UInt16) : Guarded :=
  { g with deviceName, port, mode := .host, endpoint := [], sessionActive := false,
           transportState := .listening, captureActive := false, lastError := 0,
           lastErrorMessage := ascii "starting host" }

def startClient (g : Guarded) (address : Bytes) (port : UInt16) : Guarded :=
  { g with mode := .client, endpoint := address ++ ascii ":" ++ ascii (toString port.toNat), port,
           transportState := .connecting, sessionActive := false, captureActive := false,
           lastError := 0, lastErrorMessage := ascii "connecting client" }

end Guarded

namespace SessionManager

def snapshot (m : SessionManager) : SessionSnapshot where
  mode := m.guarded.mode
  transportState := m.guarded.transportState
  captureActive := m.guarded.captureActive
  sessionActive := m.guarded.sessionActive
  tailscaleReachable := m.guarded.tailscaleReachable
  inputEnabled := m.guarded.inputEnabled
  clipboardEnabled := m.guarded.clipboardEnabled
  audioEnabled := m.guarded.audioEnabled
  monitorIndex := m.guarded.monitorIndex
  port := m.guarded.port
  framesSent := m.framesSent
  endpoint := m.guarded.endpoint
  encoderName := m.guarded.encoderName
  lastErrorMessage := m.guarded.lastErrorMessage
  lastError := m.guarded.lastError

/-- `RawFrameEncoder::initialize`, the encoder that `EncodeBackend::initialize` makes. -/
def rawInitialize : Bool := true

/-- `EncodeBackend::initialize`: the encoder it leaves, by its name, and its result. -/
def encoderInitialize : Option Bytes × Bool :=
  if rawInitialize then (some (ascii "raw"), true) else (none, false)

def goto (m : SessionManager) (w : Worker) (pc : Pc) : SessionManager :=
  { m with worker := some { w with pc } }

/-- The checks of a received header, up to the size of the payload to receive. -/
def afterHeader (header : Bytes) : Option Pc := do
  let magic ← readU32 header 0
  let version ← readU16 header 4
  if magic.toNat ≠ wireMagic ∨ version.toNat ≠ wireVersion then
    return .applyError (-6) "wire header mismatch" .processDisconnect
  let payloadSize ← readU32 header 12
  if payloadSize > 1024 * 1024 then
    return .applyError (-7) "packet payload too large" .processDisconnect
  if payloadSize = 0 then return .handlePacket header
  return .receivePayload header payloadSize.toNat

/-- `handle_packet` up to the call its handler makes, which `ok` answers. -/
def afterPacket (m : SessionManager) (os : OsAnswers) (packet : Bytes) : Option Pc := do
  let settings : Settings :=
    { inputEnabled := m.guarded.inputEnabled, clipboardEnabled := m.guarded.clipboardEnabled,
      nowMicros := os.now }
  match ← Session.handlePacket settings packet with
  | .returns result => return if result then .processHead else .processDisconnect
  | .calls (.sendPong _) => return .sendPong
  | .calls _ => return if os.ok then .processHead else .processDisconnect
  | .invalid => return .applyError (-8) "invalid packet" .processDisconnect
  | .disconnects => return .handlerDisconnect

/-- One step of the worker. -/
def work (m : SessionManager) (w : Worker) (os : OsAnswers) : Option SessionManager :=
  match w.pc with
  | .listen =>
    let (transport, ok) := m.transport.listen os.listen
    some ({ m with transport }.goto w
      (if ok then .inputInitialize else .readError "host listen failed" .exited))
  | .inputInitialize =>
    some (m.goto w
      (if os.ok then .captureInitialize
        else .applyError (-5) "input initialization failed" .exited))
  | .captureInitialize =>
    some ({ m with capture := os.ok }.goto w
      (if os.ok then .hostReady else .applyError (-2) "capture initialization failed" .exited))
  | .hostReady => some ({ m with guarded := m.guarded.hostReady }.goto w .outerHead)
  | .outerHead => some (m.goto w (if m.stopRequested then .exited else .accept))
  | .accept =>
    let (transport, ok) := m.transport.accept os.accept
    some ({ m with transport }.goto w (if ok then .clientJoined else .acceptFailed))
  | .acceptFailed =>
    some (m.goto w (if m.stopRequested then .exited else .readError "accept failed" .outerHead))
  | .clientJoined => some ({ m with guarded := m.guarded.clientJoined }.goto w .sendHello)
  | .sendHello =>
    some ({ m with transport := (m.transport.sendAll os.ok).1 }.goto w .sendCapabilities)
  | .sendCapabilities =>
    some ({ m with transport := (m.transport.sendAll os.ok).1 }.goto w .sendSessionStart)
  | .sendSessionStart =>
    some ({ m with transport := (m.transport.sendAll os.ok).1 }.goto w .startPing)
  | .startPing => some (m.goto { w with lastPing := os.now } .innerHead)
  | .innerHead => some (m.goto w (if m.stopRequested then .endDisconnect else .innerConnected))
  | .innerConnected =>
    some (m.goto w (if m.transport.connected then .capture else .endDisconnect))
  | .capture =>
    some (m.goto w
      (if m.capture ∧ os.ok then .encode else .applyError (-3) "capture failed" .innerHead))
  | .encode =>
    some (m.goto w
      (if m.encoder.isSome ∧ os.ok then .sendMetadata
        else .applyError (-4) "encode failed" .innerHead))
  | .sendMetadata =>
    let (transport, ok) := m.transport.sendAll os.ok
    some ({ m with transport }.goto w
      (if ok then .sendFrame else .readError "frame send failed" .sendFailed))
  | .sendFrame =>
    let (transport, ok) := m.transport.sendAll os.ok
    some ({ m with transport }.goto w
      (if ok then .countFrame else .readError "frame send failed" .sendFailed))
  | .sendFailed => some ({ m with transport := m.transport.disconnect }.goto w .endDisconnect)
  | .countFrame => some ({ m with framesSent := m.framesSent + 1 }.goto w .processHead)
  | .processHead => some (m.goto w (if m.stopRequested then .pingDue else .processConnected))
  | .processConnected =>
    some (m.goto w (if m.transport.connected then .processPoll else .pingDue))
  | .processPoll =>
    let (transport, ready) := m.transport.pollReadable os.poll
    some ({ m with transport }.goto w (if ready then .receiveHeader else .pingDue))
  | .receiveHeader =>
    let (transport, received) := m.transport.receiveAll (os.received.filter (·.length = 24))
    match received with
    | none =>
      some ({ m with transport }.goto w
        (.readError "packet header receive failed" .processDisconnect))
    | some header => (afterHeader header).map ({ m with transport }.goto w)
  | .receivePayload header payloadSize =>
    let (transport, received) :=
      m.transport.receiveAll (os.received.filter (·.length = payloadSize))
    match received with
    | none =>
      some ({ m with transport }.goto w
        (.readError "packet payload receive failed" .processDisconnect))
    | some payload => some ({ m with transport }.goto w (.handlePacket (header ++ payload)))
  | .handlePacket packet => (m.afterPacket os packet).map (m.goto w)
  | .handlerDisconnect =>
    some ({ m with transport := m.transport.disconnect }.goto w .processDisconnect)
  | .sendPong =>
    let (transport, ok) := m.transport.sendAll os.ok
    some ({ m with transport }.goto w (if ok then .processHead else .processDisconnect))
  | .processDisconnect => some ({ m with transport := m.transport.disconnect }.goto w .pingDue)
  | .pingDue =>
    if os.now - w.lastPing > 1000000 then some (m.goto { w with lastPing := os.now } .sendPing)
    else some (m.goto w .innerHead)
  | .sendPing => some ({ m with transport := (m.transport.sendAll os.ok).1 }.goto w .innerHead)
  | .endDisconnect => some ({ m with transport := m.transport.disconnect }.goto w .endSession)
  | .endSession => some ({ m with guarded := m.guarded.endSession }.goto w .outerHead)
  | .connect =>
    let (transport, ok) := m.transport.connect os.connect
    some ({ m with transport }.goto w
      (if ok then .clientReady else .readError "client connect failed" .exited))
  | .clientReady => some ({ m with guarded := m.guarded.clientReady }.goto w .clientHead)
  | .clientHead =>
    some (m.goto w (if m.stopRequested then .clientDisconnect else .clientConnected))
  | .clientConnected =>
    some (m.goto w (if m.transport.connected then .clientHead else .clientDisconnect))
  | .clientDisconnect =>
    some ({ m with transport := m.transport.disconnect }.goto w .clientEnded)
  | .clientEnded => some ({ m with guarded := m.guarded.clientEnded }.goto w .exited)
  | .readError message next =>
    some (m.goto w (.applyError m.transport.lastError message next))
  | .applyError code message next =>
    some ({ m with guarded := m.guarded.applyError code message }.goto w next)
  | .exited => none

/-- One step of the calling thread. `apply_error` would wait for the lock that `start_host`
holds, so a failing encoder leaves it without a next step. -/
def callStep (m : SessionManager) : Option SessionManager :=
  match m.api with
  | .idle => none
  | .requestStop call => some { m with stopRequested := true, api := .disconnect call }
  | .disconnect call => some { m with transport := m.transport.disconnect, api := .join call }
  | .join call =>
    match m.worker with
    | none => some { m with api := .shutdownCapture call }
    | some w =>
      if w.pc = .exited then some { m with worker := none, api := .shutdownCapture call } else none
  | .shutdownCapture call => some { m with capture := false, api := .shutdownEncoder call }
  | .shutdownEncoder call => some { m with encoder := none, api := .publishStopped call }
  | .publishStopped call =>
    some { m with
      guarded := m.guarded.publishStopped
      api := match call with
        | .stop => .idle
        | _ => .publishStart call }
  | .publishStart (.startHost deviceName port) =>
    match encoderInitialize with
    | (_, false) => none
    | (encoder, true) =>
      some { m with
        guarded := { m.guarded.startHost deviceName port with
          encoderName := encoder.getD (ascii "none") }
        stopRequested := false
        encoder
        worker := some { pc := .listen }
        api := .idle }
  | .publishStart (.startClient address port) =>
    some { m with
      guarded := m.guarded.startClient address port
      stopRequested := false
      worker := some { pc := .connect }
      api := .idle }
  | .publishStart .stop => none

def step (m : SessionManager) : Label → Option SessionManager
  | .call call => if m.api = .idle then some { m with api := .requestStop call } else none
  | .api => m.callStep
  | .setMonitorIndex monitorIndex => some { m with guarded := { m.guarded with monitorIndex } }
  | .setInputEnabled inputEnabled => some { m with guarded := { m.guarded with inputEnabled } }
  | .setClipboardEnabled clipboardEnabled =>
    some { m with guarded := { m.guarded with clipboardEnabled } }
  | .setAudioEnabled audioEnabled => some { m with guarded := { m.guarded with audioEnabled } }
  | .worker os => m.worker.bind fun w => m.work w os

/-- What a step of the calling thread can do, and where it does it. -/
inductive CallMoves (m : SessionManager) : SessionManager → Prop
  | requestStop (call : ApiCall) : m.api = .requestStop call →
    CallMoves m { m with stopRequested := true, api := .disconnect call }
  | disconnect (call : ApiCall) : m.api = .disconnect call →
    CallMoves m { m with transport := m.transport.disconnect, api := .join call }
  | noWorker (call : ApiCall) : m.api = .join call → m.worker = none →
    CallMoves m { m with api := .shutdownCapture call }
  | joined (call : ApiCall) (w : Worker) : m.api = .join call → m.worker = some w →
    w.pc = .exited → CallMoves m { m with worker := none, api := .shutdownCapture call }
  | shutdownCapture (call : ApiCall) : m.api = .shutdownCapture call →
    CallMoves m { m with capture := false, api := .shutdownEncoder call }
  | shutdownEncoder (call : ApiCall) : m.api = .shutdownEncoder call →
    CallMoves m { m with encoder := none, api := .publishStopped call }
  | stopped : m.api = .publishStopped .stop →
    CallMoves m { m with guarded := m.guarded.publishStopped, api := .idle }
  | publishStopped (call : ApiCall) : m.api = .publishStopped call → call ≠ .stop →
    CallMoves m { m with guarded := m.guarded.publishStopped, api := .publishStart call }
  | startHost (deviceName : Bytes) (port : UInt16) :
    m.api = .publishStart (.startHost deviceName port) →
    CallMoves m { m with
      guarded := { m.guarded.startHost deviceName port with encoderName := ascii "raw" }
      stopRequested := false
      encoder := some (ascii "raw")
      worker := some { pc := .listen }
      api := .idle }
  | startClient (address : Bytes) (port : UInt16) :
    m.api = .publishStart (.startClient address port) →
    CallMoves m { m with
      guarded := m.guarded.startClient address port
      stopRequested := false
      worker := some { pc := .connect }
      api := .idle }

theorem callStep_cases {m next : SessionManager} (taken : m.callStep = some next) :
    CallMoves m next := by
  unfold callStep at taken
  split at taken
  · cases taken
  · next call at_ =>
      cases taken
      exact .requestStop call at_
  · next call at_ =>
      cases taken
      exact .disconnect call at_
  · next call at_ =>
      split at taken
      · next none =>
          cases taken
          exact .noWorker call at_ none
      · next w present =>
          split at taken <;> cases taken
          next returned => exact .joined call w at_ present returned
  · next call at_ =>
      cases taken
      exact .shutdownCapture call at_
  · next call at_ =>
      cases taken
      exact .shutdownEncoder call at_
  · next call at_ =>
      cases taken
      cases call with
      | stop => exact .stopped at_
      | startHost | startClient => exact .publishStopped _ at_ nofun
  · next deviceName port at_ =>
      cases taken
      exact .startHost deviceName port at_
  · next address port at_ =>
      cases taken
      exact .startClient address port at_
  · cases taken

end SessionManager
end Screenscrab.Session
