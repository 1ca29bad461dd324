import Screenscrab.Session.Status

/-! What a session manager holds of the operating system: the sockets of its transport, each of
which is closed once, and the capture and the encoder that its worker uses. -/
namespace Screenscrab.Session
open Transition (exec Reachable)

/-- The call of the transport that a step makes, with what Winsock answers. -/
inductive TransportCall where
  | listen (os : Transport.ListenCalls)
  | accept (answer : Except Int32 SOCKET)
  | connect (os : Transport.ConnectCalls)
  | disconnect
  | sendAll (sent : Bool)
  | receiveAll (received : Option Bytes)
  | pollReadable (answer : Except Int32 Bool)
  | quiet

def TransportCall.run (t : Transport) : TransportCall → Transport
  | .listen os => (t.listen os).1
  | .accept answer => (t.accept answer).1
  | .connect os => (t.connect os).1
  | .disconnect => t.disconnect
  | .sendAll sent => (t.sendAll sent).1
  | .receiveAll received => (t.receiveAll received).1
  | .pollReadable answer => (t.pollReadable answer).1
  | .quiet => t

/-- A transport with the handles that `socket` and `accept` have returned to it, and those that it
has passed to `closesocket`. -/
structure Sockets where
  transport : Transport := {}
  opened : List SOCKET := []
  closed : List SOCKET := []

namespace Sockets

def opening (s : Sockets) (handle : SOCKET) : Sockets := { s with opened := handle :: s.opened }

def closing (s : Sockets) (handle : SOCKET) : Sockets := { s with closed := handle :: s.closed }

def fail (s : Sockets) (e : Int32) : Sockets :=
  { s with transport := { s.transport with lastError := e } }

/-- `if (socket_ != INVALID_SOCKET)`, in `disconnect` and in `accept`. -/
def closeSocket (s : Sockets) : Sockets :=
  match s.transport.socket with
  | none => s
  | some handle => { s.closing handle with transport := { s.transport with socket := none } }

def closeListener (s : Sockets) : Sockets :=
  match s.transport.listenSocket with
  | none => s
  | some handle => { s.closing handle with transport := { s.transport with listenSocket := none } }

def disconnect (s : Sockets) : Sockets := s.closeSocket.closeListener

def listen (s : Sockets) (os : Transport.ListenCalls) : Sockets :=
  match os.startup with
  | .error e => s.fail e
  | .ok _ =>
    let s := s.disconnect
    match os.socket with
    | .error e => s.fail e
    | .ok handle =>
      let s := s.opening handle
      let s := { s with transport := { s.transport with listenSocket := some handle } }
      match os.setReuse with
      | .error e => (s.fail e).disconnect
      | .ok _ =>
        match os.bind with
        | .error e => (s.fail e).disconnect
        | .ok _ =>
          match os.listen with
          | .error e => (s.fail e).disconnect
          | .ok _ => s

def accept (s : Sockets) (answer : Except Int32 SOCKET) : Sockets :=
  if s.transport.listenSocket = none then s.fail wsaEINVAL
  else
    let s := s.closeSocket
    match answer with
    | .error e => s.fail e
    | .ok handle =>
      let s := s.opening handle
      { s with transport := { s.transport with socket := some handle } }

def connectFirst (s : Sockets) : List Transport.AddressCalls → Sockets
  | [] => s
  | address :: rest =>
    match address.socket with
    | none => s.connectFirst rest
    | some handle =>
      let s := s.opening handle
      match address.connect with
      | .ok _ => { s with transport := { s.transport with socket := some handle, lastError := 0 } }
      | .error e => ((s.fail e).closing handle).connectFirst rest

def connect (s : Sockets) (os : Transport.ConnectCalls) : Sockets :=
  match os.startup with
  | .error e => s.fail e
  | .ok _ =>
    let s := s.disconnect.fail 0
    match os.getaddrinfo with
    | .error e => s.fail e
    | .ok addresses => s.connectFirst addresses

def run (s : Sockets) : TransportCall → Sockets
  | .listen os => s.listen os
  | .accept answer => s.accept answer
  | .connect os => s.connect os
  | .disconnect => s.disconnect
  | .sendAll sent => { s with transport := (s.transport.sendAll sent).1 }
  | .receiveAll received => { s with transport := (s.transport.receiveAll received).1 }
  | .pollReadable answer => { s with transport := (s.transport.pollReadable answer).1 }
  | .quiet => s

/-! With the two lists it is the transport -/

@[simp] theorem opening_transport (s : Sockets) (handle : SOCKET) :
    (s.opening handle).transport = s.transport := rfl

@[simp] theorem closing_transport (s : Sockets) (handle : SOCKET) :
    (s.closing handle).transport = s.transport := rfl

@[simp] theorem fail_transport (s : Sockets) (e : Int32) :
    (s.fail e).transport = { s.transport with lastError := e } := rfl

@[simp] theorem closeSocket_transport (s : Sockets) :
    s.closeSocket.transport = { s.transport with socket := none } := by
  unfold closeSocket
  split
  · next none => rw [← none]
  · rfl

@[simp] theorem closeListener_transport (s : Sockets) :
    s.closeListener.transport = { s.transport with listenSocket := none } := by
  unfold closeListener
  split
  · next none => rw [← none]
  · rfl

@[simp] theorem disconnect_transport (s : Sockets) :
    s.disconnect.transport = s.transport.disconnect := by
  rw [disconnect, closeListener_transport, closeSocket_transport]
  rfl

theorem listen_transport (s : Sockets) (os : Transport.ListenCalls) :
    (s.listen os).transport = (s.transport.listen os).1 := by
  unfold listen Transport.listen
  cases os.startup with
  | error e => rfl
  | ok =>
      cases os.socket with
      | error e => simp
      | ok handle =>
          cases os.setReuse with
          | error e => simp
          | ok =>
              cases os.bind with
              | error e => simp
              | ok => cases os.listen <;> simp

theorem accept_transport (s : Sockets) (answer : Except Int32 SOCKET) :
    (s.accept answer).transport = (s.transport.accept answer).1 := by
  unfold accept Transport.accept
  split
  · rfl
  · cases answer <;> simp

theorem connectFirst_transport (s : Sockets) (addresses : List Transport.AddressCalls) :
    (s.connectFirst addresses).transport = s.transport.connectFirst addresses := by
  induction addresses generalizing s with
  | nil => rfl
  | cons address rest ih =>
      unfold connectFirst Transport.connectFirst
      cases address.socket with
      | none => exact ih s
      | some handle =>
          cases address.connect with
          | ok => rfl
          | error e => exact ih _

theorem connect_transport (s : Sockets) (os : Transport.ConnectCalls) :
    (s.connect os).transport = (s.transport.connect os).1 := by
  unfold connect Transport.connect
  cases os.startup with
  | error e => rfl
  | ok =>
      cases os.getaddrinfo with
      | error e => simp
      | ok addresses => simp [connectFirst_transport]

/-- Every call does to the transport what it does without the lists. -/
theorem run_transport (s : Sockets) (call : TransportCall) :
    (s.run call).transport = call.run s.transport := by
  cases call with
  | listen os => exact s.listen_transport os
  | accept answer => exact s.accept_transport answer
  | connect os => exact s.connect_transport os
  | disconnect => exact s.disconnect_transport
  | sendAll | receiveAll | pollReadable | quiet => rfl

/-! Every handle is closed or held -/

/-- The handles in the two members. -/
def held (t : Transport) : List SOCKET := t.socket.toList ++ t.listenSocket.toList

theorem held_length (t : Transport) : (held t).length ≤ 2 := by
  unfold held
  cases t.socket <;> cases t.listenSocket <;> simp

/-- Counted with their repetitions, since Winsock may give a closed handle out again. -/
def Accounted (s : Sockets) : Prop := s.opened.Perm (s.closed ++ held s.transport)

section
variable {s : Sockets}

theorem Accounted.closeSocket (accounted : s.Accounted) : s.closeSocket.Accounted := by
  unfold Sockets.closeSocket
  split
  · exact accounted
  · next handle present =>
      unfold Accounted held at accounted ⊢
      rw [present] at accounted
      exact accounted.trans List.perm_middle

theorem Accounted.closeListener (accounted : s.Accounted) : s.closeListener.Accounted := by
  unfold Sockets.closeListener
  split
  · exact accounted
  · next handle present =>
      unfold Accounted held at accounted ⊢
      rw [present, ← List.append_assoc] at accounted
      have moved := accounted.trans (List.perm_append_singleton handle _)
      simpa [closing] using moved

theorem Accounted.disconnect (accounted : s.Accounted) : s.disconnect.Accounted :=
  accounted.closeSocket.closeListener

/-- A handle goes into a member only when there is none in it. -/
theorem Accounted.setSocket (accounted : s.Accounted) (empty : s.transport.socket = none)
    (handle : SOCKET) (e : Int32) :
    Accounted { s.opening handle with
      transport := { s.transport with socket := some handle, lastError := e } } := by
  unfold Accounted held at accounted ⊢
  rw [empty] at accounted
  exact (accounted.cons handle).trans List.perm_middle.symm

theorem Accounted.setListener (accounted : s.Accounted) (empty : s.transport.listenSocket = none)
    (handle : SOCKET) :
    Accounted { s.opening handle with
      transport := { s.transport with listenSocket := some handle } } := by
  unfold Accounted held at accounted ⊢
  rw [empty] at accounted
  have added := (accounted.cons handle).trans (List.perm_append_singleton handle _).symm
  simpa [opening, List.append_assoc] using added

theorem Accounted.listen (accounted : s.Accounted) (os : Transport.ListenCalls) :
    (s.listen os).Accounted := by
  unfold Sockets.listen
  cases os.startup with
  | error e => exact accounted
  | ok =>
      have closed := accounted.disconnect
      have empty : s.disconnect.transport.listenSocket = none := by
        rw [disconnect_transport]
        rfl
      cases os.socket with
      | error e => exact closed
      | ok handle =>
          have bound := closed.setListener empty handle
          cases os.setReuse with
          | error e => exact Accounted.disconnect (s := fail _ e) bound
          | ok =>
              cases os.bind with
              | error e => exact Accounted.disconnect (s := fail _ e) bound
              | ok =>
                  cases os.listen with
                  | error e => exact Accounted.disconnect (s := fail _ e) bound
                  | ok => exact bound

theorem Accounted.accept (accounted : s.Accounted) (answer : Except Int32 SOCKET) :
    (s.accept answer).Accounted := by
  unfold Sockets.accept
  split
  · exact accounted
  · have closed := accounted.closeSocket
    have empty : s.closeSocket.transport.socket = none := by
      rw [closeSocket_transport]
    cases answer with
    | error e => exact closed
    | ok handle => exact closed.setSocket empty handle _

/-- An address that does not connect leaves no handle behind. -/
theorem Accounted.connectFirst (accounted : s.Accounted) (empty : s.transport.socket = none)
    (addresses : List Transport.AddressCalls) : (s.connectFirst addresses).Accounted := by
  induction addresses generalizing s with
  | nil => exact accounted
  | cons address rest ih =>
      unfold Sockets.connectFirst
      cases address.socket with
      | none => exact ih accounted empty
      | some handle =>
          cases address.connect with
          | ok => exact accounted.setSocket empty handle 0
          | error e => exact ih (List.Perm.cons handle accounted) empty

theorem Accounted.connect (accounted : s.Accounted) (os : Transport.ConnectCalls) :
    (s.connect os).Accounted := by
  unfold Sockets.connect
  cases os.startup with
  | error e => exact accounted
  | ok =>
      have closed := accounted.disconnect
      cases os.getaddrinfo with
      | error e => exact closed
      | ok addresses =>
          refine Accounted.connectFirst (s := s.disconnect.fail 0) closed ?_ addresses
          rw [fail_transport, disconnect_transport]
          rfl

theorem Accounted.keep {next : Sockets} (accounted : s.Accounted) (opened : next.opened = s.opened)
    (closed : next.closed = s.closed) (same : held next.transport = held s.transport) :
    next.Accounted := by
  unfold Accounted
  rw [opened, closed, same]
  exact accounted

theorem Accounted.run (accounted : s.Accounted) (call : TransportCall) :
    (s.run call).Accounted := by
  cases call with
  | listen os => exact accounted.listen os
  | accept answer => exact accounted.accept answer
  | connect os => exact accounted.connect os
  | disconnect => exact accounted.disconnect
  | sendAll sent =>
      refine accounted.keep rfl rfl ?_
      dsimp only [Sockets.run, Transport.sendAll]
      split <;> rfl
  | receiveAll received =>
      refine accounted.keep rfl rfl ?_
      dsimp only [Sockets.run, Transport.receiveAll]
      split <;> rfl
  | pollReadable answer =>
      refine accounted.keep rfl rfl ?_
      dsimp only [Sockets.run, Transport.pollReadable]
      split
      · rfl
      · cases answer <;> rfl
  | quiet => exact accounted

end
end Sockets

namespace SessionManager

/-- The call that the worker makes where it stands. -/
def workCall (os : OsAnswers) : Pc → TransportCall
  | .listen => .listen os.listen
  | .accept => .accept os.accept
  | .connect => .connect os.connect
  | .sendHello | .sendCapabilities | .sendSessionStart | .sendMetadata | .sendFrame | .sendPong
  | .sendPing => .sendAll os.ok
  | .processPoll => .pollReadable os.poll
  | .receiveHeader => .receiveAll (os.received.filter (·.length = 24))
  | .receivePayload _ payloadSize => .receiveAll (os.received.filter (·.length = payloadSize))
  | .sendFailed | .handlerDisconnect | .processDisconnect | .endDisconnect | .clientDisconnect =>
    .disconnect
  | _ => .quiet

def transportCall (m : SessionManager) : Label → TransportCall
  | .worker os =>
    match m.worker with
    | none => .quiet
    | some w => workCall os w.pc
  | .api =>
    match m.api with
    | .disconnect _ => .disconnect
    | _ => .quiet
  | _ => .quiet

/-- What a step of the worker does besides publishing and moving on. -/
structure Performs (m next : SessionManager) (w : Worker) (os : OsAnswers) : Prop where
  transport : next.transport = (workCall os w.pc).run m.transport
  encoder : next.encoder = m.encoder
  framesSent : next.framesSent = if w.pc = .countFrame then m.framesSent + 1 else m.framesSent

theorem work_performs {m next : SessionManager} {w : Worker} {os : OsAnswers}
    (taken : m.work w os = some next) : Performs m next w os := by
  obtain ⟨pc, lastPing⟩ := w
  cases pc with
  | receiveHeader =>
      simp only [work] at taken
      split at taken
      · cases taken
        exact ⟨rfl, rfl, rfl⟩
      · obtain ⟨target, _, rfl⟩ := Option.map_eq_some_iff.mp taken
        exact ⟨rfl, rfl, rfl⟩
  | receivePayload | pingDue =>
      simp only [work] at taken
      split at taken <;> cases taken <;> exact ⟨rfl, rfl, rfl⟩
  | handlePacket packet =>
      simp only [work] at taken
      obtain ⟨target, _, rfl⟩ := Option.map_eq_some_iff.mp taken
      exact ⟨rfl, rfl, rfl⟩
  | exited => cases taken
  | _ =>
      simp only [work] at taken
      cases taken
      exact ⟨rfl, rfl, rfl⟩

/-- What a step does to the transport is the one call that it makes. -/
theorem step_transport {m next : SessionManager} {label : Label}
    (taken : m.step label = some next) :
    next.transport = (m.transportCall label).run m.transport := by
  cases label with
  | call call =>
      simp only [step] at taken
      split at taken <;> cases taken
      rfl
  | api =>
      simp only [step, callStep] at taken
      simp only [transportCall]
      cases asked : m.api with
      | idle => simp only [asked, reduceCtorEq] at taken
      | requestStop | disconnect | shutdownCapture | shutdownEncoder | publishStopped =>
          simp only [asked] at taken
          cases taken
          rfl
      | join call =>
          simp only [asked] at taken
          split at taken
          · cases taken
            rfl
          · split at taken <;> cases taken
            rfl
      | publishStart call =>
          simp only [asked] at taken
          cases call <;> cases taken <;> rfl
  | setMonitorIndex | setInputEnabled | setClipboardEnabled | setAudioEnabled =>
      cases taken
      rfl
  | worker os =>
      obtain ⟨w, present, working⟩ := Option.bind_eq_some_iff.mp taken
      rw [transportCall, present]
      exact (work_performs working).transport

end SessionManager

/-- The handles that a call may pass to Winsock. -/
def TransportCall.handles (t : Transport) : TransportCall → List SOCKET
  | .listen _ | .accept _ | .connect _ | .disconnect => Sockets.held t
  | .sendAll _ | .receiveAll _ | .pollReadable _ => t.socket.toList
  | .quiet => []

theorem TransportCall.handles_held {t : Transport} (call : TransportCall) :
    call.handles t ⊆ Sockets.held t := by
  cases call with
  | listen | accept | connect | disconnect => exact List.Subset.refl _
  | sendAll | receiveAll | pollReadable => exact List.subset_append_left _ _
  | quiet => exact List.nil_subset _

/-- A session manager with the handles of its transport. -/
structure Accounts where
  manager : SessionManager := {}
  opened : List SOCKET := []
  closed : List SOCKET := []

namespace Accounts

def sockets (a : Accounts) : Sockets := ⟨a.manager.transport, a.opened, a.closed⟩

def step (a : Accounts) (label : Label) : Option Accounts :=
  (a.manager.step label).map fun manager =>
    let sockets := a.sockets.run (a.manager.transportCall label)
    { manager, opened := sockets.opened, closed := sockets.closed }

theorem step_sockets {a next : Accounts} {label : Label} (taken : a.step label = some next) :
    next.sockets = a.sockets.run (a.manager.transportCall label) := by
  obtain ⟨manager, moved, rfl⟩ := Option.map_eq_some_iff.mp taken
  have same : manager.transport = (a.sockets.run (a.manager.transportCall label)).transport :=
    (SessionManager.step_transport moved).trans (a.sockets.run_transport _).symm
  rw [sockets, same]

/-- The lists are only looked at. -/
theorem exec_manager (a : Accounts) {labels : List Label} {m : SessionManager}
    (run : exec SessionManager.step a.manager labels = some m) :
    ∃ next, exec step a labels = some next ∧ next.manager = m := by
  induction labels generalizing a with
  | nil =>
      cases run
      exact ⟨a, rfl, rfl⟩
  | cons label labels ih =>
      obtain ⟨manager, moved, rest⟩ := Transition.exec_cons_some run
      have taken : ∃ next, a.step label = some next ∧ next.manager = manager := by
        rw [step, moved]
        exact ⟨_, rfl, rfl⟩
      obtain ⟨next, taken, rfl⟩ := taken
      obtain ⟨last, run, same⟩ := ih next rest
      refine ⟨last, ?_, same⟩
      rw [Transition.exec_cons, taken]
      exact run

theorem accounted {a : Accounts} {labels : List Label} (run : exec step {} labels = some a) :
    a.sockets.Accounted := by
  refine Transition.exec_invariant (I := fun a => a.sockets.Accounted) ?_ (List.Perm.refl []) run
  intro a label next accounted taken
  rw [step_sockets taken]
  exact accounted.run _

/-- A handle in a member has been opened once more than it has been closed. -/
theorem held_open {a : Accounts} (accounted : a.sockets.Accounted) {handle : SOCKET}
    (member : handle ∈ Sockets.held a.manager.transport) :
    a.closed.count handle < a.opened.count handle := by
  have counts := accounted.count_eq handle
  have once : 0 < (Sockets.held a.manager.transport).count handle := List.count_pos_iff.mpr member
  rw [List.count_append] at counts
  simp only [sockets] at counts
  omega

end Accounts

namespace SessionManager

/-- Whatever the two threads do, one member function of the transport after another, each handle
that Winsock has given is closed once or is held in a member, no more than two are, and no call is
made on a handle that has been closed. -/
theorem sockets_closed_once {labels : List Label} {m : SessionManager}
    (run : exec step {} labels = some m) :
    ∃ a, exec Accounts.step {} labels = some a ∧ a.manager = m ∧
      a.opened.Perm (a.closed ++ Sockets.held m.transport) ∧
      a.opened.length ≤ a.closed.length + 2 ∧
      ∀ label, ∀ handle ∈ (m.transportCall label).handles m.transport,
        a.closed.count handle < a.opened.count handle := by
  obtain ⟨a, counted, rfl⟩ := Accounts.exec_manager {} run
  have accounted := Accounts.accounted counted
  refine ⟨a, counted, rfl, accounted, ?_, ?_⟩
  · have sizes := accounted.length_eq
    rw [List.length_append] at sizes
    have few := Sockets.held_length a.manager.transport
    simp only [Accounts.sockets] at sizes
    omega
  · intro label handle member
    exact Accounts.held_open accounted (TransportCall.handles_held _ member)

/-- A host that has accepted a client holds the two sockets that it was given. -/
theorem sockets_closed_once_accepted :
    ∃ m a, exec step {} (hostRun (List.replicate 7 {})) = some m ∧
      exec Accounts.step {} (hostRun (List.replicate 7 {})) = some a ∧ a.manager = m ∧
      a.opened.Perm (a.closed ++ Sockets.held m.transport) ∧ a.opened = [2, 1] := by
  obtain ⟨a, counted, same, accounted, _⟩ := sockets_closed_once
    (show exec step {} (hostRun (List.replicate 7 {})) = some _ from rfl)
  refine ⟨_, a, rfl, counted, same, accounted, ?_⟩
  exact Option.some.inj (congrArg (Option.map Accounts.opened) counted).symm

/-! The capture and the encoder -/

end SessionManager

/-- The zones of a host. -/
def Zone.hosting : Zone → Bool
  | .dialing | .joining | .joined | .leaving | .exited => false
  | _ => true

/-- The worker is behind `capture_.initialize`, which has succeeded. -/
def Pc.capturing : Pc → Bool
  | .readError _ next | .applyError _ _ next => next.capturing
  | .listen | .inputInitialize | .captureInitialize | .connect | .clientReady | .clientHead
  | .clientConnected | .clientDisconnect | .clientEnded | .exited => false
  | _ => true

theorem Pc.capturing_of_serving {pc : Pc} (serving : pc.zone = .serving) :
    pc.capturing = true := by
  induction pc with
  | readError message next ih => exact ih serving
  | applyError code message next ih => exact ih serving
  | _ => first | rfl | cases serving

namespace SessionManager

/-- Until the worker has returned, the capture is held exactly while it is used. -/
def Captures (m : SessionManager) (pc : Pc) : Prop := pc = .exited ∨ pc.capturing = m.capture

theorem captures_goto {m m' : SessionManager} {w : Worker} {pc target : Pc}
    (same : pc.capturing = m.capture) (kept : m'.capture = m.capture)
    (there : target = .exited ∨ target.capturing = pc.capturing) :
    ∃ w', (m'.goto w target).worker = some w' ∧ Captures (m'.goto w target) w'.pc :=
  ⟨_, rfl, there.imp_right fun alike => (alike.trans same).trans kept.symm⟩

theorem Captures.work {m next : SessionManager} {w : Worker} {os : OsAnswers}
    (captures : Captures m w.pc) (taken : m.work w os = some next) :
    ∃ w', next.worker = some w' ∧ Captures next w'.pc := by
  obtain ⟨pc, lastPing⟩ := w
  rcases captures with rfl | same
  · cases taken
  cases pc with
  | captureInitialize =>
      cases taken
      refine ⟨_, rfl, .inr ?_⟩
      cases os.ok <;> rfl
  | outerHead | acceptFailed =>
      cases taken
      cases m.stopRequested with
      | true => exact captures_goto same rfl (.inl rfl)
      | false => exact captures_goto same rfl (.inr rfl)
  | receiveHeader =>
      simp only [SessionManager.work] at taken
      split at taken
      · cases taken
        exact captures_goto same rfl (.inr rfl)
      · obtain ⟨target, checked, rfl⟩ := Option.map_eq_some_iff.mp taken
        exact captures_goto same rfl (.inr (Pc.capturing_of_serving (afterHeader_serving checked)))
  | handlePacket packet =>
      simp only [SessionManager.work] at taken
      obtain ⟨target, handled, rfl⟩ := Option.map_eq_some_iff.mp taken
      exact captures_goto same rfl (.inr (Pc.capturing_of_serving (afterPacket_serving handled)))
  | receivePayload | pingDue =>
      simp only [SessionManager.work] at taken
      split at taken <;> cases taken <;> exact captures_goto same rfl (.inr rfl)
  | inputInitialize | innerHead | innerConnected | capture | encode | processHead
  | processConnected | clientHead | clientConnected =>
      cases taken
      exact captures_goto same rfl (.inr (by split <;> rfl))
  | listen | accept | sendMetadata | sendFrame | processPoll | sendPong | connect =>
      simp only [SessionManager.work] at taken
      cases taken
      exact captures_goto same rfl (.inr (by split <;> rfl))
  | clientEnded =>
      cases taken
      exact captures_goto same rfl (.inl rfl)
  | exited => cases taken
  | hostReady | clientJoined | sendHello | sendCapabilities | sendSessionStart | startPing
  | sendFailed | countFrame | handlerDisconnect | processDisconnect | sendPing | endDisconnect
  | endSession | clientReady | clientDisconnect | readError | applyError =>
      cases taken
      exact captures_goto same rfl (.inr rfl)

theorem Moves.hosting {m next : SessionManager} {os : OsAnswers} {pc : Pc} {zone zone' : Zone}
    (moves : Moves m next os pc zone zone') (hosting : zone'.hosting = true) :
    zone.hosting = true := by
  cases moves <;> first | exact hosting | rfl

/-- What the manager holds while there is no worker. -/
def Releases (m : SessionManager) : Prop :=
  match m.api with
  | .shutdownCapture _ => True
  | .shutdownEncoder _ => m.capture = false
  | _ => m.capture = false ∧ m.encoder = none

structure Owns (m : SessionManager) : Prop where
  capture : ∀ w, m.worker = some w → Captures m w.pc
  encoder : ∀ w, m.worker = some w → w.pc.zone.hosting = true → m.encoder = some (ascii "raw")
  released : m.worker = none → Releases m

theorem Owns.initial : Owns {} := ⟨nofun, nofun, fun _ => ⟨rfl, rfl⟩⟩

theorem Owns.work {m next : SessionManager} {w : Worker} {os : OsAnswers} (owns : Owns m)
    (present : m.worker = some w) (taken : m.work w os = some next) : Owns next := by
  obtain ⟨w', there, captures⟩ := Captures.work (owns.capture w present) taken
  obtain ⟨_, _, moved, at_, moves⟩ := work_worked taken
  obtain rfl : w' = moved := Option.some.inj (there.symm.trans at_)
  refine ⟨?_, ?_, ?_⟩
  · intro v same
    cases there.symm.trans same
    exact captures
  · intro v same hosting
    cases there.symm.trans same
    rw [(work_performs taken).encoder]
    exact owns.encoder w present (moves.hosting hosting)
  · intro none
    cases there.symm.trans none

/-- A step that leaves the worker and what it uses as they are. -/
theorem Owns.keep {m next : SessionManager} (owns : Owns m) (worker : next.worker = m.worker)
    (capture : next.capture = m.capture) (encoder : next.encoder = m.encoder)
    (released : m.worker = none → Releases m → Releases next) : Owns next := by
  refine ⟨?_, ?_, ?_⟩
  · intro w present
    exact (owns.capture w (worker ▸ present)).imp_right (·.trans capture.symm)
  · intro w present hosting
    exact encoder.trans (owns.encoder w (worker ▸ present) hosting)
  · intro none
    exact released (worker ▸ none) (owns.released (worker ▸ none))

theorem Owns.without {m : SessionManager} (none : m.worker = none) (released : Releases m) :
    Owns m :=
  ⟨fun w present => (by cases none.symm.trans present),
    fun w present => (by cases none.symm.trans present), fun _ => released⟩

theorem Owns.callStep {m next : SessionManager} (owns : Owns m) (valid : Valid m)
    (taken : m.callStep = some next) : Owns next := by
  have free {pc : ApiPc} (at_ : m.api = pc) (past : pc.pastJoin = true) : m.worker = none :=
    valid.joined (by rw [at_]; exact past)
  have released {pc : ApiPc} (at_ : m.api = pc) (past : pc.pastJoin = true) : Releases m :=
    owns.released (free at_ past)
  unfold Releases at released
  cases callStep_cases taken with
  | requestStop call at_ | disconnect call at_ =>
      refine owns.keep rfl rfl rfl fun _ released => ?_
      unfold Releases at released
      rwa [at_] at released
  | noWorker call at_ none => exact .without none trivial
  | joined => exact .without rfl trivial
  | shutdownCapture call at_ => exact .without (free at_ rfl) rfl
  | shutdownEncoder call at_ =>
      have gone := released at_ rfl
      rw [at_] at gone
      exact .without (free at_ rfl) ⟨gone, rfl⟩
  | stopped at_ | publishStopped call at_ =>
      have gone := released at_ rfl
      rw [at_] at gone
      exact .without (free at_ rfl) gone
  | startHost deviceName port at_ =>
      have gone := released at_ rfl
      rw [at_] at gone
      refine ⟨fun w present => ?_, fun w present _ => ?_, nofun⟩
      · cases present
        exact .inr gone.1.symm
      · cases present
        rfl
  | startClient address port at_ =>
      have gone := released at_ rfl
      rw [at_] at gone
      refine ⟨fun w present => ?_, fun w present hosting => ?_, nofun⟩
      · cases present
        exact .inr gone.1.symm
      · cases present
        cases hosting

theorem Owns.step {m next : SessionManager} {label : Label} (owns : Owns m) (valid : Valid m)
    (taken : m.step label = some next) : Owns next := by
  cases label with
  | call call =>
      simp only [SessionManager.step] at taken
      split at taken
      · next idle =>
          cases taken
          refine owns.keep rfl rfl rfl fun _ released => ?_
          unfold Releases at released
          rwa [idle] at released
      · cases taken
  | api => exact owns.callStep valid taken
  | setMonitorIndex | setInputEnabled | setClipboardEnabled | setAudioEnabled =>
      cases taken
      exact owns.keep rfl rfl rfl fun _ released => released
  | worker os =>
      obtain ⟨w, present, worked⟩ := Option.bind_eq_some_iff.mp taken
      exact owns.work present worked

theorem owns_of_reachable {m : SessionManager} (reached : Reachable SessionManager.step {} m) :
    Owns m := by
  have both := reached.invariant (I := fun m => Valid m ∧ Owns m) ?_ ⟨Valid.initial, Owns.initial⟩
  · exact both.2
  · rintro m label next ⟨valid, owns⟩ taken
    exact ⟨valid.step taken, owns.step valid taken⟩

/-- A capture fails only when its own calls do, and so does an encoding: neither is shut down
under the worker, whose thread is joined before that and before another one takes its place. No
capture is initialised while one is held, and none is left when the call has returned. -/
theorem resources_alive {m : SessionManager} (reached : Reachable SessionManager.step {} m) :
    (∀ w os, m.worker = some w → os.ok = true →
      (w.pc = .capture → m.work w os = some (m.goto w .encode)) ∧
      (w.pc = .encode → m.work w os = some (m.goto w .sendMetadata))) ∧
    (∀ w, m.worker = some w → w.pc = .captureInitialize → m.capture = false) ∧
    (m.api.pastJoin = true → m.worker = none) ∧
    (m.worker = none → m.api = .idle → m.capture = false ∧ m.encoder = none) := by
  have owns := owns_of_reachable reached
  refine ⟨?_, ?_, (valid_of_reachable reached).joined, ?_⟩
  · intro w os present ok
    have captures := owns.capture w present
    have encodes := owns.encoder w present
    refine ⟨?_, ?_⟩
    · intro here
      have held : m.capture = true := by
        rcases captures with returned | same
        · cases here.symm.trans returned
        · rw [← same, here]
          rfl
      rw [SessionManager.work, here]
      simp only [held, ok, and_self, if_true]
    · intro here
      have present : m.encoder = some (ascii "raw") := encodes (by rw [here]; rfl)
      rw [SessionManager.work, here]
      simp only [present, ok, Option.isSome_some, and_self, if_true]
  · intro w present here
    rcases owns.capture w present with returned | same
    · cases here.symm.trans returned
    · rw [← same, here]
      rfl
  · intro none idle
    have released := owns.released none
    unfold Releases at released
    rwa [idle] at released

/-- A host that has accepted a client captures its first frame. -/
theorem resources_alive_serving :
    ∃ m, exec SessionManager.step {} (hostRun (List.replicate 13 {})) = some m ∧
      ∃ w, m.worker = some w ∧ w.pc = .capture ∧ m.work w {} = some (m.goto w .encode) := by
  refine ⟨_, rfl, _, rfl, rfl, ?_⟩
  have alive := resources_alive ⟨hostRun (List.replicate 13 {}), rfl⟩
  exact (alive.1 _ {} rfl rfl).1 rfl

end SessionManager
end Screenscrab.Session
