import Screenscrab.Bridge.Locks
import Screenscrab.Session.Manager

/-! The public functions of `SessionManager` with the locks they take, and the calls of both
classes that do not lock a mutex twice. -/
namespace Screenscrab.Engine
open Locked Locked.Call
open Session (SessionManager SessionSnapshot ApiCall)
open Bridge (BridgeCall)

section calls
-- what the worker does until it ends, for the call that joins it
variable (join : SessionManager → SessionManager)

def applyError (code : Int32) (message : String) : Call SessionManager Unit :=
  scopedLock (modify fun m => { m with guarded := m.guarded.applyError code message })

def stop : Call SessionManager Int32 := do
  modify fun m => { m with stopRequested := true }
  modify fun m => { m with transport := m.transport.disconnect }
  modify fun m => { join m with worker := none }
  modify fun m => { m with capture := false, encoder := none }
  scopedLock (modify fun m => { m with guarded := m.guarded.publishStopped })
  pure 0

/-- `start_host`, with the encoder that its `initialize` makes and the result of that. -/
def startHost (initialized : Option Bytes × Bool) (deviceName : Bytes) (port : UInt16) :
    Call SessionManager Int32 := do
  let _ ← stop join
  scopedLock do
    modify fun m =>
      { m with guarded := m.guarded.startHost deviceName port, stopRequested := false }
    modify fun m => { m with encoder := initialized.1 }
    if initialized.2 then
      modify fun m =>
        { m with
          guarded := { m.guarded with encoderName := m.encoder.getD (ascii "none") }
          worker := some { pc := .listen } }
      pure 0
    else
      applyError (-1) "encoder initialization failed"
      let m ← Call.get
      pure m.guarded.lastError

def startClient (address : Bytes) (port : UInt16) : Call SessionManager Int32 := do
  let _ ← stop join
  scopedLock do
    modify fun m =>
      { m with guarded := m.guarded.startClient address port, stopRequested := false }
    modify fun m => { m with worker := some { pc := .connect } }
    pure 0

end calls

/-- The one function that reads without the lock. -/
def lastError : Call SessionManager Int32 := do
  let m ← Call.get
  pure m.guarded.lastError

def snapshot : Call SessionManager SessionSnapshot :=
  scopedLock do
    let m ← Call.get
    pure m.snapshot

/-- `set_monitor_index` and the setters of the three flags. -/
def setting (change : Session.Guarded → Session.Guarded) : Call SessionManager Unit :=
  scopedLock (modify fun m => { m with guarded := change m.guarded })

def setMonitorIndex (monitorIndex : UInt32) : Call SessionManager Unit :=
  setting ({ · with monitorIndex })

def setInputEnabled (inputEnabled : Bool) : Call SessionManager Unit :=
  setting ({ · with inputEnabled })

def setClipboardEnabled (clipboardEnabled : Bool) : Call SessionManager Unit :=
  setting ({ · with clipboardEnabled })

def setAudioEnabled (audioEnabled : Bool) : Call SessionManager Unit :=
  setting ({ · with audioEnabled })

/-- Without a worker a start of a host does what the steps of the calling thread do. -/
theorem startHost_steps {m : SessionManager} (idle : m.api = .idle) (ended : m.worker = none)
    (deviceName : Bytes) (port : UInt16) :
    ∃ t, startHost id SessionManager.encoderInitialize deviceName port false m =
        .returned 0 t ∧
      Transition.exec SessionManager.step m
        (.call (.startHost deviceName port) :: List.replicate 7 .api) = some t := by
  obtain ⟨guarded, stopRequested, framesSent, transport, capture, encoder, worker, api⟩ := m
  cases idle
  cases ended
  exact ⟨_, rfl, rfl⟩

theorem startClient_steps {m : SessionManager} (idle : m.api = .idle) (ended : m.worker = none)
    (address : Bytes) (port : UInt16) :
    ∃ t, startClient id address port false m = .returned 0 t ∧
      Transition.exec SessionManager.step m
        (.call (.startClient address port) :: List.replicate 7 .api) = some t := by
  obtain ⟨guarded, stopRequested, framesSent, transport, capture, encoder, worker, api⟩ := m
  cases idle
  cases ended
  exact ⟨_, rfl, rfl⟩

/-- The public functions; the destructor calls `stop`. -/
inductive ManagerCall where
  | startHost (deviceName : Bytes) (port : UInt16)
  | startClient (address : Bytes) (port : UInt16)
  | stop
  | lastError
  | snapshot
  | setMonitorIndex (monitorIndex : UInt32)
  | setInputEnabled (inputEnabled : Bool)
  | setClipboardEnabled (clipboardEnabled : Bool)
  | setAudioEnabled (audioEnabled : Bool)

/-- A call of a public function, with the object, what its calls answer and, for a
`SessionManager`, what the worker does before it is joined. -/
inductive PublicCall where
  | bridge (p : Bridge.Process) (answers : Bridge.Answers) (call : BridgeCall)
  | manager (m : SessionManager) (join : SessionManager → SessionManager)
      (initialized : Option Bytes × Bool) (call : ManagerCall)

namespace ManagerCall
variable (m : SessionManager) (join : SessionManager → SessionManager)
  (initialized : Option Bytes × Bool)

def Relocks : ManagerCall → Prop
  | startHost deviceName port =>
    Engine.startHost join initialized deviceName port false m = .relocked
  | startClient address port => Engine.startClient join address port false m = .relocked
  | stop => Engine.stop join false m = .relocked
  | lastError => Engine.lastError false m = .relocked
  | snapshot => Engine.snapshot false m = .relocked
  | setMonitorIndex monitorIndex => Engine.setMonitorIndex monitorIndex false m = .relocked
  | setInputEnabled inputEnabled => Engine.setInputEnabled inputEnabled false m = .relocked
  | setClipboardEnabled clipboardEnabled =>
    Engine.setClipboardEnabled clipboardEnabled false m = .relocked
  | setAudioEnabled audioEnabled => Engine.setAudioEnabled audioEnabled false m = .relocked

/-- An encoder that cannot be initialized is what `start_host` reports under its lock. -/
def Passes : ManagerCall → Prop
  | startHost _ _ => initialized.2 = true
  | _ => True

theorem relocks_iff (call : ManagerCall) :
    call.Relocks m join initialized ↔ ¬ call.Passes initialized := by
  cases call with
  | startHost deviceName port =>
      obtain ⟨encoder, initialized⟩ := initialized
      cases initialized with
      | true => exact iff_of_false nofun (not_not.mpr rfl)
      | false => exact iff_of_true rfl nofun
  | _ => exact iff_of_false nofun (not_not.mpr trivial)

end ManagerCall

namespace PublicCall

/-- The call locks the mutex of its object while it holds it. -/
def Relocks : PublicCall → Prop
  | bridge p answers call => call.Relocks answers p
  | manager m join initialized call => call.Relocks m join initialized

def Passes : PublicCall → Prop
  | bridge p answers call => call.Passes answers p
  | manager _ _ initialized call => call.Passes initialized

/-- Exactly these calls never lock the mutex of their object twice. -/
theorem never_relocks_iff (call : PublicCall) : ¬ call.Relocks ↔ call.Passes := by
  cases call with
  | bridge p answers call => exact not_iff_comm.mp (BridgeCall.relocks_iff answers p call).symm
  | manager m join initialized call =>
      exact not_iff_comm.mp (ManagerCall.relocks_iff m join initialized call).symm

/-- A start without the DLL, a refresh in which everything succeeds and a host without an encoder
each lock twice. -/
theorem relocks_reported :
    let absent : Bridge.Answers :=
      { path := [], loads := false, exports := fun _ => false, login := 0, refresh := 0,
        connectPeer := 0, status := none }
    let working : Bridge.Answers :=
      { path := ascii "screenscrab_network.dll", loads := true, exports := fun _ => true,
        login := 0, refresh := 0, connectPeer := 1, status := some (ascii "\x7b\x7d") }
    (bridge {} absent .start).Relocks ∧ (bridge {} working .refreshRuntime).Relocks ∧
      (manager {} id (none, false) (.startHost (ascii "desk") 4545)).Relocks := by
  intro absent working
  exact ⟨rfl, rfl, rfl⟩

end PublicCall
end Screenscrab.Engine
