import Screenscrab.Bridge.NetworkBridge
import Screenscrab.Library.Locked

/-! The public functions of `NetworkBridge` with the lock that each of them takes, and the calls
in which one of them takes it a second time. -/
namespace Screenscrab.Bridge
open Locked Locked.Call

/-- The functions that load the networking DLL, each into static variables of its own. -/
inductive Loading where
  | refreshStatus
  | beginSignIn
  | refreshRuntime
  | connectPeer
  deriving DecidableEq, Repr

structure Loader where
  module : Bool := false
  triedLoad : Bool := false
  loadError : Bytes := []
  deriving DecidableEq, Repr

structure Process where
  bridge : NetworkBridge := {}
  loaders : Loading → Loader := fun _ => {}

/-- What the file system, the DLL loader and the DLL answer during a call. The path is empty
when there is no DLL; a status is `none` when the pointer is null. -/
structure Answers where
  path : Bytes
  loads : Bool
  exports : String → Bool
  login : Int32
  refresh : Int32
  connectPeer : Int32
  status : Option Bytes

def Process.setLoader (p : Process) (loading : Loading) (loader : Loader) : Process :=
  { p with loaders := fun i => if i = loading then loader else p.loaders i }

def loadRuntimeLibrary (answers : Answers) (loader : Loader) : Loader × Bool :=
  if answers.path = [] then
    ({ loader with loadError := ascii "embedded networking DLL not found" }, false)
  else if answers.loads then ({ loader with module := true }, true)
  else
    ({ loader with module := false, loadError := ascii "failed to load " ++ answers.path }, false)

/-- A change of the members outside any lock. -/
def change (f : NetworkBridge → NetworkBridge) : Call Process Unit :=
  modify fun p => { p with bridge := f p.bridge }

def updateError (error : Bytes) : Call Process Unit :=
  scopedLock (change (·.updateError error))

def setRuntimeState (status : NativeStatus) : Call Process Unit :=
  scopedLock (change (·.setRuntimeState status))

/-- The first use of a function's static variables; `false` when the DLL is not loaded then. -/
def loadOnce (answers : Answers) (loading : Loading) : Call Process Bool := do
  let p ← get
  if (p.loaders loading).triedLoad then pure true
  else
    let (loader, loaded) := loadRuntimeLibrary answers { p.loaders loading with triedLoad := true }
    modify fun p => p.setLoader loading loader
    if loaded then pure true
    else do
      updateError loader.loadError
      pure false

/-- The start of the functions that call into the DLL: the body runs when the function `name`
has been found, and `failed` is returned after an error. -/
def withExport {α : Type} (answers : Answers) (loading : Loading) (name : String) (failed : α)
    (body : Call Process α) : Call Process α := do
  let loaded ← loadOnce answers loading
  if loaded then
    let p ← get
    let loader := p.loaders loading
    if loader.module = false then
      updateError
        (if loader.loadError = [] then ascii "embedded networking DLL not loaded"
          else loader.loadError)
      pure failed
    else if answers.exports name = false then
      updateError (ascii (name ++ " not found"))
      pure failed
    else body
  else pure failed

def refreshStatus (answers : Answers) : Call Process Bool :=
  withExport answers .refreshStatus "Network_GetStatus" false do
    match answers.status with
    | none =>
      updateError (ascii "status buffer unavailable")
      pure false
    | some text =>
      match parseStatusJson text with
      | none => throw
      | some parsed =>
        setRuntimeState parsed
        pure true

def start (answers : Answers) : Call Process Bool :=
  scopedLock do
    let refreshed ← refreshStatus answers
    if refreshed then
      change fun bridge => { bridge with started := true }
      pure true
    else
      change fun bridge =>
        { bridge with lastErrorMessage := ascii "embedded runtime not available" }
      pure false

def stop : Call Process Unit := scopedLock (change (·.stopped))

def beginSignIn (answers : Answers) : Call Process Bool :=
  scopedLock (withExport answers .beginSignIn "Network_Login" false do
    if answers.login ≠ 0 then
      updateError (ascii "embedded sign-in request failed")
      pure false
    else refreshStatus answers)

def refreshRuntime (answers : Answers) : Call Process Bool :=
  scopedLock (withExport answers .refreshRuntime "Network_Refresh" false do
    if answers.refresh ≠ 0 then
      updateError (ascii "embedded refresh failed")
      pure false
    else refreshStatus answers)

/-- The name and the port go to the DLL, whose result is among the answers. -/
def connectPeer (answers : Answers) (_peerName : Bytes) (_port : UInt16) : Call Process Int32 :=
  scopedLock (withExport answers .connectPeer "Network_ConnectPeer" (-1) do
    if answers.connectPeer < 0 then
      updateError (ascii "peer connect request failed")
      pure answers.connectPeer
    else pure answers.connectPeer)

def completeSignIn (answers : Answers) (_code : Bytes) : Call Process Bool :=
  scopedLock do
    let refreshed ← refreshStatus answers
    if refreshed then pure true
    else
      change fun bridge => { bridge with
        lastErrorMessage := ascii "sign-in completion pending embedded Go runtime" }
      pure false

/-- The functions that only read: `identity`, `peers`, `status_json`, `last_error_message`. -/
def reading {α : Type} (read : NetworkBridge → α) : Call Process α :=
  scopedLock do
    let p ← get
    pure (read p.bridge)

def identity : Call Process TailnetIdentity := reading (·.identity)

def peers : Call Process (List TailnetPeer) := reading (·.peers)

def statusJson : Call Process Bytes := reading (·.statusJson)

def lastErrorMessage : Call Process Bytes := reading (·.lastErrorMessage)

/-! When a call locks twice -/

/-- The function has the DLL from an earlier call, or loads it with this one. -/
def Available (answers : Answers) (loader : Loader) : Prop :=
  if loader.triedLoad = true then loader.module = true
  else answers.path ≠ [] ∧ answers.loads = true

/-- The function finds what it calls in the DLL. -/
structure Found (answers : Answers) (p : Process) (loading : Loading) (name : String) : Prop where
  available : Available answers (p.loaders loading)
  exported : answers.exports name = true

/-- The first load does not fail with this call. -/
def Tried (answers : Answers) (loader : Loader) : Prop :=
  loader.triedLoad = true ∨ answers.path ≠ [] ∧ answers.loads = true

/-- The static variables after the first lines of a function, when those do not fail. -/
def Process.loaded (p : Process) (loading : Loading) : Process :=
  if (p.loaders loading).triedLoad = true then p
  else p.setLoader loading { p.loaders loading with triedLoad := true, module := true }

theorem available_iff (answers : Answers) (p : Process) (loading : Loading) :
    Available answers (p.loaders loading) ↔ Tried answers (p.loaders loading) ∧
      ((p.loaded loading).loaders loading).module = true := by
  unfold Available Tried Process.loaded
  by_cases before : (p.loaders loading).triedLoad = true
  · rw [if_pos before, if_pos before]
    exact (and_iff_right (.inl before)).symm
  · rw [if_neg before, if_neg before, or_iff_right before]
    refine (and_iff_left ?_).symm
    simp [Process.setLoader]

/-- The DLL returns a status on which the parser throws. -/
def Unreadable (answers : Answers) : Prop :=
  ∃ text, answers.status = some text ∧ parseStatusJson text = none

theorem updateError_held (error : Bytes) (p : Process) :
    updateError error true p = .relocked := scopedLock_held _ p

theorem setRuntimeState_held (status : NativeStatus) (p : Process) :
    setRuntimeState status true p = .relocked := scopedLock_held _ p

theorem failed_held {α : Type} (error : Bytes) (failed : α) (p : Process) :
    (do updateError error; pure failed : Call Process α) true p = .relocked :=
  bind_relocked (updateError_held error p)

theorem loadOnce_tried {answers : Answers} {loading : Loading} {p : Process} {held : Bool}
    (tried : Tried answers (p.loaders loading)) :
    loadOnce answers loading held p = .returned true (p.loaded loading) := by
  unfold loadOnce Process.loaded
  rw [bind_returned (get_apply held p)]
  by_cases before : (p.loaders loading).triedLoad = true
  · rw [if_pos before, if_pos before]
    rfl
  · obtain ⟨path, loads⟩ := tried.resolve_left before
    have outcome : loadRuntimeLibrary answers { p.loaders loading with triedLoad := true } =
        ({ p.loaders loading with triedLoad := true, module := true }, true) := by
      unfold loadRuntimeLibrary
      rw [if_neg path, if_pos loads]
    rw [if_neg before, if_neg before, outcome]
    rfl

theorem loadOnce_failing {answers : Answers} {loading : Loading} {p : Process} {held : Bool}
    (missing : ¬ Tried answers (p.loaders loading)) :
    ∃ loader, loadOnce answers loading held p =
      (do updateError loader.loadError; pure false : Call Process Bool) held
        (p.setLoader loading loader) := by
  obtain ⟨before, absent⟩ := not_or.mp missing
  have failed : (loadRuntimeLibrary answers { p.loaders loading with triedLoad := true }).2 =
      false := by
    unfold loadRuntimeLibrary
    split
    · rfl
    · next path =>
        rw [if_neg fun loads => absent ⟨path, loads⟩]
  unfold loadOnce
  rw [bind_returned (get_apply held p), if_neg before]
  cases outcome : loadRuntimeLibrary answers { p.loaders loading with triedLoad := true } with
  | mk loader loaded =>
      rw [outcome] at failed
      cases failed
      exact ⟨loader, bind_returned (modify_apply _ held p)⟩

theorem loadOnce_missing {answers : Answers} {loading : Loading} {p : Process}
    (missing : ¬ Tried answers (p.loaders loading)) :
    loadOnce answers loading true p = .relocked := by
  obtain ⟨loader, fails⟩ := loadOnce_failing missing
  exact fails.trans (failed_held _ _ _)

/-- Every error on the way to the DLL's function is reported under the lock that is held. -/
theorem withExport_held {α : Type} (answers : Answers) (loading : Loading) (name : String)
    (failed : α) (body : Call Process α) (p : Process) :
    withExport answers loading name failed body true p = .relocked ↔
      (Found answers p loading name → body true (p.loaded loading) = .relocked) := by
  unfold withExport
  by_cases tried : Tried answers (p.loaders loading)
  · rw [bind_returned (loadOnce_tried tried), if_pos rfl, bind_returned (get_apply true _)]
    by_cases module : ((p.loaded loading).loaders loading).module = true
    · rw [if_neg (by simp [module])]
      by_cases exported : answers.exports name = true
      · rw [if_neg (by simp [exported])]
        have available := (available_iff ..).mpr ⟨tried, module⟩
        exact ⟨fun stuck _ => stuck, fun stuck => stuck ⟨available, exported⟩⟩
      · rw [if_pos (by simpa using exported)]
        exact iff_of_true (failed_held _ _ _) fun found => absurd found.exported exported
    · rw [if_pos (by simpa using module)]
      exact iff_of_true (failed_held _ _ _) fun found =>
        absurd ((available_iff ..).mp found.available).2 module
  · rw [bind_relocked (loadOnce_missing tried)]
    exact iff_of_true rfl fun found => absurd ((available_iff ..).mp found.available).1 tried

theorem refreshStatus_held (answers : Answers) (p : Process) :
    refreshStatus answers true p = .relocked ↔
      ¬ (Found answers p .refreshStatus "Network_GetStatus" ∧ Unreadable answers) := by
  refine (withExport_held _ _ _ _ _ p).trans ?_
  rw [not_and]
  refine imp_congr_right fun _ => ?_
  unfold Unreadable
  cases status : answers.status with
  | none => exact iff_of_true (failed_held _ _ _) (by simp)
  | some text =>
      cases parsed : parseStatusJson text with
      | none =>
          refine iff_of_false (by simp [parsed]) fun readable => readable ⟨text, rfl, parsed⟩
      | some status =>
          simp only [parsed]
          refine iff_of_true (bind_relocked (setRuntimeState_held _ _)) ?_
          rintro ⟨_, same, unread⟩
          cases same
          rw [parsed] at unread
          cases unread

/-- The public functions; the destructor calls `stop`. -/
inductive BridgeCall where
  | start
  | stop
  | beginSignIn
  | refreshRuntime
  | connectPeer (peerName : Bytes) (port : UInt16)
  | completeSignIn (code : Bytes)
  | identity
  | peers
  | statusJson
  | lastErrorMessage

namespace BridgeCall

/-- The call locks the mutex while it holds it. -/
def Relocks (answers : Answers) (p : Process) : BridgeCall → Prop
  | start => Bridge.start answers false p = .relocked
  | stop => Bridge.stop false p = .relocked
  | beginSignIn => Bridge.beginSignIn answers false p = .relocked
  | refreshRuntime => Bridge.refreshRuntime answers false p = .relocked
  | connectPeer peerName port => Bridge.connectPeer answers peerName port false p = .relocked
  | completeSignIn code => Bridge.completeSignIn answers code false p = .relocked
  | identity => Bridge.identity false p = .relocked
  | peers => Bridge.peers false p = .relocked
  | statusJson => Bridge.statusJson false p = .relocked
  | lastErrorMessage => Bridge.lastErrorMessage false p = .relocked

/-- The status is fetched from the DLL and cannot be parsed. -/
def Throws (answers : Answers) (p : Process) : Prop :=
  Found answers p .refreshStatus "Network_GetStatus" ∧ Unreadable answers

/-- A call that reports no error and installs no status. -/
def Passes (answers : Answers) (p : Process) : BridgeCall → Prop
  | start | completeSignIn _ => Throws answers p
  | beginSignIn =>
    Found answers p .beginSignIn "Network_Login" ∧ answers.login = 0 ∧ Throws answers p
  | refreshRuntime =>
    Found answers p .refreshRuntime "Network_Refresh" ∧ answers.refresh = 0 ∧ Throws answers p
  | connectPeer _ _ =>
    Found answers p .connectPeer "Network_ConnectPeer" ∧ ¬ answers.connectPeer < 0
  | stop | identity | peers | statusJson | lastErrorMessage => True

/-- The static variables of another function do not matter to `refresh_status`. -/
theorem found_loaded {answers : Answers} {p : Process} {loading : Loading}
    (other : loading ≠ .refreshStatus) (name : String) :
    Found answers (p.loaded loading) .refreshStatus name ↔ Found answers p .refreshStatus name := by
  have same : (p.loaded loading).loaders .refreshStatus = p.loaders .refreshStatus := by
    unfold Process.loaded
    split
    · rfl
    · exact if_neg other.symm
  constructor
  · rintro ⟨available, exported⟩
    exact ⟨same ▸ available, exported⟩
  · rintro ⟨available, exported⟩
    exact ⟨same ▸ available, exported⟩

theorem throws_loaded {answers : Answers} {p : Process} {loading : Loading}
    (other : loading ≠ .refreshStatus) :
    Throws answers (p.loaded loading) ↔ Throws answers p :=
  and_congr_left' (found_loaded other "Network_GetStatus")

/-- A request to the DLL whose success is followed by a refresh. -/
theorem request_relocks {answers : Answers} {p : Process} {loading : Loading}
    (other : loading ≠ .refreshStatus) (name : String) (result : Int32) (error : Bytes) :
    withExport answers loading name false (if result ≠ 0 then do
        updateError error
        pure false
      else refreshStatus answers) true p = .relocked ↔
    ¬ (Found answers p loading name ∧ result = 0 ∧ Throws answers p) := by
  refine (withExport_held _ _ _ _ _ p).trans ?_
  rw [not_and]
  refine imp_congr_right fun _ => ?_
  by_cases zero : result = 0
  · rw [if_neg (not_not.mpr zero), refreshStatus_held]
    exact not_congr ((throws_loaded other).trans (and_iff_right zero).symm)
  · rw [if_pos zero]
    exact iff_of_true (failed_held _ _ _) fun both => zero both.1

theorem relocks_iff (answers : Answers) (p : Process) (call : BridgeCall) :
    call.Relocks answers p ↔ ¬ call.Passes answers p := by
  cases call with
  | start =>
      refine (bind_eq_relocked (fun refreshed t => ?_) p).trans (refreshStatus_held answers p)
      cases refreshed <;> nofun
  | completeSignIn code =>
      refine (bind_eq_relocked (fun refreshed t => ?_) p).trans (refreshStatus_held answers p)
      cases refreshed <;> nofun
  | beginSignIn => exact request_relocks (by decide) _ _ _
  | refreshRuntime => exact request_relocks (by decide) _ _ _
  | connectPeer peerName port =>
      refine (withExport_held _ _ _ _ _ p).trans ?_
      simp only [Passes, not_and, not_not]
      refine imp_congr_right fun _ => ?_
      by_cases negative : answers.connectPeer < 0
      · rw [if_pos negative]
        exact iff_of_true (failed_held _ _ _) negative
      · rw [if_neg negative]
        exact iff_of_false nofun negative
  | stop | identity | peers | statusJson | lastErrorMessage =>
      exact iff_of_false nofun (not_not.mpr trivial)

end BridgeCall
end Screenscrab.Bridge
