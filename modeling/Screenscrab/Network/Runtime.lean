import Mathlib.Algebra.Group.Nat.Defs
import Screenscrab.Network.Api
import Screenscrab.Library.Transition

/-! The state of the network runtime, bridge.go, with its exported functions and the goroutines
that read the IPN bus. A section under `state.mu` is one step; what Tailscale answers is in
the label. -/
namespace Screenscrab.Network

/-- What a goroutine reads of an `ipn.Notify`; a state by its `String()`. -/
structure Notify where
  browseToURL : Option Bytes := none
  initialStatus : Option BackendStatus := none
  state : Option Bytes := none
  deriving DecidableEq, Repr

/-- The goroutine of a watcher: in `watcher.Next()`, or about to take the lock with what it
returned. -/
inductive Goroutine where
  | next
  | locking (notify : Notify)
  deriving DecidableEq, Repr

/-- `runtimeState`. Servers, watchers and connections are numbered in the order they are made;
`servers` are those not closed. -/
structure Runtime where
  started : Bool := false
  server : Option Nat := none
  localClient : Option Nat := none
  authURL : Bytes := []
  lastError : Bytes := []
  nextID : UInt64 := 0
  conns : List (UInt64 × Nat) := []
  status : Status :=
    { state := .offline
      identity := { deviceName := ascii "Screenscrab", deviceID := ascii "pending" }
      lastError := ascii "network runtime not started" }
  watcher : Option Nat := none
  servers : List Nat := []
  newServer : Nat := 0
  newWatcher : Nat := 0
  goroutines : Nat → Option Goroutine := fun _ => none

/-- The answers to the calls of `startLocked`; an error is its text. -/
structure StartAnswers where
  start : Except Bytes Unit := .ok ()
  localClient : Except Bytes Unit := .ok ()
  watchIPNBus : Except Bytes Unit := .ok ()
  startLoginInteractive : Except Bytes Unit := .ok ()

inductive Label where
  | start (answers : StartAnswers)
  | stop
  | login (answers : StartAnswers) (status : Except Bytes BackendStatus)
  | logout
  | connectPeer (conn : Except Bytes Nat)
  | disconnect (connID : UInt64)
  | refresh (status : Except Bytes BackendStatus)
  | reconnect (status : Except Bytes BackendStatus)
  | userLog (msg : Bytes)
  | received (watcher : Nat) (notify : Notify)
  | nextFailed (watcher : Nat)
  | locked (watcher : Nat)

namespace Runtime

def refreshLocked (r : Runtime) (answer : Except Bytes BackendStatus) : Runtime :=
  if r.localClient = none then { r with status := { r.status with state := .offline } }
  else
    match answer with
    | .error err =>
      { r with lastError := err, status := { r.status with state := .error, lastError := err } }
    | .ok st => { r with status := toStatusJSON (some st) r.authURL r.lastError }

def setGoroutine (r : Runtime) (watcher : Nat) (g : Option Goroutine) : Runtime :=
  { r with goroutines := fun i => if i = watcher then g else r.goroutines i }

/-- The error, if there is one, comes second. -/
def watchIPNLocked (r : Runtime) (answer : Except Bytes Unit) : Runtime × Option Bytes :=
  if r.localClient = none ∨ r.watcher ≠ none then (r, none)
  else
    match answer with
    | .error err => (r, some err)
    | .ok _ =>
      ({ r with watcher := some r.newWatcher, newWatcher := r.newWatcher + 1 }.setGoroutine
        r.newWatcher (some .next), none)

/-- The notification a goroutine applies under the lock, when there is a local client. -/
def notified (r : Runtime) (watcher : Nat) (notify : Notify) : Runtime :=
  let authURL := match notify.browseToURL with
    | some url => if url ≠ [] then url else r.authURL
    | none => r.authURL
  let status := match notify.initialStatus, notify.state with
    | some st, _ => toStatusJSON (some st) authURL r.lastError
    | none, some state => { r.status with state }
    | none, none => r.status
  let status :=
    if status.state = .signedIn ∨ status.state = .signingIn ∨ status.state = .connected ∨
        status.state = .retrying then { status with loginURL := authURL }
    else status
  let status :=
    if status.state = .signedIn ∧ status.identity.signedIn = false ∧
        (notify.initialStatus.bind BackendStatus.self).isSome then
      { status with identity := { status.identity with signedIn := true } }
    else status
  let status :=
    if r.watcher = some watcher ∧ status.state = .signedIn then { status with lastError := [] }
    else status
  { r with authURL, status }

def closeServer (r : Runtime) (server : Nat) : Runtime :=
  { r with servers := r.servers.filter (· ≠ server) }

def startLocked (r : Runtime) (os : StartAnswers) : Runtime × Option Bytes :=
  if r.started then (r, none)
  else
    match os.start with
    | .error err => (r, some err)
    | .ok _ =>
      let srv := r.newServer
      let r := { r with servers := srv :: r.servers, newServer := srv + 1 }
      match os.localClient with
      | .error err => (r.closeServer srv, some err)
      | .ok _ =>
        let r := { r with server := some srv, localClient := some srv, started := true }
        match r.watchIPNLocked os.watchIPNBus with
        | (r, some err) =>
          ({ r.closeServer srv with server := none, localClient := none, started := false },
            some err)
        | (r, none) =>
          match os.startLoginInteractive with
          | .error err =>
            ({ r with
              lastError := err
              status := { r.status with state := .error, lastError := err } }, some err)
          | .ok _ =>
            ({ r with
              status := { r.status with
                state := .signingIn, lastError := [], loginURL := r.authURL } }, none)

def stopLocked (r : Runtime) : Runtime :=
  let r := { r with conns := [] }
  let r := match r.server with
    | some server => r.closeServer server
    | none => r
  { r with
    watcher := none
    server := none
    localClient := none
    started := false
    authURL := []
    status :=
      { state := .offline
        identity := { deviceName := ascii "Screenscrab", deviceID := ascii "pending" }
        lastError := ascii "network stopped" } }

/-- What `Network_Start` and `Network_Login` make of the error of `startLocked`. -/
def startFailed (r : Runtime) (err : Bytes) : Runtime :=
  { r with lastError := err, status := { r.status with state := .error, lastError := err } }

/-- `Network_Start`, with its result. -/
def start (r : Runtime) (os : StartAnswers) : Runtime × Int :=
  match r.startLocked os with
  | (r, some err) => (r.startFailed err, -1)
  | (r, none) => (r, 0)

def login (r : Runtime) (os : StartAnswers) (status : Except Bytes BackendStatus) : Runtime × Int :=
  match r.startLocked os with
  | (r, some err) => (r.startFailed err, -1)
  | (r, none) => (r.refreshLocked status, 0)

/-- `Network_ConnectPeer`; the result is the `C.int` of the new id. -/
def connectPeer (r : Runtime) (conn : Except Bytes Nat) : Runtime × Int :=
  if r.localClient = none then (r, -1)
  else
    match conn with
    | .error err =>
      ({ r with
        lastError := err
        status := { r.status with lastError := err, state := .error } }, -1)
    | .ok conn =>
      let id := r.nextID + 1
      ({ r with
        nextID := id
        conns := (id, conn) :: r.conns.filter (·.1 ≠ id)
        status := { r.status with state := .connected } }, (id.toNat : Int).bmod (2 ^ 32))

def disconnect (r : Runtime) (connID : UInt64) : Runtime × Int :=
  match r.conns.lookup connID with
  | none => (r, -1)
  | some _ =>
    ({ r with
      conns := r.conns.filter (·.1 ≠ connID)
      status := { r.status with state := .signedIn } }, 0)

def reconnect (r : Runtime) (status : Except Bytes BackendStatus) : Runtime × Int :=
  if r.localClient = none then (r, -1) else (r.refreshLocked status, 0)

def isInfix (needle : Bytes) : Bytes → Bool
  | [] => needle.isEmpty
  | b :: rest => needle.isPrefixOf (b :: rest) || isInfix needle rest

/-- `UserLogf` of a server, which writes without the lock. -/
def userLog (r : Runtime) (msg : Bytes) : Runtime :=
  if isInfix (ascii "auth") msg ∨ isInfix (ascii "login") msg then { r with authURL := msg } else r

def step (r : Runtime) : Label → Option Runtime
  | .start answers => some (r.start answers).1
  | .stop => some r.stopLocked
  | .login answers status => some (r.login answers status).1
  | .logout => some r.stopLocked
  | .connectPeer conn => some (r.connectPeer conn).1
  | .disconnect connID => some (r.disconnect connID).1
  | .refresh status => some (r.refreshLocked status)
  | .reconnect status => some (r.reconnect status).1
  | .userLog msg => some (r.userLog msg)
  | .received watcher notify =>
    if r.goroutines watcher = some .next then
      some (r.setGoroutine watcher (some (.locking notify)))
    else none
  | .nextFailed watcher =>
    if r.goroutines watcher = some .next then some (r.setGoroutine watcher none) else none
  | .locked watcher =>
    match r.goroutines watcher with
    | some (.locking notify) =>
      if r.localClient = none then some (r.setGoroutine watcher none)
      else some ((r.notified watcher notify).setGoroutine watcher (some .next))
    | _ => none

end Runtime
end Screenscrab.Network
