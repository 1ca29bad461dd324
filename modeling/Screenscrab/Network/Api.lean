import Screenscrab.Wire.Protocol

/-! The status types of the Go package api, and `toStatusJSON` of the runtime. A Go string is a
byte string, and what Tailscale formats as text is that text. -/
namespace Screenscrab.Network

/-- `api.State` is a string type, and the runtime converts other strings to it. -/
abbrev State := Bytes

namespace State

def offline : State := ascii "offline"
def signedOut : State := ascii "signed_out"
def signingIn : State := ascii "signing_in"
def signedIn : State := ascii "signed_in"
def connected : State := ascii "connected"
def retrying : State := ascii "retrying"
def error : State := ascii "error"

end State

structure Identity where
  accountEmail : Bytes := []
  tailnetName : Bytes := []
  deviceName : Bytes := []
  deviceID : Bytes := []
  tailscaleIP : Bytes := []
  signedIn : Bool := false
  deriving DecidableEq, Repr

structure Peer where
  nodeID : Bytes
  name : Bytes
  address : Bytes
  platform : Bytes
  online : Bool
  latencyMS : UInt32
  quality : UInt32
  deriving DecidableEq, Repr

structure Status where
  state : State
  identity : Identity := {}
  peers : List Peer := []
  lastError : Bytes := []
  loginURL : Bytes := []
  peerCount : Nat := 0
  reconnectable : Bool := true
  deriving DecidableEq, Repr

/-- What the runtime reads of an `ipnstate.PeerStatus`. The handshake is `none` when it is the
zero time and else the milliseconds since it. -/
structure PeerStatus where
  nodeID : Bytes
  userID : Int
  dnsName : Bytes
  os : Bytes
  tailscaleIPs : List Bytes
  online : Bool
  sinceHandshake : Option Int64
  rxBytes : Int64
  txBytes : Int64
  deriving DecidableEq, Repr

/-- What it reads of an `ipnstate.Status`; the peers in the order a `range` visits them. -/
structure BackendStatus where
  backendState : Bytes
  self : Option PeerStatus
  currentTailnet : Option Bytes
  user : List (Int × Bytes)
  peer : List PeerStatus
  deriving DecidableEq, Repr

def firstIP (ips : List Bytes) : Bytes := ips.headD []

/-- A conversion of an `int64` to `uint32`. -/
def toUint32 (n : Int64) : UInt32 := n.toUInt64.toUInt32

def latencyMS (peer : PeerStatus) : UInt32 :=
  match peer.sinceHandshake with
  | none => 0
  | some elapsed =>
    let latency := toUint32 elapsed
    if latency.toNat > 0xFFFFFFFF then 0xFFFFFFFF else latency

def toPeer (peer : PeerStatus) : Peer where
  nodeID := peer.nodeID
  name := peer.dnsName
  address := firstIP peer.tailscaleIPs
  platform := peer.os
  online := peer.online
  latencyMS := latencyMS peer
  quality := toUint32 (peer.rxBytes + peer.txBytes)

def backendState (text : Bytes) : State :=
  if text = ascii "NeedsLogin" ∨ text = ascii "NeedsMachineAuth" then .signingIn
  else if text = ascii "Starting" then .retrying
  else if text = ascii "Stopped" ∨ text = ascii "NoState" then .offline
  else .signedIn

def selfIdentity (st : BackendStatus) : Identity :=
  let identity : Identity := match st.self with
    | none => {}
    | some self =>
      { deviceName := self.dnsName, deviceID := self.nodeID,
        tailscaleIP := firstIP self.tailscaleIPs,
        signedIn := st.backendState = ascii "Running" }
  let identity := match st.currentTailnet with
    | none => identity
    | some name => { identity with tailnetName := name }
  match st.self.bind fun self => st.user.lookup self.userID with
  | none => identity
  | some loginName => { identity with accountEmail := loginName }

def toStatusJSON (st : Option BackendStatus) (authURL lastError : Bytes) : Status :=
  match st with
  | none => { state := .offline, lastError, loginURL := authURL }
  | some st =>
    { state := backendState st.backendState
      identity := selfIdentity st
      peers := st.peer.map toPeer
      lastError
      loginURL := authURL
      peerCount := st.peer.length }

end Screenscrab.Network
