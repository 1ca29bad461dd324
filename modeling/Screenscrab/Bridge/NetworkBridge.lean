import Screenscrab.Engine.StatusText

/-! The class `NetworkBridge` of network_bridge.cpp: its members, what its functions do with them
under the lock, and the status text that `status_json` writes. -/
namespace Screenscrab.Bridge
open Decimal
open Engine (boolText)

structure NetworkBridge where
  identity : TailnetIdentity := {}
  peers : List TailnetPeer := []
  loginUrl : Bytes := []
  runtimeState : Bytes := ascii "offline"
  lastErrorMessage : Bytes := ascii "embedded networking not yet linked"
  started : Bool := false
  deriving DecidableEq, Repr

def escapeChar (ch : UInt8) : Bytes :=
  if ch = 92 then ascii "\\\\"
  else if ch = 34 then ascii "\\\""
  else if ch = 10 then ascii "\\n"
  else if ch = 13 then ascii "\\r"
  else if ch = 9 then ascii "\\t"
  else [ch]

def escapeJsonString (value : Bytes) : Bytes := value.flatMap escapeChar

/-- `"signed_in"` or `"signed_out"`, which stand for a state that is empty. -/
def signedInText (signedIn : Bool) : Bytes :=
  if signedIn then ascii "signed_in" else ascii "signed_out"

def connectionState (runtimeState : Bytes) : Bytes :=
  if runtimeState = ascii "connected" ∨ runtimeState = ascii "signed_in" then ascii "connected"
  else if runtimeState = ascii "signing_in" ∨ runtimeState = ascii "retrying" ∨
      runtimeState = ascii "connecting" then ascii "connecting"
  else ascii "disconnected"

def writePeer (peer : TailnetPeer) : Bytes :=
  ascii "\x7b\"nodeId\":\"" ++ escapeJsonString peer.nodeId ++ ascii "\"" ++
    ascii ",\"name\":\"" ++ escapeJsonString peer.name ++ ascii "\"" ++
    ascii ",\"address\":\"" ++ escapeJsonString peer.address ++ ascii "\"" ++
    ascii ",\"platform\":\"" ++ escapeJsonString peer.platform ++ ascii "\"" ++
    ascii ",\"online\":" ++ boolText peer.online ++
    ascii ",\"latencyMs\":" ++ decimal peer.latencyMs.toNat ++
    ascii ",\"quality\":" ++ decimal peer.quality.toNat ++ ascii "\x7d"

/-- The loop over the peers from an index. -/
def writePeers : Nat → List TailnetPeer → Bytes
  | _, [] => []
  | index, peer :: peers =>
    (if index > 0 then ascii "," else []) ++ writePeer peer ++ writePeers (index + 1) peers

def writeIdentity (identity : TailnetIdentity) : Bytes :=
  ascii "\x7b\"accountEmail\":\"" ++ escapeJsonString identity.accountEmail ++ ascii "\"" ++
    ascii ",\"tailnetName\":\"" ++ escapeJsonString identity.tailnetName ++ ascii "\"" ++
    ascii ",\"deviceName\":\"" ++ escapeJsonString identity.deviceName ++ ascii "\"" ++
    ascii ",\"deviceId\":\"" ++ escapeJsonString identity.deviceId ++ ascii "\"" ++
    ascii ",\"tailscaleIp\":\"" ++ escapeJsonString identity.tailscaleIp ++ ascii "\"" ++
    ascii ",\"signedIn\":" ++ boolText identity.signedIn ++ ascii "\x7d"

namespace NetworkBridge

/-- The local `runtime_state` of `status_json`. -/
def publishedState (bridge : NetworkBridge) : Bytes :=
  if bridge.runtimeState = [] then signedInText bridge.identity.signedIn else bridge.runtimeState

def statusJson (bridge : NetworkBridge) : Bytes :=
  let runtimeState := bridge.publishedState
  ascii "\x7b\"mode\":\"" ++ signedInText bridge.identity.signedIn ++ ascii "\"" ++
    ascii ",\"state\":\"" ++ escapeJsonString runtimeState ++ ascii "\"" ++
    ascii ",\"connectionState\":\"" ++ escapeJsonString (connectionState runtimeState) ++
    ascii "\"" ++
    ascii ",\"loginUrl\":\"" ++ escapeJsonString bridge.loginUrl ++ ascii "\"" ++
    ascii ",\"identity\":" ++ writeIdentity bridge.identity ++
    ascii ",\"peers\":[" ++ writePeers 0 bridge.peers ++
    ascii "],\"lastError\":\"" ++ escapeJsonString bridge.lastErrorMessage ++ ascii "\"\x7d"

/-- `stop`, after its lock. -/
def stopped (bridge : NetworkBridge) : NetworkBridge :=
  { bridge with started := false, peers := [], identity := {}, runtimeState := ascii "offline" }

/-- `set_runtime_state`, after its lock. -/
def setRuntimeState (bridge : NetworkBridge) (status : NativeStatus) : NetworkBridge :=
  let runtimeState :=
    if status.state = [] then signedInText status.identity.signedIn else status.state
  { bridge with
    identity := status.identity
    peers := status.peers
    loginUrl := status.loginUrl
    runtimeState
    started := (Search.find (ascii "offline") runtimeState).isNone
    lastErrorMessage := if status.lastError = [] then runtimeState else status.lastError }

/-- `update_error`, after its lock. -/
def updateError (bridge : NetworkBridge) (error : Bytes) : NetworkBridge :=
  { bridge with lastErrorMessage := error, runtimeState := ascii "error", started := false }

end NetworkBridge
end Screenscrab.Bridge
