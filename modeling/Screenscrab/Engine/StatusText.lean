import Screenscrab.Bridge.StatusParser
import Screenscrab.Library.Json
import Screenscrab.Library.Utf8
import Screenscrab.Session.Manager

/-! The status text that api.cpp builds, and `EngineRuntimeStatus.fromJson`, which reads it. -/
namespace Screenscrab.Engine
open Session Bridge Decimal

/-- What `status_json` reads of a `NetworkBridge`. -/
structure NetworkBridge where
  identity : TailnetIdentity := {}
  peers : List TailnetPeer := []
  lastErrorMessage : Bytes := ascii "embedded networking not yet linked"

def modeName : SessionMode → Bytes
  | .host => ascii "host"
  | .client => ascii "client"
  | .stopped => ascii "stopped"

def transportName : SessionTransportState → Bytes
  | .listening => ascii "listening"
  | .connecting => ascii "connecting"
  | .connected => ascii "connected"
  | .retrying => ascii "retrying"
  | .offline => ascii "offline"

/-- `std::to_string` of an `int`. -/
def intText (n : Int) : Bytes := if n < 0 then 45 :: decimal n.natAbs else decimal n.natAbs

def boolText (b : Bool) : Bytes := if b then ascii "true" else ascii "false"

def selectedEndpoint (snapshot : SessionSnapshot) (network : NetworkBridge) : Bytes :=
  if snapshot.endpoint = [] ∧ network.identity.tailscaleIp ≠ [] then network.identity.tailscaleIp
  else snapshot.endpoint

def selectedLastErrorMessage (snapshot : SessionSnapshot) (network : NetworkBridge) : Bytes :=
  if snapshot.lastErrorMessage = [] then network.lastErrorMessage else snapshot.lastErrorMessage

/-- `status_json` of api.cpp. -/
def statusJson (snapshot : SessionSnapshot) (network : NetworkBridge) : Bytes :=
  let identity := network.identity
  let runtimeSignedIn := identity.signedIn
  let runtimePeersAvailable := !network.peers.isEmpty
  let runtimeReachable :=
    runtimeSignedIn || runtimePeersAvailable || !identity.tailscaleIp.isEmpty
  let endpoint := selectedEndpoint snapshot network
  let lastErrorMessage := selectedLastErrorMessage snapshot network
  ascii "\x7b\"apiVersion\":1,\"protocolVersion\":1,\"mode\":\"" ++ modeName snapshot.mode ++
    ascii "\",\"transportState\":\"" ++ transportName snapshot.transportState ++
    ascii "\",\"engineLoaded\":true,\"sessionActive\":" ++
    boolText (snapshot.sessionActive || runtimeSignedIn) ++
    ascii ",\"tailscaleReachable\":" ++
    boolText (snapshot.tailscaleReachable || runtimeReachable) ++
    ascii ",\"captureActive\":" ++ boolText snapshot.captureActive ++
    ascii ",\"inputEnabled\":" ++ boolText snapshot.inputEnabled ++
    ascii ",\"clipboardEnabled\":" ++ boolText snapshot.clipboardEnabled ++
    ascii ",\"audioEnabled\":" ++ boolText snapshot.audioEnabled ++
    ascii ",\"monitorIndex\":" ++ decimal snapshot.monitorIndex.toNat ++
    ascii ",\"port\":" ++ decimal snapshot.port.toNat ++
    ascii ",\"framesSent\":" ++ decimal snapshot.framesSent.toNat ++
    ascii ",\"endpoint\":\"" ++ endpoint ++ ascii "\",\"encoder\":\"" ++ snapshot.encoderName ++
    ascii "\",\"lastError\":" ++ intText snapshot.lastError.toInt ++
    ascii ",\"lastErrorMessage\":\"" ++ lastErrorMessage ++ ascii "\"\x7d"

/-- The fields of the Dart class; a Dart string as its code units. -/
structure EngineRuntimeStatus where
  apiVersion : Int64
  protocolVersion : Int64
  mode : Json.Text
  transportState : Json.Text
  engineLoaded : Bool
  sessionActive : Bool
  tailscaleReachable : Bool
  captureActive : Bool
  inputEnabled : Bool
  clipboardEnabled : Bool
  audioEnabled : Bool
  monitorIndex : Int64
  port : Int64
  framesSent : Int64
  endpoint : Json.Text
  encoder : Json.Text
  lastError : Int64
  lastErrorMessage : Json.Text
  deriving DecidableEq

/-- The code units of an ASCII text. -/
def units (text : Bytes) : Json.Text := text.map UInt8.toNat

/-- A member of the map that `jsonDecode` makes; of two with one name it has the last. -/
def get (members : List (Json.Text × Json.Value)) (name : String) : Option Json.Value :=
  members.reverse.lookup (units (ascii name))

/-- The casts `as String?` and `as bool?` with their defaults; `none` when they throw. -/
def getString (members : List (Json.Text × Json.Value)) (name default : String) :
    Option Json.Text :=
  match get members name with
  | none | some .null => some (units (ascii default))
  | some (.string text) => some text
  | _ => none

def getBool (members : List (Json.Text × Json.Value)) (name : String) : Option Bool :=
  match get members name with
  | none | some .null => some false
  | some (.bool b) => some b
  | _ => none

/-- The number of an integer literal. -/
def integerValue : Json.Text → Option Int
  | 45 :: digits =>
    if digits ≠ [] ∧ digits.all Json.isDigit then some (-(value digits : Int)) else none
  | digits => if digits ≠ [] ∧ digits.all Json.isDigit then some (value digits : Int) else none

section reader
-- what `toInt` makes of the double that a literal stands for; `none` when it throws
variable (doubleToInt : Json.Text → Option Int64)

/-- `toInt` of a decoded number, which is an `int` when it is one of 64 bits, else a double. -/
def toInt (literal : Json.Text) : Option Int64 :=
  match integerValue literal with
  | none => doubleToInt literal
  | some n =>
    if Int64.minValue.toInt ≤ n ∧ n ≤ Int64.maxValue.toInt then some (Int64.ofInt n)
    else doubleToInt literal

/-- `(json[name] as num?)?.toInt() ?? default`. -/
def getInt (members : List (Json.Text × Json.Value)) (name : String) (default : Int64) :
    Option Int64 :=
  match get members name with
  | none | some .null => some default
  | some (.number literal) => toInt doubleToInt literal
  | _ => none

def EngineRuntimeStatus.fromJson (json : List (Json.Text × Json.Value)) :
    Option EngineRuntimeStatus := do
  return {
    apiVersion := ← getInt doubleToInt json "apiVersion" 1
    protocolVersion := ← getInt doubleToInt json "protocolVersion" 1
    mode := ← getString json "mode" "stopped"
    transportState := ← getString json "transportState" "offline"
    engineLoaded := ← getBool json "engineLoaded"
    sessionActive := ← getBool json "sessionActive"
    tailscaleReachable := ← getBool json "tailscaleReachable"
    captureActive := ← getBool json "captureActive"
    inputEnabled := ← getBool json "inputEnabled"
    clipboardEnabled := ← getBool json "clipboardEnabled"
    audioEnabled := ← getBool json "audioEnabled"
    monitorIndex := ← getInt doubleToInt json "monitorIndex" 0
    port := ← getInt doubleToInt json "port" 4545
    framesSent := ← getInt doubleToInt json "framesSent" 0
    endpoint := ← getString json "endpoint" ""
    encoder := ← getString json "encoder" "none"
    lastError := ← getInt doubleToInt json "lastError" 0
    lastErrorMessage := ← getString json "lastErrorMessage" "" }

/-- `currentStatus` of engine_bridge.dart on a native text: `toDartString`, `jsonDecode`, the
cast to a map and `fromJson`. -/
def decodeStatus (text : Bytes) : Option EngineRuntimeStatus :=
  match (Utf8.decode text).bind Json.parse with
  | some (.object members) => EngineRuntimeStatus.fromJson doubleToInt members
  | _ => none

end reader

end Screenscrab.Engine
