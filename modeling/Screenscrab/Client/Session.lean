import Screenscrab.Wire.Packet

/-! `RemoteSessionClient` of the Android client: connecting, disconnecting and the way from
chunks of a socket to handled packets. An `async` body runs up to its first `await` before
its caller goes on; what follows an `await` is a function of its own. -/
namespace Screenscrab.Client
open Dart
open LittleEndian (word)

inductive ConnectionStateValue where
  | disconnected
  | connecting
  | connected
  | reconnecting
  | error
  deriving DecidableEq, Repr

structure RemoteFrameMetadata where
  monitorIndex : Nat
  width : Nat
  height : Nat
  strideBytes : Nat
  frameId : Int
  deriving DecidableEq, Repr

/-- `none` is the `RangeError` of a payload that is too short. -/
def RemoteFrameMetadata.fromBytes (bytes : Bytes) : Option RemoteFrameMetadata := do
  let monitorIndex ← getUint bytes 0 4
  let width ← getUint bytes 4 4
  let height ← getUint bytes 8 4
  let strideBytes ← getUint bytes 12 4
  let frameId ← getUint bytes 16 8
  return { monitorIndex, width, height, strideBytes, frameId := signed64 frameId }

structure SessionCapabilities where
  video : Bool
  audio : Bool
  clipboard : Bool
  input : Bool
  fileTransfer : Bool
  multiMonitor : Bool
  lockedScreen : Bool
  deriving DecidableEq

def SessionCapabilities.toBitmask (c : SessionCapabilities) : Nat :=
  let mask := if c.video then 1 <<< 0 else 0
  let mask := if c.audio then mask ||| 1 <<< 1 else mask
  let mask := if c.clipboard then mask ||| 1 <<< 2 else mask
  let mask := if c.input then mask ||| 1 <<< 3 else mask
  let mask := if c.fileTransfer then mask ||| 1 <<< 4 else mask
  let mask := if c.multiMonitor then mask ||| 1 <<< 5 else mask
  if c.lockedScreen then mask ||| 1 <<< 6 else mask

def SessionCodec.hello (apiVersion protocolVersion : Int) (capabilities : SessionCapabilities)
    (now : DateTime) : WirePacket :=
  let payload := setUint (List.replicate 12 0) 0 4 apiVersion
  let payload := setUint payload 4 4 protocolVersion
  { type := .hello, payload := setUint payload 8 4 capabilities.toBitmask, timestampUtc := now }

def SessionCodec.capabilities (host client : SessionCapabilities) (now : DateTime) : WirePacket :=
  let payload := setUint (List.replicate 8 0) 0 4 host.toBitmask
  { type := .capabilities, payload := setUint payload 4 4 client.toBitmask, timestampUtc := now }

/-- `SessionCodec.ping`, and `pong` as its copy with the other type. -/
def SessionCodec.ping (nonce : Int) (now : DateTime) : WirePacket :=
  { type := .ping, payload := setUint (List.replicate 8 0) 0 8 nonce, timestampUtc := now }

def SessionCodec.pong (nonce : Int) (now : DateTime) : WirePacket :=
  { SessionCodec.ping nonce now with type := .pong }

/-- What the client does that others can see, and the packets it hands to `_handlePacket`. -/
inductive Action where
  | handled (packet : WirePacket)
  | status (message : String)
  | error (message : String)
  | state (value : ConnectionStateValue)
  | renderFrame (frameBytes : Bytes) (width height strideBytes : Nat)
  | add (bytes : Bytes)
  deriving DecidableEq

/-- The fields of the client, and the sockets of the process: those that are open and
those whose subscription has not been cancelled. -/
structure RemoteSessionClient where
  socket : Option Nat := none
  subscription : Option Nat := none
  buffer : Bytes := []
  pendingMetadata : Option RemoteFrameMetadata := none
  framesReceived : Nat := 0
  opened : List Nat := []
  listening : List Nat := []
  trace : List Action := []

namespace RemoteSessionClient

def act (c : RemoteSessionClient) (action : Action) : RemoteSessionClient :=
  { c with trace := c.trace ++ [action] }

/-- `disconnect` up to its `await`: the subscription delivers nothing after `cancel()`. -/
def beginDisconnect (c : RemoteSessionClient) : RemoteSessionClient :=
  { c with
    pendingMetadata := none
    buffer := []
    listening := c.listening.filter fun s => some s ≠ c.subscription }

/-- The rest of `disconnect`, when the subscription is cancelled. -/
def endDisconnect (c : RemoteSessionClient) : RemoteSessionClient :=
  { c with
    subscription := none
    opened := c.opened.filter fun s => some s ≠ c.socket
    socket := none }.act (.state .disconnected)

/-- What `connect` does after its own `disconnect` and before it awaits `Socket.connect`. -/
def dial (host : String) (port : Nat) (c : RemoteSessionClient) : RemoteSessionClient :=
  (c.act (.state .connecting)).act (.status ("Connecting to " ++ host ++ ":" ++ toString port))

def sendInitialHandshake (clock : Nat → DateTime) (c : RemoteSessionClient) : RemoteSessionClient :=
  if c.socket = none then c
  else
    let capabilities : SessionCapabilities :=
      { video := true, audio := true, clipboard := true, input := true, fileTransfer := true,
        multiMonitor := true, lockedScreen := true }
    let c := c.act (.add (SessionCodec.hello 1 1 capabilities (clock c.trace.length)).encode)
    c.act (.add (SessionCodec.capabilities capabilities capabilities (clock c.trace.length)).encode)

/-- The rest of `connect`, when the socket `s` has been connected. -/
def install (clock : Nat → DateTime) (host : String) (port s : Nat) (c : RemoteSessionClient) :
    RemoteSessionClient :=
  let c := { c with socket := some s, subscription := some s,
                    opened := s :: c.opened, listening := s :: c.listening }
  ((c.sendInitialHandshake clock).act (.state .connected)).act
    (.status ("Connected to " ++ host ++ ":" ++ toString port))

/-- The rest of `connect` up to the `await` in its handler, when no socket was connected. -/
def connectFailed (error : String) (c : RemoteSessionClient) : RemoteSessionClient :=
  ((c.act (.state .error)).act (.error ("Connect failed: " ++ error))).beginDisconnect

/-- A `connect` during whose awaits nothing else happens. -/
def connect (clock : Nat → DateTime) (host : String) (port s : Nat) (c : RemoteSessionClient) :
    RemoteSessionClient :=
  ((c.beginDisconnect.endDisconnect).dial host port).install clock host port s

/-- `_handlePacket` up to its first `await`. An error thrown in it ends the future it
returns, which nobody awaits. -/
def handlePacket (clock : Nat → DateTime) (c : RemoteSessionClient) (packet : WirePacket) :
    RemoteSessionClient :=
  let c := c.act (.handled packet)
  match packet.type with
  | .hello => c.act (.status "Host hello received")
  | .capabilities => c.act (.status "Capabilities negotiated")
  | .frameMetadata =>
    match RemoteFrameMetadata.fromBytes packet.payload with
    | none => c
    | some metadata => { c with pendingMetadata := some metadata }
  | .videoFrame =>
    match c.pendingMetadata with
    | none => c
    | some metadata =>
      c.act (.renderFrame packet.payload metadata.width metadata.height metadata.strideBytes)
  | .ping =>
    if packet.payload.length ≥ 8 ∧ c.socket ≠ none then
      let nonce := signed64 (word packet.payload 0 8)
      c.act (.add (SessionCodec.pong nonce (clock c.trace.length)).encode)
    else c
  | .clipboardSync => c.act (.status "Clipboard sync received")
  | .disconnect => (c.act (.status "Disconnected by host")).beginDisconnect
  | _ => c

/-- The rest of `_handlePacket` for a frame, when `renderFrame` has answered. -/
def rendered (c : RemoteSessionClient) (ok : Bool) : RemoteSessionClient :=
  if ok then { c with framesReceived := c.framesReceived + 1 } else c

theorem handlePacket_buffer (clock : Nat → DateTime) (c : RemoteSessionClient)
    (packet : WirePacket) : (handlePacket clock c packet).buffer =
      if packet.type = .disconnect then [] else c.buffer := by
  unfold handlePacket
  cases packet.type with
  | frameMetadata =>
      dsimp only
      cases RemoteFrameMetadata.fromBytes packet.payload <;> rfl
  | videoFrame =>
      dsimp only
      cases (c.act (.handled packet)).pendingMetadata <;> rfl
  | ping => dsimp only; split <;> rfl
  | _ => rfl

theorem handlePacket_buffer_le (clock : Nat → DateTime) (c : RemoteSessionClient)
    (packet : WirePacket) : (handlePacket clock c packet).buffer.length ≤ c.buffer.length := by
  rw [handlePacket_buffer]
  split
  · exact Nat.zero_le _
  · exact le_rfl

theorem totalLength_ge {bytes : Bytes} {n : Nat} (total : WirePacket.totalLength bytes = .ok n) :
    24 ≤ n := by
  unfold WirePacket.totalLength at total
  split at total
  · cases total
  · split at total
    · cases total
    · split at total
      · cases total
      · cases total
        exact Nat.le_add_right 24 _

/-- The loop of `_onData`; the error, if any, is the one that leaves it. -/
def drain (clock : Nat → DateTime) (c : RemoteSessionClient) :
    RemoteSessionClient × Option WireError :=
  if c.buffer.length < 24 then (c, none)
  else
    match _total : WirePacket.totalLength c.buffer with
    | .error e => ({ c.act (.error ("Wire decode error: " ++ e.text)) with buffer := [] }, none)
    | .ok packetLength =>
      if c.buffer.length < packetLength then (c, none)
      else
        let packetBytes := c.buffer.take packetLength
        let rest := { c with buffer := c.buffer.drop packetLength }
        match WirePacket.decode packetBytes with
        | .error e => (rest, some e)
        | .ok packet => drain clock (handlePacket clock rest packet)
termination_by c.buffer.length
decreasing_by
  have size := totalLength_ge _total
  have shorter :=
    handlePacket_buffer_le clock { c with buffer := c.buffer.drop packetLength } packet
  simp only [List.length_drop] at shorter
  omega

def onData (clock : Nat → DateTime) (c : RemoteSessionClient) (chunk : Bytes) :
    RemoteSessionClient × Option WireError :=
  drain clock { c with buffer := c.buffer ++ chunk }

/-- A data event of a socket, which only reaches `_onData` while its subscription lives. -/
def deliver (clock : Nat → DateTime) (s : Nat) (c : RemoteSessionClient) (chunk : Bytes) :
    RemoteSessionClient :=
  if s ∈ c.opened ∧ s ∈ c.listening then (c.onData clock chunk).1 else c

/-- `_onSocketError`. The subscription has been made with `cancelOnError`, so that it has ended. -/
def onSocketError (s : Nat) (error : String) (c : RemoteSessionClient) : RemoteSessionClient :=
  ({ c with listening := c.listening.filter (· ≠ s) }.act (.state .error)).act
    (.error ("Socket error: " ++ error))

/-- What reaches the client while it holds a connection: a data event of its socket, or the
answer to an earlier `renderFrame`. -/
inductive Arrival where
  | chunk (bytes : Bytes)
  | rendered (ok : Bool)
  deriving DecidableEq

def Arrival.bytes : Arrival → Bytes
  | .chunk bytes => bytes
  | .rendered _ => []

def arrive (clock : Nat → DateTime) (s : Nat) (c : RemoteSessionClient) :
    Arrival → RemoteSessionClient
  | .chunk bytes => deliver clock s c bytes
  | .rendered ok => c.rendered ok

/-- The packets handed to `_handlePacket` so far. -/
def handled (c : RemoteSessionClient) : List WirePacket :=
  c.trace.filterMap fun
    | .handled packet => some packet
    | _ => none

end RemoteSessionClient
end Screenscrab.Client
