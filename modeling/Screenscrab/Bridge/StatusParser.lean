import Mathlib.Data.List.DropRight
import Screenscrab.Network.StatusJson

/-! The parser of network_bridge.cpp for the status text of the Go runtime. -/
namespace Screenscrab.Bridge
open Search Decimal
open Network (quoteByte openBrace closeBrace comma jsonMarks)

structure TailnetPeer where
  nodeId : Bytes
  name : Bytes
  address : Bytes
  platform : Bytes
  online : Bool := false
  latencyMs : UInt32 := 0
  quality : UInt32 := 0
  deriving DecidableEq, Repr

structure TailnetIdentity where
  accountEmail : Bytes := []
  tailnetName : Bytes := []
  deviceName : Bytes := []
  deviceId : Bytes := []
  tailscaleIp : Bytes := []
  signedIn : Bool := false
  deriving DecidableEq, Repr

structure NativeStatus where
  state : Bytes
  lastError : Bytes
  loginUrl : Bytes
  json : Bytes
  identity : TailnetIdentity
  peers : List TailnetPeer
  deriving DecidableEq, Repr

/-- `std::isspace` in the "C" locale. -/
def isSpace (ch : UInt8) : Bool := ch = 32 || 9 ≤ ch && ch ≤ 13

def trimCopy (value : Bytes) : Bytes := (value.dropWhile isSpace).rdropWhile isSpace

def readString (text : Bytes) : Bytes := trimCopy text

def substr (text : Bytes) (start count : Nat) : Bytes := (text.drop start).take count

def extractJsonString (json : Bytes) (key : String) : Bytes :=
  let needle := needle jsonMarks (ascii key)
  match find needle json with
  | none => []
  | some start =>
    match findFrom (· = quoteByte) json (start + needle.length) with
    | none => []
    | some valueStart =>
      match findFrom (· = quoteByte) json (valueStart + 1) with
      | none => []
      | some valueEnd => substr json (valueStart + 1) (valueEnd - valueStart - 1)

def extractJsonBool (json : Bytes) (key : String) : Bytes :=
  let needle := needle jsonMarks (ascii key)
  match find needle json with
  | none => []
  | some start =>
    let first := start + needle.length
    match findFrom (· ∈ ascii ",\x7d]") json first with
    | none => []
    | some last => substr json first (last - first)

/-- `std::stoul` with the 32-bit `unsigned long` of Windows; `none` when it throws. -/
def stoul (text : Bytes) : Option UInt32 :=
  let text := text.dropWhile isSpace
  let negative := text.head? = some 45
  let text := if negative ∨ text.head? = some 43 then text.tail else text
  let digits := text.takeWhile fun c => decide (IsDigit c)
  let value := value (digits.map UInt8.toNat)
  if digits = [] ∨ 2 ^ 32 ≤ value then none
  else
    let number := UInt32.ofNat value
    some (if negative then 0 - number else number)

/-- A number that is read as a string, `0` when that is empty. -/
def readNumber (text : Bytes) : Option UInt32 := if text = [] then some 0 else stoul text

def parseIdentity (identityStr : Bytes) : TailnetIdentity where
  accountEmail := readString (extractJsonString identityStr "accountEmail")
  tailnetName := readString (extractJsonString identityStr "tailnetName")
  deviceName := readString (extractJsonString identityStr "deviceName")
  deviceId := readString (extractJsonString identityStr "deviceId")
  tailscaleIp := readString (extractJsonString identityStr "tailscaleIp")
  signedIn := extractJsonBool identityStr "signedIn" = ascii "true"

/-- The body of the loop over the peers; `none` when a number throws. -/
def parsePeer (peerJson : Bytes) : Option TailnetPeer :=
  match readNumber (extractJsonString peerJson "latencyMs") with
  | none => none
  | some latencyMs =>
    match readNumber (extractJsonString peerJson "quality") with
    | none => none
    | some quality =>
      some
        { nodeId := readString (extractJsonString peerJson "nodeId")
          name := readString (extractJsonString peerJson "name")
          address := readString (extractJsonString peerJson "address")
          platform := readString (extractJsonString peerJson "platform")
          online := extractJsonBool peerJson "online" = ascii "true"
          latencyMs, quality }

theorem findFrom_ge {accept : UInt8 → Bool} {text : Bytes} {start position : Nat}
    (found : findFrom accept text start = some position) : start ≤ position := by
  obtain ⟨offset, -, rfl⟩ := Option.map_eq_some_iff.mp found
  exact Nat.le_add_left start offset

/-- The loop over the peers from a cursor, with the peers it has pushed. -/
def parsePeers (body : Bytes) (cursor : Nat) (peers : List TailnetPeer) :
    Option (List TailnetPeer) :=
  if _inside : cursor < body.length then
    match _start : findFrom (· = openBrace) body cursor with
    | none => some peers
    | some objectStart =>
      match _stop : findFrom (· = closeBrace) body objectStart with
      | none => some peers
      | some objectEnd =>
        match parsePeer (substr body objectStart (objectEnd - objectStart + 1)) with
        | none => none
        | some peer => parsePeers body (objectEnd + 1) (peers ++ [peer])
  else some peers
termination_by body.length - cursor
decreasing_by
  have first := findFrom_ge _start
  have second := findFrom_ge _stop
  omega

/-- `parse_status_json` on a fresh status; `none` when it throws. It never returns false. -/
def parseStatusJson (statusJson : Bytes) : Option NativeStatus :=
  let identity : TailnetIdentity :=
    match find (needle jsonMarks (ascii "identity") ++ ascii "\x7b") statusJson with
    | none => {}
    | some identityJson => parseIdentity (statusJson.drop (identityJson + 11))
  let peers :=
    match find (needle jsonMarks (ascii "peers") ++ ascii "[") statusJson with
    | none => some []
    | some peersStart => parsePeers (statusJson.drop (peersStart + 8)) 0 []
  peers.map fun peers =>
    { state := readString (extractJsonString statusJson "state")
      lastError := readString (extractJsonString statusJson "lastError")
      loginUrl := readString (extractJsonString statusJson "loginUrl")
      json := statusJson
      identity, peers }

end Screenscrab.Bridge
