import Screenscrab.Bridge.NetworkBridge
import Screenscrab.Engine.Decoded
import Screenscrab.Library.JsonText

/-! `NetworkRuntimeStatus.fromJson`, and that it reads back what `NetworkBridge::status_json`
writes. -/
namespace Screenscrab.Bridge
open Decimal
open Engine (units get getString getBool getInt boolText Low)
open Json (Entry Spells)

structure NetworkIdentity where
  accountEmail : Json.Text
  tailnetName : Json.Text
  deviceName : Json.Text
  deviceId : Json.Text
  tailscaleIp : Json.Text
  signedIn : Bool
  deriving DecidableEq

structure NetworkPeer where
  nodeId : Json.Text
  name : Json.Text
  address : Json.Text
  platform : Json.Text
  online : Bool
  latencyMs : Int64
  quality : Int64
  deriving DecidableEq

structure NetworkRuntimeStatus where
  mode : Json.Text
  state : Json.Text
  connectionState : Json.Text
  loginUrl : Json.Text
  identity : NetworkIdentity
  peers : List NetworkPeer
  lastError : Json.Text
  deriving DecidableEq

abbrev Members := List (Json.Text × Json.Value)

/-- `as Map<String, dynamic>?` with an empty map for null, and the cast of an entry; `none`
when they throw. -/
def getMap (json : Members) (name : String) : Option Members :=
  match get json name with
  | none | some .null => some []
  | some (.object members) => some members
  | _ => none

def asMap : Json.Value → Option Members
  | .object members => some members
  | _ => none

/-- `as List<dynamic>?`, with an empty list for null. -/
def getList (json : Members) (name : String) : Option (List Json.Value) :=
  match get json name with
  | none | some .null => some []
  | some (.array elements) => some elements
  | _ => none

/-- `as String?` of a member without a default. -/
def getString? (json : Members) (name : String) : Option (Option Json.Text) :=
  match get json name with
  | none | some .null => some none
  | some (.string text) => some (some text)
  | _ => none

def NetworkIdentity.fromJson (json : Members) : Option NetworkIdentity := do
  return {
    accountEmail := ← getString json "accountEmail" ""
    tailnetName := ← getString json "tailnetName" ""
    deviceName := ← getString json "deviceName" ""
    deviceId := ← getString json "deviceId" ""
    tailscaleIp := ← getString json "tailscaleIp" ""
    signedIn := ← getBool json "signedIn" }

section reader
variable (doubleToInt : Json.Text → Option Int64)

def NetworkPeer.fromJson (json : Members) : Option NetworkPeer := do
  return {
    nodeId := ← getString json "nodeId" ""
    name := ← getString json "name" ""
    address := ← getString json "address" ""
    platform := ← getString json "platform" ""
    online := ← getBool json "online"
    latencyMs := ← getInt doubleToInt json "latencyMs" 0
    quality := ← getInt doubleToInt json "quality" 0 }

/-- The connection state that stands for a missing one. -/
def resolveConnectionState (resolvedState : Json.Text) : Json.Text :=
  if resolvedState = units (ascii "connected") ∨ resolvedState = units (ascii "signed_in") then
    units (ascii "connected")
  else if resolvedState = units (ascii "signing_in") ∨
      resolvedState = units (ascii "retrying") then units (ascii "connecting")
  else units (ascii "disconnected")

def NetworkRuntimeStatus.fromJson (json : Members) : Option NetworkRuntimeStatus := do
  let rawPeers ← getList json "peers"
  let stateValue ← getString json "state" ""
  let modeValue ← getString json "mode" "signed_out"
  let resolvedState := if stateValue = [] then modeValue else stateValue
  let connectionState ← getString? json "connectionState"
  return {
    mode := modeValue
    state := resolvedState
    connectionState := connectionState.getD (resolveConnectionState resolvedState)
    loginUrl := ← getString json "loginUrl" ""
    identity := ← NetworkIdentity.fromJson (← getMap json "identity")
    peers := ← rawPeers.mapM fun entry => (asMap entry).bind (NetworkPeer.fromJson doubleToInt)
    lastError := ← getString json "lastError" "" }

end reader
/-! Escaped strings -/

/-- A character that is no control character, or one of those that are escaped. -/
def Visible (c : Nat) : Prop := 32 ≤ c ∨ c = 9 ∨ c = 10 ∨ c = 13

instance (c : Nat) : Decidable (Visible c) := inferInstanceAs (Decidable (_ ∨ _))

/-- UTF-8 text in which the only control characters are tab, newline and carriage return. -/
def Clean (text : Bytes) : Prop :=
  ∃ decoded, Utf8.decode text = some decoded ∧ ∀ c ∈ decoded, Visible c

theorem escapeChar_low : ∀ b < 0x80, Low (escapeChar b) := by
  intro b low
  unfold escapeChar
  split_ifs
  iterate 5 decide
  exact List.forall_mem_singleton.mpr low

theorem escapeJsonString_replace (value : Bytes) :
    escapeJsonString value = Utf8.replace escapeChar value := by
  unfold escapeJsonString Utf8.replace
  congr 1
  funext b
  split
  · rfl
  · next high =>
      have other (c : UInt8) (low : c < 0x80) : b ≠ c := by
        rintro rfl
        exact high low
      unfold escapeChar
      rw [if_neg (other 92 (by decide)), if_neg (other 34 (by decide)),
        if_neg (other 10 (by decide)), if_neg (other 13 (by decide)), if_neg (other 9 (by decide))]

theorem writes_escapeChar {c : Nat} (visible : Visible c) :
    Json.Writes (Utf8.putUnit escapeChar c) c := by
  by_cases special : c = 92 ∨ c = 34 ∨ c = 10 ∨ c = 13 ∨ c = 9
  · rcases special with rfl | rfl | rfl | rfl | rfl
    · exact Json.writes_escape (by decide) (by decide)
    · exact Json.writes_escape (by decide) (by decide)
    · exact Json.writes_escape (by decide) (by decide)
    · exact Json.writes_escape (by decide) (by decide)
    · exact Json.writes_escape (by decide) (by decide)
  · have plain : c ≠ 34 ∧ c ≠ 92 ∧ 32 ≤ c := by
      unfold Visible at visible
      omega
    have same : Utf8.putUnit escapeChar c = [c] := by
      unfold Utf8.putUnit
      split
      · next low =>
          have number : (UInt8.ofNat c).toNat = c := Nat.mod_eq_of_lt (by omega)
          have other (b : UInt8) (different : c ≠ b.toNat) : UInt8.ofNat c ≠ b := by
            rintro rfl
            exact different number.symm
          rw [escapeChar, if_neg (other 92 (by simp; omega)), if_neg (other 34 (by simp; omega)),
            if_neg (other 10 (by simp; omega)), if_neg (other 13 (by simp; omega)),
            if_neg (other 9 (by simp; omega)), List.map_singleton, number]
      · rfl
    rw [same]
    exact Json.writes_self plain

theorem renders_text {text : Bytes} {decoded : Json.Text}
    (taken : Utf8.decode text = some decoded) (visible : ∀ c ∈ decoded, Visible c) :
    Json.Renders (34 :: (escapeJsonString text ++ [34])) (.string decoded) := by
  rw [escapeJsonString_replace]
  exact Json.renders_string escapeChar_low taken fun c member =>
    writes_escapeChar (visible c member)

/-! Members of the kinds that the text has -/

def textField (name : String) (text : Bytes) (decoded : Json.Text) : Json.Field :=
  ⟨ascii name, 34 :: (escapeJsonString text ++ [34]), .string decoded⟩

def boolField (name : String) (b : Bool) : Json.Field := ⟨ascii name, boolText b, .bool b⟩

def numberField (name : String) (n : Nat) : Json.Field :=
  ⟨ascii name, decimal n, .number (units (decimal n))⟩

/-- A name that needs no escapes. -/
def Simple (name : String) : Prop := Low (ascii name) ∧ Json.Unescaped (units (ascii name))

instance (name : String) : Decidable (Simple name) := inferInstanceAs (Decidable (_ ∧ _))

theorem Simple.sound {name : String} (simple : Simple name) {text : Bytes} {value : Json.Value}
    (renders : Json.Renders text value) : Json.Field.Sound ⟨ascii name, text, value⟩ := by
  obtain ⟨out, decoded, spells⟩ := renders
  exact ⟨simple.1, simple.2, out, decoded, spells.reads⟩

theorem textField_sound {name : String} (simple : Simple name) {text : Bytes}
    {decoded : Json.Text} (taken : Utf8.decode text = some decoded)
    (visible : ∀ c ∈ decoded, Visible c) : (textField name text decoded).Sound :=
  simple.sound (renders_text taken visible)

theorem boolField_sound {name : String} (simple : Simple name) (b : Bool) :
    (boolField name b).Sound := by
  refine ⟨simple.1, simple.2, _, Utf8.decode_ascii (Engine.boolText_low b), ?_⟩
  cases b
  · exact Json.reads_false
  · exact Json.reads_true

theorem numberField_sound {name : String} (simple : Simple name) (n : Nat) :
    (numberField name n).Sound :=
  ⟨simple.1, simple.2, _, Utf8.decode_ascii (Engine.decimal_low n),
    Json.reads_integer (Engine.integer_decimal n)⟩

/-! What the reader gets -/

/-- The decoded strings of an identity, and its flag. -/
structure IdentityRead (identity : TailnetIdentity) (read : NetworkIdentity) : Prop where
  accountEmail : Utf8.decode identity.accountEmail = some read.accountEmail
  tailnetName : Utf8.decode identity.tailnetName = some read.tailnetName
  deviceName : Utf8.decode identity.deviceName = some read.deviceName
  deviceId : Utf8.decode identity.deviceId = some read.deviceId
  tailscaleIp : Utf8.decode identity.tailscaleIp = some read.tailscaleIp
  signedIn : read.signedIn = identity.signedIn

structure PeerRead (peer : TailnetPeer) (read : NetworkPeer) : Prop where
  nodeId : Utf8.decode peer.nodeId = some read.nodeId
  name : Utf8.decode peer.name = some read.name
  address : Utf8.decode peer.address = some read.address
  platform : Utf8.decode peer.platform = some read.platform
  online : read.online = peer.online
  latencyMs : read.latencyMs.toInt = peer.latencyMs.toNat
  quality : read.quality.toInt = peer.quality.toNat

/-- The mode stands for a state that is empty; the connection state sums the state up. -/
structure StatusRead (bridge : NetworkBridge) (read : NetworkRuntimeStatus) : Prop where
  signedIn : read.mode = units (ascii "signed_in") ↔ bridge.identity.signedIn = true
  signedOut : read.mode = units (ascii "signed_out") ↔ bridge.identity.signedIn = false
  state : if bridge.runtimeState = [] then read.state = read.mode
    else Utf8.decode bridge.runtimeState = some read.state
  connected : read.connectionState = units (ascii "connected") ↔
    read.state ∈ [units (ascii "connected"), units (ascii "signed_in")]
  connecting : read.connectionState = units (ascii "connecting") ↔
    read.state ∈ [units (ascii "signing_in"), units (ascii "retrying"), units (ascii "connecting")]
  disconnected : read.connectionState = units (ascii "disconnected") ↔
    read.state ∉ [units (ascii "connected"), units (ascii "signed_in"), units (ascii "signing_in"),
      units (ascii "retrying"), units (ascii "connecting")]
  loginUrl : Utf8.decode bridge.loginUrl = some read.loginUrl
  identity : IdentityRead bridge.identity read.identity
  peers : List.Forall₂ PeerRead bridge.peers read.peers
  lastError : Utf8.decode bridge.lastErrorMessage = some read.lastError

structure CleanIdentity (identity : TailnetIdentity) : Prop where
  accountEmail : Clean identity.accountEmail
  tailnetName : Clean identity.tailnetName
  deviceName : Clean identity.deviceName
  deviceId : Clean identity.deviceId
  tailscaleIp : Clean identity.tailscaleIp

structure CleanPeer (peer : TailnetPeer) : Prop where
  nodeId : Clean peer.nodeId
  name : Clean peer.name
  address : Clean peer.address
  platform : Clean peer.platform

structure CleanBridge (bridge : NetworkBridge) : Prop where
  runtimeState : Clean bridge.runtimeState
  loginUrl : Clean bridge.loginUrl
  identity : CleanIdentity bridge.identity
  peers : ∀ peer ∈ bridge.peers, CleanPeer peer
  lastErrorMessage : Clean bridge.lastErrorMessage

theorem writeIdentity_read {identity : TailnetIdentity} (clean : CleanIdentity identity) :
    ∃ members read, Json.Renders (writeIdentity identity) (.object members) ∧
      NetworkIdentity.fromJson members = some read ∧ IdentityRead identity read := by
  obtain ⟨⟨account, taken₁, visible₁⟩, ⟨tailnet, taken₂, visible₂⟩, ⟨device, taken₃, visible₃⟩,
    ⟨id, taken₄, visible₄⟩, ⟨ip, taken₅, visible₅⟩⟩ := clean
  let fields : List Json.Field :=
    [textField "accountEmail" identity.accountEmail account,
      textField "tailnetName" identity.tailnetName tailnet,
      textField "deviceName" identity.deviceName device,
      textField "deviceId" identity.deviceId id,
      textField "tailscaleIp" identity.tailscaleIp ip]
  have text : writeIdentity identity =
      Json.objectBytes fields (boolField "signedIn" identity.signedIn) := by
    unfold writeIdentity
    simp only [Json.objectBytes, fields, Json.Field.bytes, textField, boolField,
      List.append_assoc, List.flatMap_cons, List.flatMap_nil, List.cons_append, List.nil_append]
    rfl
  have sound : ∀ f ∈ fields, f.Sound := by
    simp only [fields, List.forall_mem_cons]
    exact ⟨textField_sound (by decide) taken₁ visible₁,
      textField_sound (by decide) taken₂ visible₂, textField_sound (by decide) taken₃ visible₃,
      textField_sound (by decide) taken₄ visible₄, textField_sound (by decide) taken₅ visible₅,
      nofun⟩
  refine ⟨_, ⟨account, tailnet, device, id, ip, identity.signedIn⟩,
    text ▸ Json.renders_object sound (boolField_sound (by decide) identity.signedIn), rfl, ?_⟩
  exact ⟨taken₁, taken₂, taken₃, taken₄, taken₅, rfl⟩

theorem getInt_decimal {doubleToInt : Json.Text → Option Int64} {members : Members}
    {name : String} {n : UInt32}
    (found : get members name = some (.number (units (decimal n.toNat)))) :
    getInt doubleToInt members name 0 = some (Int64.ofInt n.toNat) := by
  have bound := n.toNat_lt
  exact Engine.getInt_intText found (Engine.int64_range (by omega))

theorem writePeer_read (doubleToInt : Json.Text → Option Int64) {peer : TailnetPeer}
    (clean : CleanPeer peer) :
    ∃ members read, Json.Renders (writePeer peer) (.object members) ∧
      NetworkPeer.fromJson doubleToInt members = some read ∧ PeerRead peer read := by
  obtain ⟨⟨node, taken₁, visible₁⟩, ⟨name, taken₂, visible₂⟩, ⟨address, taken₃, visible₃⟩,
    ⟨platform, taken₄, visible₄⟩⟩ := clean
  let fields : List Json.Field :=
    [textField "nodeId" peer.nodeId node, textField "name" peer.name name,
      textField "address" peer.address address, textField "platform" peer.platform platform,
      boolField "online" peer.online, numberField "latencyMs" peer.latencyMs.toNat]
  let last := numberField "quality" peer.quality.toNat
  have text : writePeer peer = Json.objectBytes fields last := by
    unfold writePeer
    simp only [Json.objectBytes, fields, last, Json.Field.bytes, textField, boolField,
      numberField, List.append_assoc, List.flatMap_cons, List.flatMap_nil, List.cons_append,
      List.nil_append]
    rfl
  have sound : ∀ f ∈ fields, f.Sound := by
    simp only [fields, List.forall_mem_cons]
    exact ⟨textField_sound (by decide) taken₁ visible₁,
      textField_sound (by decide) taken₂ visible₂, textField_sound (by decide) taken₃ visible₃,
      textField_sound (by decide) taken₄ visible₄, boolField_sound (by decide) _,
      numberField_sound (by decide) _, nofun⟩
  let members := fields.map Json.Field.member ++ [last.member]
  have latency : getInt doubleToInt members "latencyMs" 0 =
      some (Int64.ofInt peer.latencyMs.toNat) := getInt_decimal rfl
  have quality : getInt doubleToInt members "quality" 0 =
      some (Int64.ofInt peer.quality.toNat) := getInt_decimal rfl
  refine ⟨members, ⟨node, name, address, platform, peer.online, Int64.ofInt peer.latencyMs.toNat,
    Int64.ofInt peer.quality.toNat⟩,
    text ▸ Json.renders_object sound (numberField_sound (by decide) _), ?_, ?_⟩
  · unfold NetworkPeer.fromJson
    rw [latency, quality]
    rfl
  · have bound := peer.latencyMs.toNat_lt
    have bound' := peer.quality.toNat_lt
    exact ⟨taken₁, taken₂, taken₃, taken₄, rfl, Int64.toInt_ofInt_of_le (by omega) (by omega),
      Int64.toInt_ofInt_of_le (by omega) (by omega)⟩

/-- The peers after the first have a comma before them. -/
theorem writePeers_later (index : Nat) (peers : List TailnetPeer) :
    writePeers (index + 1) peers = (peers.map writePeer).flatMap (44 :: ·) := by
  induction peers generalizing index with
  | nil => rfl
  | cons peer peers ih =>
      have separator : ascii "," = [44] := rfl
      rw [writePeers, if_pos (Nat.succ_pos index), ih, List.map_cons, List.flatMap_cons, separator,
        List.singleton_append]

theorem writePeers_elements (peers : List TailnetPeer) :
    writePeers 0 peers = Json.elementsBytes (peers.map writePeer) := by
  cases peers with
  | nil => rfl
  | cons peer peers =>
      rw [writePeers, writePeers_later, if_neg (Nat.lt_irrefl 0), List.nil_append, List.map_cons,
        Json.elementsBytes]

theorem peers_read (doubleToInt : Json.Text → Option Int64) {peers : List TailnetPeer}
    (clean : ∀ peer ∈ peers, CleanPeer peer) :
    ∃ (elements : List (Bytes × Json.Value)) (reads : List NetworkPeer),
      elements.map Prod.fst = peers.map writePeer ∧
      (∀ e ∈ elements, Json.Renders e.1 e.2) ∧
      ((elements.map Prod.snd).mapM fun entry =>
        (asMap entry).bind (NetworkPeer.fromJson doubleToInt)) = some reads ∧
      List.Forall₂ PeerRead peers reads := by
  induction peers with
  | nil => exact ⟨[], [], rfl, nofun, rfl, .nil⟩
  | cons peer peers ih =>
      obtain ⟨here, clean⟩ := List.forall_mem_cons.mp clean
      obtain ⟨members, read, renders, taken, same⟩ := writePeer_read doubleToInt here
      obtain ⟨elements, reads, texts, all, later, sames⟩ := ih clean
      refine ⟨(writePeer peer, .object members) :: elements, read :: reads, ?_,
        List.forall_mem_cons.mpr ⟨renders, all⟩, ?_, .cons same sames⟩
      · rw [List.map_cons, List.map_cons, texts]
      · rw [List.map_cons, List.mapM_cons, later]
        simp only [asMap, Option.bind_some, taken]
        rfl

/-! The whole document -/

/-- ASCII text without control characters. -/
def Printable (text : Bytes) : Prop := Low text ∧ ∀ b ∈ text, 32 ≤ b

instance (text : Bytes) : Decidable (Printable text) :=
  @instDecidableAnd (Low text) _ inferInstance (List.decidableBAll (32 ≤ ·) text)

theorem Printable.visible {text : Bytes} (printable : Printable text) :
    ∀ c ∈ units text, Visible c := by
  intro c member
  obtain ⟨b, inside, rfl⟩ := List.mem_map.mp member
  exact .inl (UInt8.le_iff_toNat_le.mp (printable.2 b inside))

theorem Printable.decoded {text : Bytes} (printable : Printable text) :
    Utf8.decode text = some (units text) := Utf8.decode_ascii printable.1

theorem signedInText_printable (signedIn : Bool) : Printable (signedInText signedIn) := by
  cases signedIn <;> decide

theorem escapeJsonString_signedInText (signedIn : Bool) :
    escapeJsonString (signedInText signedIn) = signedInText signedIn := by
  cases signedIn <;> rfl

theorem connectionState_printable (runtimeState : Bytes) :
    Printable (connectionState runtimeState) := by
  unfold connectionState
  split_ifs <;> decide

/-- A decoded text is one of ASCII characters exactly when the text is. -/
theorem decode_eq_units {text literal : Bytes} {decoded : Json.Text}
    (taken : Utf8.decode text = some decoded) (printable : Printable literal) :
    decoded = units literal ↔ text = literal := by
  constructor
  · rintro rfl
    exact (Utf8.encode_decode taken).symm.trans (Utf8.encode_decode printable.decoded)
  · rintro rfl
    exact Option.some.inj (taken.symm.trans printable.decoded)

theorem signedInText_read (signedIn : Bool) :
    (units (signedInText signedIn) = units (ascii "signed_in") ↔ signedIn = true) ∧
    (units (signedInText signedIn) = units (ascii "signed_out") ↔ signedIn = false) := by
  cases signedIn <;> decide

theorem connectionState_read {runtimeState : Bytes} {state : Json.Text}
    (taken : Utf8.decode runtimeState = some state) :
    (units (connectionState runtimeState) = units (ascii "connected") ↔
      state ∈ [units (ascii "connected"), units (ascii "signed_in")]) ∧
    (units (connectionState runtimeState) = units (ascii "connecting") ↔
      state ∈ [units (ascii "signing_in"), units (ascii "retrying"), units (ascii "connecting")]) ∧
    (units (connectionState runtimeState) = units (ascii "disconnected") ↔
      state ∉ [units (ascii "connected"), units (ascii "signed_in"), units (ascii "signing_in"),
        units (ascii "retrying"), units (ascii "connecting")]) := by
  have literal {text : Bytes} (printable : Printable text) :
      state = units text ↔ runtimeState = text := decode_eq_units taken printable
  simp only [List.mem_cons, List.not_mem_nil, or_false,
    literal (show Printable (ascii "connected") by decide),
    literal (show Printable (ascii "signed_in") by decide),
    literal (show Printable (ascii "signing_in") by decide),
    literal (show Printable (ascii "retrying") by decide),
    literal (show Printable (ascii "connecting") by decide)]
  unfold connectionState
  split
  · next up =>
      rcases up with rfl | rfl <;> decide
  · next down =>
      split
      · next waits =>
          rcases waits with rfl | rfl | rfl <;> decide
      · next idle =>
          refine ⟨iff_of_false (by decide) down, iff_of_false (by decide) idle,
            iff_of_true rfl ?_⟩
          rw [← or_assoc]
          exact fun either => either.elim down idle

theorem decode_ne_nil {text : Bytes} {decoded : Json.Text}
    (taken : Utf8.decode text = some decoded) (some_ : text ≠ []) : decoded ≠ [] := by
  rintro rfl
  exact some_ (Utf8.encode_decode taken).symm

namespace NetworkBridge

theorem publishedState_clean {bridge : NetworkBridge} (clean : Clean bridge.runtimeState) :
    Clean bridge.publishedState := by
  unfold publishedState
  split
  · have printable := signedInText_printable bridge.identity.signedIn
    exact ⟨_, printable.decoded, printable.visible⟩
  · exact clean

theorem publishedState_read {bridge : NetworkBridge} {state : Json.Text}
    (taken : Utf8.decode bridge.publishedState = some state) :
    if bridge.runtimeState = [] then state = units (signedInText bridge.identity.signedIn)
    else Utf8.decode bridge.runtimeState = some state := by
  unfold publishedState at taken
  split
  · next empty =>
      rw [if_pos empty, (signedInText_printable bridge.identity.signedIn).decoded] at taken
      exact (Option.some.inj taken).symm
  · next given =>
      rw [if_neg given] at taken
      exact taken

theorem publishedState_ne_nil (bridge : NetworkBridge) : bridge.publishedState ≠ [] := by
  unfold publishedState
  split
  · cases bridge.identity.signedIn <;> decide
  · next some_ => exact some_

/-- The members before the last one, with the values that they are read as. -/
def statusFields (bridge : NetworkBridge) (state login : Json.Text) (identity : Members)
    (peers : List (Bytes × Json.Value)) : List Json.Field :=
  [textField "mode" (signedInText bridge.identity.signedIn)
      (units (signedInText bridge.identity.signedIn)),
    textField "state" bridge.publishedState state,
    textField "connectionState" (connectionState bridge.publishedState)
      (units (connectionState bridge.publishedState)),
    textField "loginUrl" bridge.loginUrl login,
    ⟨ascii "identity", writeIdentity bridge.identity, .object identity⟩,
    ⟨ascii "peers", 91 :: (Json.elementsBytes (peers.map Prod.fst) ++ [93]),
      .array (peers.map Prod.snd)⟩]

theorem statusJson_fields (bridge : NetworkBridge) (state login error : Json.Text)
    (identity : Members) {peers : List (Bytes × Json.Value)}
    (texts : peers.map Prod.fst = bridge.peers.map writePeer) :
    bridge.statusJson = Json.objectBytes (bridge.statusFields state login identity peers)
      (textField "lastError" bridge.lastErrorMessage error) := by
  unfold statusJson
  simp only [Json.objectBytes, statusFields, Json.Field.bytes, textField,
    escapeJsonString_signedInText, writePeers_elements, texts, List.append_assoc,
    List.flatMap_cons, List.flatMap_nil, List.cons_append, List.nil_append]
  -- what is written between the keys does not matter
  generalize signedInText bridge.identity.signedIn = mode
  generalize escapeJsonString bridge.publishedState = state
  generalize escapeJsonString (connectionState bridge.publishedState) = connection
  generalize escapeJsonString bridge.loginUrl = login
  generalize writeIdentity bridge.identity = identity
  generalize Json.elementsBytes (bridge.peers.map writePeer) = peers
  rfl

/-- The status text is a JSON object, and `fromJson` of what it is decoded to gives back what
the bridge has. -/
theorem statusJson_read (doubleToInt : Json.Text → Option Int64) {bridge : NetworkBridge}
    (clean : CleanBridge bridge) :
    ∃ members read,
      (Utf8.decode bridge.statusJson).bind Json.parse = some (.object members) ∧
      NetworkRuntimeStatus.fromJson doubleToInt members = some read ∧ StatusRead bridge read := by
  obtain ⟨state, taken₁, visible₁⟩ := publishedState_clean clean.runtimeState
  obtain ⟨login, taken₂, visible₂⟩ := clean.loginUrl
  obtain ⟨error, taken₃, visible₃⟩ := clean.lastErrorMessage
  have mode := signedInText_printable bridge.identity.signedIn
  have connection := connectionState_printable bridge.publishedState
  obtain ⟨inner, identity, renders, taken, same⟩ := writeIdentity_read clean.identity
  obtain ⟨elements, reads, texts, all, later, sames⟩ := peers_read doubleToInt clean.peers
  let fields := bridge.statusFields state login inner elements
  let last := textField "lastError" bridge.lastErrorMessage error
  have sound : ∀ f ∈ fields, f.Sound := by
    simp only [fields, statusFields, List.forall_mem_cons]
    exact ⟨textField_sound (by decide) mode.decoded mode.visible,
      textField_sound (by decide) taken₁ visible₁,
      textField_sound (by decide) connection.decoded connection.visible,
      textField_sound (by decide) taken₂ visible₂, Simple.sound (by decide) renders,
      Simple.sound (by decide) (Json.renders_array all), List.forall_mem_nil _⟩
  have ending : last.Sound := textField_sound (by decide) taken₃ visible₃
  obtain ⟨out, decoded, spells⟩ := Json.renders_object sound ending
  let members := fields.map Json.Field.member ++ [last.member]
  have peers : getList members "peers" = some (elements.map Prod.snd) := rfl
  have identity' : getMap members "identity" = some inner := rfl
  have state' : getString members "state" "" = some state := rfl
  refine ⟨members, ⟨units (signedInText bridge.identity.signedIn), state,
    units (connectionState bridge.publishedState), login, identity, reads, error⟩, ?_, ?_, ?_⟩
  · rw [bridge.statusJson_fields state login error inner texts, decoded, Option.bind_some]
    exact spells.parse
  · have kept := decode_ne_nil taken₁ bridge.publishedState_ne_nil
    unfold NetworkRuntimeStatus.fromJson
    simp only [peers, state', identity', taken, later, if_neg kept, Option.bind_eq_bind,
      Option.bind_some, Option.pure_def]
    rfl
  · obtain ⟨signedIn, signedOut⟩ := signedInText_read bridge.identity.signedIn
    obtain ⟨connected, connecting, disconnected⟩ := connectionState_read taken₁
    exact ⟨signedIn, signedOut, publishedState_read taken₁, connected, connecting, disconnected,
      taken₂, same, sames, taken₃⟩

/-- A bridge whose login URL, error and peers need all the escapes. -/
theorem statusJson_read_escaped :
    let peer : TailnetPeer := ⟨ascii "n1", ascii "a\\", ascii "\\\"", ascii "os", true, 21, 7⟩
    let bridge : NetworkBridge :=
      { loginUrl := ascii "https://\t\"x\"", runtimeState := [], peers := [peer, peer],
        lastErrorMessage := ascii "failed to load C:\\\r\n", identity := { signedIn := true } }
    ∃ members read,
      (Utf8.decode bridge.statusJson).bind Json.parse = some (.object members) ∧
      NetworkRuntimeStatus.fromJson (fun _ => none) members = some read ∧
      StatusRead bridge read ∧ read.mode = units (ascii "signed_in") ∧ read.state = read.mode ∧
      read.connectionState = units (ascii "connected") ∧ read.identity.signedIn = true ∧
      read.loginUrl = units (ascii "https://\t\"x\"") ∧ read.peers.length = 2 := by
  intro peer bridge
  have empty : Clean [] := ⟨[], rfl, nofun⟩
  have clean : CleanPeer peer :=
    ⟨⟨_, rfl, by decide⟩, ⟨_, rfl, by decide⟩, ⟨_, rfl, by decide⟩, ⟨_, rfl, by decide⟩⟩
  have whole : CleanBridge bridge :=
    ⟨empty, ⟨_, rfl, by decide⟩, ⟨empty, empty, empty, empty, empty⟩,
      List.forall_mem_cons.mpr ⟨clean, List.forall_mem_singleton.mpr clean⟩, ⟨_, rfl, by decide⟩⟩
  obtain ⟨members, read, parsed, taken, same⟩ := statusJson_read (fun _ => none) whole
  have mode := same.signedIn.mpr rfl
  have state : read.state = read.mode := same.state
  refine ⟨members, read, parsed, taken, same, mode, state, same.connected.mpr ?_,
    same.identity.signedIn, Option.some.inj same.loginUrl.symm, same.peers.length_eq.symm⟩
  rw [state, mode]
  exact List.mem_cons_of_mem _ (List.mem_singleton.mpr rfl)

end NetworkBridge
end Screenscrab.Bridge
