import Screenscrab.Engine.StatusText
import Screenscrab.Session.Status

/-! When the engine's status text is decoded to what the engine put into it. -/
namespace Screenscrab.Engine
open Session Bridge Decimal Transition
open Json (Unescaped Entry)

/-- UTF-8 text without a quote, a backslash or a control character. -/
def Plain (text : Bytes) : Prop := ∃ decoded, Utf8.decode text = some decoded ∧ Unescaped decoded

/-- What the decoded status has to have from the snapshot and the bridge. -/
structure GivesBack (status : EngineRuntimeStatus) (snapshot : SessionSnapshot)
    (network : NetworkBridge) : Prop where
  mode : status.mode = units (modeName snapshot.mode)
  transportState : status.transportState = units (transportName snapshot.transportState)
  monitorIndex : status.monitorIndex.toInt = snapshot.monitorIndex.toNat
  port : status.port.toInt = snapshot.port.toNat
  framesSent : status.framesSent.toInt = snapshot.framesSent.toNat
  endpoint : Utf8.decode (selectedEndpoint snapshot network) = some status.endpoint
  encoder : Utf8.decode snapshot.encoderName = some status.encoder
  lastError : status.lastError.toInt = snapshot.lastError.toInt
  lastErrorMessage :
    Utf8.decode (selectedLastErrorMessage snapshot network) = some status.lastErrorMessage

def Decoded (doubleToInt : Json.Text → Option Int64) (snapshot : SessionSnapshot)
    (network : NetworkBridge) : Prop :=
  ∃ status, decodeStatus doubleToInt (statusJson snapshot network) = some status ∧
    GivesBack status snapshot network

/-! The text in five parts -/

def textEntry (name : String) (text : Bytes) : Entry :=
  ⟨units (ascii name), Json.quote :: (units text ++ [Json.quote]), .string (units text)⟩

def boolEntry (name : String) (b : Bool) : Entry :=
  ⟨units (ascii name), units (boolText b), .bool b⟩

def numberEntry (name : String) (text : Bytes) : Entry :=
  ⟨units (ascii name), units text, .number (units text)⟩

def leadEntries (snapshot : SessionSnapshot) (network : NetworkBridge) : List Entry :=
  let signedIn := network.identity.signedIn
  let reachable := signedIn || !network.peers.isEmpty || !network.identity.tailscaleIp.isEmpty
  [numberEntry "apiVersion" (ascii "1"), numberEntry "protocolVersion" (ascii "1"),
    textEntry "mode" (modeName snapshot.mode),
    textEntry "transportState" (transportName snapshot.transportState),
    boolEntry "engineLoaded" true,
    boolEntry "sessionActive" (snapshot.sessionActive || signedIn),
    boolEntry "tailscaleReachable" (snapshot.tailscaleReachable || reachable),
    boolEntry "captureActive" snapshot.captureActive,
    boolEntry "inputEnabled" snapshot.inputEnabled,
    boolEntry "clipboardEnabled" snapshot.clipboardEnabled,
    boolEntry "audioEnabled" snapshot.audioEnabled,
    numberEntry "monitorIndex" (decimal snapshot.monitorIndex.toNat),
    numberEntry "port" (decimal snapshot.port.toNat),
    numberEntry "framesSent" (decimal snapshot.framesSent.toNat)]

def tailEntries (snapshot : SessionSnapshot) : List Entry :=
  [textEntry "encoder" snapshot.encoderName,
    numberEntry "lastError" (intText snapshot.lastError.toInt)]

/-- The text up to the endpoint, in code units. -/
def leadUnits (snapshot : SessionSnapshot) (network : NetworkBridge) : Json.Text :=
  Json.openBrace :: ((leadEntries snapshot network).flatMap Entry.render ++
    Json.quote :: (units (ascii "endpoint") ++ [Json.quote, Json.colon, Json.quote]))

/-- The text between the endpoint and the last error message. -/
def tailUnits (snapshot : SessionSnapshot) : Json.Text :=
  Json.quote :: Json.comma :: ((tailEntries snapshot).flatMap Entry.render ++
    Json.quote :: (units (ascii "lastErrorMessage") ++ [Json.quote, Json.colon, Json.quote]))

def Low (text : Bytes) : Prop := ∀ b ∈ text, b < 0x80

instance (text : Bytes) : Decidable (Low text) := List.decidableBAll _ text

theorem Low.append {front rest : Bytes} (first : Low front) (second : Low rest) :
    Low (front ++ rest) := fun b member =>
  (List.mem_append.mp member).elim (first b) (second b)

theorem boolText_low (b : Bool) : Low (boolText b) := by
  cases b <;> decide

theorem decimal_low (n : Nat) : Low (decimal n) := fun b member =>
  UInt8.lt_of_le_of_lt (decimal_isDigit n b member).2 (by decide)

/-- The bytes up to the endpoint. -/
def leadText (snapshot : SessionSnapshot) (network : NetworkBridge) : Bytes :=
  let signedIn := network.identity.signedIn
  let reachable := signedIn || !network.peers.isEmpty || !network.identity.tailscaleIp.isEmpty
  ascii "\x7b\"apiVersion\":1,\"protocolVersion\":1,\"mode\":\"" ++ (modeName snapshot.mode ++
    (ascii "\",\"transportState\":\"" ++ (transportName snapshot.transportState ++
    (ascii "\",\"engineLoaded\":true,\"sessionActive\":" ++
    (boolText (snapshot.sessionActive || signedIn) ++
    (ascii ",\"tailscaleReachable\":" ++ (boolText (snapshot.tailscaleReachable || reachable) ++
    (ascii ",\"captureActive\":" ++ (boolText snapshot.captureActive ++
    (ascii ",\"inputEnabled\":" ++ (boolText snapshot.inputEnabled ++
    (ascii ",\"clipboardEnabled\":" ++ (boolText snapshot.clipboardEnabled ++
    (ascii ",\"audioEnabled\":" ++ (boolText snapshot.audioEnabled ++
    (ascii ",\"monitorIndex\":" ++ (decimal snapshot.monitorIndex.toNat ++
    (ascii ",\"port\":" ++ (decimal snapshot.port.toNat ++
    (ascii ",\"framesSent\":" ++ (decimal snapshot.framesSent.toNat ++
    ascii ",\"endpoint\":\"")))))))))))))))))))))

/-- The bytes between the endpoint and the last error message. -/
def tailText (snapshot : SessionSnapshot) : Bytes :=
  ascii "\",\"encoder\":\"" ++ (snapshot.encoderName ++ (ascii "\",\"lastError\":" ++
    (intText snapshot.lastError.toInt ++ ascii ",\"lastErrorMessage\":\"")))

theorem statusJson_parts (snapshot : SessionSnapshot) (network : NetworkBridge) :
    statusJson snapshot network = leadText snapshot network ++ (selectedEndpoint snapshot network ++
      (tailText snapshot ++ (selectedLastErrorMessage snapshot network ++
        ascii "\"\x7d"))) := by
  unfold statusJson leadText tailText
  dsimp only
  simp only [List.append_assoc]

set_option maxRecDepth 4000 in
theorem units_leadText (snapshot : SessionSnapshot) (network : NetworkBridge) :
    units (leadText snapshot network) = leadUnits snapshot network := by
  have loaded : boolText true = ascii "true" := rfl
  unfold leadText leadUnits leadEntries
  simp [Entry.render, textEntry, boolEntry, numberEntry, loaded, units, ascii]

theorem units_tailText (snapshot : SessionSnapshot) :
    units (tailText snapshot) = tailUnits snapshot := by
  simp [tailText, tailUnits, tailEntries, Entry.render, textEntry, numberEntry, units, ascii]

theorem intText_low (n : Int) : Low (intText n) := by
  unfold intText
  split
  · exact List.forall_mem_cons.mpr ⟨by decide, decimal_low _⟩
  · exact decimal_low _

theorem modeName_low (mode : SessionMode) : Low (modeName mode) := by
  cases mode <;> decide

theorem transportName_low (state : SessionTransportState) : Low (transportName state) := by
  cases state <;> decide

theorem leadText_low (snapshot : SessionSnapshot) (network : NetworkBridge) :
    Low (leadText snapshot network) := by
  refine Low.append (by decide) ((modeName_low _).append ?_)
  refine Low.append (by decide) ((transportName_low _).append ?_)
  iterate 6 refine Low.append (by decide) ((boolText_low _).append ?_)
  iterate 3 refine Low.append (by decide) ((decimal_low _).append ?_)
  decide

theorem tailText_low {snapshot : SessionSnapshot} (encoder : Low snapshot.encoderName) :
    Low (tailText snapshot) := by
  refine Low.append (by decide) (encoder.append (Low.append (by decide) ?_))
  exact (intText_low _).append (by decide)

/-- The document is decoded as the concatenation of what its parts are decoded to. -/
theorem decode_statusJson {snapshot : SessionSnapshot} (encoder : Low snapshot.encoderName)
    (network : NetworkBridge) :
    Utf8.decode (statusJson snapshot network) =
      (Utf8.decode (selectedEndpoint snapshot network)).bind fun endpoint =>
        (Utf8.decode (selectedLastErrorMessage snapshot network)).map fun message =>
          leadUnits snapshot network ++ (endpoint ++ (tailUnits snapshot ++
            (message ++ [Json.quote, Json.closeBrace]))) := by
  have tail : ∃ rest, tailText snapshot = 34 :: rest := ⟨_, rfl⟩
  obtain ⟨rest, tail⟩ := tail
  have closing : ascii "\"\x7d" = 34 :: [125] := rfl
  have closed : Utf8.decode [34, 125] = some [Json.quote, Json.closeBrace] := rfl
  rw [statusJson_parts, Utf8.decode_ascii_append (leadText_low snapshot network)]
  have middle : tailText snapshot ++ (selectedLastErrorMessage snapshot network ++ ascii "\"\x7d") =
      34 :: (rest ++ (selectedLastErrorMessage snapshot network ++ ascii "\"\x7d")) := by
    rw [tail]
    rfl
  have message : Utf8.decode (tailText snapshot ++
      (selectedLastErrorMessage snapshot network ++ ascii "\"\x7d")) =
      (Utf8.decode (selectedLastErrorMessage snapshot network)).map fun message =>
        tailUnits snapshot ++ (message ++ [Json.quote, Json.closeBrace]) := by
    rw [Utf8.decode_ascii_append (tailText_low encoder), closing,
      Utf8.decode_append (by decide), closed]
    cases Utf8.decode (selectedLastErrorMessage snapshot network) with
    | none => rfl
    | some message => simp [← units_tailText, units]
  rw [middle, Utf8.decode_append (by decide), ← middle, message]
  cases Utf8.decode (selectedEndpoint snapshot network) with
  | none => rfl
  | some endpoint =>
      cases Utf8.decode (selectedLastErrorMessage snapshot network) with
      | none => rfl
      | some message => simp [← units_leadText, units]

/-! The members -/

theorem isDigit_units {text : Bytes} (digits : ∀ c ∈ text, IsDigit c) :
    ∀ c ∈ units text, Json.isDigit c = true := by
  intro c member
  obtain ⟨b, inside, rfl⟩ := List.mem_map.mp member
  obtain ⟨low, high⟩ := digits b inside
  have low' : 48 ≤ b.toNat := UInt8.le_iff_toNat_le.mp low
  have high' : b.toNat ≤ 57 := UInt8.le_iff_toNat_le.mp high
  simp [Json.isDigit, low', high']

/-- The digits of a positive number, after which nothing is missing for a JSON integer. -/
theorem decimal_units {n : Nat} (positive : n ≠ 0) :
    ∃ c rest, units (decimal n) = c :: rest ∧ Json.isDigit c = true ∧ c ≠ 48 ∧
      ∀ d ∈ rest, Json.isDigit d = true := by
  obtain ⟨b, rest, split, nonzero⟩ := decimal_first positive
  have all := isDigit_units (decimal_isDigit n)
  rw [split] at all ⊢
  obtain ⟨first, later⟩ := List.forall_mem_cons.mp all
  exact ⟨b.toNat, units rest, rfl, first, fun same => nonzero (UInt8.toNat_inj.mp same), later⟩

theorem integer_intText (n : Int) : Json.Integer (units (intText n)) := by
  unfold intText
  split
  next negative =>
    obtain ⟨c, rest, split, first, nonzero, all⟩ := decimal_units (show n.natAbs ≠ 0 by omega)
    have whole : units (45 :: decimal n.natAbs) = 45 :: c :: rest := congrArg (45 :: ·) split
    rw [whole]
    exact .negative first nonzero all
  next =>
    by_cases zero : n.natAbs = 0
    · rw [zero]
      exact .zero
    · obtain ⟨c, rest, split, first, nonzero, all⟩ := decimal_units zero
      rw [split]
      exact .positive first nonzero all

theorem integer_decimal (n : Nat) : Json.Integer (units (decimal n)) := integer_intText n

theorem numberEntry_sound {name : String} {text : Bytes} (key : Unescaped (units (ascii name)))
    (integer : Json.Integer (units text)) : (numberEntry name text).Sound :=
  ⟨key, Json.reads_integer integer⟩

theorem textEntry_sound {name : String} {text : Bytes} (key : Unescaped (units (ascii name)))
    (unescaped : Unescaped (units text)) : (textEntry name text).Sound :=
  ⟨key, Json.reads_string unescaped⟩

theorem boolEntry_sound {name : String} (key : Unescaped (units (ascii name))) (b : Bool) :
    (boolEntry name b).Sound := by
  cases b
  · exact ⟨key, Json.reads_false⟩
  · exact ⟨key, Json.reads_true⟩

theorem modeName_unescaped (mode : SessionMode) : Unescaped (units (modeName mode)) := by
  cases mode <;> decide

theorem transportName_unescaped (state : SessionTransportState) :
    Unescaped (units (transportName state)) := by
  cases state <;> decide

theorem leadEntries_sound (snapshot : SessionSnapshot) (network : NetworkBridge) :
    ∀ e ∈ leadEntries snapshot network, e.Sound := by
  simp only [leadEntries, List.forall_mem_cons]
  exact ⟨numberEntry_sound (by decide) (integer_decimal 1),
    numberEntry_sound (by decide) (integer_decimal 1),
    textEntry_sound (by decide) (modeName_unescaped _),
    textEntry_sound (by decide) (transportName_unescaped _),
    boolEntry_sound (by decide) _, boolEntry_sound (by decide) _, boolEntry_sound (by decide) _,
    boolEntry_sound (by decide) _, boolEntry_sound (by decide) _, boolEntry_sound (by decide) _,
    boolEntry_sound (by decide) _, numberEntry_sound (by decide) (integer_decimal _),
    numberEntry_sound (by decide) (integer_decimal _),
    numberEntry_sound (by decide) (integer_decimal _), by simp⟩

theorem tailEntries_sound {snapshot : SessionSnapshot}
    (encoder : Unescaped (units snapshot.encoderName)) : ∀ e ∈ tailEntries snapshot, e.Sound := by
  simp only [tailEntries, List.forall_mem_cons]
  exact ⟨textEntry_sound (by decide) encoder,
    numberEntry_sound (by decide) (integer_intText _), by simp⟩

def leadMembers (snapshot : SessionSnapshot) (network : NetworkBridge) :
    List (Json.Text × Json.Value) := (leadEntries snapshot network).map Entry.member

def tailMembers (snapshot : SessionSnapshot) : List (Json.Text × Json.Value) :=
  (tailEntries snapshot).map Entry.member

/-- The part before the endpoint leads into the string of that member. -/
theorem exec_leadUnits (snapshot : SessionSnapshot) (network : NetworkBridge) :
    exec Json.step ⟨.value, []⟩ (leadUnits snapshot network) =
      some ⟨.string false [],
        [.object (leadMembers snapshot network) (units (ascii "endpoint"))]⟩ := by
  have opened : Json.step ⟨.value, []⟩ Json.openBrace = some ⟨.firstKey, [.object [] []]⟩ := rfl
  have first : ∃ text, (leadEntries snapshot network).flatMap Entry.render = Json.quote :: text :=
    ⟨_, rfl⟩
  obtain ⟨text, first⟩ := first
  rw [leadUnits, exec_cons, opened, Option.bind_some, first, List.cons_append, Json.exec_firstKey,
    ← List.cons_append, ← first, exec_append,
    Json.exec_entries (leadEntries_sound snapshot network), Option.bind_some,
    Json.exec_open (by decide)]
  rfl

/-- The part after the endpoint ends its string, whatever object that is a member of, and leads
into the string of the last error message. -/
theorem exec_tailUnits {snapshot : SessionSnapshot}
    (encoder : Unescaped (units snapshot.encoderName)) (buffer : Json.Text)
    (members : List (Json.Text × Json.Value)) (last : Json.Text) (stack : List Json.Frame) :
    exec Json.step ⟨.string false buffer, .object members last :: stack⟩ (tailUnits snapshot) =
      some ⟨.string false [],
        .object (members ++ [(last, Json.Value.string buffer)] ++ tailMembers snapshot)
          (units (ascii "lastErrorMessage")) :: stack⟩ := by
  have ended : Json.step ⟨.string false buffer, .object members last :: stack⟩ Json.quote =
      some ⟨.after, .object (members ++ [(last, Json.Value.string buffer)]) last :: stack⟩ := rfl
  have next : Json.step
      ⟨.after, .object (members ++ [(last, Json.Value.string buffer)]) last :: stack⟩ Json.comma =
      some ⟨.nextKey, .object (members ++ [(last, Json.Value.string buffer)]) [] :: stack⟩ := rfl
  rw [tailUnits, exec_cons, ended, Option.bind_some, exec_cons, next, Option.bind_some, exec_append,
    Json.exec_entries (tailEntries_sound encoder), Option.bind_some, Json.exec_open (by decide)]
  rfl

/-! What a text that is decoded to its own strings has to look like -/

abbrev endpointKey : Json.Text := units (ascii "endpoint")
abbrev messageKey : Json.Text := units (ascii "lastErrorMessage")

/-- The members of a document with two strings that are written as they are. -/
def allMembers (snapshot : SessionSnapshot) (network : NetworkBridge)
    (endpoint message : Json.Text) : List (Json.Text × Json.Value) :=
  leadMembers snapshot network ++ [(endpointKey, Json.Value.string endpoint)] ++
    tailMembers snapshot ++ [(messageKey, Json.Value.string message)]

theorem leadMembers_keys {snapshot : SessionSnapshot} {network : NetworkBridge} {key : Json.Text}
    {v : Json.Value} (member : (key, v) ∈ leadMembers snapshot network) :
    key ≠ endpointKey ∧ key ≠ messageKey := by
  have keys : key ∈ (leadMembers snapshot network).map Prod.fst := List.mem_map_of_mem member
  exact (by decide : ∀ k ∈ ["apiVersion", "protocolVersion", "mode", "transportState",
    "engineLoaded", "sessionActive", "tailscaleReachable", "captureActive", "inputEnabled",
    "clipboardEnabled", "audioEnabled", "monitorIndex", "port", "framesSent"].map
      fun name => units (ascii name), k ≠ endpointKey ∧ k ≠ messageKey) key keys

theorem tailMembers_keys {snapshot : SessionSnapshot} {key : Json.Text} {v : Json.Value}
    (member : (key, v) ∈ tailMembers snapshot) : key ≠ endpointKey ∧ key ≠ messageKey := by
  have keys : key ∈ (tailMembers snapshot).map Prod.fst := List.mem_map_of_mem member
  exact (by decide : ∀ k ∈ ["encoder", "lastError"].map fun name => units (ascii name),
    k ≠ endpointKey ∧ k ≠ messageKey) key keys

section parts
variable {snapshot : SessionSnapshot} {network : NetworkBridge} {endpoint message : Json.Text}
  {members : List (Json.Text × Json.Value)}

/-- The state after each of the five parts. Both strings end in the string of a member, the
second one in that of the outermost object. -/
theorem parse_states (encoder : Unescaped (units snapshot.encoderName))
    (parsed : Json.parse (leadUnits snapshot network ++ (endpoint ++ (tailUnits snapshot ++
      (message ++ [Json.quote, Json.closeBrace])))) = some (.object members)) :
    ∃ buffer before key stack buffer' before' key',
      exec Json.step ⟨.string false [], [.object (leadMembers snapshot network) endpointKey]⟩
          endpoint = some ⟨.string false buffer, .object before key :: stack⟩ ∧
        exec Json.step ⟨.string false [],
            .object (before ++ [(key, Json.Value.string buffer)] ++ tailMembers snapshot)
              messageKey :: stack⟩
          message = some ⟨.string false buffer', [.object before' key']⟩ ∧
        members = before' ++ [(key', Json.Value.string buffer')] := by
  obtain ⟨last, run, finished⟩ := Option.bind_eq_some_iff.mp parsed
  obtain ⟨s₁, first, run⟩ := exec_append_some run
  rw [exec_leadUnits] at first
  cases first
  obtain ⟨s₂, second, run⟩ := exec_append_some run
  obtain ⟨s₃, third, run⟩ := exec_append_some run
  obtain ⟨s₄, fourth, closing⟩ := exec_append_some run
  obtain ⟨buffer', before', key', rfl, whole⟩ := Json.close_string closing finished
  cases whole
  have begins : ∃ rest, tailUnits snapshot = Json.quote :: Json.comma :: Json.quote :: 101 ::
      (units (ascii "ncoder") ++ Json.quote :: Json.colon :: rest) := ⟨_, rfl⟩
  obtain ⟨rest, begins⟩ := begins
  have leaving := third
  rw [begins] at leaving
  obtain ⟨buffer, before, key, stack, rfl⟩ := Json.leave_string (by decide) leaving
  rw [exec_tailUnits encoder] at third
  cases third
  exact ⟨buffer, before, key, stack, buffer', before', key', second, fourth, rfl⟩

/-- The object that the second string begins in has no string under the two keys but those of the
first string. -/
theorem holds_between {before : List (Json.Text × Json.Value)} {key buffer k text : Json.Text}
    {stack : List Json.Frame} (either : k = endpointKey ∨ k = messageKey)
    (holds : Json.Holds
      (.object (before ++ [(key, Json.Value.string buffer)] ++ tailMembers snapshot)
        messageKey :: stack) k text) :
    Json.Holds (.object (before ++ [(key, Json.Value.string buffer)]) key :: stack) k text := by
  rcases Json.holds_object.mp holds with member | later
  · rcases List.mem_append.mp member with front | tail
    · exact Json.holds_object.mpr (.inl front)
    · obtain ⟨notEndpoint, notMessage⟩ := tailMembers_keys tail
      rcases either with same | same
      · exact absurd same notEndpoint
      · exact absurd same notMessage
  · exact later.tail

theorem not_holds_lead {k text : Json.Text} (either : k = endpointKey ∨ k = messageKey) :
    ¬ Json.Holds [.object (leadMembers snapshot network) endpointKey] k text := by
  intro holds
  rcases Json.holds_object.mp holds with member | ⟨_, _, frame, _⟩
  · obtain ⟨notEndpoint, notMessage⟩ := leadMembers_keys member
    rcases either with same | same
    · exact notEndpoint same
    · exact notMessage same
  · cases frame

theorem ne_nil_of_escaped {text : Json.Text} (escaped : ¬ Unescaped text) : text ≠ [] := by
  rintro rfl
  exact escaped nofun

/-- If the last of the members under the two keys are the two strings, neither is escaped: each
string that is read from an escaped one is shorter than it, so that each would have to be read
from the other. -/
theorem parse_parts (encoder : Unescaped (units snapshot.encoderName))
    (parsed : Json.parse (leadUnits snapshot network ++ (endpoint ++ (tailUnits snapshot ++
      (message ++ [Json.quote, Json.closeBrace])))) = some (.object members))
    (endpointRead : endpoint = [] ∨ (endpointKey, .string endpoint) ∈ members)
    (messageRead : message = [] ∨ (messageKey, .string message) ∈ members) :
    Unescaped endpoint ∧ Unescaped message ∧
      members = allMembers snapshot network endpoint message := by
  obtain ⟨buffer, before, key, stack, buffer', before', key', first, second, rfl⟩ :=
    parse_states encoder parsed
  have different : endpointKey ≠ messageKey := by decide
  rcases Json.exec_string first with ⟨unescaped, same⟩ | ⟨escaped, short⟩
  · cases same
    rcases Json.exec_string second with ⟨unescaped', same⟩ | ⟨escaped', short'⟩
    · cases same
      exact ⟨unescaped, unescaped', rfl⟩
    · have read := messageRead.resolve_left (ne_nil_of_escaped escaped')
      rcases short'.member read with old | less
      · rcases Json.holds_object.mp (holds_between (.inr rfl) old) with member | ⟨_, _, frame, _⟩
        · rcases List.mem_append.mp member with lead | ending
          · exact absurd rfl (leadMembers_keys lead).2
          · cases List.mem_singleton.mp ending
        · cases frame
      · exact absurd less (by simp)
  · -- a string under one of the keys at the start of the message comes from the endpoint
    have between {k text : Json.Text} (either : k = endpointKey ∨ k = messageKey)
        (holds : Json.Holds
          (.object (before ++ [(key, Json.Value.string buffer)] ++ tailMembers snapshot)
            messageKey :: stack) k text) : text.length < endpoint.length := by
      have bound : Json.Holds [.object (leadMembers snapshot network) endpointKey] k text ∨
          text.length < ([] : Json.Text).length + endpoint.length := by
        rcases Json.holds_object.mp (holds_between either holds) with member | later
        · exact short.member member
        · exact short.held k text later.tail
      simpa using bound.resolve_left (not_holds_lead either)
    have read := endpointRead.resolve_left (ne_nil_of_escaped escaped)
    rcases Json.exec_string second with ⟨_, same⟩ | ⟨escaped', short'⟩
    · cases same
      rcases List.mem_append.mp read with front | ending
      · exact absurd (between (.inl rfl) (Json.holds_object.mpr (.inl front))) (Nat.lt_irrefl _)
      · cases List.mem_singleton.mp ending
    · have read' := messageRead.resolve_left (ne_nil_of_escaped escaped')
      have cross : endpoint.length < message.length := by
        rcases short'.member read with old | less
        · exact absurd (between (.inl rfl) old) (Nat.lt_irrefl _)
        · simpa using less
      rcases short'.member read' with old | less
      · exact absurd (between (.inr rfl) old) (Nat.lt_asymm cross)
      · exact absurd less (by simp)

end parts

/-! What `fromJson` reads -/

theorem get_mem {members : List (Json.Text × Json.Value)} {name : String} {v : Json.Value}
    (found : get members name = some v) : (units (ascii name), v) ∈ members := by
  obtain ⟨front, back, split, _⟩ := List.lookup_eq_some_iff.mp found
  rw [← List.mem_reverse, split]
  exact List.mem_append_right _ List.mem_cons_self

theorem getString_mem {members : List (Json.Text × Json.Value)} {name : String} {text : Json.Text}
    (read : getString members name "" = some text) :
    text = [] ∨ (units (ascii name), .string text) ∈ members := by
  unfold getString at read
  split at read
  · exact .inl (Option.some.inj read).symm
  · exact .inl (Option.some.inj read).symm
  · next found =>
      cases read
      exact .inr (get_mem found)
  · cases read

theorem fromJson_reads {doubleToInt : Json.Text → Option Int64}
    {members : List (Json.Text × Json.Value)} {status : EngineRuntimeStatus}
    (read : EngineRuntimeStatus.fromJson doubleToInt members = some status) :
    getString members "endpoint" "" = some status.endpoint ∧
      getString members "lastErrorMessage" "" = some status.lastErrorMessage ∧
      getInt doubleToInt members "framesSent" 0 = some status.framesSent := by
  unfold EngineRuntimeStatus.fromJson at read
  iterate 13 obtain ⟨_, _, read⟩ := Option.bind_eq_some_iff.mp read
  obtain ⟨framesSent, frames, read⟩ := Option.bind_eq_some_iff.mp read
  obtain ⟨endpoint, first, read⟩ := Option.bind_eq_some_iff.mp read
  iterate 2 obtain ⟨_, _, read⟩ := Option.bind_eq_some_iff.mp read
  obtain ⟨message, second, read⟩ := Option.bind_eq_some_iff.mp read
  cases read
  exact ⟨first, second, frames⟩

/-! A document with two plain strings -/

theorem integerValue_digits {c : Nat} {digits : Json.Text} (first : Json.isDigit c = true)
    (all : ∀ d ∈ digits, Json.isDigit d = true) :
    integerValue (c :: digits) = some (value (c :: digits) : Int) := by
  have notMinus : c ≠ 45 := by
    rintro rfl
    cases first
  have digitsAll : (c :: digits).all Json.isDigit = true :=
    List.all_eq_true.mpr (List.forall_mem_cons.mpr ⟨first, all⟩)
  unfold integerValue
  split
  · next same => exact absurd (List.cons.inj same).1 notMinus
  · rw [if_pos ⟨List.cons_ne_nil c digits, digitsAll⟩]

theorem integerValue_intText (n : Int) : integerValue (units (intText n)) = some n := by
  have read := value_decimal n.natAbs
  have digits := isDigit_units (decimal_isDigit n.natAbs)
  unfold intText
  split
  next negative =>
    obtain ⟨c, rest, split, -⟩ := decimal_units (show n.natAbs ≠ 0 by omega)
    have nonempty : units (decimal n.natAbs) ≠ [] := by
      rw [split]
      exact List.cons_ne_nil c rest
    have whole : integerValue (45 :: units (decimal n.natAbs)) =
        some (-(value (units (decimal n.natAbs)) : Int)) :=
      if_pos ⟨nonempty, List.all_eq_true.mpr digits⟩
    refine whole.trans ?_
    rw [units, read]
    congr 1
    omega
  next positive =>
    have value' : ((n.natAbs : Nat) : Int) = n := by omega
    by_cases zero : n.natAbs = 0
    · rw [zero, ← value', zero]
      rfl
    · obtain ⟨c, rest, split, first, -, all⟩ := decimal_units zero
      rw [split, integerValue_digits first all, ← split, units, read, value']

theorem getInt_intText {doubleToInt : Json.Text → Option Int64}
    {members : List (Json.Text × Json.Value)} {name : String} {default : Int64} {n : Int}
    (found : get members name = some (.number (units (intText n))))
    (small : Int64.minValue.toInt ≤ n ∧ n ≤ Int64.maxValue.toInt) :
    getInt doubleToInt members name default = some (Int64.ofInt n) := by
  simp only [getInt, found, toInt, integerValue_intText]
  rw [if_pos small]

theorem parse_plain {snapshot : SessionSnapshot} (network : NetworkBridge)
    (encoder : Unescaped (units snapshot.encoderName)) {endpoint message : Json.Text}
    (plain : Unescaped endpoint) (plain' : Unescaped message) :
    Json.parse (leadUnits snapshot network ++ (endpoint ++ (tailUnits snapshot ++
      (message ++ [Json.quote, Json.closeBrace])))) =
        some (.object (allMembers snapshot network endpoint message)) := by
  rw [Json.parse, exec_append, exec_leadUnits, Option.bind_some, exec_append,
    Json.exec_unescaped plain, Option.bind_some, exec_append, exec_tailUnits encoder,
    Option.bind_some, exec_append, Json.exec_unescaped plain']
  rfl

theorem int64_range {n : Nat} (small : n < 2 ^ 63) :
    Int64.minValue.toInt ≤ (n : Int) ∧ (n : Int) ≤ Int64.maxValue.toInt := by
  have low : Int64.minValue.toInt = -2 ^ 63 := rfl
  have high : Int64.maxValue.toInt = 2 ^ 63 - 1 := rfl
  omega

/-- The status that is read from such a document. -/
def plainStatus (snapshot : SessionSnapshot) (network : NetworkBridge)
    (endpoint message : Json.Text) : EngineRuntimeStatus :=
  let signedIn := network.identity.signedIn
  let reachable := signedIn || !network.peers.isEmpty || !network.identity.tailscaleIp.isEmpty
  { apiVersion := 1
    protocolVersion := 1
    mode := units (modeName snapshot.mode)
    transportState := units (transportName snapshot.transportState)
    engineLoaded := true
    sessionActive := snapshot.sessionActive || signedIn
    tailscaleReachable := snapshot.tailscaleReachable || reachable
    captureActive := snapshot.captureActive
    inputEnabled := snapshot.inputEnabled
    clipboardEnabled := snapshot.clipboardEnabled
    audioEnabled := snapshot.audioEnabled
    monitorIndex := Int64.ofInt snapshot.monitorIndex.toNat
    port := Int64.ofInt snapshot.port.toNat
    framesSent := Int64.ofInt snapshot.framesSent.toNat
    endpoint
    encoder := units snapshot.encoderName
    lastError := Int64.ofInt snapshot.lastError.toInt
    lastErrorMessage := message }

theorem int32_range (n : Int32) :
    Int64.minValue.toInt ≤ n.toInt ∧ n.toInt ≤ Int64.maxValue.toInt := by
  have low : Int64.minValue.toInt = -2 ^ 63 := rfl
  have high : Int64.maxValue.toInt = 2 ^ 63 - 1 := rfl
  have above := n.le_toInt
  have below := n.toInt_lt
  omega

theorem fromJson_plain (doubleToInt : Json.Text → Option Int64) {snapshot : SessionSnapshot}
    (network : NetworkBridge) (endpoint message : Json.Text)
    (frames : snapshot.framesSent.toNat < 2 ^ 63) :
    EngineRuntimeStatus.fromJson doubleToInt (allMembers snapshot network endpoint message) =
      some (plainStatus snapshot network endpoint message) := by
  have small : snapshot.monitorIndex.toNat < 2 ^ 63 := by
    have bound := snapshot.monitorIndex.toNat_lt
    omega
  have small' : snapshot.port.toNat < 2 ^ 63 := by
    have bound := snapshot.port.toNat_lt
    omega
  have one : Int64.minValue.toInt ≤ (1 : Int) ∧ (1 : Int) ≤ Int64.maxValue.toInt := by decide
  generalize whole : allMembers snapshot network endpoint message = members
  have apiVersion : getInt doubleToInt members "apiVersion" 1 = some 1 :=
    getInt_intText (by rw [← whole]; rfl) one
  have protocolVersion : getInt doubleToInt members "protocolVersion" 1 = some 1 :=
    getInt_intText (by rw [← whole]; rfl) one
  have monitorIndex : getInt doubleToInt members "monitorIndex" 0 =
      some (Int64.ofInt snapshot.monitorIndex.toNat) :=
    getInt_intText (by rw [← whole]; rfl) (int64_range small)
  have port : getInt doubleToInt members "port" 4545 = some (Int64.ofInt snapshot.port.toNat) :=
    getInt_intText (by rw [← whole]; rfl) (int64_range small')
  have framesSent : getInt doubleToInt members "framesSent" 0 =
      some (Int64.ofInt snapshot.framesSent.toNat) :=
    getInt_intText (by rw [← whole]; rfl) (int64_range frames)
  have lastError : getInt doubleToInt members "lastError" 0 =
      some (Int64.ofInt snapshot.lastError.toInt) :=
    getInt_intText (by rw [← whole]; rfl) (int32_range _)
  unfold EngineRuntimeStatus.fromJson
  rw [apiVersion, protocolVersion, monitorIndex, port, framesSent, lastError, ← whole]
  rfl

theorem plainStatus_givesBack {snapshot : SessionSnapshot} (network : NetworkBridge)
    (low : Low snapshot.encoderName) {endpoint message : Json.Text}
    (first : Utf8.decode (selectedEndpoint snapshot network) = some endpoint)
    (second : Utf8.decode (selectedLastErrorMessage snapshot network) = some message)
    (frames : snapshot.framesSent.toNat < 2 ^ 63) :
    GivesBack (plainStatus snapshot network endpoint message) snapshot network where
  mode := rfl
  transportState := rfl
  monitorIndex := by
    have bound := snapshot.monitorIndex.toNat_lt
    exact Int64.toInt_ofInt_of_le (by omega) (by omega)
  port := by
    have bound := snapshot.port.toNat_lt
    exact Int64.toInt_ofInt_of_le (by omega) (by omega)
  framesSent := Int64.toInt_ofInt_of_le (by omega) (by omega)
  endpoint := first
  encoder := Utf8.decode_ascii low
  lastError := by
    have above := snapshot.lastError.le_toInt
    have below := snapshot.lastError.toInt_lt
    exact Int64.toInt_ofInt_of_le (by omega) (by omega)
  lastErrorMessage := second

/-- Exactly the documents whose strings need no escapes, and whose frame counter a Dart integer
can hold, are decoded to what the engine put into them. -/
theorem decoded_iff (doubleToInt : Json.Text → Option Int64) {m : SessionManager}
    (reached : Reachable SessionManager.step {} m) (network : NetworkBridge) :
    Decoded doubleToInt m.snapshot network ↔
      Plain (selectedEndpoint m.snapshot network) ∧
        Plain (selectedLastErrorMessage m.snapshot network) ∧
        m.snapshot.framesSent.toNat < 2 ^ 63 := by
  have known : m.snapshot.encoderName = ascii "none" ∨ m.snapshot.encoderName = ascii "raw" :=
    SessionManager.encoder_known reached
  have low : Low m.snapshot.encoderName := by
    rcases known with same | same <;> (rw [same]; decide)
  have encoder : Unescaped (units m.snapshot.encoderName) := by
    rcases known with same | same <;> (rw [same]; decide)
  have decoded := decode_statusJson low network
  constructor
  · rintro ⟨status, read, back⟩
    rw [back.endpoint, back.lastErrorMessage] at decoded
    unfold decodeStatus at read
    rw [decoded] at read
    split at read
    next members parsed =>
      obtain ⟨endpoint, message, frames⟩ := fromJson_reads read
      obtain ⟨plain, plain', whole⟩ :=
        parse_parts encoder parsed (getString_mem endpoint) (getString_mem message)
      refine ⟨⟨_, back.endpoint, plain⟩, ⟨_, back.lastErrorMessage, plain'⟩, ?_⟩
      have bound := status.framesSent.toInt_lt
      rw [back.framesSent] at bound
      omega
    next => cases read
  · rintro ⟨⟨endpoint, first, plain⟩, ⟨message, second, plain'⟩, frames⟩
    rw [first, second] at decoded
    refine ⟨plainStatus m.snapshot network endpoint message, ?_, ?_⟩
    · unfold decodeStatus
      rw [decoded]
      simp only [Option.bind_some, Option.map_some, parse_plain network encoder plain plain',
        fromJson_plain doubleToInt network endpoint message frames]
    · exact plainStatus_givesBack network low first second frames

/-- A host that has just accepted a client. -/
theorem decoded_iff_connected :
    ∃ m, exec SessionManager.step {}
        (SessionManager.hostRun (List.replicate 7 {})) = some m ∧
      m.snapshot.endpoint = ascii "peer" ∧ Decoded (fun _ => none) m.snapshot {} :=
  ⟨_, rfl, rfl,
    (decoded_iff _ ⟨SessionManager.hostRun (List.replicate 7 {}), rfl⟩ {}).mpr
      ⟨⟨_, rfl, by decide⟩, ⟨_, rfl, by decide⟩, by decide⟩⟩

/-- A message in which no string of a JSON text gets to its end. -/
theorem decodeStatus_stuck (doubleToInt : Json.Text → Option Int64) {snapshot : SessionSnapshot}
    {network : NetworkBridge} {message : Json.Text} (low : Low snapshot.encoderName)
    (encoder : Unescaped (units snapshot.encoderName))
    (taken : Utf8.decode (selectedLastErrorMessage snapshot network) = some message)
    (stuck : ∀ parent stack,
      exec Json.step ⟨.string false [], parent :: stack⟩ message = none) :
    decodeStatus doubleToInt (statusJson snapshot network) = none := by
  have decoded := decode_statusJson low network
  rw [taken] at decoded
  unfold decodeStatus
  rw [decoded]
  cases Utf8.decode (selectedEndpoint snapshot network) with
  | none => rfl
  | some endpoint =>
      split
      · next members parsed =>
          obtain ⟨_, _, _, _, _, _, _, _, run, _⟩ := parse_states encoder parsed
          rw [stuck] at run
          cases run
      · rfl

/-- The path of a library that could not be loaded is no JSON string. -/
theorem path_not_decoded :
    ¬ Decoded (fun _ => none) ({} : SessionManager).snapshot
      { lastErrorMessage := ascii "failed to load C:\\app\\screenscrab_network.dll" } := by
  rintro ⟨status, read, _⟩
  have taken : Utf8.decode (ascii "failed to load C:\\app\\screenscrab_network.dll") =
      some (units (ascii "failed to load C:\\app\\screenscrab_network.dll")) := by decide
  -- an `a` cannot be escaped
  have refused := read.symm.trans
    (decodeStatus_stuck (fun _ => none) (by decide) (by decide) taken fun _ _ => rfl)
  cases refused

end Screenscrab.Engine
