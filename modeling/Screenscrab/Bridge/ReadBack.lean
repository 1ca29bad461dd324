import Mathlib.Tactic.ByContra
import Screenscrab.Bridge.Extract

/-! When the bridge reads back the status that the Go runtime wrote. -/
namespace Screenscrab.Bridge
open Search Decimal
open Network

/-- The two texts are the same up to the white space around them. -/
def SameText (a b : Bytes) : Prop := trimCopy a = trimCopy b

structure SamePeer (peer : TailnetPeer) (source : Network.Peer) : Prop where
  nodeId : SameText peer.nodeId source.nodeID
  name : SameText peer.name source.name
  address : SameText peer.address source.address
  platform : SameText peer.platform source.platform
  online : peer.online = source.online
  latencyMs : peer.latencyMs = source.latencyMS
  quality : peer.quality = source.quality

structure SameIdentity (identity : TailnetIdentity) (source : Network.Identity) : Prop where
  accountEmail : SameText identity.accountEmail source.accountEmail
  tailnetName : SameText identity.tailnetName source.tailnetName
  deviceName : SameText identity.deviceName source.deviceName
  deviceId : SameText identity.deviceId source.deviceID
  tailscaleIp : SameText identity.tailscaleIp source.tailscaleIP
  signedIn : identity.signedIn = source.signedIn

structure SameStatus (native : NativeStatus) (status : Status) : Prop where
  state : SameText native.state status.state
  lastError : SameText native.lastError status.lastError
  loginUrl : SameText native.loginUrl status.loginURL
  identity : SameIdentity native.identity status.identity
  peers : List.Forall₂ SamePeer native.peers status.peers

def ReadsBack (status : Status) : Prop :=
  ∃ native, parseStatusJson status.marshal = some native ∧ SameStatus native status

/-! A text that is read back up to the white space around it -/

def nonSpace (text : Bytes) : Nat := text.countP fun ch => !isSpace ch

theorem nonSpace_dropWhile (text : Bytes) : nonSpace (text.dropWhile isSpace) = nonSpace text := by
  induction text with
  | nil => rfl
  | cons b text ih =>
      cases space : isSpace b with
      | true => simpa [nonSpace, space] using ih
      | false => simp [space]

theorem nonSpace_reverse (text : Bytes) : nonSpace text.reverse = nonSpace text :=
  List.countP_reverse

theorem nonSpace_trimCopy (text : Bytes) : nonSpace (trimCopy text) = nonSpace text := by
  rw [trimCopy, List.rdropWhile, nonSpace_reverse, nonSpace_dropWhile, nonSpace_reverse,
    nonSpace_dropWhile]

theorem mem_trimCopy {text : Bytes} {b : UInt8} (visible : isSpace b = false) :
    b ∈ trimCopy text ↔ b ∈ text := by
  have left (part : Bytes) : b ∈ part.dropWhile isSpace ↔ b ∈ part := by
    constructor
    · exact fun member => List.dropWhile_subset _ member
    · intro member
      have split : part.takeWhile isSpace ++ part.dropWhile isSpace = part :=
        List.takeWhile_append_dropWhile
      rw [← split] at member
      rcases List.mem_append.mp member with space | rest
      · rw [List.mem_takeWhile_imp space] at visible
        cases visible
      · exact rest
  rw [trimCopy, List.rdropWhile, List.mem_reverse, left, List.mem_reverse, left]

theorem trimCopy_trimCopy (text : Bytes) : trimCopy (trimCopy text) = trimCopy text := by
  have fixed : (trimCopy text).dropWhile isSpace = trimCopy text := by
    cases trimmed : trimCopy text with
    | nil => rfl
    | cons b rest =>
        have front : b :: rest <+: text.dropWhile isSpace := by
          rw [← trimmed]
          exact List.rdropWhile_prefix _ _
        obtain ⟨more, split⟩ := front
        refine List.dropWhile_cons_of_neg fun space => ?_
        have first := List.head?_dropWhile_not isSpace text
        rw [← split] at first
        simp [space] at first
  rw [trimCopy, fixed, trimCopy, List.rdropWhile_idempotent]

theorem nonSpace_letters {letters : Bytes} (known : ∀ b ∈ letters, b ∈ escapeLetters) :
    nonSpace letters = letters.length := by
  refine List.countP_eq_length.mpr fun b member => ?_
  have visible : escapeLetters.all (!isSpace ·) := by decide
  exact List.all_eq_true.mp visible b (known b member)

theorem nonSpace_cons_of_visible {b : UInt8} (visible : isSpace b = false) (text : Bytes) :
    nonSpace (b :: text) = nonSpace text + 1 := by
  simp [nonSpace, visible]

/-- Escaping keeps a text or makes what is not white space of it longer. -/
theorem escaped_grows {unchanged : Bool} {src out : Bytes}
    (escaped : Network.Escaped unchanged src out) : nonSpace src ≤ nonSpace out ∧
      (unchanged = false → nonSpace src < nonSpace out) ∧
      (unchanged = true → out = src ∧ quoteByte ∉ src) := by
  induction escaped with
  | nil => exact ⟨le_rfl, by simp, by simp⟩
  | @copied b _ src out copied _ ih =>
      obtain ⟨grows, strict, same⟩ := ih
      unfold nonSpace at grows strict ⊢
      rw [List.countP_cons, List.countP_cons]
      refine ⟨by omega, fun changed => by have := strict changed; omega, fun kept => ?_⟩
      obtain ⟨rfl, absent⟩ := same kept
      exact ⟨rfl, List.not_mem_cons_of_ne_of_not_mem copied.ne_quoteByte.symm absent⟩
  | @marked b _ src out mark _ ih =>
      have visible : isSpace b = false := by rcases mark with rfl | rfl <;> rfl
      have more : nonSpace (b :: src) < nonSpace (backslash :: b :: out) := by
        have backslashVisible : isSpace backslash = false := rfl
        rw [nonSpace_cons_of_visible backslashVisible, nonSpace_cons_of_visible visible,
          nonSpace_cons_of_visible visible]
        omega
      exact ⟨more.le, fun _ => more, fun kept => by cases kept⟩
  | @replaced chunk letters _ src out _ _ known longer _ ih =>
      have more : nonSpace (chunk ++ src) < nonSpace (backslash :: (letters ++ out)) := by
        have backslashVisible : isSpace backslash = false := rfl
        have letterCount := nonSpace_letters known
        have chunkCount : nonSpace chunk ≤ chunk.length := List.countP_le_length
        rw [nonSpace_cons_of_visible backslashVisible]
        unfold nonSpace at *
        rw [List.countP_append, List.countP_append]
        omega
      exact ⟨more.le, fun _ => more, fun kept => by cases kept⟩

/-- Exactly the texts that are written unchanged are read back. -/
theorem sameText_iff (src : Bytes) :
    SameText (readString (unquoted (appendString src))) src ↔ Verbatim src := by
  have escaped := appendString_escaped src
  obtain ⟨-, strict, kept⟩ := escaped_grows escaped
  constructor
  · intro same
    have absent : quoteByte ∉ src := by
      intro member
      have visible : isSpace quoteByte = false := rfl
      rw [← mem_trimCopy visible, ← same, readString, mem_trimCopy visible,
        mem_trimCopy visible] at member
      exact quoteByte_notMem_unquoted _ member
    rw [unquoted_of_notMem (escaped.quoteByte_notMem absent)] at same
    have count := congrArg nonSpace same
    rw [readString, nonSpace_trimCopy, nonSpace_trimCopy, nonSpace_trimCopy] at count
    by_contra changed
    have := strict (Bool.eq_false_iff.mpr changed)
    omega
  · intro verbatim
    obtain ⟨same, absent⟩ := kept verbatim
    rw [same, unquoted_of_notMem absent]
    exact trimCopy_trimCopy src

/-! The marshalled status as segments -/

def label (name : String) : Segment UInt8 := .label (ascii name)
def member (src : Bytes) : Segment UInt8 := .text (appendString src) comma

def identitySegments (identity : Network.Identity) : List (Segment UInt8) :=
  [.bare [openBrace], label "accountEmail", member identity.accountEmail,
    label "tailnetName", member identity.tailnetName,
    label "deviceName", member identity.deviceName, label "deviceId", member identity.deviceID,
    label "tailscaleIp", member identity.tailscaleIP,
    label "signedIn", .bare (encodeBool identity.signedIn ++ closeBrace :: [comma])]

def frontSegments (status : Status) : List (Segment UInt8) :=
  [.bare [openBrace], label "state", member status.state]

/-- What follows the peers, from the comma on. -/
def backSegments (status : Status) : List (Segment UInt8) :=
  [.bare [comma], label "lastError", member status.lastError, label "loginUrl",
    member status.loginURL, label "peerCount", .bare (decimal status.peerCount ++ [comma]),
    label "reconnectable", .bare (encodeBool status.reconnectable ++ [closeBrace])]

def peersText (status : Status) : Bytes :=
  91 :: (encodeElements 0 (status.peers.map Network.Peer.marshal) ++
    render jsonMarks (backSegments status))

theorem identity_marshal (identity : Network.Identity) :
    identity.marshal ++ [comma] = render jsonMarks (identitySegments identity) := by
  simp [Network.Identity.marshal, encodeStruct, encodeFields, encodeString, identitySegments,
    label, member, Segment.render, jsonMarks, comma, openBrace, closeBrace, ascii]

theorem status_marshal (status : Status) :
    status.marshal = render jsonMarks (frontSegments status) ++
      (needle jsonMarks (ascii "identity") ++
        (render jsonMarks (identitySegments status.identity) ++
          (needle jsonMarks (ascii "peers") ++ peersText status))) := by
  rw [← identity_marshal]
  simp [Status.marshal, encodeStruct, encodeFields, encodeString, frontSegments, peersText,
    backSegments, label, member, Segment.render, jsonMarks, comma, openBrace, closeBrace, ascii]

theorem member_sound (src : Bytes) : (member src).Sound jsonMarks :=
  ⟨(appendString_escaped src).guarded _, by decide, by decide, by decide⟩

theorem label_sound {name : String} (absent : quoteByte ∉ ascii name) :
    (label name).Sound jsonMarks := absent

theorem bare_sound {cs : Bytes} (absent : quoteByte ∉ cs) :
    (Segment.bare cs).Sound jsonMarks := absent

theorem encodeBool_sound {cs : Bytes} (b : Bool) (absent : quoteByte ∉ cs) :
    (Segment.bare (encodeBool b ++ cs)).Sound jsonMarks :=
  List.not_mem_append (by cases b <;> decide) absent

theorem decimal_sound {cs : Bytes} (n : Nat) (absent : quoteByte ∉ cs) :
    (Segment.bare (decimal n ++ cs)).Sound jsonMarks :=
  List.not_mem_append (notMem_decimal (by decide) n) absent

theorem identitySegments_sound (identity : Network.Identity) :
    ∀ s ∈ identitySegments identity, s.Sound jsonMarks := by
  simp only [identitySegments, List.forall_mem_cons, member_sound, true_and]
  refine ⟨bare_sound (by decide), label_sound (by decide), label_sound (by decide),
    label_sound (by decide), label_sound (by decide), label_sound (by decide),
    label_sound (by decide), encodeBool_sound _ (by decide), by simp⟩

theorem frontSegments_sound (status : Status) :
    ∀ s ∈ frontSegments status, s.Sound jsonMarks := by
  simp only [frontSegments, List.forall_mem_cons, member_sound, true_and]
  exact ⟨bare_sound (by decide), label_sound (by decide), by simp⟩

theorem backSegments_sound (status : Status) :
    ∀ s ∈ backSegments status, s.Sound jsonMarks := by
  simp only [backSegments, List.forall_mem_cons, member_sound, true_and]
  exact ⟨bare_sound (by decide), label_sound (by decide), label_sound (by decide),
    label_sound (by decide), decimal_sound _ (by decide), label_sound (by decide),
    encodeBool_sound _ (by decide), by simp⟩

theorem parseIdentity_render (identity : Network.Identity) (rest : Bytes) :
    parseIdentity (render jsonMarks (identitySegments identity) ++ rest) =
      { accountEmail := readString (unquoted (appendString identity.accountEmail))
        tailnetName := readString (unquoted (appendString identity.tailnetName))
        deviceName := readString (unquoted (appendString identity.deviceName))
        deviceId := readString (unquoted (appendString identity.deviceID))
        tailscaleIp := readString (unquoted (appendString identity.tailscaleIP))
        signedIn := identity.signedIn } := by
  have sound := identitySegments_sound identity
  unfold parseIdentity
  congr 1
  · rw [extract_text (by decide) sound rfl]
  · rw [extract_text (by decide) sound rfl]
  · rw [extract_text (by decide) sound rfl]
  · rw [extract_text (by decide) sound rfl]
  · rw [extract_text (by decide) sound rfl]
  · rw [extract_bool (by decide) sound rfl (by decide)]
    cases identity.signedIn <;> rfl

/-! The loop over the peers -/

theorem findFrom_eq_none {accept : UInt8 → Bool} {text : Bytes}
    (rejected : ∀ b ∈ text, accept b = false) (start : Nat) :
    findFrom accept text start = none := by
  rw [findFrom, List.findIdx?_eq_none_iff.mpr, Option.map_none]
  exact fun b member => rejected b (List.mem_of_mem_drop member)

theorem parsePeers_eq (body : Bytes) (cursor : Nat) (peers : List TailnetPeer) :
    parsePeers body cursor peers =
      if cursor < body.length then
        match findFrom (· = openBrace) body cursor with
        | none => some peers
        | some objectStart =>
          match findFrom (· = closeBrace) body objectStart with
          | none => some peers
          | some objectEnd =>
            (parsePeer (substr body objectStart (objectEnd - objectStart + 1))).bind fun peer =>
              parsePeers body (objectEnd + 1) (peers ++ [peer])
      else some peers := by
  rw [parsePeers]
  split
  next =>
    split
    next start => rw [start]
    next start =>
      rw [start]
      dsimp only
      split
      next stop => rw [stop]
      next stop =>
        rw [stop]
        dsimp only
        split
        next failed => rw [failed]; rfl
        next parsed => rw [parsed]; rfl
  next => rfl

theorem parsePeers_keeps {body : Bytes} {cursor : Nat} {pushed peers : List TailnetPeer}
    (parsed : parsePeers body cursor pushed = some peers) : pushed <+: peers := by
  induction cursor, pushed using parsePeers.induct body with
  | case1 cursor pushed inside start =>
      simp only [parsePeers_eq, inside, start, if_true, Option.some.injEq] at parsed
      exact parsed ▸ List.prefix_rfl
  | case2 cursor pushed inside first start stop =>
      simp only [parsePeers_eq, inside, start, stop, if_true, Option.some.injEq] at parsed
      exact parsed ▸ List.prefix_rfl
  | case3 cursor pushed inside first start last stop failed =>
      rw [parsePeers_eq, if_pos inside, start] at parsed
      simp only [stop, failed] at parsed
      cases parsed
  | case4 cursor pushed inside first start last stop peer read ih =>
      rw [parsePeers_eq, if_pos inside, start] at parsed
      simp only [stop, read] at parsed
      exact (List.prefix_append pushed [peer]).trans (ih parsed)
  | case5 cursor pushed outside =>
      rw [parsePeers_eq, if_neg outside] at parsed
      exact Option.some.inj parsed ▸ List.prefix_rfl

/-- The first peer is read from the text between the first braces. -/
theorem parsePeers_first {body : Bytes} {objectStart objectEnd : Nat} {peers : List TailnetPeer}
    (start : findFrom (· = openBrace) body 0 = some objectStart)
    (stop : findFrom (· = closeBrace) body objectStart = some objectEnd)
    (parsed : parsePeers body 0 [] = some peers) :
    ∃ peer rest, parsePeer (substr body objectStart (objectEnd - objectStart + 1)) = some peer ∧
      peers = peer :: rest := by
  have inside : 0 < body.length := by
    cases body with
    | nil => cases start
    | cons b body => exact Nat.succ_pos _
  rw [parsePeers_eq, if_pos inside, start] at parsed
  simp only [stop] at parsed
  obtain ⟨peer, read, later⟩ := Option.bind_eq_some_iff.mp parsed
  obtain ⟨rest, whole⟩ := parsePeers_keeps later
  exact ⟨peer, rest, read, whole.symm⟩

theorem parsePeers_none {body : Bytes} (absent : openBrace ∉ body) :
    parsePeers body 0 [] = some [] := by
  have start : findFrom (· = openBrace) body 0 = none := by
    refine findFrom_eq_none (fun b member => decide_eq_false ?_) 0
    rintro rfl
    exact absent member
  rw [parsePeers_eq, start]
  split <;> rfl

/-! Objects of the peers array -/

theorem brace_mem_appendString {brace : UInt8} (either : brace = openBrace ∨ brace = closeBrace)
    (src : Bytes) : brace ∈ appendString src ↔ brace ∈ src := by
  rcases either with rfl | rfl
  · exact (appendString_escaped src).mem_iff (by decide) (by decide) (by decide)
  · exact (appendString_escaped src).mem_iff (by decide) (by decide) (by decide)

theorem brace_notMem_member {brace : UInt8} (either : brace = openBrace ∨ brace = closeBrace)
    {src : Bytes} (absent : brace ∉ src) : brace ∉ (member src).render jsonMarks := by
  rw [← brace_mem_appendString either] at absent
  simp only [member, Segment.render, List.mem_cons, List.mem_append, List.not_mem_nil, or_false,
    not_or]
  rcases either with rfl | rfl
  · exact ⟨by decide, absent, by decide, by decide⟩
  · exact ⟨by decide, absent, by decide, by decide⟩

theorem brace_notMem_encodeBool {brace : UInt8} (either : brace = openBrace ∨ brace = closeBrace)
    (b : Bool) {cs : Bytes} (absent : brace ∉ cs) : brace ∉ encodeBool b ++ cs := by
  refine List.not_mem_append ?_ absent
  rcases either with rfl | rfl <;> cases b <;> decide

theorem brace_notMem_decimal {brace : UInt8} (either : brace = openBrace ∨ brace = closeBrace)
    (n : Nat) {cs : Bytes} (absent : brace ∉ cs) : brace ∉ decimal n ++ cs := by
  refine List.not_mem_append (notMem_decimal ?_ n) absent
  rcases either with rfl | rfl <;> decide

def peerSegments (peer : Network.Peer) : List (Segment UInt8) :=
  [.bare [openBrace], label "nodeId", member peer.nodeID, label "name", member peer.name,
    label "address", member peer.address, label "platform", member peer.platform,
    label "online", .bare (encodeBool peer.online ++ [comma]),
    label "latencyMs", .bare (decimal peer.latencyMS.toNat ++ [comma]),
    label "quality", .bare (decimal peer.quality.toNat)]

theorem peer_marshal (peer : Network.Peer) :
    peer.marshal = render jsonMarks (peerSegments peer) ++ [closeBrace] := by
  simp [Network.Peer.marshal, encodeStruct, encodeFields, encodeString, peerSegments, label,
    member, Segment.render, jsonMarks, comma, openBrace, closeBrace, ascii]

theorem peerSegments_sound (peer : Network.Peer) :
    ∀ s ∈ peerSegments peer, s.Sound jsonMarks := by
  simp only [peerSegments, List.forall_mem_cons, member_sound, true_and]
  refine ⟨bare_sound (by decide), label_sound (by decide), label_sound (by decide),
    label_sound (by decide), label_sound (by decide), label_sound (by decide),
    encodeBool_sound _ (by decide), label_sound (by decide), decimal_sound _ (by decide),
    label_sound (by decide), ?_, by simp⟩
  exact bare_sound (notMem_decimal (by decide) _)

/-- A number is read as a string, and that string is the next key. -/
theorem parsePeer_marshal (peer : Network.Peer) : parsePeer peer.marshal = none := by
  rw [peer_marshal, parsePeer,
    extract_bare (by decide) (peerSegments_sound peer) rfl]
  rfl

/-- A closing brace inside a string cuts the object, and no string read from it has the brace. -/
theorem closeBrace_notMem_extract {front : Bytes} (absent : closeBrace ∉ front) (key : String) :
    closeBrace ∉ extractJsonString (front ++ [closeBrace]) key := by
  unfold extractJsonString
  dsimp only
  split
  · exact List.not_mem_nil
  split
  · exact List.not_mem_nil
  next valueStart _ =>
  split
  · exact List.not_mem_nil
  next valueEnd closing =>
  obtain ⟨c, here, quoted⟩ := findFrom_accepted closing
  have before : valueEnd < front.length := by
    by_contra after
    rw [List.getElem?_append_right (Nat.not_lt.mp after)] at here
    have last := List.mem_of_getElem? here
    rw [List.mem_singleton.mp last] at quoted
    cases quoted
  have started := findFrom_ge closing
  rw [substr, List.drop_append_of_le_length (by omega),
    List.take_append_of_le_length (by rw [List.length_drop]; omega)]
  exact fun member => absent (List.mem_of_mem_drop (List.mem_of_mem_take member))

theorem closeBrace_notMem_peer {peer : Network.Peer} (nodeId : closeBrace ∉ peer.nodeID)
    (name : closeBrace ∉ peer.name) (address : closeBrace ∉ peer.address)
    (platform : closeBrace ∉ peer.platform) :
    closeBrace ∉ render jsonMarks (peerSegments peer) := by
  have inside {src : Bytes} := @brace_notMem_member closeBrace (.inr rfl) src
  refine notMem_render ?_
  simp only [peerSegments, List.forall_mem_cons]
  exact ⟨by decide, by decide, inside nodeId, by decide, inside name, by decide, inside address,
    by decide, inside platform, by decide, brace_notMem_encodeBool (.inr rfl) _ (by decide),
    by decide, brace_notMem_decimal (.inr rfl) _ (by decide), by decide,
    notMem_decimal (by decide) _, by simp⟩

theorem closeBrace_notMem_readString {text : Bytes} (absent : closeBrace ∉ text) {src : Bytes}
    (same : SameText (readString text) src) : closeBrace ∉ src := by
  have visible : isSpace closeBrace = false := rfl
  rw [← mem_trimCopy visible, ← same, readString, mem_trimCopy visible, mem_trimCopy visible]
  exact absent

/-- No object that is read is the peer: it is cut at a brace of a string, or a number throws. -/
theorem parsePeer_not_same {source : Network.Peer} {front more : Bytes}
    (absent : closeBrace ∉ front) (split : source.marshal = front ++ closeBrace :: more)
    {peer : TailnetPeer} (read : parsePeer (front ++ [closeBrace]) = some peer) :
    ¬ SamePeer peer source := by
  intro same
  have cut := closeBrace_notMem_extract absent
  have fields : peer.nodeId = readString (extractJsonString (front ++ [closeBrace]) "nodeId") ∧
      peer.name = readString (extractJsonString (front ++ [closeBrace]) "name") ∧
      peer.address = readString (extractJsonString (front ++ [closeBrace]) "address") ∧
      peer.platform = readString (extractJsonString (front ++ [closeBrace]) "platform") := by
    unfold parsePeer at read
    split at read
    · cases read
    split at read
    · cases read
    · cases read
      exact ⟨rfl, rfl, rfl, rfl⟩
  have nodeId := closeBrace_notMem_readString (cut _) (fields.1 ▸ same.nodeId)
  have name := closeBrace_notMem_readString (cut _) (fields.2.1 ▸ same.name)
  have address := closeBrace_notMem_readString (cut _) (fields.2.2.1 ▸ same.address)
  have platform := closeBrace_notMem_readString (cut _) (fields.2.2.2 ▸ same.platform)
  have whole := closeBrace_notMem_peer nodeId name address platform
  rw [peer_marshal] at split
  have uncut := cut_unique whole absent ⟨[], (List.append_nil _).trans split⟩
  rw [← uncut, ← peer_marshal, parsePeer_marshal] at read
  cases read

/-! The whole text -/

/-- Everything before the peers. -/
def leadSegments (status : Status) : List (Segment UInt8) :=
  frontSegments status ++ label "identity" :: identitySegments status.identity

theorem leadSegments_sound (status : Status) : ∀ s ∈ leadSegments status, s.Sound jsonMarks := by
  refine List.forall_mem_append.mpr ⟨frontSegments_sound status, ?_⟩
  exact List.forall_mem_cons.mpr ⟨label_sound (by decide), identitySegments_sound _⟩

theorem status_marshal_lead (status : Status) :
    status.marshal = render jsonMarks (leadSegments status) ++
      (needle jsonMarks (ascii "peers") ++ peersText status) := by
  rw [status_marshal, leadSegments, render_append, render_cons]
  simp only [List.append_assoc]
  rfl

theorem drop_label (front : Bytes) {name rest : Bytes} {count : Nat}
    (length : name.length = count) :
    (front ++ (name ++ rest)).drop (front.length + count) = rest := by
  rw [← List.append_assoc, ← length, ← List.length_append, List.drop_left]

theorem parseStatusJson_marshal (status : Status) :
    parseStatusJson status.marshal = (parsePeers (peersText status) 0 []).map fun peers =>
      { state := readString (unquoted (appendString status.state))
        lastError := readString (extractJsonString status.marshal "lastError")
        loginUrl := readString (extractJsonString status.marshal "loginUrl")
        json := status.marshal
        identity :=
          { accountEmail := readString (unquoted (appendString status.identity.accountEmail))
            tailnetName := readString (unquoted (appendString status.identity.tailnetName))
            deviceName := readString (unquoted (appendString status.identity.deviceName))
            deviceId := readString (unquoted (appendString status.identity.deviceID))
            tailscaleIp := readString (unquoted (appendString status.identity.tailscaleIP))
            signedIn := status.identity.signedIn }
        peers } := by
  have state : extractJsonString status.marshal "state" = unquoted (appendString status.state) := by
    rw [status_marshal, extract_text (by decide) (frontSegments_sound status) rfl]
  have identityFound : find (needle jsonMarks (ascii "identity") ++ ascii "\x7b") status.marshal =
      some (render jsonMarks (frontSegments status)).length := by
    rw [status_marshal]
    refine find_label (by decide) (frontSegments_sound status) ?_ ⟨_, rfl⟩
    simp [frontSegments, label, member, ascii]
  have identityDrop : status.marshal.drop ((render jsonMarks (frontSegments status)).length + 11) =
      render jsonMarks (identitySegments status.identity) ++
        (needle jsonMarks (ascii "peers") ++ peersText status) := by
    rw [status_marshal]
    exact drop_label _ rfl
  have peersFound : find (needle jsonMarks (ascii "peers") ++ ascii "[") status.marshal =
      some (render jsonMarks (leadSegments status)).length := by
    rw [status_marshal_lead]
    refine find_label (by decide) (leadSegments_sound status) ?_ ⟨_, rfl⟩
    simp [leadSegments, identitySegments, frontSegments, label, member, ascii]
  have peersDrop : status.marshal.drop ((render jsonMarks (leadSegments status)).length + 8) =
      peersText status := by
    rw [status_marshal_lead]
    exact drop_label _ rfl
  unfold parseStatusJson
  simp only [identityFound, peersFound, identityDrop, peersDrop, parseIdentity_render, state]

/-! A status with peers is not read back -/

theorem not_readsBack_of_peers {status : Status} {source : Network.Peer}
    {more : List Network.Peer} (peers : status.peers = source :: more) : ¬ ReadsBack status := by
  rintro ⟨native, parsed, same⟩
  have last : closeBrace ∈ source.marshal := by
    rw [peer_marshal]
    exact List.mem_append_right _ List.mem_cons_self
  obtain ⟨front, back, split, absent⟩ := List.eq_append_cons_of_mem last
  obtain ⟨opened, begins⟩ : ∃ opened, front = openBrace :: opened := by
    have head := congrArg List.head? split
    cases front with
    | nil => cases Option.some.inj head
    | cons b front => exact ⟨front, by rw [Option.some.inj head]⟩
  have body : ∃ rest, peersText status = [91] ++ (front ++ closeBrace :: rest) := by
    refine ⟨back ++ (encodeElements 1 (more.map Network.Peer.marshal) ++
      render jsonMarks (backSegments status)), ?_⟩
    simp [peersText, peers, encodeElements, split]
  obtain ⟨rest, body⟩ := body
  have start : findFrom (· = openBrace) (peersText status) 0 = some 1 := by
    rw [body, begins]
    have bracket : openBrace ∉ [91] := by decide
    exact findFrom_mark [] _ bracket
  have stop : findFrom (· = closeBrace) (peersText status) 1 = some (1 + front.length) := by
    rw [body]
    exact findFrom_mark [91] _ absent
  rw [parseStatusJson_marshal, Option.map_eq_some_iff] at parsed
  obtain ⟨read, loop, rfl⟩ := parsed
  obtain ⟨peer, others, first, rfl⟩ := parsePeers_first start stop loop
  have object : substr (peersText status) 1 (1 + front.length - 1 + 1) = front ++ [closeBrace] := by
    rw [body, substr, Nat.add_sub_cancel_left]
    have dropped : ([91] ++ (front ++ closeBrace :: rest)).drop 1 = front ++ closeBrace :: rest :=
      rfl
    rw [dropped, List.take_length_add_append]
    rfl
  rw [object] at first
  have samePeers := same.peers
  rw [peers] at samePeers
  exact parsePeer_not_same absent split first (List.forall₂_cons.mp samePeers).1

/-! A status without peers -/

theorem peersText_nil {status : Status} (peers : status.peers = []) :
    peersText status = render jsonMarks (.bare [91, 93] :: backSegments status) := by
  rw [peersText, peers]
  rfl

theorem openBrace_notMem_peersText {status : Status} (peers : status.peers = [])
    (lastError : openBrace ∉ status.lastError) (loginURL : openBrace ∉ status.loginURL) :
    openBrace ∉ peersText status := by
  have inside {src : Bytes} := @brace_notMem_member openBrace (.inl rfl) src
  rw [peersText_nil peers]
  refine notMem_render ?_
  simp only [backSegments, List.forall_mem_cons]
  exact ⟨by decide, by decide, by decide, inside lastError, by decide, inside loginURL, by decide,
    brace_notMem_decimal (.inl rfl) _ (by decide), by decide,
    brace_notMem_encodeBool (.inl rfl) _ (by decide), by simp⟩

theorem openBrace_mem_peersText {status : Status}
    (brace : openBrace ∈ status.lastError ∨ openBrace ∈ status.loginURL) :
    openBrace ∈ peersText status := by
  have inside {src : Bytes} (found : openBrace ∈ src)
      (segment : member src ∈ backSegments status) : openBrace ∈ peersText status := by
    refine List.mem_cons_of_mem _ (List.mem_append_right _ ?_)
    refine List.mem_flatMap.mpr ⟨member src, segment, List.mem_cons_of_mem _ ?_⟩
    exact List.mem_append_left _ ((brace_mem_appendString (.inl rfl) src).mpr found)
  rcases brace with found | found
  · exact inside found (by simp [backSegments])
  · exact inside found (by simp [backSegments])

/-- The loop takes a brace of one of these strings for the start of a peer. -/
theorem parsePeers_brace {status : Status} (brace : openBrace ∈ peersText status)
    {peers : List TailnetPeer} (parsed : parsePeers (peersText status) 0 [] = some peers) :
    peers ≠ [] := by
  obtain ⟨front, back, split, absent⟩ := List.eq_append_cons_of_mem brace
  have last : closeBrace ∈ openBrace :: back := by
    have final : (peersText status).getLast? = some closeBrace := by
      simp [peersText, backSegments, Segment.render, List.getLast?_append, List.getLast?_cons]
    rw [split, List.getLast?_append, List.getLast?_cons, Option.some_or,
      ← List.getLast?_cons] at final
    exact List.mem_of_getLast? final
  obtain ⟨inner, rest, object, free⟩ := List.eq_append_cons_of_mem last
  have start : findFrom (· = openBrace) (peersText status) 0 = some (0 + front.length) := by
    rw [split]
    exact findFrom_mark [] _ absent
  have stop : findFrom (· = closeBrace) (peersText status) (0 + front.length) =
      some (0 + front.length + inner.length) := by
    rw [split, object, Nat.zero_add]
    exact findFrom_mark front _ free
  obtain ⟨peer, others, -, rfl⟩ := parsePeers_first start stop parsed
  exact List.cons_ne_nil peer others

/-! Exactly the statuses that are read back -/

/-- The strings that are read from the text of a status without peers. -/
def texts (status : Status) : List Bytes :=
  [status.state, status.lastError, status.loginURL, status.identity.accountEmail,
    status.identity.tailnetName, status.identity.deviceName, status.identity.deviceID,
    status.identity.tailscaleIP]

def emptySegments (status : Status) : List (Segment UInt8) :=
  leadSegments status ++ label "peers" :: .bare [91, 93] :: backSegments status

theorem emptySegments_sound (status : Status) :
    ∀ s ∈ emptySegments status, s.Sound jsonMarks := by
  refine List.forall_mem_append.mpr ⟨leadSegments_sound status, ?_⟩
  simp only [List.forall_mem_cons]
  exact ⟨label_sound (by decide), bare_sound (by decide), backSegments_sound status⟩

theorem extract_errors {status : Status} (peers : status.peers = []) :
    extractJsonString status.marshal "lastError" = unquoted (appendString status.lastError) ∧
      extractJsonString status.marshal "loginUrl" = unquoted (appendString status.loginURL) := by
  have whole : status.marshal = render jsonMarks (emptySegments status) ++ [] := by
    rw [status_marshal_lead, peersText_nil peers, List.append_nil, emptySegments, render_append]
    rfl
  have sound := emptySegments_sound status
  rw [whole]
  exact ⟨extract_text (by decide) sound rfl _, extract_text (by decide) sound rfl _⟩

/-- A status is read back when it has no peers, its last error and its login URL have no brace,
and all its strings are written unchanged. -/
theorem readsBack_iff (status : Status) :
    ReadsBack status ↔ status.peers = [] ∧ openBrace ∉ status.lastError ∧
      openBrace ∉ status.loginURL ∧ ∀ text ∈ texts status, Verbatim text := by
  constructor
  · intro readsBack
    have peers : status.peers = [] := by
      cases list : status.peers with
      | nil => rfl
      | cons source more => exact absurd readsBack (not_readsBack_of_peers list)
    obtain ⟨native, parsed, same⟩ := readsBack
    obtain ⟨lastError, loginUrl⟩ := extract_errors peers
    rw [parseStatusJson_marshal, Option.map_eq_some_iff] at parsed
    obtain ⟨read, loop, rfl⟩ := parsed
    have none : read = [] := by
      have match' := same.peers
      rw [peers] at match'
      cases match'
      rfl
    have noBrace := mt openBrace_mem_peersText fun brace => parsePeers_brace brace loop none
    obtain ⟨noError, noUrl⟩ := not_or.mp noBrace
    refine ⟨peers, noError, noUrl, ?_⟩
    simp only [texts, List.forall_mem_cons, ← sameText_iff]
    rw [← lastError, ← loginUrl]
    exact ⟨same.state, same.lastError, same.loginUrl, same.identity.accountEmail,
      same.identity.tailnetName, same.identity.deviceName, same.identity.deviceId,
      same.identity.tailscaleIp, by simp⟩
  · rintro ⟨peers, noError, noUrl, verbatim⟩
    obtain ⟨lastError, loginUrl⟩ := extract_errors peers
    simp only [texts, List.forall_mem_cons, ← sameText_iff] at verbatim
    rw [← lastError, ← loginUrl] at verbatim
    obtain ⟨state, lastErrorSame, loginUrlSame, email, tailnet, name, id, ip, -⟩ := verbatim
    have loop := parsePeers_none (openBrace_notMem_peersText peers noError noUrl)
    have parsed := parseStatusJson_marshal status
    rw [loop, Option.map_some] at parsed
    refine ⟨_, parsed, state, lastErrorSame, loginUrlSame,
      ⟨email, tailnet, name, id, ip, rfl⟩, ?_⟩
    rw [peers]
    exact .nil

/-- One peer is enough for the parser to throw. -/
theorem peer_not_read_back : ¬ ReadsBack
    { state := .signedIn
      peers := [
        { nodeID := ascii "nodeid:1", name := ascii "desk", address := ascii "100.64.0.2",
          platform := ascii "windows", online := true, latencyMS := 12, quality := 3 }]
      peerCount := 1 } :=
  not_readsBack_of_peers rfl

end Screenscrab.Bridge
