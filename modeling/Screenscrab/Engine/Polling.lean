import Screenscrab.Engine.Decoded
import Screenscrab.Session.Resources

/-! What a poll of the engine's status shows in any run of the session manager. The texts in it
are the fixed ones of the worker and the addresses that were dialled. -/
namespace Screenscrab.Engine
open Session
open Transition (exec)
open Json (Unescaped)

/-- A string literal that JSON needs no escapes for. -/
def Literal (text : String) : Prop := Low (ascii text) ∧ Unescaped (units (ascii text))

instance (text : String) : Decidable (Literal text) := inferInstanceAs (Decidable (_ ∧ _))

theorem Literal.plain {text : String} (literal : Literal text) : Plain (ascii text) :=
  ⟨_, Utf8.decode_ascii literal.1, literal.2⟩

theorem plain_nil : Plain [] := ⟨[], rfl, nofun⟩

theorem digit_range {c : Char} (digit : c.isDigit = true) : 48 ≤ c.toNat ∧ c.toNat ≤ 57 := by
  rw [Char.isDigit, Bool.and_eq_true, decide_eq_true_iff, decide_eq_true_iff] at digit
  exact ⟨UInt32.le_iff_toNat_le.mp digit.1, UInt32.le_iff_toNat_le.mp digit.2⟩

theorem toString_literal (n : Nat) : Literal (toString n) := by
  have digits : ∀ b ∈ ascii (toString n), 48 ≤ b.toNat ∧ b.toNat ≤ 57 := by
    intro b member
    obtain ⟨c, inside, rfl⟩ := List.mem_map.mp member
    rw [Nat.toString_eq_repr, Nat.toList_repr] at inside
    obtain ⟨low, high⟩ := digit_range (Nat.isDigit_of_mem_toDigits (by decide) (by decide) inside)
    rw [UInt8.toNat_ofNat', Nat.mod_eq_of_lt (by omega)]
    exact ⟨low, high⟩
  refine ⟨?_, ?_⟩
  · intro b member
    have range := digits b member
    exact UInt8.lt_iff_toNat_lt.mpr (Nat.lt_of_le_of_lt range.2 (by decide))
  · intro c member
    obtain ⟨b, inside, rfl⟩ := List.mem_map.mp member
    have range := digits b inside
    exact ⟨show b.toNat ≠ 34 by omega, show b.toNat ≠ 92 by omega, by omega⟩

/-- The endpoint that `start_client` publishes. -/
theorem Plain.endpoint {address : Bytes} (plain : Plain address) (port : Nat) :
    Plain (address ++ ascii ":" ++ ascii (toString port)) := by
  obtain ⟨decoded, taken, unescaped⟩ := plain
  obtain ⟨low, digits⟩ := toString_literal port
  have rest : Utf8.decode (58 :: ascii (toString port)) =
      some (58 :: units (ascii (toString port))) :=
    Utf8.decode_ascii (List.forall_mem_cons.mpr ⟨by decide, low⟩)
  refine ⟨decoded ++ 58 :: units (ascii (toString port)), ?_, ?_⟩
  · have split : address ++ ascii ":" ++ ascii (toString port) =
        address ++ 58 :: ascii (toString port) := List.append_assoc address _ _
    rw [split, Utf8.decode_append (by decide), taken, rest]
    rfl
  · intro c member
    rcases List.mem_append.mp member with inside | inside
    · exact unescaped c inside
    · rcases List.mem_cons.mp inside with rfl | inside
      · decide
      · exact digits c inside

/-! The texts of a run -/

/-- The messages that the two threads publish, and the one with which the process starts. -/
def messages : List String :=
  ["", "starting host", "connecting client", "client connected", "host listen failed",
    "input initialization failed", "capture initialization failed", "accept failed",
    "capture failed", "encode failed", "frame send failed", "packet header receive failed",
    "wire header mismatch", "packet payload too large", "packet payload receive failed",
    "invalid packet", "client connect failed"]

theorem messages_literal : ∀ message ∈ messages, Literal message := by decide

def IsMessage (text : Bytes) : Prop := ∃ message ∈ messages, text = ascii message

theorem IsMessage.plain {text : Bytes} (known : IsMessage text) : Plain text := by
  obtain ⟨message, member, rfl⟩ := known
  exact (messages_literal message member).plain

/-- The endpoints that they publish, when the addresses in `dialled` have been dialled. -/
inductive IsEndpoint (dialled : Bytes → UInt16 → Prop) : Bytes → Prop
  | none : IsEndpoint dialled []
  | peer : IsEndpoint dialled (ascii "peer")
  | dialled (address : Bytes) (port : UInt16) : dialled address port →
      IsEndpoint dialled (address ++ ascii ":" ++ ascii (toString port.toNat))

theorem IsEndpoint.plain {dialled : Bytes → UInt16 → Prop} {text : Bytes}
    (known : IsEndpoint dialled text)
    (dials : ∀ address port, dialled address port → Plain address) : Plain text := by
  cases known with
  | none => exact plain_nil
  | peer => exact Literal.plain (by decide)
  | dialled address port dialling => exact (dials address port dialling).endpoint port.toNat

/-- What the worker is still to publish are messages. -/
def Announces : Pc → Prop
  | .readError message next | .applyError _ message next => message ∈ messages ∧ Announces next
  | _ => True

theorem afterHeader_announces {header : Bytes} {pc : Pc}
    (next : SessionManager.afterHeader header = some pc) : Announces pc := by
  simp only [SessionManager.afterHeader, Option.bind_eq_bind, Option.pure_def,
    Option.bind_eq_some_iff] at next
  obtain ⟨magic, _, version, _, next⟩ := next
  split at next
  · cases next
    exact ⟨by decide, trivial⟩
  · obtain ⟨payloadSize, _, next⟩ := Option.bind_eq_some_iff.mp next
    split at next
    · cases next
      exact ⟨by decide, trivial⟩
    · split at next <;> cases next <;> trivial

theorem afterPacket_announces {m : SessionManager} {os : OsAnswers} {packet : Bytes} {pc : Pc}
    (next : m.afterPacket os packet = some pc) : Announces pc := by
  simp only [SessionManager.afterPacket, Option.bind_eq_bind, Option.pure_def,
    Option.bind_eq_some_iff] at next
  obtain ⟨handling, _, next⟩ := next
  split at next
  · cases next
    split <;> trivial
  · cases next
    trivial
  · cases next
    split <;> trivial
  · cases next
    exact ⟨by decide, trivial⟩
  · cases next
    trivial

section
variable {dialled : Bytes → UInt16 → Prop}

/-- What is published, and what the worker is to publish when it is at `pc`. -/
structure Speaks (dialled : Bytes → UInt16 → Prop) (m : SessionManager) (pc : Pc) : Prop where
  endpoint : IsEndpoint dialled m.guarded.endpoint
  message : IsMessage m.guarded.lastErrorMessage
  pending : Announces pc

theorem speaks_goto {m m' : SessionManager} {w : Worker} {pc target : Pc}
    (speaks : Speaks dialled m pc) (same : m'.guarded = m.guarded) (pending : Announces target) :
    ∃ w', (m'.goto w target).worker = some w' ∧ Speaks dialled (m'.goto w target) w'.pc :=
  ⟨_, rfl, same ▸ speaks.endpoint, same ▸ speaks.message, pending⟩

theorem Speaks.work {m next : SessionManager} {w : Worker} {os : OsAnswers}
    (speaks : Speaks dialled m w.pc) (taken : m.work w os = some next) :
    ∃ w', next.worker = some w' ∧ Speaks dialled next w'.pc := by
  obtain ⟨pc, lastPing⟩ := w
  obtain ⟨endpoint, message, pending⟩ := id speaks
  have joined : IsMessage (ascii "client connected") := ⟨_, by decide, rfl⟩
  cases pc with
  | readError message next =>
      cases taken
      exact speaks_goto speaks rfl pending
  | applyError code message next =>
      cases taken
      exact ⟨_, rfl, endpoint, ⟨message, pending.1, rfl⟩, pending.2⟩
  | clientJoined =>
      cases taken
      exact ⟨_, rfl, .peer, joined, trivial⟩
  | endSession =>
      cases taken
      exact ⟨_, rfl, .none, message, trivial⟩
  | clientReady =>
      cases taken
      exact ⟨_, rfl, endpoint, joined, trivial⟩
  | hostReady | clientEnded =>
      cases taken
      exact ⟨_, rfl, endpoint, message, trivial⟩
  | receiveHeader =>
      simp only [SessionManager.work] at taken
      split at taken
      · cases taken
        exact speaks_goto speaks rfl ⟨by decide, trivial⟩
      · obtain ⟨target, checked, rfl⟩ := Option.map_eq_some_iff.mp taken
        exact speaks_goto speaks rfl (afterHeader_announces checked)
  | handlePacket packet =>
      simp only [SessionManager.work] at taken
      obtain ⟨target, handled, rfl⟩ := Option.map_eq_some_iff.mp taken
      exact speaks_goto speaks rfl (afterPacket_announces handled)
  | receivePayload =>
      simp only [SessionManager.work] at taken
      split at taken <;> cases taken
      · exact speaks_goto speaks rfl ⟨by decide, trivial⟩
      · exact speaks_goto speaks rfl trivial
  | pingDue =>
      simp only [SessionManager.work] at taken
      split at taken <;> cases taken <;> exact speaks_goto speaks rfl trivial
  | listen | sendMetadata | sendFrame | connect =>
      simp only [SessionManager.work] at taken
      cases taken
      refine speaks_goto speaks rfl ?_
      split
      · trivial
      · exact ⟨by decide, trivial⟩
  | accept | processPoll | sendPong =>
      simp only [SessionManager.work] at taken
      cases taken
      refine speaks_goto speaks rfl ?_
      split <;> trivial
  | inputInitialize | captureInitialize | capture | encode =>
      cases taken
      refine speaks_goto speaks rfl ?_
      split
      · trivial
      · exact ⟨by decide, trivial⟩
  | acceptFailed =>
      cases taken
      refine speaks_goto speaks rfl ?_
      split
      · trivial
      · exact ⟨by decide, trivial⟩
  | outerHead | innerHead | innerConnected | processHead | processConnected | clientHead
  | clientConnected =>
      cases taken
      refine speaks_goto speaks rfl ?_
      split <;> trivial
  | exited => cases taken
  | sendHello | sendCapabilities | sendSessionStart | startPing | sendFailed | countFrame
  | handlerDisconnect | processDisconnect | sendPing | endDisconnect | clientDisconnect =>
      cases taken
      exact speaks_goto speaks rfl trivial

/-- The call that has not returned. -/
def pendingCall : ApiPc → Option ApiCall
  | .idle => none
  | .requestStop call | .disconnect call | .join call | .shutdownCapture call
  | .shutdownEncoder call | .publishStopped call | .publishStart call => some call

/-- Every text that the two threads publish is a message, or an endpoint that was dialled. -/
structure Readable (dialled : Bytes → UInt16 → Prop) (m : SessionManager) : Prop where
  endpoint : IsEndpoint dialled m.guarded.endpoint
  message : IsMessage m.guarded.lastErrorMessage
  pending : ∀ w, m.worker = some w → Announces w.pc
  dials : ∀ address port, pendingCall m.api = some (.startClient address port) →
    dialled address port

theorem Readable.initial : Readable dialled {} :=
  ⟨.none, ⟨"", by decide, rfl⟩, nofun, nofun⟩

/-- A step of the calling thread that publishes nothing and starts no worker. -/
theorem Readable.keep {m next : SessionManager} (readable : Readable dialled m)
    (endpoint : next.guarded.endpoint = m.guarded.endpoint)
    (message : next.guarded.lastErrorMessage = m.guarded.lastErrorMessage)
    (worker : ∀ w, next.worker = some w → m.worker = some w)
    (dials : ∀ call, pendingCall next.api = some call → pendingCall m.api = some call) :
    Readable dialled next :=
  ⟨endpoint ▸ readable.endpoint, message ▸ readable.message,
    fun w present => readable.pending w (worker w present),
    fun address port pending => readable.dials address port (dials _ pending)⟩

theorem Readable.callStep {m next : SessionManager} (readable : Readable dialled m)
    (taken : m.callStep = some next) : Readable dialled next := by
  cases SessionManager.callStep_cases taken with
  | requestStop call at_ | disconnect call at_ | noWorker call at_ | shutdownCapture call at_
  | shutdownEncoder call at_ | publishStopped call at_ =>
      refine readable.keep rfl rfl (fun _ present => present) fun _ pending => ?_
      rw [at_]
      exact pending
  | joined call w at_ =>
      refine readable.keep rfl rfl nofun fun _ pending => ?_
      rw [at_]
      exact pending
  | stopped => exact readable.keep rfl rfl (fun _ present => present) nofun
  | startHost deviceName port at_ =>
      refine ⟨.none, ⟨"starting host", by decide, rfl⟩, fun w present => ?_, nofun⟩
      cases present
      trivial
  | startClient address port at_ =>
      have dialling := readable.dials address port (by rw [at_]; rfl)
      refine ⟨.dialled address port dialling, ⟨"connecting client", by decide, rfl⟩,
        fun w present => ?_, nofun⟩
      cases present
      trivial

theorem Readable.step {m next : SessionManager} {label : Label} (readable : Readable dialled m)
    (dials : ∀ address port, label = .call (.startClient address port) → dialled address port)
    (taken : m.step label = some next) : Readable dialled next := by
  cases label with
  | call call =>
      simp only [SessionManager.step] at taken
      split at taken <;> cases taken
      refine ⟨readable.endpoint, readable.message, readable.pending,
        fun address port pending => ?_⟩
      cases pending
      exact dials address port rfl
  | api => exact readable.callStep taken
  | setMonitorIndex | setInputEnabled | setClipboardEnabled | setAudioEnabled =>
      cases taken
      exact readable.keep rfl rfl (fun _ present => present) fun _ pending => pending
  | worker os =>
      obtain ⟨w, present, working⟩ := Option.bind_eq_some_iff.mp taken
      have speaks : Speaks dialled m w.pc :=
        ⟨readable.endpoint, readable.message, readable.pending w present⟩
      obtain ⟨w', there, after⟩ := speaks.work working
      refine ⟨after.endpoint, after.message, ?_, ?_⟩
      · intro v same
        cases there.symm.trans same
        exact after.pending
      · rw [(SessionManager.work_worked working).api]
        exact readable.dials

end

/-- The addresses and ports with which a run calls `start_client`. -/
def Dialled (labels : List Label) (address : Bytes) (port : UInt16) : Prop :=
  Label.call (.startClient address port) ∈ labels

theorem readable_of_run {labels : List Label} {m : SessionManager}
    (run : exec SessionManager.step {} labels = some m) : Readable (Dialled labels) m := by
  have along : Transition.Along SessionManager.step (fun _ label => ∀ address port,
      label = .call (.startClient address port) → Dialled labels address port) {} labels := by
    refine .of_mem fun label member address port same => ?_
    rw [Dialled, ← same]
    exact member
  exact Transition.exec_along (fun _ _ _ readable dials taken => readable.step dials taken)
    Readable.initial run along

/-! The number of frames -/

theorem callStep_framesSent {m next : SessionManager} (taken : m.callStep = some next) :
    next.framesSent = m.framesSent := by
  cases SessionManager.callStep_cases taken <;> rfl

theorem step_framesSent {m next : SessionManager} {label : Label}
    (taken : m.step label = some next) :
    next.framesSent.toNat ≤ m.framesSent.toNat + 1 := by
  cases label with
  | call call =>
      simp only [SessionManager.step] at taken
      split at taken <;> cases taken
      exact Nat.le_succ _
  | api =>
      rw [callStep_framesSent taken]
      exact Nat.le_succ _
  | setMonitorIndex | setInputEnabled | setClipboardEnabled | setAudioEnabled =>
      cases taken
      exact Nat.le_succ _
  | worker os =>
      obtain ⟨w, _, working⟩ := Option.bind_eq_some_iff.mp taken
      rw [(SessionManager.work_performs working).framesSent]
      split
      · exact (UInt64.toNat_add _ _).trans_le (Nat.mod_le _ _)
      · exact Nat.le_succ _

theorem exec_framesSent {labels : List Label} {m next : SessionManager}
    (run : exec SessionManager.step m labels = some next) :
    next.framesSent.toNat ≤ m.framesSent.toNat + labels.length := by
  induction labels generalizing m with
  | nil =>
      cases run
      exact le_rfl
  | cons label labels ih =>
      obtain ⟨middle, first, rest⟩ := Transition.exec_cons_some run
      have here := step_framesSent first
      have later := ih rest
      rw [List.length_cons]
      omega

/-! The status that is read -/

/-- What the fields of a status say together. -/
structure Coherent (status : EngineRuntimeStatus) (signedIn : Bool) : Prop where
  active : status.sessionActive = true ↔
    status.transportState = units (ascii "connected") ∨ signedIn = true
  stopped : status.mode = units (ascii "stopped") →
    status.transportState = units (ascii "offline")
  host : status.mode = units (ascii "host") →
    status.transportState = units (ascii "listening") ∨
      status.transportState = units (ascii "connected")
  client : status.mode = units (ascii "client") →
    status.transportState = units (ascii "connecting") ∨
      status.transportState = units (ascii "connected") ∨
      status.transportState = units (ascii "offline")
  capture : status.captureActive = true → status.mode = units (ascii "host")
  encoder : status.encoder ≠ units (ascii "none") → status.mode = units (ascii "host")

theorem modeName_inj {mode other : SessionMode} :
    units (modeName mode) = units (modeName other) ↔ mode = other := by
  cases mode <;> cases other <;> decide

theorem transportName_inj {state other : SessionTransportState} :
    units (transportName state) = units (transportName other) ↔ state = other := by
  cases state <;> cases other <;> decide

theorem plainStatus_coherent {snapshot : SessionSnapshot}
    (consistent : SessionManager.Consistent snapshot) (network : NetworkBridge)
    (endpoint message : Json.Text) :
    Coherent (plainStatus snapshot network endpoint message) network.identity.signedIn := by
  have named (state : SessionTransportState) (same : snapshot.transportState = state) :
      units (transportName snapshot.transportState) = units (transportName state) := by
    rw [same]
  refine ⟨?_, ?_, ?_, ?_, ?_, ?_⟩
  · change (snapshot.sessionActive || network.identity.signedIn) = true ↔
      units (transportName snapshot.transportState) = units (transportName .connected) ∨ _
    rw [transportName_inj, ← consistent.active, Bool.or_eq_true]
  · intro stopped
    have mode : snapshot.mode = .stopped := modeName_inj.mp stopped
    exact named _ (consistent.stopped mode)
  · intro host
    have mode : snapshot.mode = .host := modeName_inj.mp host
    exact (consistent.host mode).imp (named _) (named _)
  · intro client
    have mode : snapshot.mode = .client := modeName_inj.mp client
    exact (consistent.client mode).imp (named _) (Or.imp (named _) (named _))
  · intro active
    exact congrArg (fun mode => units (modeName mode)) (consistent.capture active)
  · intro other
    have name : snapshot.encoderName ≠ ascii "none" := fun same => other (congrArg units same)
    exact congrArg (fun mode => units (modeName mode)) (consistent.encoder name)

theorem decodeStatus_plain (doubleToInt : Json.Text → Option Int64) {snapshot : SessionSnapshot}
    {network : NetworkBridge} (low : Low snapshot.encoderName)
    (encoder : Unescaped (units snapshot.encoderName))
    (endpoint : Plain (selectedEndpoint snapshot network))
    (message : Plain (selectedLastErrorMessage snapshot network))
    (frames : snapshot.framesSent.toNat < 2 ^ 63) :
    ∃ first second, decodeStatus doubleToInt (statusJson snapshot network) =
        some (plainStatus snapshot network first second) ∧
      GivesBack (plainStatus snapshot network first second) snapshot network := by
  obtain ⟨first, taken, plain⟩ := endpoint
  obtain ⟨second, taken', plain'⟩ := message
  refine ⟨first, second, ?_, plainStatus_givesBack network low taken taken' frames⟩
  have decoded := decode_statusJson low network
  rw [taken, taken'] at decoded
  unfold decodeStatus
  rw [decoded]
  simp only [Option.bind_some, Option.map_some, parse_plain network encoder plain plain',
    fromJson_plain doubleToInt network first second frames]

/-- The name of the encoder is a literal. -/
theorem encoderName_literal {m : SessionManager}
    (reached : Transition.Reachable SessionManager.step {} m) :
    Low m.snapshot.encoderName ∧ Unescaped (units m.snapshot.encoderName) := by
  have known : m.snapshot.encoderName = ascii "none" ∨ m.snapshot.encoderName = ascii "raw" :=
    SessionManager.encoder_known reached
  rcases known with same | same
  · rw [same]
    decide
  · rw [same]
    decide

theorem consistent_of_valid {m : SessionManager} (valid : SessionManager.Valid m) :
    SessionManager.Consistent m.snapshot := by
  cases present : m.worker with
  | none => exact (valid.rest present).consistent
  | some w => exact (valid.worker w present).consistent

/-- In every run, wherever the two threads stand, the texts that they have published are messages
of the source and addresses that were dialled. Where these are plain, and while the network has
plain texts, a poll of the status is read, gives back what the engine has, and shows a state that
fits together. -/
theorem polled_status_coherent (doubleToInt : Json.Text → Option Int64) {labels : List Label}
    {m : SessionManager} (run : exec SessionManager.step {} labels = some m) :
    IsMessage m.snapshot.lastErrorMessage ∧ IsEndpoint (Dialled labels) m.snapshot.endpoint ∧
    (labels.length < 2 ^ 63 → (∀ address port, Dialled labels address port → Plain address) →
      ∀ network : NetworkBridge, Plain network.identity.tailscaleIp →
        Plain network.lastErrorMessage →
        ∃ status, decodeStatus doubleToInt (statusJson m.snapshot network) = some status ∧
          GivesBack status m.snapshot network ∧
          Coherent status network.identity.signedIn) := by
  have readable := readable_of_run run
  refine ⟨readable.message, readable.endpoint, fun short dials network ip error => ?_⟩
  have endpoint : Plain (selectedEndpoint m.snapshot network) := by
    unfold selectedEndpoint
    split
    · exact ip
    · exact readable.endpoint.plain dials
  have message : Plain (selectedLastErrorMessage m.snapshot network) := by
    unfold selectedLastErrorMessage
    split
    · exact error
    · exact readable.message.plain
  have frames : m.snapshot.framesSent.toNat < 2 ^ 63 := by
    have counted := exec_framesSent run
    exact Nat.lt_of_le_of_lt counted (lt_of_eq_of_lt (Nat.zero_add _) short)
  have reached : Transition.Reachable SessionManager.step {} m := ⟨labels, run⟩
  obtain ⟨low, encoder⟩ := encoderName_literal reached
  obtain ⟨first, second, read, back⟩ :=
    decodeStatus_plain doubleToInt low encoder endpoint message frames
  have consistent := consistent_of_valid (SessionManager.valid_of_reachable reached)
  exact ⟨_, read, back, plainStatus_coherent consistent network first second⟩

/-- A client that has connected, and a network that is signed in. -/
theorem polled_status_coherent_client :
    let labels : List Label := .call (.startClient (ascii "100.64.0.1") 4545) ::
      List.replicate 7 .api ++ List.replicate 2 (.worker {})
    let network : NetworkBridge := { identity := { signedIn := true } }
    ∃ m status, exec SessionManager.step {} labels = some m ∧
      IsEndpoint (Dialled labels) m.snapshot.endpoint ∧
      decodeStatus (fun _ => none) (statusJson m.snapshot network) = some status ∧
      status.transportState = units (ascii "connected") ∧
      status.endpoint = units (ascii "100.64.0.1:4545") ∧
      status.lastErrorMessage = units (ascii "client connected") ∧ Coherent status true := by
  intro labels network
  have dials : ∀ address port, Dialled labels address port → Plain address := by
    intro address port member
    simp [Dialled, labels] at member
    rw [member.1]
    exact Literal.plain (by decide)
  obtain ⟨_, known, polled⟩ := polled_status_coherent (fun _ => none)
    (show exec SessionManager.step {} labels = some _ from rfl)
  obtain ⟨status, read, back, coherent⟩ :=
    polled (by decide) dials network plain_nil (Literal.plain (by decide))
  refine ⟨_, status, rfl, known, read, back.transportState, ?_, ?_, coherent⟩
  · exact Option.some.inj (back.endpoint.symm.trans (by rfl))
  · exact Option.some.inj (back.lastErrorMessage.symm.trans (by rfl))

end Screenscrab.Engine
