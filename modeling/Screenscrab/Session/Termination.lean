import Screenscrab.Session.Stop
import Screenscrab.Library.Transition

/-! The public functions return: once a stop is requested the worker runs down to its end, and the
calling thread does not wait for anything else. -/
namespace Screenscrab.Session
open Protocol LittleEndian
open Transition (exec Along)

/-- How many steps a worker takes at most before it returns, once a stop is requested. -/
def Pc.left : Pc → Nat
  | .exited => 0
  | .outerHead | .acceptFailed | .clientEnded => 1
  | .hostReady | .endSession | .clientDisconnect => 2
  | .captureInitialize | .endDisconnect | .clientHead => 3
  | .inputInitialize | .innerHead | .sendFailed | .clientReady | .clientConnected => 4
  | .listen | .sendPing | .startPing | .connect => 5
  | .sendSessionStart | .pingDue => 6
  | .sendCapabilities | .processDisconnect | .processHead => 7
  | .sendHello | .countFrame | .handlerDisconnect | .sendPong => 8
  | .clientJoined | .sendFrame | .handlePacket _ => 9
  | .accept | .sendMetadata | .receivePayload _ _ => 10
  | .encode | .receiveHeader => 11
  | .capture | .processPoll => 12
  | .innerConnected | .processConnected => 13
  | .readError _ next => next.left + 2
  | .applyError _ _ next => next.left + 1

/-- What has been checked of the bytes that a worker holds. -/
def Pc.Checked : Pc → Prop
  | .receivePayload header payloadSize =>
    header.length = 24 ∧ word header 0 4 = wireMagic ∧ word header 4 2 = wireVersion ∧
      word header 12 4 = payloadSize ∧ payloadSize ≤ 1024 * 1024
  | .handlePacket packet => Framed packet
  | .readError _ next | .applyError _ _ next => next.Checked
  | _ => True

/-- A step of a worker: with a stop requested it brings the end closer. -/
structure Advances (stop : Bool) (pc target : Pc) : Prop where
  checked : target.Checked
  bounded : target.left ≤ max 13 pc.left
  falls : stop = true → target.left < pc.left

theorem Advances.branch {stop : Bool} {pc yes no : Pc} {p : Prop} [Decidable p]
    (first : Advances stop pc yes) (second : Advances stop pc no) :
    Advances stop pc (if p then yes else no) := by
  split
  · exact first
  · exact second

theorem afterHeader_eq {header : Bytes} (size : header.length = 24) :
    SessionManager.afterHeader header = some
      (if word header 0 4 ≠ wireMagic ∨ word header 4 2 ≠ wireVersion then
        .applyError (-6) "wire header mismatch" .processDisconnect
      else if word header 12 4 > 1024 * 1024 then
        .applyError (-7) "packet payload too large" .processDisconnect
      else if word header 12 4 = 0 then .handlePacket header
      else .receivePayload header (word header 12 4)) := by
  have magic := readU32_eq (show 0 + 4 ≤ header.length by omega)
  have version := readU16_eq (show 4 + 2 ≤ header.length by omega)
  have payloadSize := readU32_eq (show 12 + 4 ≤ header.length by omega)
  have bound :
      UInt32.ofNat (word header 12 4) > 1024 * 1024 ↔ word header 12 4 > 1024 * 1024 := by
    rw [gt_iff_lt, UInt32.lt_iff_toNat_lt, word_toU32]
    rfl
  have zero : UInt32.ofNat (word header 12 4) = 0 ↔ word header 12 4 = 0 := by
    rw [← UInt32.toNat_inj, word_toU32]
    rfl
  simp only [SessionManager.afterHeader, magic, version, payloadSize, Option.bind_eq_bind,
    Option.bind_some, Option.pure_def, word_toU32, word_toU16, bound, zero]
  split
  · rfl
  split
  · rfl
  split <;> rfl

theorem afterHeader_advances {header : Bytes} (size : header.length = 24) (stop : Bool) :
    ∃ target, SessionManager.afterHeader header = some target ∧
      Advances stop .receiveHeader target := by
  refine ⟨_, afterHeader_eq size, ?_⟩
  split
  · exact ⟨trivial, by decide, fun _ => by decide⟩
  next known =>
  push Not at known
  split
  · exact ⟨trivial, by decide, fun _ => by decide⟩
  next small =>
  split
  · next empty =>
      refine ⟨⟨known.1, known.2, by omega, by omega⟩, ?_, fun _ => ?_⟩ <;> simp [Pc.left]
  · refine ⟨⟨size, known.1, known.2, rfl, by omega⟩, ?_, fun _ => ?_⟩ <;> simp [Pc.left]

theorem framed_append {header payload : Bytes}
    (checked : (Pc.receivePayload header payload.length).Checked) : Framed (header ++ payload) := by
  obtain ⟨size, magic, version, announced, small⟩ := checked
  have same : word (header ++ payload) 12 4 = word header 12 4 :=
    word_append header payload (by omega)
  refine ⟨?_, ?_, ?_, ?_⟩
  · rw [word_append header payload (by omega), magic]
  · rw [word_append header payload (by omega), version]
  · rw [same]
    omega
  · rw [same, List.length_append, size, announced]

theorem handlePacket_framed (s : Settings) {packet : Bytes} (framed : Framed packet) :
    ∃ handling, handlePacket s packet = some handling := by
  unfold handlePacket
  rw [parsePacket_framed framed]
  split
  · exact dispatch_some s (viewOf packet)
  · exact ⟨_, rfl⟩

theorem afterPacket_advances (m : SessionManager) (os : OsAnswers) {packet : Bytes}
    (framed : Framed packet) (stop : Bool) :
    ∃ target, m.afterPacket os packet = some target ∧
      Advances stop (.handlePacket packet) target := by
  obtain ⟨handling, handled⟩ := handlePacket_framed
    { inputEnabled := m.guarded.inputEnabled, clipboardEnabled := m.guarded.clipboardEnabled,
      nowMicros := os.now } framed
  have one (target : Pc) (checked : target.Checked) (short : target.left ≤ 8) :
      Advances stop (.handlePacket packet) target := by
    refine ⟨checked, ?_, fun _ => ?_⟩
    · exact short.trans (by simp [Pc.left])
    · exact Nat.lt_of_le_of_lt short (by simp [Pc.left])
  have two (ok : Bool) : Advances stop (.handlePacket packet)
      (if ok then .processHead else .processDisconnect) := by
    cases ok <;> exact one _ trivial (by decide)
  simp only [SessionManager.afterPacket, handled, Option.bind_eq_bind, Option.bind_some,
    Option.pure_def]
  cases handling with
  | returns result => exact ⟨_, rfl, two result⟩
  | calls call =>
      cases call with
      | sendPong => exact ⟨_, rfl, one _ trivial (by decide)⟩
      | _ => exact ⟨_, rfl, two os.ok⟩
  | invalid => exact ⟨_, rfl, one _ trivial (by decide)⟩
  | disconnects => exact ⟨_, rfl, one _ trivial (by decide)⟩

namespace SessionManager

/-- A worker that has not returned can take a step, whatever the operating system answers. -/
theorem work_advances (m : SessionManager) {w : Worker} (os : OsAnswers) (checked : w.pc.Checked)
    (running : w.pc ≠ .exited) :
    ∃ next w', m.work w os = some next ∧ next.worker = some w' ∧
      Advances m.stopRequested w.pc w'.pc := by
  obtain ⟨pc, lastPing⟩ := w
  have plain {m' : SessionManager} {v : Worker} {target : Pc}
      (there : Advances m.stopRequested pc target) :
      ∃ next w', some (m'.goto v target) = some next ∧ next.worker = some w' ∧
        Advances m.stopRequested pc w'.pc := ⟨_, _, rfl, rfl, there⟩
  cases pc with
  | hostReady | clientJoined | sendHello | sendCapabilities | sendSessionStart | startPing
  | sendFailed | countFrame | handlerDisconnect | processDisconnect | sendPing | endDisconnect
  | endSession | clientReady | clientDisconnect | clientEnded =>
      exact plain ⟨trivial, by decide, fun _ => by decide⟩
  | listen | inputInitialize | captureInitialize | accept | innerConnected | capture | encode
  | sendMetadata | sendFrame | processConnected | processPoll | sendPong | connect
  | clientConnected =>
      exact plain (.branch ⟨trivial, by decide, fun _ => by decide⟩
        ⟨trivial, by decide, fun _ => by decide⟩)
  | outerHead | acceptFailed | innerHead | processHead | clientHead =>
      refine plain ?_
      cases stop : m.stopRequested with
      | true => exact ⟨trivial, by decide, fun _ => by decide⟩
      | false => exact ⟨trivial, by decide, nofun⟩
  | pingDue =>
      simp only [work]
      split <;> exact plain ⟨trivial, by decide, fun _ => by decide⟩
  | receiveHeader =>
      have lost : Advances m.stopRequested .receiveHeader
          (.readError "packet header receive failed" .processDisconnect) :=
        ⟨trivial, by decide, fun _ => by decide⟩
      simp only [work, Transport.receiveAll]
      by_cases closed : m.transport.socket = none
      · simp only [if_pos closed]
        exact plain lost
      · simp only [if_neg closed]
        cases received : os.received.filter (·.length = 24) with
        | none => exact plain lost
        | some header =>
            obtain ⟨_, size⟩ := Option.filter_eq_some_iff.mp received
            obtain ⟨target, read, there⟩ :=
              afterHeader_advances (of_decide_eq_true size) m.stopRequested
            simp only [read]
            exact plain there
  | receivePayload header payloadSize =>
      have lost : Advances m.stopRequested (.receivePayload header payloadSize)
          (.readError "packet payload receive failed" .processDisconnect) :=
        ⟨trivial, by simp [Pc.left], fun _ => by simp [Pc.left]⟩
      simp only [work, Transport.receiveAll]
      by_cases closed : m.transport.socket = none
      · simp only [if_pos closed]
        exact plain lost
      · simp only [if_neg closed]
        cases received : os.received.filter (·.length = payloadSize) with
        | none => exact plain lost
        | some payload =>
            obtain ⟨_, size⟩ := Option.filter_eq_some_iff.mp received
            obtain rfl : payload.length = payloadSize := of_decide_eq_true size
            exact plain ⟨framed_append checked, by simp [Pc.left], fun _ => by simp [Pc.left]⟩
  | handlePacket packet =>
      obtain ⟨target, handled, there⟩ := afterPacket_advances m os checked m.stopRequested
      simp only [work, handled]
      exact plain there
  | readError message next =>
      exact plain ⟨checked, by simp [Pc.left], fun _ => by simp [Pc.left]⟩
  | applyError code message next =>
      exact plain ⟨checked, by simp [Pc.left], fun _ => by simp [Pc.left]⟩
  | exited => exact absurd rfl running

/-- What holds of the worker, and that `stop` does not go on to a start. -/
structure Runs (m : SessionManager) : Prop where
  worker : ∀ w, m.worker = some w → w.pc.Checked ∧ w.pc.left ≤ 13
  starts : m.api ≠ .publishStart .stop

theorem Runs.callStep {m next : SessionManager} (runs : Runs m)
    (taken : m.callStep = some next) : Runs next := by
  cases callStep_cases taken with
  | requestStop | disconnect | noWorker | shutdownCapture | shutdownEncoder | stopped =>
      exact ⟨runs.worker, nofun⟩
  | joined => exact ⟨nofun, nofun⟩
  | publishStopped call at_ starts =>
      refine ⟨runs.worker, ?_⟩
      rintro ⟨⟩
      exact starts rfl
  | startHost | startClient =>
      refine ⟨?_, nofun⟩
      rintro w ⟨⟩
      exact ⟨trivial, by decide⟩

theorem Runs.step {m next : SessionManager} {label : Label} (runs : Runs m)
    (taken : m.step label = some next) : Runs next := by
  cases label with
  | call call =>
      simp only [SessionManager.step] at taken
      split at taken <;> cases taken
      refine ⟨runs.worker, ?_⟩
      intro same
      cases same
  | api => exact runs.callStep taken
  | setMonitorIndex | setInputEnabled | setClipboardEnabled | setAudioEnabled =>
      cases taken
      exact ⟨runs.worker, runs.starts⟩
  | worker os =>
      obtain ⟨w, present, working⟩ := Option.bind_eq_some_iff.mp taken
      obtain ⟨checked, short⟩ := runs.worker w present
      have running : w.pc ≠ .exited := by
        intro returned
        rw [work, returned] at working
        cases working
      obtain ⟨next', w', working', there, advances⟩ := m.work_advances os checked running
      obtain rfl := Option.some.inj (working.symm.trans working')
      refine ⟨?_, ?_⟩
      · intro v at_
        obtain rfl := Option.some.inj (there.symm.trans at_)
        exact ⟨advances.checked, advances.bounded.trans (max_le le_rfl short)⟩
      · rw [(work_worked working).api]
        exact runs.starts

theorem runs_of_reachable {m : SessionManager} (reached : Transition.Reachable step {} m) :
    Runs m :=
  reached.invariant (fun _ _ _ runs taken => Runs.step runs taken)
    ⟨fun w present => (by cases present), fun same => (by cases same)⟩

end SessionManager

/-- How many steps a public function still takes by itself. It counts from its request to stop. -/
def ApiPc.left : ApiPc → Nat
  | .idle | .requestStop _ => 0
  | .publishStart _ => 1
  | .publishStopped _ => 2
  | .shutdownEncoder _ => 3
  | .shutdownCapture _ => 4
  | .join _ => 5
  | .disconnect _ => 6

/-- A step of one of the two threads. -/
def Label.moves : Label → Bool
  | .api | .worker _ => true
  | _ => false

namespace SessionManager

/-- A public function has requested the stop and has not returned. -/
def Pending (m : SessionManager) : Prop := 0 < m.api.left

def workerLeft (m : SessionManager) : Nat := (m.worker.map fun w => w.pc.left).getD 0

/-- How many steps the two threads take at most before the public function returns. -/
def left (m : SessionManager) : Nat := if 0 < m.api.left then m.api.left + m.workerLeft else 0

theorem left_pending {m : SessionManager} (pending : m.Pending) :
    m.left = m.api.left + m.workerLeft := if_pos pending

theorem left_le (m : SessionManager) : m.left ≤ m.api.left + m.workerLeft := by
  unfold left
  split
  · exact le_rfl
  · exact Nat.zero_le _

theorem Runs.left_le {m : SessionManager} (runs : Runs m) : m.left ≤ 19 := by
  have own : m.api.left ≤ 6 := by cases m.api <;> simp [ApiPc.left]
  have worker : m.workerLeft ≤ 13 := by
    unfold workerLeft
    cases present : m.worker with
    | none => exact Nat.zero_le _
    | some w => exact (runs.worker w present).2
  exact (SessionManager.left_le m).trans (Nat.add_le_add own worker)

/-- A step of the calling thread brings its function closer to its end, or ends it. -/
theorem callStep_left {m next : SessionManager} (pending : m.Pending)
    (taken : m.callStep = some next) : next.left < m.left := by
  have same := left_pending pending
  have short (api : next.api.left < m.api.left) (worker : next.workerLeft ≤ m.workerLeft) :
      next.left < m.left := by
    have bound := SessionManager.left_le next
    omega
  have finished (idle : next.api = .idle) : next.left < m.left := by
    have returned : ¬0 < next.api.left := by
      rw [idle]
      exact Nat.lt_irrefl 0
    have none : next.left = 0 := if_neg returned
    rw [none, same]
    exact Nat.add_pos_left pending _
  cases callStep_cases taken with
  | requestStop call at_ =>
      rw [Pending, at_] at pending
      cases pending
  | disconnect call at_ => exact short (by rw [at_]; exact Nat.lt_succ_self 5) le_rfl
  | noWorker call at_ => exact short (by rw [at_]; exact Nat.lt_succ_self 4) le_rfl
  | joined call w at_ => exact short (by rw [at_]; exact Nat.lt_succ_self 4) (Nat.zero_le _)
  | shutdownCapture call at_ => exact short (by rw [at_]; exact Nat.lt_succ_self 3) le_rfl
  | shutdownEncoder call at_ => exact short (by rw [at_]; exact Nat.lt_succ_self 2) le_rfl
  | publishStopped call at_ => exact short (by rw [at_]; exact Nat.one_lt_two) le_rfl
  | stopped | startHost | startClient => exact finished rfl

theorem step_left {m next : SessionManager} {label : Label} (valid : Valid m) (runs : Runs m)
    (pending : m.Pending) (taken : m.step label = some next) :
    (if label.moves then 1 else 0) + next.left ≤ m.left := by
  cases label with
  | call call =>
      simp only [SessionManager.step] at taken
      split at taken
      · next idle =>
          rw [Pending, idle] at pending
          cases pending
      · cases taken
  | api =>
      have fewer := callStep_left pending taken
      rw [Label.moves, if_pos rfl]
      omega
  | setMonitorIndex | setInputEnabled | setClipboardEnabled | setAudioEnabled =>
      cases taken
      exact (Nat.zero_add _).le
  | worker os =>
      obtain ⟨w, present, working⟩ := Option.bind_eq_some_iff.mp taken
      obtain ⟨checked, _⟩ := runs.worker w present
      have running : w.pc ≠ .exited := by
        intro returned
        rw [work, returned] at working
        cases working
      have asked : m.stopRequested = true := by
        cases at_ : m.api with
        | disconnect call => exact valid.requested call (.inl at_)
        | join call => exact valid.requested call (.inr at_)
        | idle | requestStop =>
            rw [Pending, at_] at pending
            cases pending
        | shutdownCapture | shutdownEncoder | publishStopped | publishStart =>
            cases (valid.joined (by rw [at_]; rfl)).symm.trans present
      obtain ⟨next', w', working', there, advances⟩ := m.work_advances os checked running
      obtain rfl := Option.some.inj (working.symm.trans working')
      have fewer := advances.falls asked
      have api := (work_worked working).api
      have pending' : next.Pending := by
        rw [Pending, api]
        exact pending
      have before : m.left = m.api.left + w.pc.left := by
        rw [left_pending pending, workerLeft, present]
        rfl
      have after : next.left = m.api.left + w'.pc.left := by
        rw [left_pending pending', workerLeft, there, api]
        rfl
      rw [Label.moves, if_pos rfl, before, after]
      omega

/-- The two threads take no more steps than are left while the function has not returned. -/
theorem exec_left {m next : SessionManager} {labels : List Label} (valid : Valid m) (runs : Runs m)
    (run : exec step m labels = some next) (pending : Along step (fun s _ => s.Pending) m labels) :
    labels.countP Label.moves + next.left ≤ m.left := by
  induction labels generalizing m with
  | nil =>
      cases run
      exact (Nat.zero_add _).le
  | cons label labels ih =>
      obtain ⟨between, taken, rest⟩ := Transition.exec_cons_some run
      have first := step_left valid runs pending.head taken
      have later := ih (valid.step taken) (runs.step taken) rest (pending.tail taken)
      rw [List.countP_cons]
      omega

end SessionManager

/-- A call of the system that returns only when the peer does something, or the socket is closed:
`accept`, and every `send` and `recv`. -/
def Pc.waits (t : Transport) : Pc → Bool
  | .accept => t.listenSocket.isSome
  | .sendHello | .sendCapabilities | .sendSessionStart | .sendMetadata | .sendFrame | .sendPong
  | .sendPing | .receiveHeader | .receivePayload _ _ => t.socket.isSome
  | _ => false

namespace SessionManager

def waits (m : SessionManager) : Bool := m.worker.any fun w => w.pc.waits m.transport

/-- A step beside a peer that does nothing: a worker that waits for it does not go on. -/
def silentStep (m : SessionManager) : Label → Option SessionManager
  | .worker os => if m.waits then none else m.step (.worker os)
  | label => m.step label

theorem Deaf.waits {t : Transport} {pc : Pc} (deaf : Deaf t pc) : pc.waits t = false := by
  cases deaf with
  | closed closed => cases pc <;> simp [Pc.waits, closed.socket, closed.listenSocket]
  | dialed _ place =>
      simp only [List.mem_cons, List.not_mem_nil, or_false] at place
      rcases place with rfl | rfl | rfl | rfl <;> rfl

theorem LeavesBound.waits {t : Transport} {pc : Pc} (leaves : LeavesBound t pc) :
    pc.waits t = false := by
  obtain ⟨_, place⟩ := leaves
  cases place <;> rfl

/-- A call that joins the worker has closed the sockets that it could be waiting on. -/
def Unblocked (m : SessionManager) : Prop :=
  ∀ call w, m.api = .join call → m.worker = some w →
    Deaf m.transport w.pc ∨ LeavesBound m.transport w.pc

theorem Unblocked.work {m next : SessionManager} {w : Worker} {os : OsAnswers}
    (unblocked : Unblocked m) (valid : Valid m) (present : m.worker = some w)
    (working : m.work w os = some next) : Unblocked next := by
  intro call v joins there
  rw [(work_worked working).api] at joins
  have place : ∀ {w'}, next.worker = some w' →
      Deaf next.transport w'.pc ∨ LeavesBound next.transport w'.pc →
      Deaf next.transport v.pc ∨ LeavesBound next.transport v.pc := by
    intro w' at_ here
    obtain rfl := Option.some.inj (at_.symm.trans there)
    exact here
  rcases unblocked call w joins present with deaf | leaves
  · by_cases late : w.pc = .listen ∧ (m.transport.listen os.listen).2 = true
    · -- what was opened after the `disconnect` is not used any more
      obtain ⟨here, ok⟩ := late
      have opened := Transport.listen_open ok
      simp only [SessionManager.work, here, ok, if_true] at working
      cases working
      exact place rfl (.inr ⟨opened, .inputInitialize⟩)
    · obtain ⟨w', at_, after⟩ :=
        deaf.work (fun here => Bool.eq_false_iff.mpr fun ok => late ⟨here, ok⟩) working
      exact place at_ (.inl after)
  · obtain ⟨w', at_, after⟩ := leaves.work (valid.requested call (.inr joins)) working
    exact place at_ (.inr after)

theorem Unblocked.step {m next : SessionManager} {label : Label} (unblocked : Unblocked m)
    (valid : Valid m) (taken : m.step label = some next) : Unblocked next := by
  cases label with
  | call call =>
      simp only [SessionManager.step] at taken
      split at taken <;> cases taken
      rintro _ _ ⟨⟩
  | api =>
      cases callStep_cases taken with
      | disconnect call at_ => exact fun _ _ _ _ => .inl (.closed m.transport.closed_disconnect)
      | requestStop | noWorker | joined | shutdownCapture | shutdownEncoder | stopped
      | publishStopped | startHost | startClient => rintro _ _ ⟨⟩
  | setMonitorIndex | setInputEnabled | setClipboardEnabled | setAudioEnabled =>
      cases taken
      exact unblocked
  | worker os =>
      obtain ⟨w, present, working⟩ := Option.bind_eq_some_iff.mp taken
      exact unblocked.work valid present working

/-- What holds of every state while calls come and go. -/
structure Goes (m : SessionManager) : Prop where
  valid : Valid m
  runs : Runs m
  unblocked : Unblocked m

theorem Goes.step {m next : SessionManager} {label : Label} (goes : Goes m)
    (taken : m.step label = some next) : Goes next :=
  ⟨goes.valid.step taken, goes.runs.step taken, goes.unblocked.step goes.valid taken⟩

theorem goes_of_reachable {m : SessionManager} (reached : Transition.Reachable step {} m) :
    Goes m :=
  reached.invariant (fun _ _ _ goes taken => Goes.step goes taken)
    ⟨.initial, ⟨nofun, nofun⟩, nofun⟩

/-- The calling thread can go on, or it joins a worker that can, and that waits for nobody. -/
theorem Goes.enabled {m : SessionManager} (goes : Goes m) (busy : m.api ≠ .idle) :
    (∃ next, m.callStep = some next) ∨ (∃ call, m.api = .join call) ∧
      ∀ os, ∃ next, m.silentStep (.worker os) = some next := by
  have called (goes : m.callStep.isSome) : (∃ next, m.callStep = some next) ∨
      (∃ call, m.api = .join call) ∧ ∀ os, ∃ next, m.silentStep (.worker os) = some next :=
    .inl (Option.isSome_iff_exists.mp goes)
  cases at_ : m.api with
  | idle => exact absurd at_ busy
  | requestStop | disconnect | shutdownCapture | shutdownEncoder | publishStopped =>
      rw [← at_]
      refine called ?_
      simp only [callStep, at_, Option.isSome_some]
  | join call =>
      rw [← at_]
      cases present : m.worker with
      | none =>
          refine called ?_
          simp only [callStep, at_, present, Option.isSome_some]
      | some w =>
          by_cases returned : w.pc = .exited
          · refine called ?_
            simp only [callStep, at_, present, returned, if_true, Option.isSome_some]
          · refine .inr ⟨⟨call, at_⟩, fun os => ?_⟩
            obtain ⟨next, _, working, _⟩ :=
              m.work_advances os (goes.runs.worker w present).1 returned
            have free : m.waits = false := by
              rw [SessionManager.waits, present]
              exact (goes.unblocked call w at_ present).elim (·.waits) (·.waits)
            refine ⟨next, ?_⟩
            rw [silentStep, free, if_neg Bool.false_ne_true, SessionManager.step, present]
            exact working
  | publishStart call =>
      cases call with
      | startHost | startClient =>
          rw [← at_]
          refine called ?_
          simp only [callStep, at_]
          rfl
      | stop => exact absurd at_ goes.runs.starts

/-- How many steps a call takes at most, with the one that requests the stop. -/
def toReturn (m : SessionManager) : Nat :=
  match m.api with
  | .requestStop _ => 20
  | _ => m.left

theorem toReturn_eq {m : SessionManager} (requested : ∀ call, m.api ≠ .requestStop call) :
    m.toReturn = m.left := by
  unfold toReturn
  split
  · next call at_ => exact absurd at_ (requested call)
  · rfl

theorem Goes.toReturn_le {m : SessionManager} (goes : Goes m) : m.toReturn ≤ 20 := by
  have least := goes.runs.left_le
  unfold toReturn
  split <;> omega

theorem callStep_toReturn {m next : SessionManager} (goes : Goes m)
    (taken : m.callStep = some next) : next.toReturn < m.toReturn := by
  have called : m.step .api = some next := taken
  have goes' : Goes next := goes.step called
  have after : ∀ call, next.api ≠ .requestStop call := by
    intro call
    cases callStep_cases taken <;> nofun
  rw [toReturn_eq after]
  by_cases asks : ∃ call, m.api = .requestStop call
  · obtain ⟨call, at_⟩ := asks
    have least := goes'.runs.left_le
    rw [toReturn, at_]
    exact Nat.lt_succ_of_le least
  · rw [toReturn_eq fun call at_ => asks ⟨call, at_⟩]
    refine callStep_left ?_ taken
    unfold Pending
    cases at_ : m.api with
    | idle => rw [callStep, at_] at taken; cases taken
    | requestStop call => exact absurd ⟨call, at_⟩ asks
    | _ => exact Nat.succ_pos _

/-- Every public function that starts or stops a session returns, whatever the peer does or leaves:
while it has not, one of the two threads can take a step that does not wait for the peer; from its
request to stop on the two take at most 19; and so it has returned after 20 of them, whatever the
system answers. -/
theorem calls_return {m : SessionManager} (reached : Transition.Reachable step {} m)
    (busy : m.api ≠ .idle) :
    ((∃ next, m.silentStep .api = some next) ∨
      ∀ os, ∃ next, m.silentStep (.worker os) = some next) ∧
    (∀ labels next, exec step m labels = some next →
      Along step (fun s _ => s.Pending) m labels → labels.countP Label.moves ≤ 19) ∧
    ∀ answers : SessionManager → OsAnswers, ∃ labels next,
      exec silentStep m labels = some next ∧ next.api = .idle ∧ labels.length ≤ 20 ∧
      Along silentStep (fun s label => label = .api ∨ label = .worker (answers s)) m labels := by
  have goes := goes_of_reachable reached
  refine ⟨(goes.enabled busy).imp_right (·.2), ?_, fun answers => ?_⟩
  · intro labels next run pending
    have bound := exec_left goes.valid goes.runs run pending
    have least := goes.runs.left_le
    omega
  · have progress : ∀ s, Goes s → s.api = .idle ∨ ∃ label t,
        (label = .api ∨ label = .worker (answers s)) ∧ s.silentStep label = some t ∧ Goes t ∧
        t.toReturn < s.toReturn := by
      intro s goes
      by_cases idle : s.api = .idle
      · exact .inl idle
      rcases goes.enabled idle with ⟨t, taken⟩ | ⟨⟨call, joins⟩, works⟩
      · have called : s.step .api = some t := taken
        exact .inr ⟨.api, t, .inl rfl, taken, goes.step called, callStep_toReturn goes taken⟩
      · obtain ⟨t, taken⟩ := works (answers s)
        have plain : s.step (.worker (answers s)) = some t := by
          rw [silentStep] at taken
          split at taken
          · cases taken
          · exact taken
        have pending : s.Pending := by
          rw [Pending, joins]
          exact Nat.succ_pos 4
        have fewer := step_left goes.valid goes.runs pending plain
        rw [Label.moves, if_pos rfl] at fewer
        obtain ⟨w, _, working⟩ := Option.bind_eq_some_iff.mp plain
        have still : t.api = .join call := (work_worked working).api.trans joins
        refine .inr ⟨_, t, .inr rfl, taken, goes.step plain, ?_⟩
        rw [toReturn_eq (by rw [still]; nofun), toReturn_eq (by rw [joins]; nofun)]
        omega
    obtain ⟨labels, next, run, idle, short, along⟩ :=
      Transition.exec_reaches toReturn progress goes
    exact ⟨labels, next, run, idle, short.trans goes.toReturn_le, along⟩

/-- A host waits in `accept`; when it is stopped its worker goes on, without a client. -/
theorem calls_return_stop :
    let stopping := hostRun (List.replicate 5 {}) ++ [.call .stop, .api]
    ∃ waiting joining, exec step {} stopping = some waiting ∧ waiting.waits = true ∧
      exec step {} (stopping ++ [.api]) = some joining ∧ joining.api = .join .stop ∧
      joining.callStep = none ∧ (∃ next, joining.silentStep (.worker {}) = some next) ∧
      ∃ labels next, exec silentStep joining labels = some next ∧ next.api = .idle := by
  intro stopping
  obtain ⟨joining, reached, joins, held⟩ : ∃ joining,
      exec step {} (stopping ++ [.api]) = some joining ∧ joining.api = .join .stop ∧
        joining.callStep = none := ⟨_, rfl, rfl, rfl⟩
  obtain ⟨moves, _, returns⟩ := calls_return ⟨_, reached⟩ (by rw [joins]; nofun)
  obtain ⟨labels, next, run, idle, _⟩ := returns fun _ => {}
  refine ⟨_, joining, rfl, rfl, reached, joins, held, ?_, labels, next, run, idle⟩
  refine moves.elim (fun goes => ?_) (fun works => works {})
  obtain ⟨next, taken⟩ := goes
  cases held.symm.trans taken

end SessionManager
end Screenscrab.Session
