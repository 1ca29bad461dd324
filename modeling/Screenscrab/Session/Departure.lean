import Screenscrab.Session.Listener
import Screenscrab.Session.Termination

/-! How a host parts with a client. Once the client has gone, a frame is enough to end the session
soon; and the host that goes back to accepting has no listener left to accept with. -/
namespace Screenscrab.Session
open Protocol LittleEndian
open Transition (exec Along)

/-- How many steps a worker takes at most to the end of its session, once the client has gone. -/
def Pc.back : Pc → Nat
  | .endSession => 1
  | .endDisconnect => 2
  | .sendFailed => 3
  | .sendMetadata | .sendFrame => 6
  | .encode => 7
  | .capture => 8
  | .innerConnected => 9
  | .innerHead => 10
  | .startPing | .sendPing => 11
  | .sendSessionStart | .pingDue => 12
  | .sendCapabilities | .processDisconnect => 13
  | .sendHello | .handlerDisconnect => 14
  | .clientJoined => 15
  | .receiveHeader | .receivePayload _ _ => 16
  | .processPoll => 17
  | .processConnected => 18
  | .processHead => 19
  | .countFrame | .sendPong => 20
  | .handlePacket _ => 21
  | .readError _ next => next.back + 2
  | .applyError _ _ next => next.back + 1
  | _ => 0

/-- From the join of a client to the end of its session. -/
def Pc.InSession (pc : Pc) : Prop :=
  pc.zone = .admitting ∨ pc.zone = .serving ∨ pc.zone = .closing

instance (pc : Pc) : Decidable pc.InSession :=
  inferInstanceAs (Decidable (pc.zone = .admitting ∨ pc.zone = .serving ∨ pc.zone = .closing))

/-- A step of the worker: when the client has `gone` it brings the end of the session closer. -/
structure Departs (gone : Prop) (pc target : Pc) : Prop where
  bounded : target.back ≤ max 21 pc.back
  falls : gone → pc.InSession → target.back < pc.back

theorem Departs.branch {gone : Prop} {pc yes no : Pc} {p : Prop} [Decidable p]
    (first : Departs gone pc yes) (second : Departs gone pc no) :
    Departs gone pc (if p then yes else no) := by
  split
  · exact first
  · exact second

/-- Where a step leads that does not depend on the client. -/
theorem Departs.short {gone : Prop} {pc target : Pc} (near : target.back ≤ 21)
    (falls : pc.InSession → target.back < pc.back) : Departs gone pc target :=
  ⟨near.trans (le_max_left 21 _), fun _ => falls⟩

theorem Transport.sendAll_failed (t : Transport) : (t.sendAll false).2 = false := by
  unfold Transport.sendAll
  split <;> rfl

theorem Transport.receiveAll_failed (t : Transport) : (t.receiveAll none).2 = none := by
  unfold Transport.receiveAll
  split <;> rfl

/-- A step of the worker. -/
def Label.isWork : Label → Bool
  | .worker _ => true
  | _ => false

namespace SessionManager

/-- What a step of the worker is answered when the client has gone: a frame is there, and the
socket neither takes nor brings anything. -/
def Gone (m : SessionManager) (os : OsAnswers) : Pc → Prop
  | .capture => m.capture = true ∧ os.ok = true
  | .encode => m.encoder.isSome = true ∧ os.ok = true
  | .sendMetadata | .sendFrame => os.ok = false
  | .receiveHeader | .receivePayload _ _ => os.received = none
  | _ => True

theorem afterHeader_back {header : Bytes} {target : Pc} (read : afterHeader header = some target) :
    target.back ≤ 21 := by
  simp only [afterHeader, Option.bind_eq_bind, Option.pure_def, Option.bind_eq_some_iff] at read
  obtain ⟨magic, _, version, _, read⟩ := read
  split at read
  · cases read
    decide
  · obtain ⟨payloadSize, _, read⟩ := Option.bind_eq_some_iff.mp read
    split at read
    · cases read
      decide
    split at read
    · cases read
      exact le_rfl
    · cases read
      exact (show 16 ≤ 21 by decide)

theorem afterPacket_back {m : SessionManager} {os : OsAnswers} {packet : Bytes} {target : Pc}
    (handled : m.afterPacket os packet = some target) : target.back ≤ 20 := by
  simp only [afterPacket, Option.bind_eq_bind, Option.pure_def, Option.bind_eq_some_iff] at handled
  obtain ⟨handling, _, handled⟩ := handled
  cases handling with
  | returns result =>
      cases handled
      cases result <;> decide
  | calls call =>
      cases call with
      | sendPong =>
          cases handled
          exact le_rfl
      | _ =>
          cases handled
          cases os.ok <;> decide
  | invalid =>
      cases handled
      decide
  | disconnects =>
      cases handled
      decide

theorem work_departs {m next : SessionManager} {w : Worker} {os : OsAnswers}
    (taken : m.work w os = some next) :
    ∃ w', next.worker = some w' ∧ Departs (m.Gone os w.pc) w.pc w'.pc := by
  obtain ⟨pc, lastPing⟩ := w
  have plain {m' : SessionManager} {v : Worker} {target : Pc}
      (there : Departs (m.Gone os pc) pc target) (same : m'.goto v target = next) :
      ∃ w', next.worker = some w' ∧ Departs (m.Gone os pc) pc w'.pc := by
    rw [← same]
    exact ⟨_, rfl, there⟩
  cases pc with
  | hostReady | clientJoined | sendHello | sendCapabilities | sendSessionStart | startPing
  | sendFailed | countFrame | handlerDisconnect | processDisconnect | sendPing | endDisconnect
  | endSession | clientReady | clientDisconnect | clientEnded =>
      exact plain (.short (by decide) (by decide)) (Option.some.inj taken)
  | listen | inputInitialize | captureInitialize | accept | innerConnected | processConnected
  | processPoll | sendPong | connect | clientConnected | outerHead | acceptFailed | innerHead
  | processHead | clientHead =>
      exact plain (.branch (.short (by decide) (by decide)) (.short (by decide) (by decide)))
        (Option.some.inj taken)
  | capture =>
      refine plain ?_ (Option.some.inj taken)
      split
      · exact .short (by decide) (by decide)
      · next missed =>
          exact ⟨by decide, fun gone => absurd gone missed⟩
  | encode =>
      refine plain ?_ (Option.some.inj taken)
      split
      · exact .short (by decide) (by decide)
      · next missed =>
          exact ⟨by decide, fun gone => absurd gone missed⟩
  | sendMetadata | sendFrame =>
      simp only [work] at taken
      refine plain ?_ (Option.some.inj taken)
      split
      · next sent =>
          refine ⟨by decide, fun gone => ?_⟩
          rw [show os.ok = false from gone, m.transport.sendAll_failed] at sent
          cases sent
      · exact .short (by decide) (by decide)
  | pingDue =>
      simp only [work] at taken
      split at taken
      · exact plain (.short (by decide) (by decide)) (Option.some.inj taken)
      · exact plain (.short (by decide) (by decide)) (Option.some.inj taken)
  | receiveHeader =>
      have lost : Departs (m.Gone os .receiveHeader) .receiveHeader
          (.readError "packet header receive failed" .processDisconnect) :=
        .short (by decide) (by decide)
      simp only [work] at taken
      split at taken
      · exact plain lost (Option.some.inj taken)
      · next header received =>
          obtain ⟨target, read, same⟩ := Option.map_eq_some_iff.mp taken
          refine plain ⟨(afterHeader_back read).trans (by decide), fun gone => ?_⟩ same
          rw [show os.received = none from gone, Option.filter_none,
            m.transport.receiveAll_failed] at received
          cases received
  | receivePayload header payloadSize =>
      have lost : Departs (m.Gone os (.receivePayload header payloadSize))
          (.receivePayload header payloadSize)
          (.readError "packet payload receive failed" .processDisconnect) :=
        .short (by decide) fun _ => (show 15 < 16 by decide)
      simp only [work] at taken
      split at taken
      · exact plain lost (Option.some.inj taken)
      · next payload received =>
          refine plain ⟨le_max_left 21 16, fun gone => ?_⟩ (Option.some.inj taken)
          rw [show os.received = none from gone, Option.filter_none,
            m.transport.receiveAll_failed] at received
          cases received
  | handlePacket packet =>
      obtain ⟨target, handled, same⟩ := Option.map_eq_some_iff.mp taken
      have short := afterPacket_back handled
      exact plain (.short (short.trans (by decide)) fun _ => Nat.lt_succ_of_le short) same
  | readError message target =>
      refine plain ⟨?_, fun _ _ => ?_⟩ (Option.some.inj taken)
      · exact (Nat.le_succ _).trans (le_max_right 21 _)
      · exact Nat.lt_succ_self _
  | applyError code message target =>
      refine plain ⟨?_, fun _ _ => ?_⟩ (Option.some.inj taken)
      · exact (Nat.le_succ _).trans (le_max_right 21 _)
      · exact Nat.lt_succ_self _
  | exited => cases taken

/-- The worker is in a session whose client has gone. -/
def Vanished (m : SessionManager) (label : Label) : Prop :=
  ∃ w, m.worker = some w ∧ w.pc.InSession ∧ ∀ os, label = .worker os → m.Gone os w.pc

def workerBack (m : SessionManager) : Nat := (m.worker.map fun w => w.pc.back).getD 0

theorem callStep_worker {m next : SessionManager} (taken : m.callStep = some next) :
    next.worker = m.worker ∨ next.workerBack = 0 := by
  cases callStep_cases taken with
  | joined | startHost | startClient => exact .inr rfl
  | requestStop | disconnect | noWorker | shutdownCapture | shutdownEncoder | stopped
  | publishStopped => exact .inl rfl

theorem step_back {m next : SessionManager} {label : Label} (vanished : m.Vanished label)
    (taken : m.step label = some next) :
    (if label.isWork then 1 else 0) + next.workerBack ≤ m.workerBack := by
  obtain ⟨w, present, inside, gone⟩ := vanished
  cases label with
  | worker os =>
      obtain ⟨v, there, worked⟩ := Option.bind_eq_some_iff.mp taken
      obtain rfl := Option.some.inj (present.symm.trans there)
      obtain ⟨w', after, departs⟩ := work_departs worked
      have fewer := departs.falls (gone os rfl) inside
      rw [workerBack, workerBack, present, after, Label.isWork, if_pos rfl]
      exact (Nat.add_comm 1 _).trans_le fewer
  | api =>
      rw [show Label.isWork .api = false from rfl, if_neg Bool.false_ne_true, Nat.zero_add]
      rcases callStep_worker taken with same | none
      · rw [workerBack, workerBack, same]
      · rw [none]
        exact Nat.zero_le _
  | call call =>
      simp only [step] at taken
      split at taken <;> cases taken
      exact (Nat.zero_add _).le
  | setMonitorIndex | setInputEnabled | setClipboardEnabled | setAudioEnabled =>
      cases taken
      exact (Nat.zero_add _).le

theorem exec_back {m next : SessionManager} {labels : List Label}
    (vanished : Along step (fun s label => s.Vanished label) m labels)
    (run : exec step m labels = some next) :
    labels.countP Label.isWork + next.workerBack ≤ m.workerBack := by
  induction labels generalizing m with
  | nil =>
      cases run
      exact (Nat.zero_add _).le
  | cons label labels ih =>
      obtain ⟨between, taken, rest⟩ := Transition.exec_cons_some run
      have first := step_back vanished.head taken
      have later := ih (vanished.tail taken) rest
      rw [List.countP_cons]
      omega

theorem step_short {m next : SessionManager} {label : Label} (short : m.workerBack ≤ 21)
    (taken : m.step label = some next) : next.workerBack ≤ 21 := by
  cases label with
  | worker os =>
      obtain ⟨w, present, worked⟩ := Option.bind_eq_some_iff.mp taken
      obtain ⟨w', after, departs⟩ := work_departs worked
      rw [workerBack, present] at short
      rw [workerBack, after]
      exact departs.bounded.trans (max_le le_rfl short)
  | api =>
      rcases callStep_worker taken with same | none
      · rw [workerBack, same]
        exact short
      · rw [none]
        exact Nat.zero_le 21
  | call call =>
      simp only [step] at taken
      split at taken <;> cases taken
      exact short
  | setMonitorIndex | setInputEnabled | setClipboardEnabled | setAudioEnabled =>
      cases taken
      exact short

/-- A session whose client has gone, so that `send` and `recv` fail, ends if a frame is there: in
every interleaving the worker takes at most 21 steps in it, and it can always take the next one. -/
theorem vanished_client_ends_session {m next : SessionManager} {labels : List Label}
    (reached : Transition.Reachable step {} m)
    (vanished : Along step (fun s label => s.Vanished label) m labels)
    (run : exec step m labels = some next) :
    labels.countP Label.isWork ≤ 21 ∧
    ∀ w, next.worker = some w → w.pc.InSession →
      ∀ os, ∃ after, next.step (.worker os) = some after := by
  constructor
  · have start : workerBack {} ≤ 21 := Nat.zero_le 21
    have short : m.workerBack ≤ 21 :=
      reached.invariant (fun _ _ _ short taken => step_short short taken) start
    have counted := exec_back vanished run
    omega
  · intro w present inside os
    have later : Transition.Reachable step {} next := by
      obtain ⟨before, there⟩ := reached
      refine ⟨before ++ labels, ?_⟩
      rw [Transition.exec_append, there]
      exact run
    have runs := runs_of_reachable later
    have running : w.pc ≠ .exited := by
      intro returned
      rw [returned] at inside
      exact absurd inside (by decide)
    obtain ⟨after, _, working, _⟩ := next.work_advances os (runs.worker w present).1 running
    refine ⟨after, ?_⟩
    rw [step, present]
    exact working

/-- The client has gone when the first frame is sent to it. -/
theorem vanished_client_ends_session_frame :
    let labels := List.replicate 6 (Label.worker { ok := false })
    ∃ m next, exec step {} (hostRun [{}] ++ List.replicate 14 (.worker {})) = some m ∧
      exec step m labels = some next ∧ labels.countP Label.isWork ≤ 21 := by
  intro labels
  refine ⟨_, _, rfl, rfl, ?_⟩
  refine (vanished_client_ends_session ⟨hostRun [{}] ++ List.replicate 14 (.worker {}), rfl⟩ ?_
    rfl).1
  have first {m : SessionManager} (gone : m.Gone { ok := false } .sendMetadata) (os : OsAnswers)
      (same : Label.worker { ok := false } = .worker os) : m.Gone os .sendMetadata := by
    cases same
    exact gone
  refine .cons ⟨_, rfl, by decide, first rfl⟩ rfl ?_
  iterate 5 refine .cons ⟨_, rfl, by decide, fun _ _ => trivial⟩ rfl ?_
  exact .nil _

/-- A host that is at `accept` after its first client has no listener any more. -/
theorem Served.refuses {m : SessionManager} (served : Served m)
    (at_ : m.worker.map Worker.pc = some .accept) (answer : Except Int32 SOCKET) :
    m.transport.accept answer = ({ m.transport with lastError := wsaEINVAL }, false) := by
  obtain ⟨w, present, place⟩ := served
  obtain ⟨v, there, here⟩ := Option.map_eq_some_iff.mp at_
  obtain rfl := Option.some.inj (present.symm.trans there)
  rw [here] at place
  rcases place with admitting | serving | exited | ⟨_, closed⟩
  · cases admitting
  · cases serving
  · cases exited
  · exact if_pos closed

/-- A host serves one client. After the first `accept` that succeeds, and until the worker is
joined, every other fails with `WSAEINVAL`, while the host is reported to be listening. -/
theorem one_client_per_start {m next last : SessionManager} {label : Label} {labels : List Label}
    (reached : Transition.Reachable SessionManager.step {} m) (accepts : m.Accepts label)
    (taken : m.step label = some next) (run : exec invocationStep next labels = some last) :
    Unaccepted next labels ∧ (last.worker.map Worker.pc = some .accept →
      last.snapshot.transportState = .listening ∧ ∀ answer,
        last.transport.accept answer =
          ({ last.transport with lastError := wsaEINVAL }, false)) := by
  let I (m : SessionManager) : Prop := Served m ∧ Valid m
  have keep : ∀ m label next, I m → m.invocationStep label = some next → I next := by
    rintro m label next ⟨served, valid⟩ taken
    exact ⟨served.step valid taken, valid.step (invocationStep_some taken).1⟩
  have begun : I next :=
    ⟨served_of_accept accepts taken, (valid_of_reachable reached).step taken⟩
  constructor
  · intro before again after t _ there accepts
    have served : Served t := (Transition.exec_invariant keep begun there).1
    cases again with
    | worker os =>
        obtain ⟨at_, ok⟩ := accepts
        rw [served.refuses at_] at ok
        cases ok
    | call | api | setMonitorIndex | setInputEnabled | setClipboardEnabled | setAudioEnabled =>
        exact accepts.elim
  · intro at_
    obtain ⟨served, valid⟩ := Transition.exec_invariant keep begun run
    refine ⟨?_, served.refuses at_⟩
    obtain ⟨w, present, here⟩ := Option.map_eq_some_iff.mp at_
    have fits := valid.worker w present
    rw [here] at fits
    exact HostIdle.transportState fits

/-- After a client that has come and gone, `accept` is not even tried. -/
theorem one_client_per_start_second :
    let labels := List.replicate 9 (Label.worker {}) ++ List.replicate 6 (.worker { ok := false })
    ∃ m next last, exec step {} (hostRun (List.replicate 5 {})) = some m ∧
      m.step (.worker {}) = some next ∧
      exec invocationStep next (labels ++ [.worker {}]) = some last ∧
      last.snapshot.transportState = .listening ∧
      last.transport.accept (.ok 9) = ({ last.transport with lastError := wsaEINVAL }, false) := by
  intro labels
  have visit : ∃ m next last, exec step {} (hostRun (List.replicate 5 {})) = some m ∧
      m.Accepts (.worker {}) ∧ m.step (.worker {}) = some next ∧
      exec invocationStep next (labels ++ [.worker {}]) = some last ∧
      last.worker.map Worker.pc = some .accept := ⟨_, _, _, rfl, ⟨rfl, rfl⟩, rfl, rfl, rfl⟩
  obtain ⟨m, next, last, reached, accepts, taken, run, at_⟩ := visit
  obtain ⟨listening, refuses⟩ := (one_client_per_start ⟨_, reached⟩ accepts taken run).2 at_
  exact ⟨m, next, last, reached, taken, run, listening, refuses (.ok 9)⟩

end SessionManager
end Screenscrab.Session
