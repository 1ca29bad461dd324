import Screenscrab.Session.Status

/-! The listening socket over one invocation of `run_host_loop`: ending a session with
`Transport::disconnect` closes it together with the connection. -/
namespace Screenscrab.Session.SessionManager

/-- A step during one invocation of the worker function, which ends when it is joined. -/
def invocationStep (m : SessionManager) (label : Label) : Option SessionManager :=
  (m.step label).filter (·.worker.isSome)

/-- The step is an `accept` that succeeds. -/
def Accepts (m : SessionManager) : Label → Prop
  | .worker os => m.worker.map Worker.pc = some .accept ∧ (m.transport.accept os.accept).2 = true
  | _ => False

/-- No `accept` of the run succeeds. -/
def Unaccepted (start : SessionManager) (labels : List Label) : Prop :=
  Transition.Along invocationStep (fun m label => ¬ m.Accepts label) start labels

theorem invocationStep_some {m next : SessionManager} {label : Label}
    (taken : m.invocationStep label = some next) :
    m.step label = some next ∧ next.worker.isSome = true :=
  Option.filter_eq_some_iff.mp taken

/-- What the calling thread can do to a worker that it does not join. -/
theorem callStep_beside {m next : SessionManager} {w : Worker} (valid : Valid m)
    (present : m.worker = some w) (taken : m.callStep = some next)
    (stays : next.worker.isSome = true) :
    next.worker = some w ∧ (m.stopRequested = true → next.stopRequested = true) ∧
    (next.transport = m.transport ∨
      (m.stopRequested = true ∧ next.transport = m.transport.disconnect)) := by
  have early {pc : ApiPc} (at_ : m.api = pc) : pc.pastJoin = false := by
    cases past : pc.pastJoin with
    | false => rfl
    | true => cases (valid.joined (by rw [at_, past])).symm.trans present
  cases callStep_cases taken with
  | requestStop => exact ⟨present, fun _ => rfl, .inl rfl⟩
  | disconnect call at_ =>
      exact ⟨present, id, .inr ⟨valid.requested call (.inl at_), rfl⟩⟩
  | noWorker call at_ none => cases none.symm.trans present
  | joined => cases stays
  | shutdownCapture call at_ | shutdownEncoder call at_ | stopped at_ | publishStopped call at_
  | startHost deviceName port at_ | startClient address port at_ => cases early at_

/-- A step of an invocation is one of the worker or leaves it where it stands. -/
theorem invocation_cases {m next : SessionManager} {label : Label} {w : Worker} (valid : Valid m)
    (present : m.worker = some w) (taken : m.invocationStep label = some next) :
    (∃ os, label = .worker os ∧ m.work w os = some next) ∨
    (next.worker = some w ∧ (m.stopRequested = true → next.stopRequested = true) ∧
      (next.transport = m.transport ∨
        (m.stopRequested = true ∧ next.transport = m.transport.disconnect))) := by
  obtain ⟨taken, stays⟩ := invocationStep_some taken
  cases label with
  | call call =>
      simp only [step] at taken
      split at taken
      · cases taken
        exact .inr ⟨present, id, .inl rfl⟩
      · cases taken
  | api => exact .inr (callStep_beside valid present taken stays)
  | setMonitorIndex | setInputEnabled | setClipboardEnabled | setAudioEnabled =>
      cases taken
      exact .inr ⟨present, id, .inl rfl⟩
  | worker os =>
      obtain ⟨v, there, worked⟩ := Option.bind_eq_some_iff.mp taken
      cases present.symm.trans there
      exact .inl ⟨os, rfl, worked⟩

/-- Before the first client: the listener is open unless a stop has been requested. -/
def Unserved (m : SessionManager) : Prop :=
  m.stopRequested = true ∨ ∃ w, m.worker = some w ∧
    (w.pc.zone = .exited ∨
      ((w.pc.zone = .opening ∨ w.pc.zone = .waiting) ∧ m.transport.listenSocket.isSome = true))

/-- From the first client on: every end of a session closes the listener. -/
def Served (m : SessionManager) : Prop :=
  ∃ w, m.worker = some w ∧
    (w.pc.zone = .admitting ∨ w.pc.zone = .serving ∨ w.pc.zone = .exited ∨
      ((w.pc.zone = .closing ∨ w.pc.zone = .waiting) ∧ m.transport.listenSocket = none))

theorem Unserved.step {m next : SessionManager} {label : Label} {w : Worker} (valid : Valid m)
    (present : m.worker = some w) (unserved : Unserved m) (refused : ¬ m.Accepts label)
    (taken : m.invocationStep label = some next) : Unserved next := by
  rcases invocation_cases valid present taken with ⟨os, rfl, worked⟩ | ⟨still, stop, transport⟩
  · obtain ⟨_, stop, w', there, moves⟩ := work_worked worked
    rcases unserved with asked | ⟨v, at_, place⟩
    · exact .inl (stop.trans asked)
    cases present.symm.trans at_
    refine .inr ⟨w', there, ?_⟩
    generalize w'.pc.zone = zone' at moves ⊢
    rcases place with ended | ⟨opening | waiting, listening⟩
    · rw [ended] at moves
      cases moves with
      | stay => exact .inl rfl
    · rw [opening] at moves
      cases moves with
      | stay zone same listener =>
          exact .inr ⟨.inl rfl, by rw [listener (.inl rfl)]; exact listening⟩
      | openFailed => exact .inl rfl
      | opened published transport => exact .inr ⟨.inr rfl, by rw [transport]; exact listening⟩
    · rw [waiting] at moves
      cases moves with
      | stay zone same listener =>
          exact .inr ⟨.inr rfl, by rw [listener (.inr (.inl rfl))]; exact listening⟩
      | accepted same at_ ok =>
          refine absurd ⟨?_, ok⟩ refused
          rw [present, Option.map_some, at_]
      | stops => exact .inl rfl
  · rcases unserved with asked | ⟨v, at_, place⟩
    · exact .inl (stop asked)
    cases present.symm.trans at_
    rcases transport with kept | ⟨asked, _⟩
    · exact .inr ⟨w, still, by rw [kept]; exact place⟩
    · exact .inl (stop asked)

theorem Served.step {m next : SessionManager} {label : Label} (valid : Valid m)
    (served : Served m) (taken : m.invocationStep label = some next) : Served next := by
  obtain ⟨w, present, place⟩ := served
  rcases invocation_cases valid present taken with ⟨os, rfl, worked⟩ | ⟨still, stop, transport⟩
  · obtain ⟨_, stop, w', there, moves⟩ := work_worked worked
    refine ⟨w', there, ?_⟩
    generalize w'.pc.zone = zone' at moves ⊢
    rcases place with admitting | serving | exited | ⟨closing | waiting, closed⟩
    · rw [admitting] at moves
      cases moves with
      | stay => exact .inl rfl
      | joins => exact .inr (.inl rfl)
    · rw [serving] at moves
      cases moves with
      | stay => exact .inr (.inl rfl)
      | closes same transport => exact .inr (.inr (.inr ⟨.inl rfl, by rw [transport]; rfl⟩))
    · rw [exited] at moves
      cases moves with
      | stay => exact .inr (.inr (.inl rfl))
    · rw [closing] at moves
      cases moves with
      | stay zone same listener =>
          exact .inr (.inr (.inr ⟨.inl rfl, by rw [listener (.inr (.inr rfl))]; exact closed⟩))
      | ended published transport =>
          exact .inr (.inr (.inr ⟨.inr rfl, by rw [transport]; exact closed⟩))
    · rw [waiting] at moves
      cases moves with
      | stay zone same listener =>
          exact .inr (.inr (.inr ⟨.inr rfl, by rw [listener (.inr (.inl rfl))]; exact closed⟩))
      | accepted => exact .inl rfl
      | stops => exact .inr (.inr (.inl rfl))
  · refine ⟨w, still, ?_⟩
    rcases transport with kept | ⟨_, disconnected⟩
    · rw [kept]
      exact place
    · rw [disconnected]
      rcases place with admitting | serving | exited | ⟨place, _⟩
      · exact .inl admitting
      · exact .inr (.inl serving)
      · exact .inr (.inr (.inl exited))
      · exact .inr (.inr (.inr ⟨place, rfl⟩))

theorem served_of_accept {m next : SessionManager} {label : Label} (accepts : m.Accepts label)
    (taken : m.step label = some next) : Served next := by
  cases label with
  | worker os =>
      obtain ⟨at_, ok⟩ := accepts
      obtain ⟨w, present, here⟩ := Option.map_eq_some_iff.mp at_
      obtain ⟨v, there, worked⟩ := Option.bind_eq_some_iff.mp taken
      cases present.symm.trans there
      simp only [work, here, ok, if_true] at worked
      cases worked
      exact ⟨_, rfl, .inl rfl⟩
  | call | api | setMonitorIndex | setInputEnabled | setClipboardEnabled | setAudioEnabled =>
      exact accepts.elim

theorem unserved_of_exec {start m : SessionManager} {labels : List Label} (valid : Valid start)
    (present : start.worker.isSome = true) (unserved : Unserved start)
    (run : Transition.exec invocationStep start labels = some m)
    (unaccepted : Unaccepted start labels) : Unserved m := by
  let I (m : SessionManager) : Prop := Unserved m ∧ Valid m ∧ m.worker.isSome = true
  have keep : ∀ m label next, I m → ¬ m.Accepts label → m.invocationStep label = some next →
      I next := by
    rintro m label next ⟨unserved, valid, present⟩ refused taken
    obtain ⟨w, at_⟩ := Option.isSome_iff_exists.mp present
    obtain ⟨stepped, stays⟩ := invocationStep_some taken
    exact ⟨unserved.step valid at_ refused taken, valid.step stepped, stays⟩
  have finish : I m := Transition.exec_along keep ⟨unserved, valid, present⟩ run unaccepted
  exact finish.1

theorem served_of_accepted {start m : SessionManager} {labels : List Label} (valid : Valid start)
    (run : Transition.exec invocationStep start labels = some m)
    (accepted : ¬ Unaccepted start labels) : Served m := by
  obtain ⟨before, label, after, middle, next, rfl, reached, accepts, taken, rest⟩ :=
    Transition.exec_of_not_along run accepted
  obtain ⟨stepped, _⟩ := invocationStep_some taken
  have validMiddle : Valid middle := Transition.exec_invariant
    (fun _ _ _ valid taken => Valid.step valid (invocationStep_some taken).1) valid reached
  let I (m : SessionManager) : Prop := Served m ∧ Valid m
  have keep : ∀ m label next, I m → m.invocationStep label = some next → I next := by
    rintro m label next ⟨served, valid⟩ taken
    exact ⟨served.step valid taken, valid.step (invocationStep_some taken).1⟩
  have begun : I next := ⟨served_of_accept (not_not.mp accepts) stepped, validMiddle.step stepped⟩
  have finish : I m := Transition.exec_invariant keep begun rest
  exact finish.1

/-- After a successful `listen`: back at the head of the accept loop, and not asked to stop, the
host still has its listening socket exactly when no `accept` has succeeded so far. -/
theorem listener_open_iff {start m : SessionManager}
    (reached : Transition.Reachable SessionManager.step {} start)
    (listened : start.worker.map Worker.pc = some .inputInitialize)
    (listening : start.transport.listenSocket ≠ none) {labels : List Label}
    (run : Transition.exec invocationStep start labels = some m)
    (head : m.worker.map Worker.pc = some .outerHead) (unasked : m.stopRequested = false) :
    m.transport.listenSocket ≠ none ↔ Unaccepted start labels := by
  obtain ⟨w, present, opening⟩ := Option.map_eq_some_iff.mp listened
  obtain ⟨v, there, atHead⟩ := Option.map_eq_some_iff.mp head
  have valid := valid_of_reachable reached
  constructor
  · intro open_
    by_contra accepted
    obtain ⟨v', there', place⟩ := served_of_accepted valid run accepted
    cases there.symm.trans there'
    rw [atHead] at place
    rcases place with admitting | serving | exited | ⟨_, closed⟩
    · cases admitting
    · cases serving
    · cases exited
    · exact open_ closed
  · intro unaccepted
    have start' : Unserved start := by
      refine .inr ⟨w, present, .inr ⟨.inl (by rw [opening]; rfl), ?_⟩⟩
      exact Option.isSome_iff_ne_none.mpr listening
    have isSome : start.worker.isSome = true := by rw [present]; rfl
    rcases unserved_of_exec valid isSome start' run unaccepted with asked | ⟨v', there', place⟩
    · rw [unasked] at asked
      cases asked
    · cases there.symm.trans there'
      rw [atHead] at place
      rcases place with exited | ⟨_, open_⟩
      · cases exited
      · exact Option.isSome_iff_ne_none.mp open_

/-- A host whose first `accept` fails is back at the head with its listener. -/
theorem listener_open_iff_refused :
    let labels := List.replicate 4 (Label.worker {}) ++
      List.replicate 4 (.worker { accept := .error 10004 })
    ∃ start m, Transition.exec SessionManager.step {} (hostRun [{}]) = some start ∧
      Transition.exec invocationStep start labels = some m ∧
      (m.transport.listenSocket ≠ none ↔ Unaccepted start labels) :=
  ⟨_, _, rfl, rfl, listener_open_iff ⟨hostRun [{}], rfl⟩ rfl (by decide) rfl rfl rfl⟩

/-- A client whose first frame cannot be sent: the host goes back to accepting and reports
listening, without a listening socket. -/
theorem failed_send_closes_listener :
    let labels := List.replicate 14 (Label.worker {}) ++ List.replicate 6 (.worker { ok := false })
    ∃ start m, Transition.exec SessionManager.step {} (hostRun [{}]) = some start ∧
      start.transport.listenSocket ≠ none ∧
      Transition.exec invocationStep start labels = some m ∧
      m.worker.map Worker.pc = some .outerHead ∧ m.stopRequested = false ∧
      m.snapshot.transportState = .listening ∧ m.transport.listenSocket = none :=
  ⟨_, _, rfl, by decide, rfl, rfl, rfl, rfl, rfl⟩

end Screenscrab.Session.SessionManager
