import Screenscrab.Session.Listener

/-! What `stop()` leaves behind. It closes the sockets once, before it joins the worker, so
a socket that the worker makes after that is closed by the worker or by nobody. -/
namespace Screenscrab.Session.SessionManager

/-- What is to hold when `stop()` returns. -/
structure Released (m : SessionManager) : Prop where
  worker : m.worker = none
  socket : m.transport.socket = none
  listenSocket : m.transport.listenSocket = none
  capture : m.capture = false
  encoder : m.encoder = none
  mode : m.snapshot.mode = .stopped
  transportState : m.snapshot.transportState = .offline
  sessionActive : m.snapshot.sessionActive = false
  captureActive : m.snapshot.captureActive = false

/-- A `listen` of the worker that succeeds while `stop()` waits for it, its only
`disconnect` being done. -/
def LateListen (m : SessionManager) : Label → Prop
  | .worker os => m.api = .join .stop ∧ m.worker.map Worker.pc = some .listen ∧
      (m.transport.listen os.listen).2 = true
  | _ => False

/-- How far `stop()` has come after its `disconnect`. `place` says what a worker that it waits
for can still be doing, and `left` what the transport keeps when the worker has returned. -/
def Ending (place : Transport → Pc → Prop) (left : Transport → Prop) (m : SessionManager) : Prop :=
  match m.api with
  | .join .stop =>
    m.stopRequested = true ∧
      match m.worker with
      | none => left m.transport
      | some w => place m.transport w.pc
  | .shutdownCapture .stop => m.worker = none ∧ left m.transport
  | .shutdownEncoder .stop => m.worker = none ∧ left m.transport ∧ m.capture = false
  | .publishStopped .stop =>
    m.worker = none ∧ left m.transport ∧ m.capture = false ∧ m.encoder = none
  | .idle =>
    m.worker = none ∧ left m.transport ∧ m.capture = false ∧ m.encoder = none ∧ Stopped m.guarded
  | _ => False

/-- Nothing but a connection that the worker is about to close. -/
inductive Deaf (t : Transport) : Pc → Prop
  | closed {pc : Pc} : t.Closed → Deaf t pc
  | dialed {pc : Pc} : t.listenSocket = none →
      pc ∈ [.clientReady, .clientHead, .clientConnected, .clientDisconnect] → Deaf t pc

/-- What is left of the loop for a worker that has listened after `stop_requested_` was set. -/
inductive Leaves : Pc → Prop
  | inputInitialize : Leaves .inputInitialize
  | captureInitialize : Leaves .captureInitialize
  | hostReady : Leaves .hostReady
  | outerHead : Leaves .outerHead
  | applyError (code : Int32) (message : String) : Leaves (.applyError code message .exited)
  | exited : Leaves .exited

def Bound (t : Transport) : Prop := t.listenSocket.isSome = true

def LeavesBound (t : Transport) (pc : Pc) : Prop := Bound t ∧ Leaves pc

theorem Ending.step {place : Transport → Pc → Prop} {left : Transport → Prop}
    {m next : SessionManager} {label : Label} (ending : Ending place left m)
    (own : ∀ call, label ≠ .call call)
    (worked : ∀ w os, label = .worker os → m.api = .join .stop → m.worker = some w →
      m.stopRequested = true → place m.transport w.pc → m.work w os = some next →
      ∃ w', next.worker = some w' ∧ place next.transport w'.pc)
    (finish : ∀ t, place t .exited → left t)
    (taken : m.step label = some next) : Ending place left next := by
  cases label with
  | call call => exact absurd rfl (own call)
  | setMonitorIndex | setInputEnabled | setClipboardEnabled | setAudioEnabled =>
      cases taken
      unfold Ending at ending ⊢
      split at ending
      · next at_ => simpa only [at_] using ending
      · next at_ => simpa only [at_] using ending
      · next at_ => simpa only [at_] using ending
      · next at_ => simpa only [at_] using ending
      · next at_ =>
          obtain ⟨none, kept, capture, encoder, stopped⟩ := ending
          simp only [at_]
          exact ⟨none, kept, capture, encoder, stopped.same ⟨rfl, rfl, rfl, rfl, rfl⟩⟩
      · exact ending.elim
  | worker os =>
      obtain ⟨w, present, working⟩ := Option.bind_eq_some_iff.mp taken
      obtain ⟨api, stop, _⟩ := work_worked working
      unfold Ending at ending ⊢
      rw [api]
      split at ending
      · next at_ =>
          obtain ⟨asked, here⟩ := ending
          rw [present] at here
          obtain ⟨w', there, after⟩ := worked w os rfl at_ present asked here working
          rw [there, stop]
          exact ⟨asked, after⟩
      · cases ending.1.symm.trans present
      · cases ending.1.symm.trans present
      · cases ending.1.symm.trans present
      · cases ending.1.symm.trans present
      · exact ending.elim
  | api =>
      unfold Ending at ending
      simp only [SessionManager.step, callStep] at taken
      split at ending
      · next at_ =>
          obtain ⟨asked, here⟩ := ending
          simp only [at_] at taken
          split at taken
          · next none =>
              cases taken
              rw [none] at here
              exact ⟨none, here⟩
          · next w present =>
              split at taken
              · next returned =>
                  cases taken
                  rw [present] at here
                  exact ⟨rfl, finish _ (returned ▸ here)⟩
              · cases taken
      · next at_ =>
          simp only [at_] at taken
          cases taken
          exact ⟨ending.1, ending.2, rfl⟩
      · next at_ =>
          simp only [at_] at taken
          cases taken
          exact ⟨ending.1, ending.2.1, ending.2.2, rfl⟩
      · next at_ =>
          simp only [at_] at taken
          cases taken
          exact ⟨ending.1, ending.2.1, ending.2.2.1, ending.2.2.2, rfl, rfl, rfl, rfl, rfl⟩
      · next at_ =>
          simp only [at_] at taken
          cases taken
      · exact ending.elim

/-- Only a `listen` or a `connect` that succeeds opens anything. -/
theorem work_closed {m next : SessionManager} {w : Worker} {os : OsAnswers}
    (closed : m.transport.Closed)
    (refused : w.pc = .listen → (m.transport.listen os.listen).2 = false)
    (taken : m.work w os = some next) :
    ∃ w', next.worker = some w' ∧ Deaf next.transport w'.pc := by
  obtain ⟨pc, lastPing⟩ := w
  cases pc with
  | listen =>
      have failed := refused rfl
      simp only [work] at taken
      cases taken
      exact ⟨_, rfl, .closed (closed.listen_failed failed)⟩
  | connect =>
      simp only [work] at taken
      cases taken
      cases ok : (m.transport.connect os.connect).2 with
      | true =>
          exact ⟨_, rfl, .dialed (closed.connect_listenSocket os.connect) (List.mem_cons_self ..)⟩
      | false => exact ⟨_, rfl, .closed (closed.connect_failed ok)⟩
  | accept =>
      simp only [work] at taken
      cases taken
      exact ⟨_, rfl, .closed (closed.accept os.accept)⟩
  | sendHello | sendCapabilities | sendSessionStart | sendPing | sendMetadata | sendFrame
  | sendPong =>
      simp only [work] at taken
      cases taken
      exact ⟨_, rfl, .closed (closed.sendAll os.ok)⟩
  | processPoll =>
      simp only [work] at taken
      cases taken
      exact ⟨_, rfl, .closed (closed.pollReadable os.poll)⟩
  | receiveHeader =>
      have received := closed.receiveAll (os.received.filter (·.length = 24))
      simp only [work] at taken
      split at taken
      · cases taken
        exact ⟨_, rfl, .closed received⟩
      · obtain ⟨target, _, rfl⟩ := Option.map_eq_some_iff.mp taken
        exact ⟨_, rfl, .closed received⟩
  | receivePayload header payloadSize =>
      have received := closed.receiveAll (os.received.filter (·.length = payloadSize))
      simp only [work] at taken
      split at taken <;> cases taken <;> exact ⟨_, rfl, .closed received⟩
  | handlePacket packet =>
      simp only [work] at taken
      obtain ⟨target, _, rfl⟩ := Option.map_eq_some_iff.mp taken
      exact ⟨_, rfl, .closed closed⟩
  | pingDue =>
      simp only [work] at taken
      split at taken <;> cases taken <;> exact ⟨_, rfl, .closed closed⟩
  | sendFailed | handlerDisconnect | processDisconnect | endDisconnect | clientDisconnect =>
      cases taken
      exact ⟨_, rfl, .closed m.transport.closed_disconnect⟩
  | exited => cases taken
  | inputInitialize | captureInitialize | hostReady | outerHead | acceptFailed | clientJoined
  | startPing | innerHead | innerConnected | capture | encode | countFrame | processHead
  | processConnected | endSession | clientReady | clientHead | clientConnected | clientEnded
  | readError | applyError =>
      cases taken
      exact ⟨_, rfl, .closed closed⟩

theorem Deaf.work {m next : SessionManager} {w : Worker} {os : OsAnswers}
    (deaf : Deaf m.transport w.pc)
    (refused : w.pc = .listen → (m.transport.listen os.listen).2 = false)
    (taken : m.work w os = some next) :
    ∃ w', next.worker = some w' ∧ Deaf next.transport w'.pc := by
  cases deaf with
  | closed closed => exact work_closed closed refused taken
  | dialed unheard place =>
      obtain ⟨pc, lastPing⟩ := w
      simp only [List.mem_cons, List.not_mem_nil, or_false] at place
      rcases place with rfl | rfl | rfl | rfl
      · cases taken
        exact ⟨_, rfl, .dialed unheard (by simp)⟩
      · cases taken
        exact ⟨_, rfl, .dialed unheard (by dsimp only; split <;> decide)⟩
      · cases taken
        exact ⟨_, rfl, .dialed unheard (by dsimp only; split <;> decide)⟩
      · cases taken
        exact ⟨_, rfl, .closed m.transport.closed_disconnect⟩

theorem Deaf.returned {t : Transport} (deaf : Deaf t .exited) : t.Closed := by
  cases deaf with
  | closed closed => exact closed
  | dialed _ place => simp at place

/-- The worker of a host that stops goes straight to its end and leaves the listener open. -/
theorem LeavesBound.work {m next : SessionManager} {w : Worker} {os : OsAnswers}
    (asked : m.stopRequested = true) (leaves : LeavesBound m.transport w.pc)
    (taken : m.work w os = some next) :
    ∃ w', next.worker = some w' ∧ LeavesBound next.transport w'.pc := by
  obtain ⟨pc, lastPing⟩ := w
  obtain ⟨bound, place⟩ := leaves
  cases place with
  | inputInitialize =>
      cases taken
      refine ⟨_, rfl, bound, ?_⟩
      cases os.ok with
      | true => exact .captureInitialize
      | false => exact .applyError (-5) "input initialization failed"
  | captureInitialize =>
      cases taken
      refine ⟨_, rfl, bound, ?_⟩
      cases os.ok with
      | true => exact .hostReady
      | false => exact .applyError (-2) "capture initialization failed"
  | hostReady =>
      cases taken
      exact ⟨_, rfl, bound, .outerHead⟩
  | outerHead =>
      cases taken
      refine ⟨_, rfl, bound, ?_⟩
      rw [asked]
      exact .exited
  | applyError code message =>
      cases taken
      exact ⟨_, rfl, bound, .exited⟩
  | exited => cases taken

/-- From the call of `stop()` on: its two first steps are still to be taken, or it is ending. -/
def Stopping (m : SessionManager) : Prop :=
  Valid m ∧ (m.api = .requestStop .stop ∨ m.api = .disconnect .stop ∨
    Ending Deaf Transport.Closed m)

theorem Stopping.step {m next : SessionManager} {label : Label} (stopping : Stopping m)
    (own : ∀ call, label ≠ .call call) (punctual : ¬ m.LateListen label)
    (taken : m.step label = some next) : Stopping next := by
  obtain ⟨valid, phase⟩ := stopping
  refine ⟨valid.step taken, ?_⟩
  have early : m.api = .requestStop .stop ∨ m.api = .disconnect .stop → label ≠ .api →
      next.api = m.api := by
    intro _ beside
    cases label with
    | call call => exact absurd rfl (own call)
    | api => exact absurd rfl beside
    | setMonitorIndex | setInputEnabled | setClipboardEnabled | setAudioEnabled =>
        cases taken
        rfl
    | worker os =>
        obtain ⟨w, _, working⟩ := Option.bind_eq_some_iff.mp taken
        exact (work_worked working).api
  rcases phase with requesting | disconnecting | ending
  · by_cases call : label = .api
    · subst call
      simp only [SessionManager.step, callStep, requesting] at taken
      cases taken
      exact .inr (.inl rfl)
    · exact .inl ((early (.inl requesting) call).trans requesting)
  · by_cases call : label = .api
    · subst call
      have asked := valid.requested .stop (.inl disconnecting)
      simp only [SessionManager.step, callStep, disconnecting] at taken
      cases taken
      refine .inr (.inr ⟨asked, ?_⟩)
      dsimp only
      split
      · exact m.transport.closed_disconnect
      · exact .closed m.transport.closed_disconnect
    · exact .inr (.inl ((early (.inr disconnecting) call).trans disconnecting))
  · refine .inr (.inr (ending.step own ?_ (fun _ deaf => deaf.returned) taken))
    intro w os worker at_ present _ deaf working
    refine deaf.work ?_ working
    intro listening
    by_contra ok
    subst worker
    exact punctual ⟨at_, by rw [present, Option.map_some, listening], Bool.not_eq_false _ ▸ ok⟩

theorem Ending.of_lateListen {m next : SessionManager} {label : Label} (valid : Valid m)
    (late : m.LateListen label) (taken : m.step label = some next) :
    Ending LeavesBound Bound next := by
  cases label with
  | worker os =>
      obtain ⟨at_, listening, ok⟩ := late
      obtain ⟨w, present, here⟩ := Option.map_eq_some_iff.mp listening
      obtain ⟨v, there, working⟩ := Option.bind_eq_some_iff.mp taken
      cases present.symm.trans there
      have asked := valid.requested .stop (.inr at_)
      have opened := Transport.listen_open ok
      simp only [work, here, ok, if_true] at working
      cases working
      unfold Ending
      simp only [goto, at_]
      exact ⟨asked, opened, .inputInitialize⟩
  | call | api | setMonitorIndex | setInputEnabled | setClipboardEnabled | setAudioEnabled =>
      exact late.elim

theorem Ending.step_bound {m next : SessionManager} {label : Label}
    (ending : Ending LeavesBound Bound m) (own : ∀ call, label ≠ .call call)
    (taken : m.step label = some next) : Ending LeavesBound Bound next := by
  refine ending.step own ?_ (fun _ leaves => leaves.1) taken
  intro w os _ _ _ asked leaves working
  exact leaves.work asked working

theorem Ending.released {m : SessionManager} {place : Transport → Pc → Prop}
    (ending : Ending place Transport.Closed m) (returned : m.api = .idle) : Released m := by
  unfold Ending at ending
  rw [returned] at ending
  obtain ⟨worker, closed, capture, encoder, stopped⟩ := ending
  exact ⟨worker, closed.socket, closed.listenSocket, capture, encoder, stopped.mode,
    stopped.transportState, stopped.sessionActive, stopped.captureActive⟩

/-- Whatever the worker is doing when `stop()` is called: when it returns everything is released,
unless the worker has made a listening socket after the one `disconnect`. -/
theorem stop_releases_iff {start called m : SessionManager}
    (reached : Transition.Reachable SessionManager.step {} start)
    (begins : start.step (.call .stop) = some called) {labels : List Label}
    (own : ∀ label ∈ labels, ∀ call, label ≠ .call call)
    (run : Transition.exec SessionManager.step called labels = some m) (returned : m.api = .idle) :
    Released m ↔
      Transition.Along SessionManager.step (fun m label => ¬ m.LateListen label) called labels := by
  have requesting : called.api = .requestStop .stop := by
    simp only [SessionManager.step] at begins
    split at begins <;> cases begins
    rfl
  have valid := valid_of_reachable reached
  have stopping : Stopping called := ⟨valid.step begins, .inl requesting⟩
  constructor
  · intro released
    by_contra late
    obtain ⟨before, label, after, u, v, rfl, reach, late, taken, rest⟩ :=
      Transition.exec_of_not_along run late
    have validHere : Valid u :=
      Transition.exec_invariant (fun _ _ _ valid taken => Valid.step valid taken) stopping.1 reach
    have others : ∀ label ∈ after, ∀ call, label ≠ .call call := fun label member =>
      own label (List.mem_append_right before (List.mem_cons_of_mem _ member))
    have ending : Ending LeavesBound Bound m :=
      Transition.exec_along (fun _ _ _ ending own taken => Ending.step_bound ending own taken)
        (.of_lateListen validHere (not_not.mp late) taken) rest (.of_mem others)
    unfold Ending at ending
    rw [returned] at ending
    obtain ⟨_, bound, _⟩ := ending
    rw [Bound, released.listenSocket] at bound
    cases bound
  · intro punctual
    have stopped : Stopping m :=
      Transition.exec_along (fun _ _ _ stopping ok taken => stopping.step ok.1 ok.2 taken)
        stopping run ((Transition.Along.of_mem own).and punctual)
    rcases stopped.2 with requesting | disconnecting | ending
    · cases returned.symm.trans requesting
    · cases returned.symm.trans disconnecting
    · exact ending.released returned

/-- `stop()` from its call on, with the steps of the worker between `disconnect` and `join`. -/
def stopRun (answers : List OsAnswers) : List Label :=
  List.replicate 2 .api ++ answers.map .worker ++ List.replicate 4 .api

/-- A host that has listened before it is stopped. -/
theorem stop_releases_iff_listening :
    ∃ start called m, Transition.exec SessionManager.step {} (hostRun [{}]) = some start ∧
      start.step (.call .stop) = some called ∧
      Transition.exec SessionManager.step called (stopRun (List.replicate 4 {})) = some m ∧
      (Released m ↔ Transition.Along SessionManager.step (fun m label => ¬ m.LateListen label)
        called (stopRun (List.replicate 4 {}))) :=
  ⟨_, _, _, rfl, rfl, rfl,
    stop_releases_iff ⟨hostRun [{}], rfl⟩ rfl (by simp [stopRun]) rfl rfl⟩

/-- A host that is stopped before its worker has listened: `stop()` returns, and the port of the
finished worker is still bound. -/
theorem stop_leaves_port_bound :
    ∃ start called m, Transition.exec SessionManager.step {} (hostRun []) = some start ∧
      start.step (.call .stop) = some called ∧
      Transition.exec SessionManager.step called (stopRun (List.replicate 5 {})) = some m ∧
      m.api = .idle ∧ m.worker = none ∧ m.transport.listenSocket = some 1 ∧ ¬ Released m :=
  ⟨_, _, _, rfl, rfl, rfl, rfl, rfl, rfl, fun released => by cases released.listenSocket⟩

end Screenscrab.Session.SessionManager
