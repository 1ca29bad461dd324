import Screenscrab.Network.Connections
import Screenscrab.Network.States

/-! The published state and the connection table: which steps keep `connected` and an open
connection together. -/
namespace Screenscrab.Network

/-- A report that leaves the published state right about these connections. -/
def Report.Tells (conns : List (UInt64 × Nat)) : Report → Prop
  | .status _ => conns = []
  | .state text => text = State.connected ↔ conns ≠ []

namespace Runtime

def Corresponds (r : Runtime) : Prop := r.status.state = .connected ↔ r.conns ≠ []

instance (r : Runtime) : Decidable r.Corresponds :=
  inferInstanceAs (Decidable (_ = _ ↔ _ ≠ _))

/-- The writers that do not look at the table find it as the state they write says: empty, and
at a disconnect with no other entry. -/
def Respects (r : Runtime) : Label → Prop
  | .connectPeer (.error _) => r.conns = []
  | .login _ _ => r.conns = []
  | .refresh _ => r.conns = []
  | .reconnect _ => r.conns = []
  | .disconnect connID => r.conns.lookup connID = none ∨ Table.without r.conns connID = []
  | .locked watcher => ∀ report, r.applied (.locked watcher) = some report → report.Tells r.conns
  | _ => True

theorem corresponds_iff {r : Runtime} (other : r.status.state ≠ .connected) :
    r.Corresponds ↔ r.conns = [] :=
  ⟨fun corresponds => Classical.byContradiction fun some_ => other (corresponds.mpr some_),
    fun empty => iff_of_false other (not_not_intro empty)⟩

theorem Corresponds.same {r next : Runtime} (corresponds : Corresponds r)
    (state : next.status.state = r.status.state) (conns : next.conns = r.conns) :
    Corresponds next := by
  rw [Corresponds, state, conns]
  exact corresponds

theorem Handles.empty {r : Runtime} (handles : Handles r) (missing : r.localClient = none) :
    r.conns = [] := by
  refine Classical.byContradiction fun some_ => ?_
  exact handles.localClient.mp (handles.conns some_) missing

theorem backendState_ne_connected (text : Bytes) : backendState text ≠ .connected := by
  unfold backendState
  split_ifs <;> decide

theorem refreshLocked_state (r : Runtime) (answer : Except Bytes BackendStatus) :
    (r.refreshLocked answer).status.state ≠ .connected := by
  unfold refreshLocked
  split
  · exact (by decide : State.offline ≠ State.connected)
  · cases answer with
    | error err => exact (by decide : State.error ≠ State.connected)
    | ok st => exact backendState_ne_connected st.backendState

theorem startFailed_state (r : Runtime) (err : Bytes) :
    (r.startFailed err).status.state ≠ .connected := (by decide : State.error ≠ State.connected)

theorem login_state (r : Runtime) (answers : StartAnswers) (status : Except Bytes BackendStatus) :
    (r.login answers status).1.status.state ≠ .connected := by
  unfold login
  cases r.startLocked answers with
  | mk s error =>
      cases error with
      | some err => exact startFailed_state s err
      | none => exact refreshLocked_state s status

/-- A start does not write `connected`, and nothing when the server runs. -/
theorem start_state (r : Runtime) (answers : StartAnswers) :
    (r.start answers).1.status.state = r.status.state ∨
      r.started = false ∧ (r.start answers).1.status.state ≠ .connected := by
  cases running : r.started with
  | true =>
      refine .inl ?_
      unfold start startLocked
      rw [if_pos running]
  | false =>
      unfold start
      have starting := startLocked_starting r answers
      cases outcome : r.startLocked answers with
      | mk s error =>
          rw [outcome] at starting
          cases error with
          | some err => exact .inr ⟨rfl, startFailed_state s err⟩
          | none =>
              cases starting with
              | running | refused | unwatched => exact .inl rfl
              | begun watched answer lastError status stopped opened either =>
                  refine .inr ⟨rfl, ?_⟩
                  rcases either with error | signingIn
                  · exact error ▸ (by decide : State.error ≠ State.connected)
                  · exact signingIn ▸ (by decide : State.signingIn ≠ State.connected)

theorem start_corresponds {r : Runtime} (handles : Handles r) (corresponds : Corresponds r)
    (answers : StartAnswers) : Corresponds (r.start answers).1 := by
  have conns : (r.start answers).1.conns = r.conns :=
    (start_writes r answers).conns.trans (startLocked_starts r answers).conns
  rcases start_state r answers with same | ⟨stopped, other⟩
  · exact corresponds.same same conns
  · refine (corresponds_iff other).mpr (conns.trans ?_)
    refine Classical.byContradiction fun some_ => ?_
    rw [handles.conns some_] at stopped
    cases stopped

theorem connectPeer_corresponds {r : Runtime} (handles : Handles r) (corresponds : Corresponds r)
    (conn : Except Bytes Nat) :
    Corresponds (r.connectPeer conn).1 ↔ r.Respects (.connectPeer conn) := by
  by_cases missing : r.localClient = none
  · have same : (r.connectPeer conn).1 = r := by
      unfold connectPeer
      rw [if_pos missing]
    rw [same]
    cases conn with
    | error err => exact iff_of_true corresponds (handles.empty missing)
    | ok conn => exact iff_of_true corresponds trivial
  · cases conn with
    | error err =>
        have other : (r.connectPeer (.error err)).1.status.state ≠ .connected := by
          rw [connectPeer, if_neg missing]
          exact (by decide : State.error ≠ State.connected)
        refine (corresponds_iff other).trans ?_
        rw [connectPeer, if_neg missing]
        rfl
    | ok conn =>
        refine iff_of_true ?_ trivial
        rw [connectPeer, if_neg missing]
        exact iff_of_true rfl (List.cons_ne_nil _ _)

theorem disconnect_corresponds {r : Runtime} (corresponds : Corresponds r) (connID : UInt64) :
    Corresponds (r.disconnect connID).1 ↔ r.Respects (.disconnect connID) := by
  have conns := disconnect_conns r connID
  rw [Respects]
  cases found : r.conns.lookup connID with
  | none =>
      have same : (r.disconnect connID).1 = r := by rw [disconnect, found]
      rw [same]
      exact iff_of_true corresponds (.inl rfl)
  | some conn =>
      have other : (r.disconnect connID).1.status.state ≠ .connected := by
        rw [disconnect, found]
        exact (by decide : State.signedIn ≠ State.connected)
      rw [corresponds_iff other, conns]
      exact ⟨.inr, fun either => either.resolve_left (Option.some_ne_none conn)⟩

theorem reconnect_corresponds {r : Runtime} (handles : Handles r) (corresponds : Corresponds r)
    (status : Except Bytes BackendStatus) :
    Corresponds (r.reconnect status).1 ↔ r.conns = [] := by
  by_cases missing : r.localClient = none
  · have same : (r.reconnect status).1 = r := by rw [reconnect, if_pos missing]
    rw [same]
    exact iff_of_true corresponds (handles.empty missing)
  · rw [reconnect, if_neg missing, corresponds_iff (refreshLocked_state r status),
      (refreshLocked_writes r status).conns]

/-- A report writes the state it is translated to, whatever is in the table. -/
theorem report_corresponds {r next : Runtime} {report : Report}
    (publishes : Publishes r next (some report)) (conns : next.conns = r.conns) :
    Corresponds next ↔ report.Tells r.conns := by
  cases report with
  | status st =>
      have state : next.status.state = backendState st.backendState := publishes
      have other : next.status.state ≠ .connected := by
        rw [state]
        exact backendState_ne_connected st.backendState
      rw [corresponds_iff other, conns]
      rfl
  | state text =>
      have state : next.status.state = text := publishes
      rw [Corresponds, state, conns]
      rfl

theorem notified_corresponds {r : Runtime} (corresponds : Corresponds r) (watcher : Nat)
    (notify : Notify) : Corresponds (r.notified watcher notify) ↔
      ∀ report, notifies notify = some report → report.Tells r.conns := by
  have publishes := notified_publishes r watcher notify
  have conns : (r.notified watcher notify).conns = r.conns := rfl
  cases applies : notifies notify with
  | some report =>
      rw [applies] at publishes
      refine (report_corresponds publishes conns).trans ⟨fun tells _ same => ?_, fun tells => ?_⟩
      · cases same
        exact tells
      · exact tells report rfl
  | none =>
      refine iff_of_true (corresponds.same ?_ conns) nofun
      rw [notified_state]
      unfold notifies at applies
      split at applies
      · cases applies
      · cases applies
      · rfl

theorem step_corresponds {r next : Runtime} {label : Label} (handles : Handles r)
    (corresponds : Corresponds r) (taken : r.step label = some next) :
    Corresponds next ↔ r.Respects label := by
  cases label with
  | start answers =>
      cases taken
      exact iff_of_true (start_corresponds handles corresponds answers) trivial
  | stop | logout =>
      have leaves := step_leaves rfl taken
      cases taken
      refine iff_of_true ((corresponds_iff ?_).mpr leaves.conns) trivial
      exact (by decide : State.offline ≠ State.connected)
  | login answers status =>
      have leaves := step_leaves rfl taken
      cases taken
      rw [corresponds_iff (login_state r answers status), leaves.conns]
      rfl
  | connectPeer conn =>
      cases taken
      exact connectPeer_corresponds handles corresponds conn
  | disconnect connID =>
      cases taken
      exact disconnect_corresponds corresponds connID
  | refresh status =>
      cases taken
      rw [corresponds_iff (refreshLocked_state r status), (refreshLocked_writes r status).conns]
      rfl
  | reconnect status =>
      cases taken
      exact reconnect_corresponds handles corresponds status
  | userLog msg =>
      cases taken
      refine iff_of_true (corresponds.same ?_ (userLog_writes r msg).conns) trivial
      unfold userLog
      split <;> rfl
  | received watcher notify | nextFailed watcher =>
      simp only [step] at taken
      split at taken
      · cases taken
        exact iff_of_true (corresponds.same rfl rfl) trivial
      · cases taken
  | locked watcher =>
      obtain ⟨notify, holds, ⟨missing, rfl⟩ | ⟨here, rfl⟩⟩ := locked_cases taken
      · rw [Respects, applied_locked holds, if_pos missing]
        refine iff_of_true (corresponds.same rfl rfl) ?_
        rintro report ⟨⟩
      · rw [Respects, applied_locked holds, if_neg here]
        exact notified_corresponds corresponds watcher notify

theorem step_handles {r next : Runtime} {label : Label} (handles : Handles r)
    (taken : r.step label = some next) : Handles next := by
  cases label with
  | connectPeer conn =>
      cases taken
      by_cases missing : r.localClient = none
      · unfold connectPeer
        rw [if_pos missing]
        exact handles
      · cases conn with
        | error err =>
            rw [connectPeer, if_neg missing]
            exact ⟨handles.server, handles.localClient, handles.conns⟩
        | ok conn => exact (connectPeer_opens missing conn).2.2.2 handles
  | _ => exact (step_leaves rfl taken).handles handles

theorem respects_of_blocked {r : Runtime} {label : Label} (blocked : r.step label = none) :
    r.Respects label := by
  cases label with
  | locked watcher =>
      intro report applies
      obtain ⟨next, taken⟩ := step_of_applied applies
      rw [blocked] at taken
      cases taken
  | connectPeer conn | login answers status | disconnect connID => cases blocked
  | refresh status | reconnect status => cases blocked
  | start answers | stop | logout => trivial
  | userLog msg | received watcher notify | nextFailed watcher => trivial

/-- In every state of a run `connected` is published exactly when a connection is open, exactly
when no writer of the state writes over the table. -/
theorem connected_exactly_iff (labels : List Label) :
    (∀ before after r, labels = before ++ after →
        Transition.exec step {} before = some r → r.Corresponds) ↔
      Transition.Along step Respects {} labels :=
  Transition.throughout_iff (fun _ _ _ => step_handles) (fun _ _ _ => step_corresponds)
    (fun _ _ => respects_of_blocked) Handles.initial (by decide) labels

/-- Of two open connections one is closed. -/
theorem disconnect_hides_connection :
    ∃ r, Transition.exec step {} [.login {} (.ok ⟨ascii "Running", none, none, [], []⟩),
        .connectPeer (.ok 0), .connectPeer (.ok 1), .disconnect 1] = some r ∧
      r.status.state = .signedIn ∧ r.conns = [(2, 1)] ∧ ¬ r.Corresponds :=
  ⟨_, rfl, rfl, rfl, by decide⟩

end Runtime
end Screenscrab.Network
