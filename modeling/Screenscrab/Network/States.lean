import Mathlib.Tactic.SplitIfs
import Screenscrab.Network.Starting

/-! The values of the published `status.State`, and what a backend status or a notification
makes of it. -/
namespace Screenscrab.Network

/-- The constants of `api.State`. -/
def State.declared : List State :=
  [.offline, .signedOut, .signingIn, .signedIn, .connected, .retrying, .error]

/-- The backend states that `toStatusJSON` names, and the one its default is for. -/
def backendStates : List Bytes :=
  [ascii "NeedsLogin", ascii "NeedsMachineAuth", ascii "Starting", ascii "Stopped",
    ascii "NoState", ascii "Running"]

/-- Where a step takes the published state from, when it applies what Tailscale reports: a
backend status, or the state of a notification that has no status. -/
inductive Report where
  | status (st : BackendStatus)
  | state (text : Bytes)
  deriving DecidableEq, Repr

def Report.backendState : Report → Bytes
  | .status st => st.backendState
  | .state text => text

/-- The report is one that both translations of its state are right about. -/
def Report.Known : Report → Prop
  | .status st => st.backendState ∈ backendStates
  | .state text => text ∈ State.declared ∧ text ≠ State.signedIn

namespace Runtime

def fetched (r : Runtime) (answer : Except Bytes BackendStatus) : Option Report :=
  match answer with
  | .error _ => none
  | .ok st => if r.localClient = none then none else some (.status st)

def notifies (notify : Notify) : Option Report :=
  match notify.initialStatus, notify.state with
  | some st, _ => some (.status st)
  | none, some text => some (.state text)
  | none, none => none

/-- The report that a step applies. -/
def applied (r : Runtime) : Label → Option Report
  | .login answers status =>
    match r.startLocked answers with
    | (_, some _) => none
    | (r, none) => r.fetched status
  | .refresh status | .reconnect status => r.fetched status
  | .locked watcher =>
    match r.goroutines watcher with
    | some (.locking notify) => if r.localClient = none then none else notifies notify
    | _ => none
  | _ => none

def Known (r : Runtime) (label : Label) : Prop :=
  ∀ report, r.applied label = some report → report.Known

/-- A report makes the published state `signed_in` only when the backend is running. -/
def Honest (r : Runtime) (label : Label) : Prop :=
  ∀ next report, r.step label = some next → r.applied label = some report →
    next.status.state = .signedIn → report.backendState = ascii "Running"

/-- What a step does to the published state. -/
def Publishes (r next : Runtime) : Option Report → Prop
  | some (.status st) => next.status.state = backendState st.backendState
  | some (.state text) => next.status.state = text
  | none => next.status.state = r.status.state ∨ next.status.state ∈ State.declared

theorem refreshLocked_publishes (r : Runtime) (answer : Except Bytes BackendStatus) :
    Publishes r (r.refreshLocked answer) (r.fetched answer) := by
  unfold refreshLocked fetched
  cases answer with
  | error err =>
      split
      · exact .inr (by decide : State.offline ∈ State.declared)
      · exact .inr (by decide : State.error ∈ State.declared)
  | ok st =>
      by_cases missing : r.localClient = none
      · dsimp only
        rw [if_pos missing, if_pos missing]
        exact .inr (by decide : State.offline ∈ State.declared)
      · dsimp only
        rw [if_neg missing, if_neg missing]
        rfl

theorem startLocked_state (r : Runtime) (os : StartAnswers) :
    Publishes r (r.startLocked os).1 none := by
  have starting := startLocked_starting r os
  generalize (r.startLocked os).1 = next at starting ⊢
  cases starting with
  | running | refused | unwatched => exact .inl rfl
  | begun watched answer lastError status stopped opened either =>
      rcases either with error | signingIn
      · rw [Publishes, error]
        exact .inr (by decide)
      · rw [Publishes, signingIn]
        exact .inr (by decide)

theorem connectPeer_publishes (r : Runtime) (conn : Except Bytes Nat) :
    Publishes r (r.connectPeer conn).1 none := by
  unfold connectPeer
  split
  · exact .inl rfl
  cases conn with
  | error err => exact .inr (by decide : State.error ∈ State.declared)
  | ok conn => exact .inr (by decide : State.connected ∈ State.declared)

theorem disconnect_publishes (r : Runtime) (connID : UInt64) :
    Publishes r (r.disconnect connID).1 none := by
  unfold disconnect
  split
  · exact .inl rfl
  · exact .inr (by decide : State.signedIn ∈ State.declared)

theorem userLog_publishes (r : Runtime) (msg : Bytes) : Publishes r (r.userLog msg) none := by
  unfold userLog
  split <;> exact .inl rfl

/-- After the translation of a notification its state is not written again. -/
theorem notified_state (r : Runtime) (watcher : Nat) (notify : Notify) :
    (r.notified watcher notify).status.state =
      match notify.initialStatus, notify.state with
      | some st, _ => backendState st.backendState
      | none, some state => state
      | none, none => r.status.state := by
  unfold notified
  dsimp only
  cases notify.initialStatus <;> cases notify.state <;> dsimp only <;> split_ifs <;> rfl

theorem notified_publishes (r : Runtime) (watcher : Nat) (notify : Notify) :
    Publishes r (r.notified watcher notify) (notifies notify) := by
  have state := notified_state r watcher notify
  unfold notifies
  cases initial : notify.initialStatus with
  | some st =>
      rw [initial] at state
      exact state
  | none =>
      rw [initial] at state
      cases text : notify.state with
      | some text' =>
          rw [text] at state
          exact state
      | none =>
          rw [text] at state
          exact .inl state

theorem Publishes.trans {r s next : Runtime} {report : Option Report} (first : Publishes r s none)
    (second : Publishes s next report) : Publishes r next report := by
  cases report with
  | some report =>
      cases report <;> exact second
  | none =>
      rcases second with same | declared
      · rcases first with same' | declared
        · exact .inl (same.trans same')
        · exact .inr (same ▸ declared)
      · exact .inr declared

theorem startFailed_publishes (r : Runtime) (err : Bytes) : Publishes r (r.startFailed err) none :=
  .inr (by decide : State.error ∈ State.declared)

theorem start_publishes (r : Runtime) (answers : StartAnswers) :
    Publishes r (r.start answers).1 none := by
  have begun := startLocked_state r answers
  unfold start
  cases outcome : r.startLocked answers with
  | mk s error =>
      rw [outcome] at begun
      cases error with
      | some err => exact begun.trans (startFailed_publishes s err)
      | none => exact begun

theorem login_publishes (r : Runtime) (answers : StartAnswers)
    (status : Except Bytes BackendStatus) :
    Publishes r (r.login answers status).1 (r.applied (.login answers status)) := by
  have begun := startLocked_state r answers
  simp only [login, applied]
  cases outcome : r.startLocked answers with
  | mk s error =>
      rw [outcome] at begun
      cases error with
      | some err => exact begun.trans (startFailed_publishes s err)
      | none => exact begun.trans (refreshLocked_publishes s status)

theorem reconnect_publishes (r : Runtime) (status : Except Bytes BackendStatus) :
    Publishes r (r.reconnect status).1 (r.fetched status) := by
  unfold reconnect
  split
  · next missing =>
      have nothing : r.fetched status = none := by
        unfold fetched
        cases status with
        | error err => rfl
        | ok st => exact if_pos missing
      rw [nothing]
      exact .inl rfl
  · exact refreshLocked_publishes r status

theorem applied_locked {r : Runtime} {watcher : Nat} {notify : Notify}
    (holds : r.goroutines watcher = some (.locking notify)) :
    r.applied (.locked watcher) = if r.localClient = none then none else notifies notify := by
  simp only [applied, holds]

theorem step_publishes {r next : Runtime} {label : Label} (taken : r.step label = some next) :
    Publishes r next (r.applied label) := by
  cases label with
  | start answers =>
      cases taken
      exact start_publishes r answers
  | stop | logout =>
      cases taken
      exact .inr (by decide : State.offline ∈ State.declared)
  | login answers status =>
      cases taken
      exact login_publishes r answers status
  | connectPeer conn =>
      cases taken
      exact connectPeer_publishes r conn
  | disconnect connID =>
      cases taken
      exact disconnect_publishes r connID
  | refresh status =>
      cases taken
      exact refreshLocked_publishes r status
  | reconnect status =>
      cases taken
      exact reconnect_publishes r status
  | userLog msg =>
      cases taken
      exact userLog_publishes r msg
  | received watcher notify | nextFailed watcher =>
      simp only [step] at taken
      split at taken
      · cases taken
        exact .inl rfl
      · cases taken
  | locked watcher =>
      obtain ⟨notify, holds, ⟨missing, rfl⟩ | ⟨here, rfl⟩⟩ := locked_cases taken
      · rw [applied_locked holds, if_pos missing]
        exact .inl rfl
      · rw [applied_locked holds, if_neg here]
        exact notified_publishes r watcher notify

/-- A report is applied by a step that is enabled. -/
theorem step_of_applied {r : Runtime} {label : Label} {report : Report}
    (applies : r.applied label = some report) : ∃ next, r.step label = some next := by
  cases label with
  | locked watcher =>
      simp only [applied] at applies
      simp only [step]
      cases holds : r.goroutines watcher with
      | none =>
          rw [holds] at applies
          cases applies
      | some g =>
          rw [holds] at applies
          cases g with
          | next => cases applies
          | locking notify =>
              by_cases missing : r.localClient = none
              · exact ⟨_, if_pos missing⟩
              · exact ⟨_, if_neg missing⟩
  | login answers status => exact ⟨_, rfl⟩
  | refresh status | reconnect status => exact ⟨_, rfl⟩
  | start answers | connectPeer conn => cases applies
  | stop | logout => cases applies
  | disconnect connID | userLog msg => cases applies
  | received watcher notify | nextFailed watcher => cases applies

theorem backendState_declared (text : Bytes) : backendState text ∈ State.declared := by
  unfold backendState
  split_ifs <;> decide

theorem backendState_signedIn (text : Bytes) :
    (backendState text = .signedIn → text = ascii "Running") ↔ text ∈ backendStates := by
  constructor
  · intro running
    unfold backendState at running
    simp only [backendStates, List.mem_cons, List.not_mem_nil, or_false]
    split_ifs at running with waiting starting stopped
    · exact waiting.elim .inl (.inr ∘ .inl)
    · exact .inr (.inr (.inl starting))
    · exact .inr (.inr (.inr (stopped.elim .inl (.inr ∘ .inl))))
    · exact .inr (.inr (.inr (.inr (.inr (running rfl)))))
  · intro known signedIn
    simp only [backendStates, List.mem_cons, List.not_mem_nil, or_false] at known
    rcases known with rfl | rfl | rfl | rfl | rfl | rfl
    iterate 5 exact absurd signedIn (by decide)
    rfl

/-- A report leaves a declared value, and `signed_in` only for a running backend, exactly when
it is a known one. -/
theorem known_iff {r next : Runtime} {report : Report}
    (publishes : Publishes r next (some report)) :
    (next.status.state ∈ State.declared ∧
      (next.status.state = .signedIn → report.backendState = ascii "Running")) ↔
      report.Known := by
  cases report with
  | status st =>
      rw [show next.status.state = _ from publishes]
      exact (and_iff_right (backendState_declared _)).trans (backendState_signedIn _)
  | state text =>
      rw [show next.status.state = text from publishes]
      refine and_congr_right fun _ => ⟨fun running signedIn => ?_, fun other signedIn => ?_⟩
      · have both := signedIn.symm.trans (running signedIn)
        exact absurd both (by decide)
      · exact absurd signedIn other

theorem Known.step {r next : Runtime} {label : Label} (declared : r.status.state ∈ State.declared)
    (known : r.Known label) (taken : r.step label = some next) :
    next.status.state ∈ State.declared := by
  have publishes := step_publishes taken
  cases applies : r.applied label with
  | some report =>
      rw [applies] at publishes
      exact ((known_iff publishes).mpr (known report applies)).1
  | none =>
      rw [applies] at publishes
      rcases publishes with same | declared'
      · exact same ▸ declared
      · exact declared'

/-- In every state of a run the published state is a declared one, and no step of it makes the
state `signed_in` for a backend that is not running, exactly when every report that is applied
is a known one. -/
theorem published_state_iff (labels : List Label) :
    ((∀ before after r, labels = before ++ after →
        Transition.exec step {} before = some r → r.status.state ∈ State.declared) ∧
      Transition.Along step Honest {} labels) ↔ Transition.Along step Known {} labels := by
  constructor
  · rintro ⟨declared, honest⟩ before label after r split reached report applies
    obtain ⟨next, taken⟩ := step_of_applied applies
    have publishes := step_publishes taken
    rw [applies] at publishes
    refine (known_iff publishes).mp ⟨?_, ?_⟩
    · refine declared (before ++ [label]) after next ?_ ?_
      · rw [split, List.append_assoc, List.singleton_append]
      · rw [Transition.exec_append, reached, Option.bind_some, Transition.exec_cons, taken]
        rfl
    · exact honest before label after r split reached next report taken applies
  · intro known
    constructor
    · intro before after r split reached
      subst split
      have initial : ({} : Runtime).status.state ∈ State.declared := by decide
      exact Transition.exec_along (fun _ _ _ => Known.step) initial reached known.left
    · intro before label after r split reached next report taken applies
      have publishes := step_publishes taken
      rw [applies] at publishes
      exact ((known_iff publishes).mpr (known before label after r split reached report applies)).2

/-- A notification leaves the text `Running` in the published state, and a status with a
backend in use by somebody else leaves `signed_in`. -/
theorem published_state_unknown :
    (∃ r, Transition.exec step {}
        [.start {}, .received 0 { state := some (ascii "Running") }, .locked 0] = some r ∧
      r.status.state = ascii "Running" ∧ r.status.state ∉ State.declared) ∧
    ∃ r next report, Transition.exec step {} [.start {}] = some r ∧
      r.step (.refresh (.ok ⟨ascii "InUseOtherUser", none, none, [], []⟩)) = some next ∧
      r.applied (.refresh (.ok ⟨ascii "InUseOtherUser", none, none, [], []⟩)) = some report ∧
      next.status.state = .signedIn ∧ report.backendState ≠ ascii "Running" :=
  ⟨⟨_, rfl, rfl, by decide⟩, _, _, _, rfl, rfl, rfl, rfl, by decide⟩

end Runtime
end Screenscrab.Network
