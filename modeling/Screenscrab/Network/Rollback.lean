import Screenscrab.Network.Starting

/-! What a start that fails leaves installed. The steps of `startLocked` fail in order, and each
failing branch takes back what the steps before it have installed. -/
namespace Screenscrab.Network

/-- The steps before the login have all succeeded. -/
def StartAnswers.Served (answers : StartAnswers) : Prop :=
  answers.start = .ok () ∧ answers.localClient = .ok () ∧ answers.watchIPNBus = .ok ()

/-- Everything is up, and only the login is refused. -/
def StartAnswers.LoginRefused (answers : StartAnswers) : Prop :=
  answers.Served ∧ answers.startLoginInteractive ≠ .ok ()

namespace Runtime

/-- The server that is not closed is the installed one, and a stopped runtime has nothing
installed. -/
structure Installed (r : Runtime) : Prop where
  servers : r.servers = r.server.toList
  server : r.started = false → r.server = none
  localClient : r.started = false → r.localClient = none
  watcher : r.started = false → r.watcher = none

/-- The runtime is stopped, and the next `Network_Start` succeeds only by taking every step. -/
structure RolledBack (r : Runtime) : Prop where
  started : r.started = false
  server : r.server = none
  localClient : r.localClient = none
  watcher : r.watcher = none
  closed : r.servers = []
  again : ∀ answers, (r.start answers).2 = 0 →
    answers.Served ∧ answers.startLoginInteractive = .ok ()

theorem Installed.initial : Installed {} :=
  ⟨rfl, fun _ => rfl, fun _ => rfl, fun _ => rfl⟩

theorem Installed.none_open {r : Runtime} (installed : Installed r) (stopped : r.started = false) :
    r.servers = [] := by
  rw [installed.servers, installed.server stopped]
  rfl

/-- A start that does not come to the login leaves only the number of the server behind. -/
theorem startLocked_unserved {r : Runtime} (installed : Installed r) (stopped : r.started = false)
    {answers : StartAnswers} (unserved : ¬ answers.Served) :
    ∃ newServer err, r.startLocked answers = ({ r with newServer }, some err) := by
  have servers := installed.none_open stopped
  have server := installed.server stopped
  have localClient := installed.localClient stopped
  have watcher := installed.watcher stopped
  obtain ⟨started, localClient', watchIPNBus, login⟩ := answers
  unfold startLocked
  rw [if_neg (by rw [stopped]; decide)]
  cases started with
  | error err => exact ⟨r.newServer, err, rfl⟩
  | ok =>
      cases localClient' with
      | error err =>
          refine ⟨r.newServer + 1, err, ?_⟩
          simp [closeServer, servers]
      | ok =>
          cases watchIPNBus with
          | error err =>
              refine ⟨r.newServer + 1, err, ?_⟩
              simp [watchIPNLocked, closeServer, servers, server, localClient, watcher, stopped]
          | ok => exact absurd ⟨rfl, rfl, rfl⟩ unserved

/-- One that comes to the login leaves everything up, however the login ends. -/
theorem startLocked_served {r : Runtime} (installed : Installed r) (stopped : r.started = false)
    {answers : StartAnswers} (served : answers.Served) :
    (r.startLocked answers).1.started = true ∧
    (r.startLocked answers).1.servers = (r.startLocked answers).1.server.toList ∧
    ((r.startLocked answers).2 = none ↔ answers.startLoginInteractive = .ok ()) := by
  have servers := installed.none_open stopped
  have watcher := installed.watcher stopped
  obtain ⟨started, localClient, watchIPNBus, login⟩ := answers
  obtain ⟨rfl, rfl, rfl⟩ := served
  unfold startLocked
  rw [if_neg (by rw [stopped]; decide)]
  cases login <;> simp [watchIPNLocked, setGoroutine, servers, watcher]

/-! Only the starts and the stops change what is installed. -/

def resources (r : Runtime) : Bool × Option Nat × Option Nat × Option Nat × List Nat :=
  (r.started, r.server, r.localClient, r.watcher, r.servers)

theorem Installed.same {r next : Runtime} (installed : Installed r)
    (same : next.resources = r.resources) : Installed next := by
  simp only [resources, Prod.mk.injEq] at same
  obtain ⟨started, server, localClient, watcher, servers⟩ := same
  refine ⟨?_, ?_, ?_, ?_⟩
  · rw [servers, server]
    exact installed.servers
  · rw [started, server]
    exact installed.server
  · rw [started, localClient]
    exact installed.localClient
  · rw [started, watcher]
    exact installed.watcher

theorem refreshLocked_resources (r : Runtime) (answer : Except Bytes BackendStatus) :
    (r.refreshLocked answer).resources = r.resources := by
  unfold refreshLocked
  split
  · rfl
  · cases answer <;> rfl

theorem reconnect_resources (r : Runtime) (answer : Except Bytes BackendStatus) :
    (r.reconnect answer).1.resources = r.resources := by
  unfold reconnect
  split
  · rfl
  · exact refreshLocked_resources r answer

theorem connectPeer_resources (r : Runtime) (conn : Except Bytes Nat) :
    (r.connectPeer conn).1.resources = r.resources := by
  unfold connectPeer
  split
  · rfl
  · cases conn <;> rfl

theorem disconnect_resources (r : Runtime) (connID : UInt64) :
    (r.disconnect connID).1.resources = r.resources := by
  unfold disconnect
  split <;> rfl

theorem userLog_resources (r : Runtime) (msg : Bytes) :
    (r.userLog msg).resources = r.resources := by
  unfold userLog
  split <;> rfl

theorem start_resources (r : Runtime) (answers : StartAnswers) :
    (r.start answers).1.resources = (r.startLocked answers).1.resources := by
  unfold start
  cases r.startLocked answers with
  | mk s error =>
      cases error <;> rfl

theorem login_resources (r : Runtime) (answers : StartAnswers)
    (status : Except Bytes BackendStatus) :
    (r.login answers status).1.resources = (r.startLocked answers).1.resources := by
  unfold login
  cases r.startLocked answers with
  | mk s error =>
      cases error with
      | some err => rfl
      | none => exact refreshLocked_resources s status

theorem startLocked_installed {r : Runtime} (installed : Installed r) (answers : StartAnswers) :
    Installed (r.startLocked answers).1 := by
  cases running : r.started with
  | true =>
      have same : r.startLocked answers = (r, none) := by
        unfold startLocked
        rw [if_pos running]
      rw [same]
      exact installed
  | false =>
      rcases Classical.em answers.Served with served | unserved
      · obtain ⟨started, servers, _⟩ := startLocked_served installed running served
        refine ⟨servers, ?_, ?_, ?_⟩ <;>
        · intro stopped
          rw [started] at stopped
          cases stopped
      · obtain ⟨newServer, err, failed⟩ := startLocked_unserved installed running unserved
        rw [failed]
        exact installed.same rfl

theorem stopLocked_installed {r : Runtime} (installed : Installed r) : Installed r.stopLocked := by
  refine ⟨?_, fun _ => rfl, fun _ => rfl, fun _ => rfl⟩
  have servers := installed.servers
  unfold stopLocked
  cases open_ : r.server with
  | none =>
      rw [open_] at servers
      exact servers
  | some server =>
      rw [open_] at servers
      simp [closeServer, servers]

theorem Installed.step {r next : Runtime} {label : Label} (installed : Installed r)
    (taken : r.step label = some next) : Installed next := by
  cases label with
  | start answers =>
      cases taken
      exact (startLocked_installed installed answers).same (start_resources r answers)
  | login answers status =>
      cases taken
      exact (startLocked_installed installed answers).same (login_resources r answers status)
  | stop | logout =>
      cases taken
      exact stopLocked_installed installed
  | connectPeer conn =>
      cases taken
      exact installed.same (connectPeer_resources r conn)
  | disconnect connID =>
      cases taken
      exact installed.same (disconnect_resources r connID)
  | refresh status =>
      cases taken
      exact installed.same (refreshLocked_resources r status)
  | reconnect status =>
      cases taken
      exact installed.same (reconnect_resources r status)
  | userLog msg =>
      cases taken
      exact installed.same (userLog_resources r msg)
  | received watcher notify | nextFailed watcher =>
      simp only [Runtime.step] at taken
      split at taken
      · cases taken
        exact installed.same rfl
      · cases taken
  | locked watcher =>
      obtain ⟨notify, _, ⟨_, rfl⟩ | ⟨_, rfl⟩⟩ := locked_cases taken
      · exact installed.same rfl
      · exact installed.same rfl

theorem start_zero_iff (r : Runtime) (answers : StartAnswers) :
    (r.start answers).2 = 0 ↔ (r.startLocked answers).2 = none := by
  unfold start
  cases r.startLocked answers with
  | mk s error =>
      cases error <;> simp

theorem start_failed_iff (r : Runtime) (answers : StartAnswers) :
    (r.start answers).2 = -1 ↔ (r.startLocked answers).2 ≠ none := by
  unfold start
  cases r.startLocked answers with
  | mk s error =>
      cases error <;> simp

theorem login_failed_iff (r : Runtime) (answers : StartAnswers)
    (status : Except Bytes BackendStatus) :
    (r.login answers status).2 = -1 ↔ (r.startLocked answers).2 ≠ none := by
  unfold login
  cases r.startLocked answers with
  | mk s error =>
      cases error <;> simp

theorem RolledBack.of_stopped {r : Runtime} (installed : Installed r)
    (stopped : r.started = false) : RolledBack r := by
  refine ⟨stopped, installed.server stopped, installed.localClient stopped,
    installed.watcher stopped, installed.none_open stopped, ?_⟩
  intro answers succeeds
  rw [start_zero_iff] at succeeds
  rcases Classical.em answers.Served with served | unserved
  · exact ⟨served, (startLocked_served installed stopped served).2.2.mp succeeds⟩
  · obtain ⟨newServer, err, failed⟩ := startLocked_unserved installed stopped unserved
    rw [failed] at succeeds
    cases succeeds

/-- Whatever `Network_Start` or `Network_Login` adds to a failed `startLocked`, it leaves the
resources as they are. -/
theorem failed_iff {r next : Runtime} (installed : Installed r) (stopped : r.started = false)
    (answers : StartAnswers) (kept : next.resources = (r.startLocked answers).1.resources) :
    ((r.startLocked answers).2 ≠ none → RolledBack next) ↔ ¬ answers.LoginRefused := by
  rcases Classical.em answers.Served with served | unserved
  · obtain ⟨started, _, login⟩ := startLocked_served installed stopped served
    have running : next.started = true := (congrArg Prod.fst kept).trans started
    constructor
    · rintro rolledBack ⟨_, refused⟩
      have back := rolledBack (fun succeeded => refused (login.mp succeeded))
      rw [back.started] at running
      cases running
    · intro accepted failed
      exact absurd ⟨served, fun ok => failed (login.mpr ok)⟩ accepted
  · constructor
    · intro _ refused
      exact unserved refused.1
    · intro _ _
      obtain ⟨newServer, err, failed⟩ := startLocked_unserved installed stopped unserved
      rw [failed] at kept
      have stopped' : next.started = false := (congrArg Prod.fst kept).trans stopped
      exact .of_stopped (installed.same kept) stopped'

/-- A failed `Network_Start` or `Network_Login` leaves a reachable runtime as stopped as it
found it, unless what failed is the login. -/
theorem start_rolled_back_iff {labels : List Label} {r : Runtime}
    (reached : Transition.exec step {} labels = some r) (stopped : r.started = false)
    (answers : StartAnswers) (status : Except Bytes BackendStatus) :
    (((r.start answers).2 = -1 → RolledBack (r.start answers).1) ↔ ¬ answers.LoginRefused) ∧
    (((r.login answers status).2 = -1 → RolledBack (r.login answers status).1) ↔
      ¬ answers.LoginRefused) := by
  have installed : Installed r := by
    apply Transition.exec_invariant ?_ .initial reached
    intro s label next kept taken
    exact kept.step taken
  rw [start_failed_iff, login_failed_iff]
  exact ⟨failed_iff installed stopped answers (start_resources r answers),
    failed_iff installed stopped answers (login_resources r answers status)⟩

/-- Of the first start, with the local client missing. -/
theorem start_rolled_back_iff_first :
    (((({} : Runtime).start { localClient := .error [] }).2 = -1 →
        RolledBack (({} : Runtime).start { localClient := .error [] }).1) ↔
      ¬ ({ localClient := .error [] } : StartAnswers).LoginRefused) ∧
    ((({} : Runtime).login { localClient := .error [] } (.error [])).2 = -1 →
        RolledBack (({} : Runtime).login { localClient := .error [] } (.error [])).1 ↔
      ¬ ({ localClient := .error [] } : StartAnswers).LoginRefused) :=
  start_rolled_back_iff (show Transition.exec step {} [] = some {} from rfl) rfl
    { localClient := .error [] } (.error [])

/-- After a refused login the next `Network_Start` returns 0 at once, whatever would fail. -/
theorem start_login_refused :
    ¬ ∀ (labels : List Label) (r : Runtime) (answers : StartAnswers),
      Transition.exec step {} labels = some r → r.started = false →
      (r.start answers).2 = -1 → RolledBack (r.start answers).1 := by
  intro promised
  have back := promised [] {} { startLoginInteractive := .error [] } rfl rfl rfl
  have again := back.again { start := .error [], startLoginInteractive := .error [] } rfl
  cases again.2

end Runtime
end Screenscrab.Network
