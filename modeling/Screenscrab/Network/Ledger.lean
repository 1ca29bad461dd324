import Screenscrab.Network.Connected
import Screenscrab.Network.Rollback

/-! What the runtime has been told, and that the published status holds nothing else. -/
namespace Screenscrab.Network
open Transition (exec)

/-- The backend status that came last and the login URLs that were announced, both since the last
stop, and the errors that were ever met. The latest comes first. -/
structure Ledger where
  report : Option BackendStatus := none
  urls : List Bytes := []
  errors : List Bytes := []

namespace Ledger

def stopped (ledger : Ledger) : Ledger := { ledger with report := none, urls := [] }

def failed (ledger : Ledger) (err : Bytes) : Ledger :=
  { ledger with errors := err :: ledger.errors }

def announced (ledger : Ledger) (url : Bytes) : Ledger := { ledger with urls := url :: ledger.urls }

def told (ledger : Ledger) : Except Bytes BackendStatus → Ledger
  | .error err => ledger.failed err
  | .ok st => { ledger with report := some st }

def notified (ledger : Ledger) (notify : Notify) : Ledger :=
  let ledger := match notify.browseToURL with
    | some url => if url ≠ [] then ledger.announced url else ledger
    | none => ledger
  match notify.initialStatus with
  | some st => { ledger with report := some st }
  | none => ledger

/-- The peers of the report; there are none without one. -/
def peers (ledger : Ledger) : List Peer :=
  match ledger.report with
  | some st => st.peer.map toPeer
  | none => []

def identity (ledger : Ledger) : Identity :=
  match ledger.report with
  | some st => selfIdentity st
  | none => { deviceName := ascii "Screenscrab", deviceID := ascii "pending" }

def lastError (ledger : Ledger) : Bytes := ledger.errors.headD []

def authURL (ledger : Ledger) : Bytes := ledger.urls.headD []

end Ledger

/-- The error of the first call of a start that fails. -/
def StartAnswers.error? (answers : StartAnswers) : Option Bytes :=
  match answers.start, answers.localClient, answers.watchIPNBus, answers.startLoginInteractive with
  | .error err, _, _, _ => some err
  | .ok _, .error err, _, _ => some err
  | .ok _, .ok _, .error err, _ => some err
  | .ok _, .ok _, .ok _, .error err => some err
  | .ok _, .ok _, .ok _, .ok _ => none

namespace Runtime

/-- A runtime that is started is not started again. -/
def startError (r : Runtime) (answers : StartAnswers) : Option Bytes :=
  if r.started then none else answers.error?

/-- What a step adds to the ledger. -/
def record (r : Runtime) (ledger : Ledger) : Label → Ledger
  | .start answers =>
    match r.startError answers with
    | some err => ledger.failed err
    | none => ledger
  | .login answers status =>
    match r.startError answers with
    | some err => ledger.failed err
    | none => ledger.told status
  | .stop | .logout => ledger.stopped
  | .refresh status | .reconnect status =>
    if r.localClient = none then ledger else ledger.told status
  | .connectPeer (.error err) => if r.localClient = none then ledger else ledger.failed err
  | .userLog msg =>
    if isInfix (ascii "auth") msg ∨ isInfix (ascii "login") msg then ledger.announced msg
    else ledger
  | .locked watcher =>
    match r.goroutines watcher with
    | some (.locking notify) => if r.localClient = none then ledger else ledger.notified notify
    | _ => ledger
  | _ => ledger

/-- The ledger of a run. -/
def recorded (r : Runtime) (ledger : Ledger) : List Label → Ledger
  | [] => ledger
  | label :: labels =>
    match r.step label with
    | none => r.record ledger label
    | some next => recorded next (r.record ledger label) labels

/-- The calls that fetch a backend status and publish it: they refresh a runtime that is started. -/
def Fetches (r : Runtime) (st : BackendStatus) : Label → Prop
  | .refresh status | .reconnect status => r.localClient ≠ none ∧ status = .ok st
  | .login answers status => r.startError answers = none ∧ status = .ok st
  | _ => False

/-- The texts of errors that the code itself puts into a status. -/
def notices : List Bytes := [[], ascii "network runtime not started", ascii "network stopped"]

/-- What is published is what the ledger holds. -/
structure Shows (ledger : Ledger) (r : Runtime) : Prop where
  peers : r.status.peers = ledger.peers
  count : r.status.peerCount = r.status.peers.length
  reconnectable : r.status.reconnectable = true
  identity : r.status.identity = ledger.identity ∨
    r.status.identity = { ledger.identity with signedIn := true } ∧
      (ledger.report.bind BackendStatus.self).isSome = true
  lastError : r.lastError = ledger.lastError
  shownError : r.status.lastError ∈ notices ++ ledger.errors
  authURL : r.authURL = ledger.authURL
  loginURL : r.status.loginURL ∈ [] :: ledger.urls

theorem Shows.initial : Shows {} {} := by
  refine ⟨rfl, rfl, rfl, .inl rfl, rfl, ?_, rfl, List.mem_cons_self⟩
  exact List.mem_cons_of_mem _ List.mem_cons_self

section
variable {ledger : Ledger} {r next : Runtime}

/-- Only the state changes, and perhaps the error is cleared or the URL published. -/
theorem Shows.kept (shows_ : Shows ledger r) (peers : next.status.peers = r.status.peers)
    (count : next.status.peerCount = r.status.peerCount)
    (reconnectable : next.status.reconnectable = r.status.reconnectable)
    (identity : next.status.identity = r.status.identity)
    (error : next.status.lastError = r.status.lastError ∨ next.status.lastError = [])
    (url : next.status.loginURL = r.status.loginURL ∨ next.status.loginURL = r.authURL)
    (lastError : next.lastError = r.lastError) (authURL : next.authURL = r.authURL) :
    Shows ledger next := by
  refine ⟨peers.trans shows_.peers, ?_, reconnectable.trans shows_.reconnectable, ?_,
    lastError.trans shows_.lastError, ?_, authURL.trans shows_.authURL, ?_⟩
  · rw [count, peers]
    exact shows_.count
  · rw [identity]
    exact shows_.identity
  · rcases error with same | cleared
    · rw [same]
      exact shows_.shownError
    · rw [cleared]
      exact List.mem_cons_self
  · rcases url with same | published
    · rw [same]
      exact shows_.loginURL
    · rw [published, shows_.authURL, Ledger.authURL]
      cases ledger.urls with
      | nil => exact List.mem_cons_self
      | cons url urls => exact List.mem_cons_of_mem _ List.mem_cons_self

theorem Shows.failed {state : State} {err : Bytes} (shows_ : Shows ledger r)
    (status : next.status = { r.status with state, lastError := err })
    (lastError : next.lastError = err) (authURL : next.authURL = r.authURL) :
    Shows (ledger.failed err) next := by
  refine ⟨?_, ?_, ?_, ?_, lastError, ?_, authURL.trans shows_.authURL, ?_⟩
  · rw [status]
    exact shows_.peers
  · rw [status]
    exact shows_.count
  · rw [status]
    exact shows_.reconnectable
  · rw [status]
    exact shows_.identity
  · rw [status]
    exact List.mem_append_right notices List.mem_cons_self
  · rw [status]
    exact shows_.loginURL

/-- A backend status replaces all that is published, and publishes the last error again. -/
theorem Shows.reported (shows_ : Shows ledger r) (st : BackendStatus)
    (status : next.status = toStatusJSON (some st) r.authURL r.lastError)
    (lastError : next.lastError = r.lastError) (authURL : next.authURL = r.authURL) :
    Shows { ledger with report := some st } next := by
  refine ⟨?_, ?_, ?_, ?_, lastError.trans shows_.lastError, ?_, authURL.trans shows_.authURL, ?_⟩
  · rw [status]
    rfl
  · rw [status]
    exact (List.length_map toPeer).symm
  · rw [status]
    rfl
  · rw [status]
    exact .inl rfl
  · rw [status]
    refine List.mem_append.mpr ?_
    rw [show (toStatusJSON (some st) r.authURL r.lastError).lastError = r.lastError from rfl,
      shows_.lastError, Ledger.lastError]
    cases ledger.errors with
    | nil => exact .inl List.mem_cons_self
    | cons err errors => exact .inr List.mem_cons_self
  · rw [status]
    rw [show (toStatusJSON (some st) r.authURL r.lastError).loginURL = r.authURL from rfl,
      shows_.authURL, Ledger.authURL]
    cases ledger.urls with
    | nil => exact List.mem_cons_self
    | cons url urls => exact List.mem_cons_of_mem _ List.mem_cons_self

theorem Shows.announced {url : Bytes} (shows_ : Shows ledger r) :
    Shows (ledger.announced url) { r with authURL := url } := by
  refine ⟨shows_.peers, shows_.count, shows_.reconnectable, shows_.identity, shows_.lastError,
    shows_.shownError, rfl, ?_⟩
  rcases List.mem_cons.mp shows_.loginURL with empty | known
  · rw [show ({ r with authURL := url } : Runtime).status.loginURL = [] from empty]
    exact List.mem_cons_self
  · exact List.mem_cons_of_mem _ (List.mem_cons_of_mem _ known)

theorem Shows.stopped (shows_ : Shows ledger r) : Shows ledger.stopped r.stopLocked := by
  have lastError : r.stopLocked.lastError = r.lastError := by
    unfold stopLocked
    cases r.server <;> rfl
  refine ⟨rfl, rfl, rfl, .inl rfl, lastError.trans shows_.lastError, ?_, rfl, List.mem_cons_self⟩
  exact List.mem_cons_of_mem _ (List.mem_cons_of_mem _ List.mem_cons_self)

theorem Shows.refreshed (shows_ : Shows ledger r) (here : r.localClient ≠ none)
    (answer : Except Bytes BackendStatus) :
    Shows (ledger.told answer) (r.refreshLocked answer) := by
  unfold refreshLocked
  rw [if_neg here]
  cases answer with
  | error err => exact shows_.failed rfl rfl rfl
  | ok st => exact shows_.reported st rfl rfl rfl

theorem Shows.unrefreshed (shows_ : Shows ledger r) (missing : r.localClient = none)
    (answer : Except Bytes BackendStatus) : Shows ledger (r.refreshLocked answer) := by
  unfold refreshLocked
  rw [if_pos missing]
  exact shows_.kept rfl rfl rfl rfl (.inl rfl) (.inl rfl) rfl rfl

/-- What a stopped runtime publishes once it has been started, and how that fails. -/
theorem Shows.started (shows_ : Shows ledger r) (installed : Installed r)
    (stopped : r.started = false) (answers : StartAnswers) :
    match answers.error? with
    | some err => ∃ s, r.startLocked answers = (s, some err) ∧
        Shows (ledger.failed err) (s.startFailed err)
    | none => ∃ s, r.startLocked answers = (s, none) ∧ Shows ledger s ∧ s.localClient ≠ none := by
  have watcher := installed.watcher stopped
  obtain ⟨started, localClient, watchIPNBus, login⟩ := answers
  unfold startLocked StartAnswers.error?
  rw [if_neg (by rw [stopped]; decide)]
  cases started with
  | error err => exact ⟨_, rfl, shows_.failed rfl rfl rfl⟩
  | ok =>
      cases localClient with
      | error err => exact ⟨_, rfl, shows_.failed rfl rfl rfl⟩
      | ok =>
          cases watchIPNBus with
          | error err =>
              simp only [watchIPNLocked, watcher]
              exact ⟨_, rfl, shows_.failed rfl rfl rfl⟩
          | ok =>
              cases login with
              | error err =>
                  simp only [watchIPNLocked, watcher]
                  exact ⟨_, rfl, shows_.failed rfl rfl rfl⟩
              | ok =>
                  simp only [watchIPNLocked, watcher]
                  refine ⟨_, rfl, ?_, ?_⟩
                  · exact shows_.kept rfl rfl rfl rfl (.inr rfl) (.inr rfl) rfl rfl
                  · exact Option.some_ne_none _

/-- An identity is marked as signed in when the report has one. -/
theorem Shows.marked (shows_ : Shows ledger r)
    (self : (ledger.report.bind BackendStatus.self).isSome = true) :
    Shows ledger { r with
      status := { r.status with identity := { r.status.identity with signedIn := true } } } := by
  refine ⟨shows_.peers, shows_.count, shows_.reconnectable, .inr ⟨?_, self⟩, shows_.lastError,
    shows_.shownError, shows_.authURL, shows_.loginURL⟩
  rcases shows_.identity with same | ⟨same, _⟩
  · exact congrArg (fun identity : Identity => { identity with signedIn := true }) same
  · exact congrArg (fun identity : Identity => { identity with signedIn := true }) same

/-- The base of what a goroutine publishes: the URL and the status, before the URL, the identity
and the error are settled. -/
def translated (r : Runtime) (notify : Notify) : Runtime :=
  let authURL := match notify.browseToURL with
    | some url => if url ≠ [] then url else r.authURL
    | none => r.authURL
  let status := match notify.initialStatus, notify.state with
    | some st, _ => toStatusJSON (some st) authURL r.lastError
    | none, some state => { r.status with state }
    | none, none => r.status
  { r with authURL, status }

theorem Shows.translated (shows_ : Shows ledger r) (notify : Notify) :
    Shows (ledger.notified notify) (r.translated notify) := by
  have browsed : ∃ authURL ledger', Shows ledger' { r with authURL } ∧
      r.translated notify = ({ r with authURL } : Runtime).translated
        { notify with browseToURL := none } ∧
      ledger.notified notify = ledger'.notified { notify with browseToURL := none } := by
    unfold Runtime.translated Ledger.notified
    cases notify.browseToURL with
    | none => exact ⟨r.authURL, ledger, shows_, rfl, rfl⟩
    | some url =>
        by_cases empty : url = []
        · rw [empty]
          exact ⟨r.authURL, ledger, shows_, rfl, rfl⟩
        · dsimp only
          rw [if_pos empty, if_pos empty]
          exact ⟨url, ledger.announced url, shows_.announced, rfl, rfl⟩
  obtain ⟨authURL, ledger', shows_, same, same'⟩ := browsed
  rw [same, same']
  unfold Runtime.translated Ledger.notified
  cases notify.initialStatus with
  | some st => exact shows_.reported st rfl rfl rfl
  | none =>
      cases notify.state with
      | some state => exact shows_.kept rfl rfl rfl rfl (.inl rfl) (.inl rfl) rfl rfl
      | none => exact shows_

theorem Shows.notified (shows_ : Shows ledger r) (watcher : Nat) (notify : Notify) :
    Shows (ledger.notified notify) (r.notified watcher notify) := by
  have base := shows_.translated notify
  have self : (notify.initialStatus.bind BackendStatus.self).isSome = true →
      ((ledger.notified notify).report.bind BackendStatus.self).isSome = true := by
    unfold Ledger.notified
    cases notify.initialStatus with
    | some st => exact id
    | none => exact nofun
  let url (r : Runtime) : Runtime :=
    { r with status :=
      if r.status.state = .signedIn ∨ r.status.state = .signingIn ∨ r.status.state = .connected ∨
          r.status.state = .retrying then { r.status with loginURL := r.authURL }
      else r.status }
  let mark (r : Runtime) : Runtime :=
    { r with status :=
      if r.status.state = .signedIn ∧ r.status.identity.signedIn = false ∧
          (notify.initialStatus.bind BackendStatus.self).isSome then
        { r.status with identity := { r.status.identity with signedIn := true } }
      else r.status }
  let clear (r : Runtime) : Runtime :=
    { r with status :=
      if r.watcher = some watcher ∧ r.status.state = .signedIn then
        { r.status with lastError := [] }
      else r.status }
  have settled : r.notified watcher notify = clear (mark (url (r.translated notify))) := rfl
  have published : Shows (ledger.notified notify) (url (r.translated notify)) := by
    dsimp only [url]
    split
    · exact base.kept rfl rfl rfl rfl (.inl rfl) (.inr rfl) rfl rfl
    · exact base
  have marked : Shows (ledger.notified notify) (mark (url (r.translated notify))) := by
    dsimp only [mark]
    split
    · next here => exact published.marked (self here.2.2)
    · exact published
  rw [settled]
  dsimp only [clear]
  split
  · exact marked.kept rfl rfl rfl rfl (.inr rfl) (.inl rfl) rfl rfl
  · exact marked

/-- A start fails with its error, or ends with a local client. -/
theorem Shows.startLocked (shows_ : Shows ledger r) (installed : Installed r)
    (handles : Handles r) (answers : StartAnswers) :
    match r.startError answers with
    | some err => ∃ s, r.startLocked answers = (s, some err) ∧
        Shows (ledger.failed err) (s.startFailed err)
    | none => ∃ s, r.startLocked answers = (s, none) ∧ Shows ledger s ∧ s.localClient ≠ none := by
  unfold startError
  cases running : r.started with
  | false => exact shows_.started installed running answers
  | true =>
      refine ⟨r, ?_, shows_, handles.localClient.mp running⟩
      unfold Runtime.startLocked
      rw [if_pos running]

/-- One step of the runtime. -/
theorem Shows.step {label : Label} (shows_ : Shows ledger r) (installed : Installed r)
    (handles : Handles r) (taken : r.step label = some next) :
    Shows (r.record ledger label) next := by
  cases label with
  | start answers =>
      cases taken
      have started := shows_.startLocked installed handles answers
      rw [record, start]
      cases failed : r.startError answers with
      | some err =>
          rw [failed] at started
          obtain ⟨s, same, shows_⟩ := started
          rw [same]
          exact shows_
      | none =>
          rw [failed] at started
          obtain ⟨s, same, shows_, _⟩ := started
          rw [same]
          exact shows_
  | login answers status =>
      cases taken
      have started := shows_.startLocked installed handles answers
      rw [record, login]
      cases failed : r.startError answers with
      | some err =>
          rw [failed] at started
          obtain ⟨s, same, shows_⟩ := started
          rw [same]
          exact shows_
      | none =>
          rw [failed] at started
          obtain ⟨s, same, shows_, here⟩ := started
          rw [same]
          exact shows_.refreshed here status
  | stop | logout =>
      cases taken
      exact shows_.stopped
  | refresh status =>
      cases taken
      rw [record]
      split
      · next missing => exact shows_.unrefreshed missing status
      · next here => exact shows_.refreshed here status
  | reconnect status =>
      cases taken
      rw [record, reconnect]
      split
      · exact shows_
      · next here => exact shows_.refreshed here status
  | connectPeer conn =>
      cases taken
      unfold connectPeer
      cases conn with
      | error err =>
          rw [record]
          split
          · exact shows_
          · exact shows_.failed rfl rfl rfl
      | ok conn =>
          split
          · exact shows_
          · exact shows_.kept rfl rfl rfl rfl (.inl rfl) (.inl rfl) rfl rfl
  | disconnect connID =>
      cases taken
      unfold disconnect
      split
      · exact shows_
      · exact shows_.kept rfl rfl rfl rfl (.inl rfl) (.inl rfl) rfl rfl
  | userLog msg =>
      cases taken
      rw [record, userLog]
      split
      · exact shows_.announced
      · exact shows_
  | received watcher notify | nextFailed watcher =>
      simp only [Runtime.step] at taken
      split at taken
      · cases taken
        exact shows_.kept rfl rfl rfl rfl (.inl rfl) (.inl rfl) rfl rfl
      · cases taken
  | locked watcher =>
      obtain ⟨notify, holds, ⟨missing, rfl⟩ | ⟨here, rfl⟩⟩ := locked_cases taken
      · rw [record, holds]
        dsimp only
        rw [if_pos missing]
        exact shows_.kept rfl rfl rfl rfl (.inl rfl) (.inl rfl) rfl rfl
      · rw [record, holds]
        dsimp only
        rw [if_neg here]
        exact (shows_.notified watcher notify).kept rfl rfl rfl rfl (.inl rfl) (.inl rfl) rfl rfl

/-- A status that is fetched shows the error that is stored. -/
theorem Shows.fetched {label : Label} {st : BackendStatus} (shows_ : Shows ledger r)
    (installed : Installed r) (handles : Handles r) (fetches : r.Fetches st label)
    (taken : r.step label = some next) : next.status.lastError = r.lastError := by
  cases label with
  | refresh status =>
      obtain ⟨here, rfl⟩ := fetches
      cases taken
      rw [refreshLocked, if_neg here]
      rfl
  | reconnect status =>
      obtain ⟨here, rfl⟩ := fetches
      cases taken
      rw [reconnect, if_neg here, refreshLocked, if_neg here]
      rfl
  | login answers status =>
      obtain ⟨fine, rfl⟩ := fetches
      cases taken
      have started := shows_.startLocked installed handles answers
      rw [fine] at started
      obtain ⟨s, same, later, here⟩ := started
      rw [login, same]
      dsimp only
      rw [refreshLocked, if_neg here]
      exact later.lastError.trans shows_.lastError.symm
  | _ => exact fetches.elim

theorem Shows.run {labels : List Label} (shows_ : Shows ledger r) (installed : Installed r)
    (handles : Handles r) (reached : exec Runtime.step r labels = some next) :
    Shows (r.recorded ledger labels) next := by
  induction labels generalizing r ledger with
  | nil =>
      cases reached
      exact shows_
  | cons label labels ih =>
      obtain ⟨s, taken, later⟩ := Transition.exec_cons_some reached
      rw [recorded, taken]
      exact ih (shows_.step installed handles taken) (installed.step taken)
        (step_handles handles taken) later

/-- Errors are only added. -/
theorem record_errors (r : Runtime) (ledger : Ledger) (label : Label) :
    ledger.errors <:+ (r.record ledger label).errors := by
  have failed (err : Bytes) : ledger.errors <:+ (ledger.failed err).errors :=
    List.suffix_cons err ledger.errors
  have told (answer : Except Bytes BackendStatus) :
      ledger.errors <:+ (ledger.told answer).errors := by
    cases answer with
    | error err => exact failed err
    | ok st => exact List.suffix_rfl
  have notified (notify : Notify) : (ledger.notified notify).errors = ledger.errors := by
    have browsed : ∀ url, (if url ≠ [] then ledger.announced url else ledger).errors =
        ledger.errors := by
      intro url
      split <;> rfl
    unfold Ledger.notified
    cases notify.initialStatus <;> cases notify.browseToURL
    all_goals first | rfl | exact browsed _
  cases label with
  | start answers =>
      rw [record]
      cases r.startError answers with
      | some err => exact failed err
      | none => exact List.suffix_rfl
  | login answers status =>
      rw [record]
      cases r.startError answers with
      | some err => exact failed err
      | none => exact told status
  | refresh status | reconnect status =>
      rw [record]
      split
      · exact List.suffix_rfl
      · exact told status
  | connectPeer conn =>
      cases conn with
      | error err =>
          rw [record]
          split
          · exact List.suffix_rfl
          · exact failed err
      | ok conn => exact List.suffix_rfl
  | userLog msg =>
      rw [record]
      split <;> exact List.suffix_rfl
  | locked watcher =>
      rw [record]
      split
      · split
        · exact List.suffix_rfl
        · exact ⟨[], (notified _).symm⟩
      · exact List.suffix_rfl
  | stop | logout | disconnect | received | nextFailed => exact List.suffix_rfl

theorem recorded_errors {labels : List Label} (reached : exec Runtime.step r labels = some next)
    (ledger : Ledger) : ledger.errors <:+ (r.recorded ledger labels).errors := by
  induction labels generalizing r ledger with
  | nil => exact List.suffix_rfl
  | cons label labels ih =>
      obtain ⟨s, taken, later⟩ := Transition.exec_cons_some reached
      rw [recorded, taken]
      exact (record_errors r ledger label).trans (ih later _)

end

section
variable {labels : List Label} {r : Runtime}

/-- In every run the published peers and identity are those of one backend status, the last since
the runtime was stopped, and the published login URL is one that was announced since then. -/
theorem published_status_reported (reached : exec Runtime.step {} labels = some r) :
    let ledger := recorded {} {} labels
    r.status.peers = ledger.peers ∧ r.status.peerCount = r.status.peers.length ∧
    (r.status.identity = ledger.identity ∨
      r.status.identity = { ledger.identity with signedIn := true } ∧
        (ledger.report.bind BackendStatus.self).isSome = true) ∧
    r.authURL = ledger.authURL ∧ r.status.loginURL ∈ [] :: ledger.urls ∧
    r.status.reconnectable = true := by
  have shows_ := Shows.initial.run .initial .initial reached
  exact ⟨shows_.peers, shows_.count, shows_.identity, shows_.authURL, shows_.loginURL,
    shows_.reconnectable⟩

/-- A status is fetched, and the runtime is restarted. -/
def restart : List Label :=
  [.start {}, .refresh (.ok ⟨ascii "Running", none, some (ascii "net"), [], []⟩), .stop,
    .userLog (ascii "auth"), .start {}]

/-- Nothing is left of the status from before the stop. -/
theorem published_status_reported_restart :
    ∃ r, exec Runtime.step {} restart = some r ∧ r.status.peers = [] ∧
      r.authURL = ascii "auth" ∧ r.status.loginURL ∈ [[], ascii "auth"] := by
  refine ⟨_, rfl, ?_⟩
  have shown := @published_status_reported restart _ rfl
  exact ⟨shown.1, shown.2.2.2.1, shown.2.2.2.2.1⟩

/-- No error is ever forgotten: `lastError` is the last one that was stored since the process
began, every call that fetches a backend status publishes it again, and what follows, a stop
included, only adds others. -/
theorem errors_never_forgotten (reached : exec Runtime.step {} labels = some r) :
    let ledger := recorded {} {} labels
    r.lastError = ledger.lastError ∧ r.status.lastError ∈ notices ++ ledger.errors ∧
    (∀ label st next, r.Fetches st label → r.step label = some next →
      next.status.lastError = ledger.lastError) ∧
    ∀ more next, exec Runtime.step r more = some next →
      next.lastError = (r.recorded ledger more).lastError ∧
      ledger.errors <:+ (r.recorded ledger more).errors := by
  intro ledger
  have shows_ : Shows ledger r := Shows.initial.run .initial .initial reached
  have installed : Installed r := Transition.exec_invariant
    (fun _ _ _ installed => installed.step) .initial reached
  have handles : Handles r := Transition.exec_invariant
    (fun _ _ _ handles => step_handles handles) .initial reached
  refine ⟨shows_.lastError, shows_.shownError, ?_, ?_⟩
  · intro label st next fetches taken
    rw [shows_.fetched installed handles fetches taken, shows_.lastError]
  · intro more next later
    exact ⟨(shows_.run installed handles later).lastError, recorded_errors later ledger⟩

/-- A peer cannot be reached, and the runtime is restarted. -/
def redial : List Label := [.start {}, .connectPeer (.error (ascii "dial")), .stop, .start {}]

theorem errors_never_forgotten_redial :
    let st : BackendStatus := ⟨ascii "Running", none, none, [], []⟩
    ∃ r next, exec Runtime.step {} redial = some r ∧ r.status.lastError = [] ∧
      r.step (.login {} (.ok st)) = some next ∧ next.status.lastError = ascii "dial" := by
  intro st
  refine ⟨_, _, rfl, rfl, rfl, ?_⟩
  exact (@errors_never_forgotten redial _ rfl).2.2.1 (.login {} (.ok st)) st _ ⟨rfl, rfl⟩ rfl

end

end Runtime
end Screenscrab.Network
