import Screenscrab.Network.States

/-! `applyNotify`, the copy of the watcher's update that only the test runs, beside the update
itself. -/
namespace Screenscrab.Network

def applyNotify (current : Status) (authURL lastError : Bytes) (notify : Notify) : Status :=
  let authURL := match notify.browseToURL with
    | some url => if url ≠ [] then url else authURL
    | none => authURL
  let current := match notify.initialStatus, notify.state with
    | some st, _ => toStatusJSON (some st) authURL lastError
    | none, some state => { current with state }
    | none, none => current
  if current.state = .signedIn ∨ current.state = .signingIn ∨ current.state = .connected ∨
      current.state = .retrying then { current with loginURL := authURL }
  else current

/-- The notification carries a backend status with a node of its own. -/
def Notify.hasSelf (notify : Notify) : Bool :=
  (notify.initialStatus.bind BackendStatus.self).isSome

/-! The branches that the goroutine of the installed watcher has beyond the test's copy. -/

def markSignedIn (notify : Notify) (status : Status) : Status :=
  if status.state = .signedIn ∧ status.identity.signedIn = false ∧ notify.hasSelf then
    { status with identity := { status.identity with signedIn := true } }
  else status

def clearError (status : Status) : Status :=
  if status.state = .signedIn then { status with lastError := [] } else status

theorem markSignedIn_state (notify : Notify) (status : Status) :
    (markSignedIn notify status).state = status.state := by
  unfold markSignedIn
  split <;> rfl

theorem markSignedIn_lastError (notify : Notify) (status : Status) :
    (markSignedIn notify status).lastError = status.lastError := by
  unfold markSignedIn
  split <;> rfl

theorem clearError_eq_iff (status : Status) :
    clearError status = status ↔ status.state ≠ .signedIn ∨ status.lastError = [] := by
  unfold clearError
  split
  · next signedIn =>
      rw [or_iff_right (not_not_intro signedIn)]
      constructor
      · intro same
        rw [← same]
      · intro empty
        rw [← empty]
  · next other => exact ⟨fun _ => .inl other, fun _ => rfl⟩

theorem markSignedIn_eq_iff (notify : Notify) (status : Status) :
    markSignedIn notify status = status ↔
      status.state ≠ .signedIn ∨ (notify.hasSelf = true → status.identity.signedIn = true) := by
  unfold markSignedIn
  split
  · next marked =>
      obtain ⟨signedIn, unknown, hasSelf⟩ := marked
      constructor
      · intro same
        have known : status.identity.signedIn = true := same ▸ rfl
        exact .inr fun _ => known
      · rintro (other | known)
        · exact absurd signedIn other
        · rw [known hasSelf] at unknown
          cases unknown
  · next unmarked =>
      apply iff_of_true rfl
      by_cases signedIn : status.state = .signedIn
      · right
        intro hasSelf
        rw [← Bool.not_eq_false]
        intro unknown
        exact unmarked ⟨signedIn, unknown, hasSelf⟩
      · exact .inl signedIn

/-- They change nothing in a status that is not signed in, or that has neither an error to clear
nor an identity to mark. -/
theorem settled_eq_iff (notify : Notify) (status : Status) :
    clearError (markSignedIn notify status) = status ↔ status.state ≠ .signedIn ∨
      status.lastError = [] ∧ (notify.hasSelf = true → status.identity.signedIn = true) := by
  constructor
  · intro same
    by_cases signedIn : status.state = .signedIn
    · have empty : status.lastError = [] := by
        rw [← same, clearError, if_pos ((markSignedIn_state notify status).trans signedIn)]
      have kept := (clearError_eq_iff (markSignedIn notify status)).mpr
        (.inr ((markSignedIn_lastError notify status).trans empty))
      rw [kept, markSignedIn_eq_iff] at same
      exact .inr ⟨empty, same.resolve_left (not_not_intro signedIn)⟩
    · exact .inl signedIn
  · rintro (other | ⟨empty, known⟩)
    · rw [(markSignedIn_eq_iff notify status).mpr (.inl other),
        (clearError_eq_iff status).mpr (.inl other)]
    · rw [(markSignedIn_eq_iff notify status).mpr (.inr known),
        (clearError_eq_iff status).mpr (.inr empty)]

theorem applyNotify_state (current : Status) (authURL lastError : Bytes) (notify : Notify) :
    (applyNotify current authURL lastError notify).state =
      match notify.initialStatus, notify.state with
      | some st, _ => backendState st.backendState
      | none, some state => state
      | none, none => current.state := by
  unfold applyNotify
  cases notify.initialStatus <;> cases notify.state <;> dsimp only <;> split_ifs <;> rfl

theorem applyNotify_lastError (current : Status) (authURL lastError : Bytes) (notify : Notify) :
    (applyNotify current authURL lastError notify).lastError =
      match notify.initialStatus with
      | some _ => lastError
      | none => current.lastError := by
  unfold applyNotify
  cases notify.initialStatus <;> cases notify.state <;> dsimp only <;> split_ifs <;> rfl

theorem applyNotify_known (current : Status) (authURL lastError : Bytes) {notify : Notify}
    {st : BackendStatus} (initial : notify.initialStatus = some st) :
    (applyNotify current authURL lastError notify).identity.signedIn =
      (selfIdentity st).signedIn := by
  unfold applyNotify
  rw [initial]
  dsimp only
  split_ifs <;> rfl

theorem selfIdentity_signedIn (st : BackendStatus) :
    (selfIdentity st).signedIn = true ↔
      st.self.isSome = true ∧ st.backendState = ascii "Running" := by
  unfold selfIdentity
  dsimp only
  cases st.self with
  | none => cases st.currentTailnet <;> simp
  | some self =>
      cases st.currentTailnet <;> cases lookup : st.user.lookup self.userID <;> simp [lookup]

/-- The backend states that `toStatusJSON` does not take for signed in. -/
def waitingStates : List Bytes :=
  [ascii "NeedsLogin", ascii "NeedsMachineAuth", ascii "Starting", ascii "Stopped",
    ascii "NoState"]

theorem backendState_waiting (text : Bytes) :
    backendState text ≠ .signedIn ↔ text ∈ waitingStates := by
  simp only [waitingStates, List.mem_cons, List.not_mem_nil, or_false]
  unfold backendState
  constructor
  · intro waits
    split_ifs at waits with login starting stopped
    · exact login.elim .inl (.inr ∘ .inl)
    · exact .inr (.inr (.inl starting))
    · exact .inr (.inr (.inr stopped))
    · exact absurd rfl waits
  · rintro (rfl | rfl | rfl | rfl | rfl) <;> decide

/-- The notifications on which the test's copy and the goroutine agree. -/
def Agree (current : Status) (lastError : Bytes) (notify : Notify) : Prop :=
  match notify.initialStatus, notify.state with
  | some st, _ =>
    st.backendState ∈ waitingStates ∨
      lastError = [] ∧ (st.self = none ∨ st.backendState = ascii "Running")
  | none, some state => state ≠ State.signedIn ∨ current.lastError = []
  | none, none => current.state ≠ State.signedIn ∨ current.lastError = []

theorem settled_applyNotify_iff (current : Status) (authURL lastError : Bytes) (notify : Notify) :
    clearError (markSignedIn notify (applyNotify current authURL lastError notify)) =
      applyNotify current authURL lastError notify ↔ Agree current lastError notify := by
  rw [settled_eq_iff, applyNotify_state, applyNotify_lastError]
  unfold Agree
  cases initial : notify.initialStatus with
  | some st =>
      have hasSelf : notify.hasSelf = st.self.isSome := by
        rw [Notify.hasSelf, initial]
        rfl
      rw [applyNotify_known _ _ _ initial, selfIdentity_signedIn, hasSelf]
      dsimp only
      rw [backendState_waiting]
      cases st.self <;> simp
  | none =>
      have selfless : notify.hasSelf = false := by
        rw [Notify.hasSelf, initial]
        rfl
      cases notify.state <;> simp [selfless]

namespace Runtime

/-- The update of the installed watcher is the copy and what comes after it. -/
theorem notified_settled {r : Runtime} {watcher : Nat} (installed : r.watcher = some watcher)
    (notify : Notify) :
    (r.notified watcher notify).status =
      clearError (markSignedIn notify (applyNotify r.status r.authURL r.lastError notify)) := by
  have unfolded : (r.notified watcher notify).status =
      (let status := markSignedIn notify (applyNotify r.status r.authURL r.lastError notify)
      if r.watcher = some watcher ∧ status.state = .signedIn then { status with lastError := [] }
      else status) := rfl
  rw [unfolded]
  simp only [installed, true_and]
  rfl

/-- The goroutine of the installed watcher leaves the status that `applyNotify` returns exactly
when there is nothing to clear or to mark in a status that is signed in. -/
theorem watcher_applies_iff {r next : Runtime} {watcher : Nat} {notify : Notify}
    (holds : r.goroutines watcher = some (.locking notify)) (here : r.localClient ≠ none)
    (installed : r.watcher = some watcher) (taken : r.step (.locked watcher) = some next) :
    next.status = applyNotify r.status r.authURL r.lastError notify ↔
      Agree r.status r.lastError notify := by
  obtain ⟨held, holds', ⟨missing, _⟩ | ⟨_, rfl⟩⟩ := locked_cases taken
  · exact absurd missing here
  · cases holds.symm.trans holds'
    rw [← settled_applyNotify_iff r.status r.authURL, ← notified_settled installed]
    rfl

/-- What the bus reports first of a backend that is running. -/
def nowRunning : Notify := { initialStatus := some ⟨ascii "Running", none, none, [], []⟩ }

theorem watcher_applies_iff_running :
    ∃ r next, Transition.exec step {} [.start {}, .received 0 nowRunning] = some r ∧
      r.step (.locked 0) = some next ∧
      (next.status = applyNotify r.status r.authURL r.lastError nowRunning ↔
        Agree r.status r.lastError nowRunning) :=
  ⟨_, _, rfl, rfl, watcher_applies_iff rfl (Option.some_ne_none 0) rfl rfl⟩

/-- After a refused login the goroutine clears an error that `applyNotify` keeps. -/
theorem watcher_clears_error :
    ∃ r next, Transition.exec step {}
        [.start { startLoginInteractive := .error (ascii "refused") }, .received 0 nowRunning] =
          some r ∧
      r.watcher = some 0 ∧ r.step (.locked 0) = some next ∧
      next.status ≠ applyNotify r.status r.authURL r.lastError nowRunning :=
  ⟨_, _, rfl, rfl, rfl, fun same => absurd (congrArg Status.lastError same) (by decide)⟩

end Runtime
end Screenscrab.Network
