import Screenscrab.Network.Starting

/-! Notifications that outlive the watcher that received them. The goroutine looks only at
`state.local`, which a restart has set again. -/
namespace Screenscrab.Network.Runtime

/-- A step that lets no notification of a watcher that is not installed meet a started runtime:
a start finds no goroutine that holds one, and only the installed watcher receives
one while the runtime is started. -/
def Timely (r : Runtime) : Label → Prop
  | .start _ | .login _ _ =>
    r.started = false → ∀ watcher notify, r.goroutines watcher ≠ some (.locking notify)
  | .received watcher _ => r.started = true → r.watcher = some watcher
  | _ => True

/-- What a start, a stop and the goroutines keep when every step is timely. -/
structure Current (r : Runtime) : Prop where
  started : r.started = true ↔ r.localClient ≠ none
  watched : r.localClient = none → r.watcher = none
  holders : ∀ watcher notify, r.goroutines watcher = some (.locking notify) →
    r.watcher = some watcher ∨ r.localClient = none

theorem Current.initial : Current {} := ⟨by decide, fun _ => rfl, nofun⟩

@[simp] theorem setGoroutine_goroutines (r : Runtime) (watcher : Nat) (g : Option Goroutine)
    (i : Nat) : (r.setGoroutine watcher g).goroutines i =
      if i = watcher then g else r.goroutines i := rfl

/-- The fields that the invariant reads. -/
structure Same (r next : Runtime) : Prop where
  started : next.started = r.started
  localClient : next.localClient = r.localClient
  watcher : next.watcher = r.watcher
  goroutines : next.goroutines = r.goroutines

theorem Same.refl (r : Runtime) : Same r r := ⟨rfl, rfl, rfl, rfl⟩

theorem Current.same {r next : Runtime} (current : Current r) (same : Same r next) :
    Current next := by
  obtain ⟨started, localClient, watcher, goroutines⟩ := same
  refine ⟨?_, ?_, ?_⟩
  · rw [started, localClient]
    exact current.started
  · rw [localClient, watcher]
    exact current.watched
  · rw [localClient, watcher, goroutines]
    exact current.holders

theorem Current.unwatched {r : Runtime} (current : Current r) (stopped : r.started = false) :
    r.watcher = none := by
  refine current.watched (Classical.not_not.mp fun local_ => ?_)
  rw [current.started.mpr local_] at stopped
  cases stopped

/-- A goroutine that no longer holds a notification. -/
theorem Current.released {r next : Runtime} (current : Current r) (same : Same r next)
    {watcher : Nat} {g : Option Goroutine} (free : ∀ notify, g ≠ some (.locking notify)) :
    Current (next.setGoroutine watcher g) := by
  have kept := current.same same
  refine ⟨kept.started, kept.watched, fun i notify holds => ?_⟩
  rw [setGoroutine_goroutines] at holds
  split at holds
  · exact absurd holds (free notify)
  · exact kept.holders i notify holds

theorem Writes.same {r next : Runtime} (writes : Writes r next) : Same r next :=
  ⟨writes.started, writes.localClient, writes.watcher, writes.goroutines⟩

theorem connectPeer_same (r : Runtime) (conn : Except Bytes Nat) :
    Same r (r.connectPeer conn).1 := by
  unfold connectPeer
  split
  · exact .refl r
  · cases conn <;> exact ⟨rfl, rfl, rfl, rfl⟩

theorem disconnect_same (r : Runtime) (connID : UInt64) : Same r (r.disconnect connID).1 := by
  unfold disconnect
  split <;> exact ⟨rfl, rfl, rfl, rfl⟩

/-- A start from a stopped runtime that no goroutine waits for. -/
theorem startLocked_current {r : Runtime} (current : Current r) (os : StartAnswers)
    (timely : r.started = false → ∀ watcher notify, r.goroutines watcher ≠ some (.locking notify)) :
    Current (r.startLocked os).1 := by
  have starting := startLocked_starting r os
  generalize (r.startLocked os).1 = next at starting ⊢
  cases starting with
  | running => exact current
  | refused => exact ⟨current.started, current.watched, current.holders⟩
  | unwatched _ _ stopped =>
      refine ⟨⟨nofun, fun local_ => absurd rfl local_⟩, fun _ => ?_, fun i notify holds => ?_⟩
      · exact current.unwatched stopped
      · exact absurd holds (timely stopped i notify)
  | begun watched answer lastError status stopped opened =>
      have free : ¬ (r.served.localClient = none ∨ r.served.watcher ≠ none) := by
        rintro (server | some_)
        · cases server
        · exact some_ (current.unwatched stopped)
      unfold watchIPNLocked at opened
      rw [if_neg free] at opened
      cases answer with
      | error err => cases opened
      | ok =>
          cases opened
          refine ⟨⟨fun _ => nofun, fun _ => rfl⟩, nofun, fun i notify holds => ?_⟩
          rw [setGoroutine_goroutines] at holds
          split at holds
          · cases holds
          · exact absurd holds (timely stopped i notify)

theorem stopLocked_current (r : Runtime) : Current r.stopLocked := by
  refine ⟨⟨nofun, fun local_ => absurd rfl local_⟩, fun _ => rfl, fun _ _ _ => .inr rfl⟩

theorem Current.step {r next : Runtime} {label : Label} (current : Current r)
    (timely : r.Timely label) (taken : r.step label = some next) : Current next := by
  cases label with
  | start answers =>
      cases taken
      exact (startLocked_current current answers timely).same (start_writes r answers).same
  | login answers status =>
      cases taken
      exact (startLocked_current current answers timely).same (login_writes r answers status).same
  | stop | logout =>
      cases taken
      exact stopLocked_current r
  | connectPeer conn =>
      cases taken
      exact current.same (connectPeer_same r conn)
  | disconnect connID =>
      cases taken
      exact current.same (disconnect_same r connID)
  | refresh status =>
      cases taken
      exact current.same (refreshLocked_writes r status).same
  | reconnect status =>
      cases taken
      exact current.same (reconnect_writes r status).same
  | userLog msg =>
      cases taken
      exact current.same (userLog_writes r msg).same
  | received watcher notify =>
      simp only [Runtime.step] at taken
      split at taken
      · cases taken
        refine ⟨current.started, current.watched, fun i held holds => ?_⟩
        rw [setGoroutine_goroutines] at holds
        split at holds
        · next here =>
            cases running : r.started with
            | true => exact .inl (here ▸ timely running)
            | false =>
                refine .inr (Classical.not_not.mp fun local_ => ?_)
                rw [current.started.mpr local_] at running
                cases running
        · exact current.holders i held holds
      · cases taken
  | nextFailed watcher =>
      simp only [Runtime.step] at taken
      split at taken
      · cases taken
        exact current.released (.refl r) fun _ => (Option.some_ne_none _).symm
      · cases taken
  | locked watcher =>
      obtain ⟨s, g, writes, free, rfl⟩ := step_locked taken
      exact current.released writes.same free

/-- In a run of timely steps, a notification of a watcher that is not installed never changes
the published status or the authentication URL. -/
theorem stale_notification_ignored {labels : List Label} {r next : Runtime}
    (run : Transition.exec Runtime.step {} labels = some r)
    (timely : Transition.Along Runtime.step Timely {} labels) {watcher : Nat}
    (stale : r.watcher ≠ some watcher) (taken : r.step (.locked watcher) = some next) :
    next.status = r.status ∧ next.authURL = r.authURL := by
  have current : Current r :=
    Transition.exec_along (fun _ _ _ current timely taken => Current.step current timely taken)
      Current.initial run timely
  obtain ⟨notify, holds, ⟨_, rfl⟩ | ⟨here, _⟩⟩ := Runtime.locked_cases taken
  · exact ⟨rfl, rfl⟩
  · have stopped := (current.holders watcher notify holds).resolve_left stale
    exact absurd stopped here

/-- A notification received before a stop and applied after it, in time. -/
theorem stale_notification_ignored_stopped :
    let labels : List Label :=
      [.start {}, .received 0 { browseToURL := some (ascii "https://old") }, .stop]
    ∃ r next, Transition.exec Runtime.step {} labels = some r ∧
      r.step (.locked 0) = some next ∧ next.status = r.status ∧ next.authURL = r.authURL := by
  intro labels
  have timely : Transition.Along Runtime.step Timely {} labels :=
    .cons (fun _ => nofun) rfl (.cons (fun _ => rfl) rfl (.cons trivial rfl (.nil _)))
  exact ⟨_, _, rfl, rfl, @stale_notification_ignored labels _ _ rfl timely 0 nofun rfl⟩

/-- The runtime is stopped and started again before the goroutine of the first watcher
takes the lock: its URL is installed beside the new watcher. -/
theorem stale_notification_applied :
    let url := ascii "https://old"
    ∃ r next, Transition.exec Runtime.step {}
        [.start {}, .received 0 { browseToURL := some url }, .stop, .start {}] = some r ∧
      r.watcher = some 1 ∧ r.authURL = [] ∧ r.step (.locked 0) = some next ∧
      next.authURL = url ∧ next.status.loginURL = url ∧ r.status.loginURL = [] :=
  ⟨_, _, rfl, rfl, rfl, rfl, rfl, rfl, rfl⟩

end Screenscrab.Network.Runtime
