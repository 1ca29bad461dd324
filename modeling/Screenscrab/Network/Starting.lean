import Screenscrab.Network.Runtime

/-! How a start ends, and what the functions that only report something leave alone. -/
namespace Screenscrab.Network.Runtime

/-- What is left alone by the functions that only write a status, an error or the URL. -/
structure Writes (r next : Runtime) : Prop where
  started : next.started = r.started
  server : next.server = r.server
  localClient : next.localClient = r.localClient
  nextID : next.nextID = r.nextID
  conns : next.conns = r.conns
  watcher : next.watcher = r.watcher
  goroutines : next.goroutines = r.goroutines

theorem Writes.refl (r : Runtime) : Writes r r := ⟨rfl, rfl, rfl, rfl, rfl, rfl, rfl⟩

theorem refreshLocked_writes (r : Runtime) (answer : Except Bytes BackendStatus) :
    Writes r (r.refreshLocked answer) := by
  unfold refreshLocked
  split
  · exact ⟨rfl, rfl, rfl, rfl, rfl, rfl, rfl⟩
  · cases answer <;> exact ⟨rfl, rfl, rfl, rfl, rfl, rfl, rfl⟩

theorem reconnect_writes (r : Runtime) (answer : Except Bytes BackendStatus) :
    Writes r (r.reconnect answer).1 := by
  unfold reconnect
  split
  · exact .refl r
  · exact refreshLocked_writes r answer

theorem userLog_writes (r : Runtime) (msg : Bytes) : Writes r (r.userLog msg) := by
  unfold userLog
  split <;> exact ⟨rfl, rfl, rfl, rfl, rfl, rfl, rfl⟩

theorem startFailed_writes (r : Runtime) (err : Bytes) : Writes r (r.startFailed err) :=
  ⟨rfl, rfl, rfl, rfl, rfl, rfl, rfl⟩

/-- What `Network_Start` adds to `startLocked`. -/
theorem start_writes (r : Runtime) (answers : StartAnswers) :
    Writes (r.startLocked answers).1 (r.start answers).1 := by
  unfold start
  cases r.startLocked answers with
  | mk s error =>
      cases error with
      | some err => exact startFailed_writes s err
      | none => exact .refl s

theorem login_writes (r : Runtime) (answers : StartAnswers) (status : Except Bytes BackendStatus) :
    Writes (r.startLocked answers).1 (r.login answers status).1 := by
  unfold login
  cases r.startLocked answers with
  | mk s error =>
      cases error with
      | some err => exact startFailed_writes s err
      | none => exact refreshLocked_writes s status

/-- A goroutine with the lock ends when there is no local client, and else applies what it
holds. -/
theorem locked_cases {r next : Runtime} {watcher : Nat}
    (taken : r.step (.locked watcher) = some next) :
    ∃ notify, r.goroutines watcher = some (.locking notify) ∧
      (r.localClient = none ∧ next = r.setGoroutine watcher none ∨
        r.localClient ≠ none ∧
          next = (r.notified watcher notify).setGoroutine watcher (some .next)) := by
  simp only [step] at taken
  split at taken
  · next notify holds =>
      refine ⟨notify, holds, ?_⟩
      split at taken
      · next missing =>
          cases taken
          exact .inl ⟨missing, rfl⟩
      · next here =>
          cases taken
          exact .inr ⟨here, rfl⟩
  · cases taken

/-- It holds nothing afterwards. -/
theorem step_locked {r next : Runtime} {watcher : Nat}
    (taken : r.step (.locked watcher) = some next) :
    ∃ s g, Writes r s ∧ (∀ notify, g ≠ some (.locking notify)) ∧
      next = s.setGoroutine watcher g := by
  obtain ⟨notify, _, ⟨_, rfl⟩ | ⟨_, rfl⟩⟩ := locked_cases taken
  · exact ⟨r, none, .refl r, nofun, rfl⟩
  · exact ⟨r.notified watcher notify, some .next, ⟨rfl, rfl, rfl, rfl, rfl, rfl, rfl⟩, nofun, rfl⟩

/-- The runtime in which the watcher of a start is opened. -/
def served (r : Runtime) : Runtime :=
  { r with
    servers := r.newServer :: r.servers
    newServer := r.newServer + 1
    server := some r.newServer
    localClient := some r.newServer
    started := true }

theorem watchIPNLocked_failed {r next : Runtime} {answer : Except Bytes Unit} {err : Bytes}
    (failed : r.watchIPNLocked answer = (next, some err)) : next = r := by
  unfold watchIPNLocked at failed
  split at failed
  · cases failed
  · cases answer <;> cases failed
    rfl

/-- How `startLocked` ends: `refused` without a server or its local client, `unwatched` when all
is rolled back, and `begun` also when the login could not be started. -/
inductive Starting (r : Runtime) : Runtime → Prop where
  | running : r.started = true → Starting r r
  | refused (servers : List Nat) (newServer : Nat) : r.started = false →
      Starting r { r with servers, newServer }
  | unwatched (servers : List Nat) (newServer : Nat) : r.started = false →
      Starting r
        { r with servers, newServer, server := none, localClient := none, started := false }
  | begun (watched : Runtime) (answer : Except Bytes Unit) (lastError : Bytes) (status : Status) :
      r.started = false → r.served.watchIPNLocked answer = (watched, none) →
      status.state = .error ∨ status.state = .signingIn →
      Starting r { watched with lastError, status }

theorem startLocked_starting (r : Runtime) (os : StartAnswers) :
    Starting r (r.startLocked os).1 := by
  unfold startLocked
  split
  · next running => exact .running running
  next stopped =>
  rw [Bool.not_eq_true] at stopped
  cases os.start with
  | error err => exact .refused r.servers r.newServer stopped
  | ok =>
      cases os.localClient with
      | error err => exact .refused _ _ stopped
      | ok =>
          dsimp only
          split
          · next watched err failed =>
              cases watchIPNLocked_failed failed
              exact .unwatched _ _ stopped
          · next watched opened =>
              cases os.startLoginInteractive with
              | error err => exact .begun watched os.watchIPNBus _ _ stopped opened (.inl rfl)
              | ok => exact .begun watched os.watchIPNBus _ _ stopped opened (.inr rfl)

end Screenscrab.Network.Runtime
