import Screenscrab.Session.Status

/-! What a snapshot shows of earlier sessions when a start returns. -/
namespace Screenscrab.Session

/-- What the setters set. -/
structure UserSettings where
  monitorIndex : UInt32
  inputEnabled : Bool
  clipboardEnabled : Bool
  audioEnabled : Bool
  deriving DecidableEq

def Guarded.settings (g : Guarded) : UserSettings where
  monitorIndex := g.monitorIndex
  inputEnabled := g.inputEnabled
  clipboardEnabled := g.clipboardEnabled
  audioEnabled := g.audioEnabled

/-- The steps between a call and its return: those of the calling thread and those of the
worker that it waits for. -/
def Label.waits : Label → Bool
  | .api | .worker _ => true
  | _ => false

/-- The blocks that publish `client connected`. -/
def Pc.visits : Pc → Bool
  | .clientJoined | .clientReady => true
  | _ => false

namespace SessionManager

/-- The snapshot without the counter, which counts over all sessions. -/
def shown (m : SessionManager) : SessionSnapshot := { m.snapshot with framesSent := 0 }

/-- A start is called in `s`, and has just returned in `m`. -/
def Returns (s : SessionManager) (call : ApiCall) (calling : List Label) (m : SessionManager) :
    Prop :=
  (∀ label ∈ calling, label.waits = true) ∧
    ∃ t, Transition.exec step s (.call call :: calling) = some t ∧ t.api = .publishStart call ∧
      t.step .api = some m

/-- A step in which the worker publishes that it has a peer. -/
def Visits (m : SessionManager) : Label → Prop
  | .worker _ => ∃ w, m.worker = some w ∧ w.pc.visits = true
  | _ => False

/-- In a run from the start of the process some worker has published that it has a peer. -/
def Visited (labels : List Label) : Prop :=
  ∃ before label after m, labels = before ++ label :: after ∧
    Transition.exec step {} before = some m ∧ m.Visits label

/-- What a step does to the settings and to the flag, which is only ever set. -/
structure Keeps (m next : SessionManager) (visits : Bool) : Prop where
  settings : next.guarded.settings = m.guarded.settings
  reachable : next.guarded.tailscaleReachable = (m.guarded.tailscaleReachable || visits)

theorem Keeps.same {m next : SessionManager}
    (settings : next.guarded.settings = m.guarded.settings)
    (reachable : next.guarded.tailscaleReachable = m.guarded.tailscaleReachable) :
    Keeps m next false := ⟨settings, reachable.trans (Bool.or_false _).symm⟩

theorem work_keeps {m next : SessionManager} {w : Worker} {os : OsAnswers}
    (taken : m.work w os = some next) : Keeps m next w.pc.visits := by
  obtain ⟨pc, lastPing⟩ := w
  cases pc with
  | clientJoined | clientReady =>
      cases taken
      exact ⟨rfl, (Bool.or_true _).symm⟩
  | receivePayload header payloadSize | pingDue =>
      simp only [work] at taken
      split at taken <;> cases taken <;> exact .same rfl rfl
  | receiveHeader =>
      simp only [work] at taken
      split at taken
      · cases taken
        exact .same rfl rfl
      · obtain ⟨target, checked, rfl⟩ := Option.map_eq_some_iff.mp taken
        exact .same rfl rfl
  | handlePacket packet =>
      simp only [work] at taken
      obtain ⟨target, handled, rfl⟩ := Option.map_eq_some_iff.mp taken
      exact .same rfl rfl
  | exited => cases taken
  | _ =>
      cases taken
      exact .same rfl rfl

theorem callStep_keeps {m next : SessionManager} (taken : m.callStep = some next) :
    Keeps m next false := by
  cases callStep_cases taken <;> exact .same rfl rfl

theorem step_settings {m next : SessionManager} {label : Label}
    (own : label.waits = true ∨ ∃ call, label = .call call) (taken : m.step label = some next) :
    next.guarded.settings = m.guarded.settings := by
  cases label with
  | call call =>
      simp only [step] at taken
      split at taken <;> cases taken
      rfl
  | api => exact (callStep_keeps taken).settings
  | worker os =>
      obtain ⟨w, _, worked⟩ := Option.bind_eq_some_iff.mp taken
      exact (work_keeps worked).settings
  | setMonitorIndex | setInputEnabled | setClipboardEnabled | setAudioEnabled =>
      rcases own with waits | ⟨call, same⟩
      · cases waits
      · cases same

/-- Nothing resets the flag, neither `stop` nor a start. -/
theorem step_reachable {m next : SessionManager} {label : Label}
    (taken : m.step label = some next) :
    next.guarded.tailscaleReachable = true ↔
      m.guarded.tailscaleReachable = true ∨ m.Visits label := by
  cases label with
  | call call =>
      simp only [step] at taken
      split at taken <;> cases taken
      exact (or_iff_left id).symm
  | api =>
      rw [(callStep_keeps taken).reachable, Bool.or_false]
      exact (or_iff_left id).symm
  | worker os =>
      obtain ⟨w, present, worked⟩ := Option.bind_eq_some_iff.mp taken
      rw [(work_keeps worked).reachable, Bool.or_eq_true]
      refine or_congr_right ⟨fun visits => ⟨w, present, visits⟩, ?_⟩
      rintro ⟨v, there, visits⟩
      obtain rfl : w = v := Option.some.inj (present.symm.trans there)
      exact visits
  | setMonitorIndex | setInputEnabled | setClipboardEnabled | setAudioEnabled =>
      cases taken
      exact (or_iff_left id).symm

theorem reachable_iff {m : SessionManager} {labels : List Label}
    (run : Transition.exec step {} labels = some m) :
    m.guarded.tailscaleReachable = true ↔ Visited labels :=
  (Transition.exec_flag_iff (fun _ _ _ => step_reachable) run).trans
    (or_iff_right Bool.false_ne_true)

/-- The start writes every field but the settings, the flag and the name of the encoder, which
`stop` has reset. -/
theorem shown_eq_iff {s t m n : SessionManager} {call : ApiCall}
    (starts : s.api = .publishStart call) (starts' : t.api = .publishStart call)
    (reset : s.guarded.encoderName = t.guarded.encoderName)
    (same : s.guarded.settings = t.guarded.settings) (returned : s.step .api = some m)
    (returned' : t.step .api = some n) :
    m.shown = n.shown ↔ s.guarded.tailscaleReachable = t.guarded.tailscaleReachable := by
  obtain ⟨monitor, input, clipboard, audio⟩ := UserSettings.mk.inj same
  simp only [step, callStep, starts] at returned
  simp only [step, callStep, starts'] at returned'
  cases call with
  | stop => cases returned
  | startHost deviceName port =>
      cases returned
      cases returned'
      simp only [shown, snapshot, Guarded.startHost, monitor, input, clipboard, audio,
        SessionSnapshot.mk.injEq, true_and, and_true]
  | startClient address port =>
      cases returned
      cases returned'
      simp only [shown, snapshot, Guarded.startClient, monitor, input, clipboard, audio, reset,
        SessionSnapshot.mk.injEq, true_and, and_true]

/-- A call that is about to return follows the whole run of its process. -/
theorem Returns.run {s m : SessionManager} {call : ApiCall} {history calling : List Label}
    (returns : s.Returns call calling m) (reached : Transition.exec step {} history = some s) :
    ∃ t, Transition.exec step {} (history ++ .call call :: calling) = some t ∧
      t.api = .publishStart call ∧ t.step .api = some m ∧
      t.guarded.settings = s.guarded.settings ∧ t.guarded.encoderName = ascii "none" := by
  obtain ⟨waits, t, run, starts, returned⟩ := returns
  have whole : Transition.exec step {} (history ++ .call call :: calling) = some t := by
    rw [Transition.exec_append, reached]
    exact run
  refine ⟨t, whole, starts, returned, ?_, ?_⟩
  · let I (m : SessionManager) : Prop := m.guarded.settings = s.guarded.settings
    let own (_ : SessionManager) (label : Label) : Prop :=
      label.waits = true ∨ ∃ call, label = .call call
    have keep : ∀ m label next, I m → own m label → step m label = some next → I next :=
      fun m label next same here taken => (step_settings here taken).trans same
    refine Transition.exec_along (I := I) keep rfl run (.of_mem fun label member => ?_)
    rcases List.mem_cons.mp member with rfl | later
    · exact .inr ⟨call, rfl⟩
    · exact .inl (waits label later)
  · have valid := valid_of_reachable ⟨_, whole⟩
    have rests := valid.rest (valid.joined (by rw [starts]; rfl))
    unfold Rests at rests
    rw [starts] at rests
    exact rests.encoderName

/-- After two histories that end with the same settings, the same start shows the same, exactly
when in both or in neither a worker has published that it has a peer. -/
theorem same_start_iff {history history' calling calling' : List Label}
    {s s' m m' : SessionManager} {call : ApiCall}
    (reached : Transition.exec step {} history = some s)
    (reached' : Transition.exec step {} history' = some s')
    (same : s.guarded.settings = s'.guarded.settings)
    (returns : s.Returns call calling m) (returns' : s'.Returns call calling' m') :
    m.shown = m'.shown ↔
      (Visited (history ++ .call call :: calling) ↔
        Visited (history' ++ .call call :: calling')) := by
  obtain ⟨t, run, starts, returned, kept, reset⟩ := returns.run reached
  obtain ⟨t', run', starts', returned', kept', reset'⟩ := returns'.run reached'
  rw [shown_eq_iff starts starts' (reset.trans reset'.symm) (kept.trans (same.trans kept'.symm))
    returned returned', Bool.eq_iff_iff, reachable_iff run, reachable_iff run']

/-- The same start of a host, in a fresh process and after a client session that has connected. -/
theorem same_start_iff_visited :
    let history := .call (.startClient [] 4545) :: List.replicate 7 .api ++
      [.worker {}, .worker {}]
    let calling := List.replicate 2 .api ++ List.replicate 3 (.worker {}) ++ List.replicate 4 .api
    ∃ s' m m', Transition.exec step {} history = some s' ∧
      Returns {} (.startHost [] 4545) (List.replicate 6 .api) m ∧
      s'.Returns (.startHost [] 4545) calling m' ∧
      Visited (history ++ .call (.startHost [] 4545) :: calling) ∧
      ¬ Visited (.call (.startHost [] 4545) :: List.replicate 6 .api) ∧ m.shown ≠ m'.shown := by
  intro history calling
  have fresh : Transition.exec step {} [] = some {} := rfl
  obtain ⟨s', connected, settings, m', returns', t', run', flag'⟩ : ∃ s',
      Transition.exec step {} history = some s' ∧
      (({} : SessionManager).guarded.settings = s'.guarded.settings) ∧
      ∃ m', s'.Returns (.startHost [] 4545) calling m' ∧
        ∃ t', Transition.exec step {} (history ++ .call (.startHost [] 4545) :: calling) =
          some t' ∧ t'.guarded.tailscaleReachable = true :=
    ⟨_, rfl, rfl, _, ⟨by decide, _, rfl, rfl, rfl⟩, _, rfl, rfl⟩
  obtain ⟨m, returns, t, run, flag⟩ : ∃ m,
      Returns {} (.startHost [] 4545) (List.replicate 6 .api) m ∧
      ∃ t, Transition.exec step {} (.call (.startHost [] 4545) :: List.replicate 6 .api) =
        some t ∧ t.guarded.tailscaleReachable = false :=
    ⟨_, ⟨by decide, _, rfl, rfl, rfl⟩, _, rfl, rfl⟩
  have visited := (reachable_iff run').mp flag'
  have never : ¬ Visited (.call (.startHost [] 4545) :: List.replicate 6 .api) := by
    rw [← reachable_iff run, flag]
    decide
  refine ⟨s', m, m', connected, returns, returns', visited, never, fun same => never ?_⟩
  exact ((same_start_iff fresh connected settings returns returns').mp same).mpr visited

/-- A client session that connects, and the stop with which the next start begins. -/
theorem earlier_peer_shown :
    ∃ s s' m m', Transition.exec step {} [] = some s ∧
      Transition.exec step {} (.call (.startClient [] 4545) :: List.replicate 7 .api ++
        [.worker {}, .worker {}]) = some s' ∧
      s.guarded.settings = s'.guarded.settings ∧
      s.Returns (.startHost [] 4545) (List.replicate 6 .api) m ∧
      s'.Returns (.startHost [] 4545) (List.replicate 2 .api ++ List.replicate 3 (.worker {}) ++
        List.replicate 4 .api) m' ∧
      m.shown ≠ m'.shown := by
  refine ⟨_, _, _, _, rfl, rfl, rfl, ⟨by decide, _, rfl, rfl, rfl⟩,
    ⟨by decide, _, rfl, rfl, rfl⟩, ?_⟩
  decide

end SessionManager
end Screenscrab.Session
