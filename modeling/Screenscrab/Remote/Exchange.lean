import Mathlib.Data.List.Basic
import Screenscrab.Remote.Requests
import Screenscrab.Session.ClipboardService

/-! What the user does on the screen of the host: the calls that come of it there. -/
namespace Screenscrab.Remote
open Protocol Dart Client Session

/-- The call that a message of the user becomes at the host: integers are cut to the fields that
carry them, and what is switched off becomes none. -/
def effect (s : Settings) : SessionCodec.Call → Option HandlerCall
  | .mouseEvent x y wheelDelta buttons flags =>
    let wheel := Int32.ofInt wheelDelta
    let flags := UInt32.ofInt flags
    if ¬ s.inputEnabled then none
    else if flags &&& 0x4 ≠ 0 ∨ wheel ≠ 0 then some (.scroll wheel.toInt)
    else if flags &&& 0x2 ≠ 0 then some (.mouseButton (flags &&& 0x1 ≠ 0) (UInt32.ofInt buttons))
    else some (.moveMouse (x.bmod (2 ^ 32)) (y.bmod (2 ^ 32)))
  | .keyEvent virtualKey _ down =>
    if ¬ s.inputEnabled then none else some (.key down (UInt32.ofInt virtualKey).toUInt16)
  | .clipboardText text =>
    if ¬ s.clipboardEnabled then none else some (.setText (Utf8.encode text))
  | _ => none

/-- A handler does what the effect of a message says. -/
def Does (handling : Handling) (effect : Option HandlerCall) : Prop :=
  handling = match effect with
    | none => .returns true
    | some call => .calls call

theorem handleInput_disabled {s : Settings} (disabled : ¬ s.inputEnabled = true)
    (payload : Bytes) : handleInputPacket s payload = some (.returns true) := if_pos disabled

theorem mouseEvent_effect (s : Settings) (x y wheelDelta buttons flags : Int) (now : DateTime) :
    ∃ handling,
      handleInputPacket s (SessionCodec.mouseEvent x y wheelDelta buttons flags now).payload =
        some handling ∧ Does handling (effect s (.mouseEvent x y wheelDelta buttons flags)) := by
  by_cases enabled : s.inputEnabled = true
  · have same : (SessionCodec.mouseEvent x y wheelDelta buttons flags now).payload =
        (Message.mouse (Int32.ofInt x) (Int32.ofInt y) (Int32.ofInt wheelDelta)
          (UInt32.ofInt buttons) (UInt32.ofInt flags)).make := by
      rw [SessionCodec.mouseEvent_payload, make_layout]
      simp only [stored, List.map_cons, List.map_nil, Message.layout, Message.text,
        List.append_nil]
      rw [stored_ofInt x, stored_ofInt y, stored_ofInt wheelDelta, stored_ofInt_unsigned buttons,
        stored_ofInt_unsigned flags]
      rfl
    refine ⟨_, (congrArg (handleInputPacket s) same).trans (handleInput_mouse enabled ..), ?_⟩
    simp only [effect, Does, if_neg (not_not_intro enabled), Int32.toInt_ofInt]
    split
    · rfl
    · split <;> rfl
  · refine ⟨_, handleInput_disabled enabled _, ?_⟩
    simp only [effect, Does, if_pos enabled]

theorem keyEvent_effect (s : Settings) (virtualKey scanCode : Int) (down : Bool)
    (now : DateTime) :
    ∃ handling, handleInputPacket s (SessionCodec.keyEvent virtualKey scanCode down now).payload =
      some handling ∧ Does handling (effect s (.keyEvent virtualKey scanCode down)) := by
  by_cases enabled : s.inputEnabled = true
  · have same : (SessionCodec.keyEvent virtualKey scanCode down now).payload =
        (Message.key (UInt32.ofInt virtualKey) (UInt32.ofInt scanCode) down).make := by
      rw [SessionCodec.keyEvent_payload, make_layout]
      simp only [stored, List.map_cons, List.map_nil, Message.layout, Message.text,
        List.append_nil, stored_ofInt_unsigned]
      cases down <;> rfl
    refine ⟨_, (congrArg (handleInputPacket s) same).trans (handleInput_key enabled ..), ?_⟩
    simp only [effect, Does, if_neg (not_not_intro enabled)]
  · refine ⟨_, handleInput_disabled enabled _, ?_⟩
    simp only [effect, Does, if_pos enabled]

theorem clipboardText_effect (s : Settings) (text : List Nat) (now : DateTime) :
    ∃ handling, handleClipboardPacket s (SessionCodec.clipboardText text now).payload =
      some handling ∧ Does handling (effect s (.clipboardText text)) := by
  by_cases enabled : s.clipboardEnabled = true
  · have payload : (SessionCodec.clipboardText text now).payload =
        [1, 0, 0, 0] ++ Utf8.encode text := SessionCodec.clipboardText_payload text now
    refine ⟨.calls (.setText (Utf8.encode text)), ?_, ?_⟩
    · rw [payload, handleClipboardPacket_text enabled]
    · simp only [effect, Does, if_neg (not_not_intro enabled)]
  · refine ⟨.returns true, if_pos (.inl enabled), ?_⟩
    simp only [effect, Does, if_pos enabled]

/-- What the host makes of a packet that the client posts. -/
theorem handlePacket_effect (s : Settings) {m : Posted} (posts : Posts m.1) :
    ∃ handling, handlePacket s m.bytes = some handling ∧ Does handling (effect s m.1) := by
  obtain ⟨view, type, payload, same⟩ :=
    handlePacket_encode s (posts.onWire m.2) (posts.small m.2)
  obtain ⟨call, now⟩ := m
  rw [show Posted.bytes (call, now) = (call.packet now).encode from rfl, same]
  unfold dispatch
  rw [type, payload]
  cases call with
  | mouseEvent x y wheelDelta buttons flags =>
      exact mouseEvent_effect s x y wheelDelta buttons flags now
  | keyEvent virtualKey scanCode down => exact keyEvent_effect s virtualKey scanCode down now
  | clipboardText text => exact clipboardText_effect s text now
  | ping nonce => exact absurd rfl (posts.answers nonce)
  | disconnect reasonCode reason => exact absurd rfl (posts.stays reasonCode reason)
  | _ => exact ⟨_, rfl, rfl⟩

theorem injected_posted (s : Settings) {posted : List Posted} (posts : ∀ m ∈ posted, Posts m.1) :
    injected s (posted.map Posted.bytes) = posted.filterMap fun m => effect s m.1 := by
  rw [injected, List.filterMap_map]
  refine List.filterMap_congr fun m member => ?_
  obtain ⟨handling, handled, does⟩ := handlePacket_effect s (posts m member)
  rw [Function.comp_apply, handled, does]
  cases effect s m.1 <;> rfl

/-- Only what the user causes has an effect. -/
theorem effect_input (s : Settings) (calls : List SessionCodec.Call) :
    calls.filterMap (effect s) = (calls.filter isInput).filterMap (effect s) := by
  rw [List.filterMap_filter]
  refine congrArg (List.filterMap · calls) (funext fun call => ?_)
  cases call <;> rfl

/-- The host reads the switches that are set. -/
def Switched (settings : Settings) {Double : Type} : Label Double → Prop
  | .receive a _ => a.settings.inputEnabled = settings.inputEnabled ∧
      a.settings.clipboardEnabled = settings.clipboardEnabled
  | _ => True

theorem effect_switched {s t : Settings} (input : s.inputEnabled = t.inputEnabled)
    (clipboard : s.clipboardEnabled = t.clipboardEnabled) (call : SessionCodec.Call) :
    effect s call = effect t call := by
  unfold effect
  rw [input, clipboard]

/-- The calls that the host has made are those of the packets that it has handled. -/
def Injects (settings : Settings) (c : Incoming) : Prop :=
  c.calls = injected settings (c.handled.map Prod.fst)

theorem Injects.took {settings : Settings} {a : Answers} {c next : Incoming} {rest : List Bytes}
    (injects : Injects settings c) (took : Took c next a.settings rest)
    (same : ∀ packet ∈ rest, injected a.settings [packet] = injected settings [packet]) :
    Injects settings next := by
  unfold Injects at injects ⊢
  cases took with
  | kept handled calls => rw [calls, handled, injects]
  | lost lost => rw [lost.calls, lost.handled, injects]
  | handled packet behind result front _ handled calls =>
      rw [calls, handled, injects, same packet (front ▸ List.mem_cons_self), List.map_append,
        injected, injected, injected, List.filterMap_append]
      rfl

theorem frame_calls (h : HostEnd) (encoded : EncodedFrame) (metadata payload : List Nat) :
    (h.frame encoded metadata payload).incoming.calls = h.incoming.calls := by
  have first : (h.sendAll (Outgoing.metadataPacket encoded) metadata).1.incoming.calls =
    h.incoming.calls := rfl
  unfold HostEnd.frame HostEnd.sendFrame
  generalize h.sendAll (Outgoing.metadataPacket encoded) metadata = sent at first ⊢
  obtain ⟨middle, ok⟩ := sent
  cases ok with
  | false => exact first
  | true =>
      have second : (middle.sendAll (Outgoing.framePacket encoded) payload).1.incoming.calls =
        middle.incoming.calls := rfl
      dsimp only
      generalize middle.sendAll (Outgoing.framePacket encoded) payload = sent at second ⊢
      obtain ⟨next, ok⟩ := sent
      cases ok with
      | false => exact second.trans first
      | true => exact second.trans first

section
variable {Double : Type} {d : Doubles Double} {clock : Nat → DateTime} {s : Nat}
  {first l next : Link} {base : List Bytes} {posted : List Posted} {rest : List Bytes}

theorem Upstream.injects {settings : Settings} {label : Label Double}
    (up : Upstream base l.host l.client posted rest)
    (injects : Injects settings l.host.incoming) (switched : Switched settings label)
    (taken : l.step d clock s label = some next) : Injects settings next.host.incoming := by
  cases label with
  | frame encoded metadata payload =>
      cases taken
      have handled := (l.host.frame_incoming encoded metadata payload).1
      unfold Injects at injects ⊢
      rw [handled, ← injects]
      exact frame_calls l.host encoded metadata payload
  | skip captured =>
      cases taken
      obtain ⟨code, message, skipped, _⟩ := l.host.skip_incoming captured
      rw [skipped]
      exact injects
  | receive a pong =>
      obtain ⟨host, received, rfl⟩ := Option.map_eq_some_iff.mp taken
      obtain ⟨_, took, _⟩ := up.receive received
      refine injects.took took fun packet member => ?_
      obtain ⟨m, inside, rfl⟩ := up.known packet member
      have posts : ∀ other ∈ [m], Posts other.1 :=
        List.forall_mem_singleton.mpr (up.posts m inside)
      have here := injected_posted a.settings posts
      have there := injected_posted settings posts
      simp only [effect_switched switched.1 switched.2] at here
      exact here.trans there.symm
  | rendered | socketError | socketDone =>
      simp only [Link.step] at taken
      split at taken
      all_goals
        cases taken
        try exact injects
  | _ =>
      cases taken
      exact injects

end

section
variable {Double : Type} {d : Doubles Double} {clock : Nat → DateTime} {s : Nat}
  {transport : Transport} {calls : HelloCalls} {host : String} {port : Nat}
  {earlier : RemoteSessionClient} {rendering : Nat} {labels : List (Label Double)} {l : Link}

/-- What the host has injected comes from the packets it has handled, in every run. -/
theorem Upward.injects {settings : Settings}
    (run : Upward d clock s transport calls host port earlier rendering labels l)
    (switched : ∀ label ∈ labels, Switched settings label) :
    Injects settings l.host.incoming := by
  let I (m : Link) : Prop := Injects settings m.host.incoming ∧
    ∃ posted rest, Upstream earlier.added m.host m.client posted rest
  have keep : ∀ m label next, I m → label.Short ∧ Switched settings label →
      m.step d clock s label = some next → I next := by
    rintro m label next ⟨injects, posted, rest, up⟩ ⟨short, switched⟩ taken
    obtain ⟨messages, rest', up', _⟩ := up.step short taken
    exact ⟨up.injects injects switched taken, _, rest', up'⟩
  obtain ⟨posted, rest, start, _⟩ :=
    @upstream_start clock s transport calls host port earlier rendering
  have begun : I (Link.start clock s transport calls host port earlier rendering) :=
    ⟨rfl, posted, rest, start⟩
  refine (Transition.exec_along keep begun run.reached ?_).1
  exact .of_mem fun label member => ⟨run.short label member, switched label member⟩

/-- What the host has handled is a front of what the client has posted: its greetings, its
answers and the messages of the user. -/
theorem Upward.taken
    (run : Upward d clock s transport calls host port earlier rendering labels l) :
    let all := performed d clock s
      (Link.start clock s transport calls host port earlier rendering) labels
    ∃ taken : List Posted, (∀ m ∈ taken, Posts m.1) ∧
      l.host.incoming.handled.map Prod.fst = taken.map Posted.bytes ∧
      (taken.map Prod.fst).filter isInput <+: all ∧
      (l.host.connected = true → l.host.incoming.wire = [] →
        (taken.map Prod.fst).filter isInput = all) := by
  intro all
  obtain ⟨posted, rest, up, caused⟩ := run.upstream
  have front : l.host.incoming.handled.map Prod.fst <+: posted.map Posted.bytes := by
    rw [up.split]
    exact List.prefix_append _ _
  obtain ⟨taken, inside, same⟩ := List.prefix_map_iff.mp front
  refine ⟨taken, fun m member => up.posts m (inside.subset member), same, ?_, ?_⟩
  · rw [show all = (posted.map Prod.fst).filter isInput from caused.symm]
    exact (inside.map Prod.fst).filter isInput
  · intro open_ empty
    have whole : taken.map Posted.bytes = posted.map Posted.bytes :=
      same.symm.trans (up.all_handled open_ empty)
    have sizes := congrArg List.length whole
    rw [List.length_map, List.length_map] at sizes
    rw [inside.eq_of_length sizes]
    exact caused

/-- What the host has injected is what a front of the user's messages asks for, and what all of
them ask for when nothing is on its way. -/
theorem Upward.effects {settings : Settings}
    (run : Upward d clock s transport calls host port earlier rendering labels l)
    (switched : ∀ label ∈ labels, Switched settings label) :
    let all := performed d clock s
      (Link.start clock s transport calls host port earlier rendering) labels
    ∃ done, done <+: all ∧ l.host.incoming.calls = done.filterMap (effect settings) ∧
      (l.host.connected = true → l.host.incoming.wire = [] → done = all) := by
  intro all
  obtain ⟨taken, posts, same, inside, whole⟩ := run.taken
  have injects : l.host.incoming.calls = injected settings (l.host.incoming.handled.map Prod.fst) :=
    run.injects switched
  refine ⟨(taken.map Prod.fst).filter isInput, inside, ?_, whole⟩
  have asked := effect_input settings (taken.map Prod.fst)
  rw [List.filterMap_map] at asked
  rw [injects, same, injected_posted settings posts]
  exact asked

/-- What the host injects is what the user has done, in that order and each thing once: a front
of it while something is on its way, and all of it when nothing is. -/
theorem user_input_reaches_host {settings : Settings}
    (run : Upward d clock s transport calls host port earlier rendering labels l)
    (switched : ∀ label ∈ labels, Switched settings label) :
    let first := Link.start clock s transport calls host port earlier rendering
    let effects := (performed d clock s first labels).filterMap (effect settings)
    l.host.incoming.calls <+: effects ∧
    (l.host.connected = true → l.host.incoming.wire = [] → l.host.incoming.calls = effects) := by
  intro first effects
  obtain ⟨done, front, made, all⟩ := run.effects switched
  rw [made]
  constructor
  · exact front.filterMap (effect settings)
  · intro open_ empty
    rw [all open_ empty]

theorem shortVisit_switched : ∀ label ∈ shortVisit, Switched inputOn label := by
  simp [shortVisit, Switched]

/-- In the visit the host injects the two keys that are pressed. -/
theorem user_input_reaches_host_visit :
    ∃ l : Link, l.host.incoming.calls = [.key true 65, .key true 66] := by
  obtain ⟨l, run, open_, empty, _⟩ := shortVisit_upward
  have pressed : (performed Pointing.wholeDoubles epoch 7
      (Link.start epoch 7 { socket := some 1 } shortHello "host" 4545 {} 0)
      shortVisit).filterMap (effect inputOn) = [.key true 65, .key true 66] := by
    decide +kernel
  have injected := (user_input_reaches_host run shortVisit_switched).2 open_ empty
  rw [pressed] at injected
  exact ⟨l, injected⟩

end
end Screenscrab.Remote
