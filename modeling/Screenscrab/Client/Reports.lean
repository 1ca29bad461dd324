import Screenscrab.Client.Lifecycle
import Screenscrab.Client.Reading

/-! What the client reports to its user interface, when its events come one after another and
every handler runs to its end before the next event. -/
namespace Screenscrab.Client
open Dart
namespace RemoteSessionClient

/-- A whole `disconnect`. -/
def disconnect (c : RemoteSessionClient) : RemoteSessionClient := c.beginDisconnect.endDisconnect

inductive Occurrence where
  /-- A `connect`, for which the socket `s` is opened or no socket is stored. -/
  | connect (host : String) (port s : Nat) (result : Except String Unit)
  | disconnect
  | data (s : Nat) (chunk : Bytes)
  | rendered (ok : Bool)
  | socketError (s : Nat) (error : String)
  | socketDone (s : Nat)

/-- The socket is open and its subscription has not ended. -/
def Live (c : RemoteSessionClient) (s : Nat) : Prop := s ∈ c.opened ∧ s ∈ c.listening

instance (c : RemoteSessionClient) (s : Nat) : Decidable (c.Live s) :=
  inferInstanceAs (Decidable (s ∈ c.opened ∧ s ∈ c.listening))

/-- `_onData`, and the `disconnect` that a disconnect packet has begun in it. -/
def dataArrived (clock : Nat → DateTime) (c : RemoteSessionClient) (chunk : Bytes) :
    RemoteSessionClient :=
  let next := (c.onData clock chunk).1
  if Disconnects (next.handled.drop c.handled.length) then next.endDisconnect else next

/-- `_onSocketDone`. -/
def onSocketDone (c : RemoteSessionClient) : RemoteSessionClient :=
  ((c.act (.state .disconnected)).act (.status "Connection closed")).disconnect

/-- One event and its handler; a socket has events only while its subscription lives. -/
def occur (clock : Nat → DateTime) (c : RemoteSessionClient) :
    Occurrence → Option RemoteSessionClient
  | .connect host port s (.ok _) => some (c.connect clock host port s)
  | .connect host port _ (.error error) =>
    some ((c.disconnect.dial host port).connectFailed error).endDisconnect
  | .disconnect => some c.disconnect
  | .data s chunk => if c.Live s then some (c.dataArrived clock chunk) else none
  | .rendered ok => some (c.rendered ok)
  | .socketError s error => if c.Live s then some (c.onSocketError s error) else none
  | .socketDone s => if c.Live s then some c.onSocketDone else none

/-- The last state that has been reported. -/
def reportedState (c : RemoteSessionClient) : Option ConnectionStateValue :=
  (c.trace.filterMap fun
    | .state value => some value
    | _ => none).getLast?

/-- What the user interface has been told agrees with the socket that is held. -/
def Agrees (c : RemoteSessionClient) : Prop :=
  c.reportedState = some .connected ↔ c.socket ≠ none

theorem reportedState_act (c : RemoteSessionClient) (action : Action) :
    (c.act action).reportedState =
      match action with
      | .state value => some value
      | _ => c.reportedState := by
  cases action <;> simp [reportedState, act]

theorem endDisconnect_agrees (c : RemoteSessionClient) : Agrees c.endDisconnect := by
  have reported : c.endDisconnect.reportedState = some .disconnected := reportedState_act _ _
  have released : c.endDisconnect.socket = none := rfl
  rw [Agrees, reported, released]
  decide

theorem connect_agrees (clock : Nat → DateTime) (host : String) (port s : Nat)
    (c : RemoteSessionClient) : Agrees (c.connect clock host port s) := by
  have reported : (c.connect clock host port s).reportedState = some .connected := by
    unfold connect install
    rw [reportedState_act, reportedState_act]
  have held : (c.connect clock host port s).socket = some s := rfl
  rw [Agrees, reported, held]
  exact iff_of_true rfl (Option.some_ne_none s)

theorem plain_states {acts : List Action} (plain : ∀ a ∈ acts, Plain a) :
    (acts.filterMap fun
      | .state value => some value
      | _ => none) = ([] : List ConnectionStateValue) := by
  refine List.filterMap_eq_nil_iff.mpr fun a member => ?_
  cases a with
  | state value => exact (plain _ member).elim
  | _ => rfl

theorem handlePacket_reportedState (clock : Nat → DateTime) (c : RemoteSessionClient)
    (p : WirePacket) : (handlePacket clock c p).reportedState = c.reportedState := by
  obtain ⟨acts, added, plain⟩ := handlePacket_trace clock c p
  rw [reportedState, added, List.filterMap_append, List.filterMap_cons]
  dsimp only
  rw [plain_states plain, List.append_nil]
  rfl

/-- Data reports no state, whatever it is. -/
theorem drain_reportedState (clock : Nat → DateTime) (c : RemoteSessionClient) :
    (drain clock c).1.reportedState = c.reportedState := by
  fun_induction drain clock c with
  | case1 | case3 | case4 => rfl
  | case2 c long e total => exact reportedState_act c _
  | case5 c long n total enough bytes rest packet decoded ih =>
      exact ih.trans (handlePacket_reportedState clock rest packet)

theorem dataArrived_agrees (clock : Nat → DateTime) {c : RemoteSessionClient} (agrees : Agrees c)
    (chunk : Bytes) : Agrees (c.dataArrived clock chunk) := by
  unfold dataArrived
  dsimp only
  split
  · exact endDisconnect_agrees _
  · let arrived : RemoteSessionClient := { c with buffer := c.buffer ++ chunk }
    have reported : (drain clock arrived).1.reportedState = c.reportedState :=
      drain_reportedState clock arrived
    have held : (drain clock arrived).1.socket = c.socket := (drain_frame clock arrived).1
    rw [Agrees, onData, reported, held]
    exact agrees

/-- The held socket is the only open one. -/
def Single (c : RemoteSessionClient) : Prop := c.opened = c.socket.toList

theorem endDisconnect_single {c : RemoteSessionClient} (single : Single c) :
    Single c.endDisconnect := Loop.endDisconnect_opened single

/-- An event of a socket is one of a live subscription. -/
theorem of_live {c next after : RemoteSessionClient} {s : Nat}
    (taken : (if c.Live s then some after else none) = some next) : c.Live s ∧ after = next := by
  obtain ⟨live, same⟩ := Option.ite_none_right_eq_some.mp taken
  exact ⟨live, Option.some.inj same⟩

theorem occur_single {clock : Nat → DateTime} {c next : RemoteSessionClient} {event : Occurrence}
    (single : Single c) (taken : occur clock c event = some next) : Single next := by
  have whole : Single c.disconnect := endDisconnect_single (c := c.beginDisconnect) single
  cases event with
  | connect host port s result =>
      cases result with
      | ok _ =>
          cases taken
          have released : c.disconnect.opened = [] := whole
          change s :: c.disconnect.opened = [s]
          rw [released]
      | error error =>
          cases taken
          exact endDisconnect_single (c := (c.disconnect.dial host port).connectFailed error) whole
  | disconnect =>
      cases taken
      exact whole
  | data s chunk =>
      obtain ⟨_, rfl⟩ := of_live taken
      let arrived : RemoteSessionClient := { c with buffer := c.buffer ++ chunk }
      obtain ⟨held, _, opened, _⟩ := drain_frame clock arrived
      have kept : Single (drain clock arrived).1 := by
        rw [Single, opened, held]
        exact single
      unfold dataArrived
      dsimp only
      split
      · exact endDisconnect_single kept
      · exact kept
  | rendered ok =>
      cases taken
      cases ok <;> exact single
  | socketError s error =>
      obtain ⟨_, rfl⟩ := of_live taken
      exact single
  | socketDone s =>
      obtain ⟨_, rfl⟩ := of_live taken
      exact endDisconnect_single (c := ((c.act (.state .disconnected)).act
        (.status "Connection closed")).beginDisconnect) single

/-- No error of a socket reaches the client. -/
def NoSocketError (c : RemoteSessionClient) : Occurrence → Prop
  | .socketError s _ => ¬ c.Live s
  | _ => True

/-- Every handler but that of a socket error leaves the report in agreement with the socket. -/
theorem occur_agrees_iff {clock : Nat → DateTime} {c next : RemoteSessionClient}
    {event : Occurrence} (single : Single c) (agrees : Agrees c)
    (taken : occur clock c event = some next) : Agrees next ↔ NoSocketError c event := by
  cases event with
  | connect host port s result =>
      cases result with
      | ok _ =>
          cases taken
          exact iff_of_true (connect_agrees clock host port s c) trivial
      | error error =>
          cases taken
          exact iff_of_true (endDisconnect_agrees _) trivial
  | disconnect =>
      cases taken
      exact iff_of_true (endDisconnect_agrees _) trivial
  | data s chunk =>
      obtain ⟨_, rfl⟩ := of_live taken
      exact iff_of_true (dataArrived_agrees clock agrees chunk) trivial
  | rendered ok =>
      cases taken
      cases ok <;> exact iff_of_true agrees trivial
  | socketError s error =>
      obtain ⟨live, rfl⟩ := of_live taken
      -- the socket whose error it is stays in the field
      have held : c.socket = some s := by
        have member := live.1
        rw [single, Option.mem_toList] at member
        exact member
      have reported : (c.onSocketError s error).reportedState = some .error := by
        unfold onSocketError
        rw [reportedState_act, reportedState_act]
      have still : (c.onSocketError s error).socket = some s := held
      refine iff_of_false ?_ (not_not.mpr live)
      rw [Agrees, reported, still]
      intro same
      exact absurd (same.mpr (Option.some_ne_none s)) (by decide)
  | socketDone s =>
      obtain ⟨_, rfl⟩ := of_live taken
      exact iff_of_true (endDisconnect_agrees _) trivial

/-- In every state between two events the report agrees with the socket, exactly when no error of
a socket has reached the client. -/
theorem reports_agree_iff (clock : Nat → DateTime) (events : List Occurrence) :
    (∀ before after c, events = before ++ after →
      Transition.exec (occur clock) {} before = some c → Agrees c) ↔
      Transition.Along (occur clock) NoSocketError {} events := by
  refine Transition.throughout_iff (fun _ _ _ => occur_single) (fun _ _ _ => occur_agrees_iff) ?_ ?_
    ?_ events
  · intro c event blocked
    cases event with
    | socketError s error =>
        intro live
        have enabled : occur clock c (.socketError s error) = some (c.onSocketError s error) :=
          if_pos live
        rw [enabled] at blocked
        cases blocked
    | _ => trivial
  · rfl
  · change (none : Option ConnectionStateValue) = some .connected ↔ (none : Option Nat) ≠ none
    decide

/-- After an error of its socket the client has reported the error and holds the socket. -/
theorem failed_socket_held :
    let clock : Nat → DateTime := fun _ => ⟨0, by decide⟩
    ∃ c, Transition.exec (occur clock) {}
        [.connect "host" 4545 7 (.ok ()), .socketError 7 "Connection reset by peer"] = some c ∧
      c.reportedState = some .error ∧ c.socket = some 7 ∧ ¬ Agrees c := by
  intro clock
  refine ⟨_, rfl, rfl, rfl, ?_⟩
  intro agrees
  have reported := agrees.mpr (Option.some_ne_none 7)
  cases reported

end RemoteSessionClient
end Screenscrab.Client
