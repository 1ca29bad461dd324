import Screenscrab.Client.Stream
import Screenscrab.Library.Transition

/-! The event loop around `RemoteSessionClient`: calls of `connect` and `disconnect` whose
awaits may end in any order, and the events of the sockets in between. -/
namespace Screenscrab.Client
open Dart

/-- What waits for a `disconnect`: nobody, the `connect` it begins, or the one that failed. -/
inductive Waiting where
  | none
  | dial (host : String) (port : Nat)
  | failed
  deriving DecidableEq

/-- The await at which a call of `connect` or `disconnect` stands. -/
inductive Await where
  | cancel (waiting : Waiting)
  | disconnected (waiting : Waiting)
  | dial (host : String) (port : Nat)
  deriving DecidableEq

/-- The call is a `connect` that has not completed. -/
def Await.connecting : Await → Bool
  | .cancel .none | .disconnected .none => false
  | _ => true

/-- The call is a `connect` past its own `disconnect`, which is still to store a socket. -/
def Await.dialing : Await → Bool
  | .disconnected (.dial _ _) | .dial _ _ => true
  | _ => false

/-- The client, its pending calls by number, and how many calls and sockets there have been. -/
structure Loop where
  client : RemoteSessionClient := {}
  pending : Nat → Option Await := fun _ => none
  calls : Nat := 0
  sockets : Nat := 0

inductive Event where
  | connect (host : String) (port : Nat)
  | disconnect
  | cancelled (call : Nat)
  | resumed (call : Nat)
  | dialed (call : Nat) (result : Except String Unit)
  | data (socket : Nat) (chunk : Bytes)
  | socketError (socket : Nat) (error : String)
  | done (socket : Nat)

namespace Loop

def put (m : Loop) (call : Nat) (await : Option Await) : Loop :=
  { m with pending := fun i => if i = call then await else m.pending i }

/-- A call of `disconnect`, up to its `await`. -/
def begin (m : Loop) (waiting : Waiting) : Loop :=
  { m with client := m.client.beginDisconnect, calls := m.calls + 1 }.put m.calls
    (some (.cancel waiting))

/-- The socket is open and its events reach the client. -/
def Live (m : Loop) (s : Nat) : Prop := s ∈ m.client.opened ∧ s ∈ m.client.listening

instance (m : Loop) (s : Nat) : Decidable (m.Live s) :=
  inferInstanceAs (Decidable (s ∈ m.client.opened ∧ s ∈ m.client.listening))

def step (clock : Nat → DateTime) (m : Loop) : Event → Option Loop
  | .connect host port => some (m.begin (.dial host port))
  | .disconnect => some (m.begin .none)
  | .cancelled call =>
    match m.pending call with
    | some (.cancel .none) =>
      some ({ m with client := m.client.endDisconnect }.put call none)
    | some (.cancel waiting) =>
      some ({ m with client := m.client.endDisconnect }.put call (some (.disconnected waiting)))
    | _ => none
  | .resumed call =>
    match m.pending call with
    | some (.disconnected (.dial host port)) =>
      some ({ m with client := m.client.dial host port }.put call (some (.dial host port)))
    | some (.disconnected .failed) => some (m.put call none)
    | _ => none
  | .dialed call result =>
    match m.pending call, result with
    | some (.dial host port), .ok _ =>
      some ({ m with client := m.client.install clock host port m.sockets,
                     sockets := m.sockets + 1 }.put call none)
    | some (.dial _ _), .error error =>
      some ({ m with client := m.client.connectFailed error }.put call (some (.cancel .failed)))
    | _, _ => none
  | .data s chunk =>
    let client := m.client.deliver clock s chunk
    -- a disconnect packet begins a `disconnect` of its own
    if RemoteSessionClient.Disconnects (client.handled.drop m.client.handled.length) then
      some ({ m with client, calls := m.calls + 1 }.put m.calls (some (.cancel .none)))
    else some { m with client }
  | .socketError s error =>
    if m.Live s then some { m with client := m.client.onSocketError s error } else none
  | .done s =>
    if m.Live s then
      some ({ m with
        client := (m.client.act (.state .disconnected)).act (.status "Connection closed")
        }.begin .none)
    else none

/-- Some `connect` has not completed. -/
def Connecting (m : Loop) : Prop :=
  ∃ call await, m.pending call = some await ∧ await.connecting = true

/-- The bytes that the socket has brought, whether or not they have reached the client. -/
def received (events : List Event) (s : Nat) : Bytes :=
  events.flatMap fun
    | .data t chunk => if t = s then chunk else []
    | _ => []

/-- The socket has reported an error. -/
def Failed (events : List Event) (s : Nat) : Prop := ∃ error, Event.socketError s error ∈ events

/-- What an event does where it can occur. -/
inductive Moves (clock : Nat → DateTime) (m : Loop) : Event → Loop → Prop
  | connect {host : String} {port : Nat} :
      Moves clock m (.connect host port) (m.begin (.dial host port))
  | disconnect : Moves clock m .disconnect (m.begin .none)
  | ended {call : Nat} (at_ : m.pending call = some (.cancel .none)) :
      Moves clock m (.cancelled call) ({ m with client := m.client.endDisconnect }.put call none)
  | cancelled {call : Nat} {waiting : Waiting} (at_ : m.pending call = some (.cancel waiting))
      (busy : waiting ≠ .none) :
      Moves clock m (.cancelled call) ({ m with client := m.client.endDisconnect }.put call
        (some (.disconnected waiting)))
  | dials {call : Nat} {host : String} {port : Nat}
      (at_ : m.pending call = some (.disconnected (.dial host port))) :
      Moves clock m (.resumed call)
        ({ m with client := m.client.dial host port }.put call (some (.dial host port)))
  | completed {call : Nat} (at_ : m.pending call = some (.disconnected .failed)) :
      Moves clock m (.resumed call) (m.put call none)
  | stored {call : Nat} {host : String} {port : Nat} {result : Unit}
      (at_ : m.pending call = some (.dial host port)) :
      Moves clock m (.dialed call (.ok result))
        ({ m with client := m.client.install clock host port m.sockets,
                  sockets := m.sockets + 1 }.put call none)
  | refused {call : Nat} {host : String} {port : Nat} {error : String}
      (at_ : m.pending call = some (.dial host port)) :
      Moves clock m (.dialed call (.error error))
        ({ m with client := m.client.connectFailed error }.put call (some (.cancel .failed)))
  | data {s : Nat} {chunk : Bytes} (stays : ¬ RemoteSessionClient.Disconnects
      ((m.client.deliver clock s chunk).handled.drop m.client.handled.length)) :
      Moves clock m (.data s chunk) { m with client := m.client.deliver clock s chunk }
  | leaves {s : Nat} {chunk : Bytes} :
      Moves clock m (.data s chunk)
        ({ m with client := m.client.deliver clock s chunk, calls := m.calls + 1 }.put m.calls
          (some (.cancel .none)))
  | failed {s : Nat} {error : String} (live : m.Live s) :
      Moves clock m (.socketError s error) { m with client := m.client.onSocketError s error }
  | done {s : Nat} (live : m.Live s) :
      Moves clock m (.done s) ({ m with
        client := (m.client.act (.state .disconnected)).act (.status "Connection closed")
        }.begin .none)

theorem step_moves {clock : Nat → DateTime} {m next : Loop} {event : Event}
    (taken : m.step clock event = some next) : Moves clock m event next := by
  cases event with
  | connect host port => cases taken; exact .connect
  | disconnect => cases taken; exact .disconnect
  | cancelled call =>
      simp only [step] at taken
      split at taken
      · next at_ => cases taken; exact .ended at_
      · next waiting busy at_ => cases taken; exact .cancelled at_ busy
      · cases taken
  | resumed call =>
      simp only [step] at taken
      split at taken
      · next at_ => cases taken; exact .dials at_
      · next at_ => cases taken; exact .completed at_
      · cases taken
  | dialed call result =>
      simp only [step] at taken
      split at taken
      · next at_ => cases taken; exact .stored at_
      · next at_ => cases taken; exact .refused at_
      · cases taken
  | data s chunk =>
      simp only [step] at taken
      split at taken
      · cases taken; exact .leaves
      · next stays => cases taken; exact .data stays
  | socketError s error =>
      obtain ⟨live, same⟩ := Option.ite_none_right_eq_some.mp taken
      cases same
      exact .failed live
  | done s =>
      obtain ⟨live, same⟩ := Option.ite_none_right_eq_some.mp taken
      cases same
      exact .done live

end Loop

namespace RemoteSessionClient

theorem handled_act (c : RemoteSessionClient) (action : Action)
    (silent : ∀ p, action ≠ .handled p) : (c.act action).handled = c.handled := by
  cases action with
  | handled p => exact absurd rfl (silent p)
  | _ => simp [handled, act]

/-- What a chunk can do to the sockets: nothing, unless it brings a disconnect packet. -/
theorem drain_frame (clock : Nat → DateTime) (c : RemoteSessionClient) :
    (drain clock c).1.socket = c.socket ∧ (drain clock c).1.subscription = c.subscription ∧
    (drain clock c).1.opened = c.opened ∧ ∃ packets,
      (drain clock c).1.handled = c.handled ++ packets ∧
      (drain clock c).1.listening =
        if Disconnects packets then c.listening.filter fun s => some s ≠ c.subscription
        else c.listening := by
  fun_induction drain clock c with
  | case1 c short | case3 c long n total short | case4 =>
      exact ⟨rfl, rfl, rfl, [], (List.append_nil _).symm, (if_neg not_disconnects_nil).symm⟩
  | case2 c long e total =>
      refine ⟨rfl, rfl, rfl, [], ?_, (if_neg not_disconnects_nil).symm⟩
      rw [List.append_nil]
      exact handled_act c _ nofun
  | case5 c long n total enough bytes rest packet decoded ih =>
      obtain ⟨socket, opened, subscription, listening⟩ := handlePacket_listening clock rest packet
      obtain ⟨socket', subscription', opened', packets, handled, listening'⟩ := ih
      refine ⟨socket'.trans socket, subscription'.trans subscription, opened'.trans opened,
        packet :: packets, ?_, ?_⟩
      · rw [handled, handlePacket_handled, List.append_assoc]
        rfl
      · rw [listening', listening, subscription]
        by_cases last : packet.type = .disconnect
        · simp only [if_pos last, if_pos (disconnects_head packets last), List.filter_filter,
            Bool.and_self, ite_self]
          rfl
        · simp only [if_neg last, disconnects_cons packets last]
          rfl

/-- A data event leaves the sockets alone; a disconnect packet in it ends the subscription. -/
theorem deliver_frame (clock : Nat → DateTime) (s : Nat) (c : RemoteSessionClient) (chunk : Bytes) :
    (deliver clock s c chunk).socket = c.socket ∧
    (deliver clock s c chunk).subscription = c.subscription ∧
    (deliver clock s c chunk).opened = c.opened ∧
    (¬ Disconnects ((deliver clock s c chunk).handled.drop c.handled.length) →
      (deliver clock s c chunk).listening = c.listening) := by
  unfold deliver
  split
  · obtain ⟨socket, subscription, opened, packets, handled, listening⟩ :=
      drain_frame clock { c with buffer := c.buffer ++ chunk }
    refine ⟨socket, subscription, opened, ?_⟩
    intro stays
    have same : (RemoteSessionClient.handled { c with buffer := c.buffer ++ chunk }) = c.handled :=
      rfl
    rw [onData, handled, same, List.drop_left] at stays
    rw [onData, listening, if_neg stays]
  · exact ⟨rfl, rfl, rfl, fun _ => rfl⟩

theorem deliver_listening (clock : Nat → DateTime) (s : Nat) (c : RemoteSessionClient)
    (chunk : Bytes) : (deliver clock s c chunk).listening ⊆ c.listening := by
  unfold deliver
  split
  · obtain ⟨_, _, _, packets, _, listening⟩ :=
      drain_frame clock { c with buffer := c.buffer ++ chunk }
    rw [onData, listening]
    split
    · exact List.filter_sublist.subset
    · exact List.Subset.refl _
  · exact List.Subset.refl _

/-- What is left in the buffer are the last bytes of what was in it. -/
theorem drain_buffer (clock : Nat → DateTime) (c : RemoteSessionClient) :
    (drain clock c).1.buffer <:+ c.buffer := by
  fun_induction drain clock c with
  | case1 | case3 => exact List.suffix_rfl
  | case2 => exact List.nil_suffix
  | case4 c long n total enough bytes rest e decoded => exact List.drop_suffix n c.buffer
  | case5 c long n total enough bytes rest packet decoded ih =>
      have handled : (handlePacket clock rest packet).buffer <:+ rest.buffer := by
        rw [handlePacket_buffer]
        split
        · exact List.nil_suffix
        · exact List.suffix_rfl
      exact (ih.trans handled).trans (List.drop_suffix n c.buffer)

end RemoteSessionClient
namespace Loop

@[simp] theorem put_pending (m : Loop) (call : Nat) (await : Option Await) (i : Nat) :
    (m.put call await).pending i = if i = call then await else m.pending i := rfl

/-- Some `disconnect` waits for its subscription to be cancelled. -/
def Cancelling (m : Loop) : Prop := ∃ call waiting, m.pending call = some (.cancel waiting)

theorem received_append (past : List Event) (event : Event) (s : Nat) :
    received (past ++ [event]) s = received past s ++ received [event] s :=
  List.flatMap_append

theorem received_other {event : Event} {s : Nat} (other : ∀ chunk, event ≠ .data s chunk) :
    received [event] s = [] := by
  cases event with
  | data t chunk =>
      have apart : t ≠ s := by
        rintro rfl
        exact other chunk rfl
      simp only [received, List.flatMap_cons, List.flatMap_nil, if_neg apart, List.append_nil]
  | _ => rfl

theorem received_data (s : Nat) (chunk : Bytes) : received [.data s chunk] s = chunk := by
  simp only [received, List.flatMap_cons, List.flatMap_nil, ↓reduceIte, List.append_nil]

theorem failed_append {past : List Event} {event : Event} {s : Nat} :
    Failed (past ++ [event]) s ↔ Failed past s ∨ ∃ error, event = .socketError s error := by
  simp only [Failed, List.mem_append, List.mem_singleton, exists_or, eq_comm]

/-- Calls of `connect` that do not overlap: the client holds the only open socket. -/
structure Held (past : List Event) (m : Loop) : Prop where
  fresh : ∀ i, m.calls ≤ i → m.pending i = none
  opened : m.client.opened = m.client.socket.toList
  subscription : m.client.subscription = m.client.socket
  listening : ∀ s, m.client.socket = some s →
    s ∈ m.client.listening ∨ m.Cancelling ∨ Failed past s
  single : ∀ i j a b, m.pending i = some a → m.pending j = some b → a.connecting = true →
    b.connecting = true → i = j
  dialing : ∀ i a, m.pending i = some a → a.dialing = true → m.client.socket = none

theorem Await.connecting_of_dialing {a : Await} (dialing : a.dialing = true) :
    a.connecting = true := by
  cases a with
  | cancel waiting => cases dialing
  | disconnected waiting =>
      cases waiting with
      | none => cases dialing
      | dial => rfl
      | failed => rfl
  | dial => rfl

/-- No call but this one is a `connect` that has not completed. -/
def Alone (m : Loop) (call : Nat) : Prop :=
  ∀ i a, i ≠ call → m.pending i = some a → a.connecting = false

theorem Held.alone {past : List Event} {m : Loop} (held : Held past m) {call : Nat} {a : Await}
    (at_ : m.pending call = some a) (connecting : a.connecting = true) : m.Alone call := by
  intro i b other there
  cases connects : b.connecting with
  | false => rfl
  | true => exact absurd (held.single i call b a there at_ connects connecting) other

/-- What is left to show when one pending call moves on: `next` is the loop before the call
is written down again. -/
theorem Held.put {past past' : List Event} {m next : Loop} (held : Held past m) {call : Nat}
    {await : Option Await} (pending : next.pending = m.pending)
    (fresh : ∀ i, next.calls ≤ i → i ≠ call ∧ m.calls ≤ i)
    (opened : next.client.opened = next.client.socket.toList)
    (subscription : next.client.subscription = next.client.socket)
    (listening : ∀ s, next.client.socket = some s →
      s ∈ next.client.listening ∨ (next.put call await).Cancelling ∨ Failed past' s)
    (alone : ∀ a, await = some a → a.connecting = true → m.Alone call)
    (kept : ∀ a, await = some a → a.dialing = true → next.client.socket = none)
    (others : ∀ i a, i ≠ call → m.pending i = some a → a.dialing = true →
      next.client.socket = none) : Held past' (next.put call await) := by
  refine ⟨?_, opened, subscription, listening, ?_, ?_⟩
  · intro i later
    obtain ⟨other, before⟩ := fresh i later
    rw [put_pending, if_neg other, pending]
    exact held.fresh i before
  · intro i j a b first second connects connects'
    rw [put_pending, pending] at first second
    by_cases here : i = call
    · by_cases there : j = call
      · rw [here, there]
      · rw [if_pos here] at first
        rw [if_neg there] at second
        rw [alone a first connects j b there second] at connects'
        cases connects'
    · by_cases there : j = call
      · rw [if_neg here] at first
        rw [if_pos there] at second
        rw [alone b second connects' i a here first] at connects
        cases connects
      · rw [if_neg here] at first
        rw [if_neg there] at second
        exact held.single i j a b first second connects connects'
  · intro i a at_ dialing
    rw [put_pending, pending] at at_
    by_cases here : i = call
    · rw [if_pos here] at at_
      exact kept a at_ dialing
    · rw [if_neg here] at at_
      exact others i a here at_ dialing

/-- A new `disconnect`, which may be the beginning of a `connect` when there is no other. -/
theorem Held.begin {past past' : List Event} {m : Loop} (held : Held past m) {waiting : Waiting}
    (alone : waiting = .none ∨ ¬ m.Connecting) : Held past' (m.begin waiting) := by
  refine held.put rfl ?_ held.opened held.subscription
    (fun _ _ => .inr (.inl ⟨m.calls, waiting, if_pos rfl⟩)) ?_ ?_
    (fun i a _ at_ dialing => held.dialing i a at_ dialing)
  · intro i later
    have bound : m.calls + 1 ≤ i := later
    omega
  · rintro a ⟨⟩ connects i b _ there
    rcases alone with none | idle
    · rw [none] at connects
      cases connects
    · cases busy : b.connecting with
      | false => rfl
      | true => exact absurd ⟨i, b, there, busy⟩ idle
  · rintro a ⟨⟩ dialing
    cases dialing

/-- `connect` calls that do not overlap. -/
def Apart (m : Loop) : Event → Prop
  | .connect _ _ => ¬ m.Connecting
  | _ => True

theorem Held.known {past : List Event} {m : Loop} (held : Held past m) {call : Nat} {a : Await}
    (at_ : m.pending call = some a) : ∀ i, m.calls ≤ i → i ≠ call ∧ m.calls ≤ i := by
  refine fun i later => ⟨?_, later⟩
  rintro rfl
  rw [held.fresh i later] at at_
  cases at_

theorem Cancelling.put {m next : Loop} (pending : next.pending = m.pending)
    (cancelling : m.Cancelling) {call : Nat} {await : Option Await}
    (other : ∀ waiting, m.pending call ≠ some (.cancel waiting)) :
    (next.put call await).Cancelling := by
  obtain ⟨i, waiting, at_⟩ := cancelling
  refine ⟨i, waiting, ?_⟩
  have apart : i ≠ call := by
    rintro rfl
    exact other waiting at_
  rw [put_pending, if_neg apart, pending, at_]

theorem endDisconnect_opened {c : RemoteSessionClient} (opened : c.opened = c.socket.toList) :
    c.endDisconnect.opened = [] := by
  change c.opened.filter (fun s => some s ≠ c.socket) = []
  rw [opened]
  cases c.socket with
  | none => rfl
  | some s => simp

theorem Held.cancelled {past past' : List Event} {m : Loop} (held : Held past m) {call : Nat}
    {waiting : Waiting} (at_ : m.pending call = some (.cancel waiting)) {await : Option Await}
    (same : ∀ a, await = some a → a.connecting = true → (Await.cancel waiting).connecting = true) :
    Held past' ({ m with client := m.client.endDisconnect }.put call await) :=
  held.put rfl (held.known at_) (endDisconnect_opened held.opened) rfl nofun
    (fun a moved connects => held.alone at_ (same a moved connects)) (fun _ _ _ => rfl)
    (fun _ _ _ _ _ => rfl)

theorem Held.step {clock : Nat → DateTime} {past : List Event} {m next : Loop} {event : Event}
    (held : Held past m) (apart : m.Apart event) (moved : Moves clock m event next) :
    Held (past ++ [event]) next := by
  -- what the socket has done stays done
  have still : ∀ {s : Nat}, Failed past s → Failed (past ++ [event]) s :=
    fun failed => failed_append.mpr (.inl failed)
  cases moved with
  | connect => exact held.begin (.inr apart)
  | disconnect => exact held.begin (.inl rfl)
  | ended at_ => exact held.cancelled at_ nofun
  | @cancelled call waiting at_ busy =>
      refine held.cancelled at_ ?_
      rintro a ⟨⟩ connects
      cases waiting with
      | none => cases connects
      | dial => rfl
      | failed => rfl
  | dials at_ =>
      have free := held.dialing _ _ at_ rfl
      refine held.put rfl (held.known at_) held.opened held.subscription ?_
        (fun _ _ _ => held.alone at_ rfl) (fun _ _ _ => free) (fun _ _ _ _ _ => free)
      intro s stored
      cases free.symm.trans stored
  | completed at_ =>
      refine held.put rfl (held.known at_) held.opened held.subscription ?_ nofun nofun
        (fun i a _ there dialing => held.dialing i a there dialing)
      intro s stored
      refine (held.listening s stored).imp_right (Or.imp (fun cancelling => ?_) still)
      refine cancelling.put rfl fun waiting same => ?_
      cases at_.symm.trans same
  | stored at_ =>
      have free := held.dialing _ _ at_ rfl
      have alone := held.alone at_ rfl
      refine held.put rfl (held.known at_) ?_ rfl ?_ nofun nofun ?_
      · change m.sockets :: m.client.opened = [m.sockets]
        rw [held.opened, free]
        rfl
      · rintro s ⟨⟩
        exact .inl List.mem_cons_self
      · intro i a other there dialing
        have idle := alone i a other there
        rw [Await.connecting_of_dialing dialing] at idle
        cases idle
  | @refused call host port error at_ =>
      have free := held.dialing _ _ at_ rfl
      exact held.put rfl (held.known at_) held.opened held.subscription
        (fun _ _ => .inr (.inl ⟨call, .failed, if_pos rfl⟩)) (fun _ _ _ => held.alone at_ rfl)
        (fun _ _ _ => free) (fun _ _ _ _ _ => free)
  | @data s chunk stays =>
      obtain ⟨socket, subscription, opened, listening⟩ :=
        RemoteSessionClient.deliver_frame clock s m.client chunk
      refine ⟨held.fresh, opened.trans (held.opened.trans (congrArg Option.toList socket.symm)),
        subscription.trans (held.subscription.trans socket.symm), ?_, held.single, ?_⟩
      · intro t stored
        have before := held.listening t (socket.symm.trans stored)
        rw [← listening stays] at before
        exact before.imp_right (Or.imp_right still)
      · intro i a there dialing
        exact socket.trans (held.dialing i a there dialing)
  | @leaves s chunk =>
      obtain ⟨socket, subscription, opened, listening⟩ :=
        RemoteSessionClient.deliver_frame clock s m.client chunk
      refine held.put rfl ?_ (opened.trans (held.opened.trans (congrArg Option.toList socket.symm)))
        (subscription.trans (held.subscription.trans socket.symm))
        (fun _ _ => .inr (.inl ⟨m.calls, .none, if_pos rfl⟩)) ?_ ?_
        (fun i a _ there dialing => socket.trans (held.dialing i a there dialing))
      · intro i later
        have bound : m.calls + 1 ≤ i := later
        omega
      · rintro a ⟨⟩ connects
        cases connects
      · rintro a ⟨⟩ dialing
        cases dialing
  | @failed s error live =>
      refine ⟨held.fresh, held.opened, held.subscription, ?_, held.single, held.dialing⟩
      intro t stored
      by_cases same : t = s
      · exact .inr (.inr (failed_append.mpr (.inr ⟨error, by rw [same]⟩)))
      · refine (held.listening t stored).imp (fun member => ?_) (Or.imp_right still)
        exact List.mem_filter.mpr ⟨member, decide_eq_true same⟩
  | done live =>
      have acted : Held past { m with client :=
          (m.client.act (.state .disconnected)).act (.status "Connection closed") } :=
        ⟨held.fresh, held.opened, held.subscription, held.listening, held.single, held.dialing⟩
      exact acted.begin (.inl rfl)

theorem Held.initial : Held [] {} := ⟨fun _ _ => rfl, rfl, rfl, nofun, nofun, nofun⟩

/-- Sockets have numbers in the order they are connected in; one that has reported an error is
listened to no longer. -/
structure Numbered (past : List Event) (m : Loop) : Prop where
  opened : ∀ s ∈ m.client.opened, s < m.sockets
  failed : ∀ s, Failed past s → s < m.sockets ∧ s ∉ m.client.listening

/-- No event but an error, and nothing that opens a socket or listens to one. -/
theorem Numbered.mono {past : List Event} {m next : Loop} {event : Event}
    (numbered : Numbered past m) (quiet : ∀ s error, event ≠ .socketError s error)
    (sockets : next.sockets = m.sockets) (opened : next.client.opened ⊆ m.client.opened)
    (listening : next.client.listening ⊆ m.client.listening) :
    Numbered (past ++ [event]) next := by
  refine ⟨fun s member => sockets ▸ numbered.opened s (opened member), fun s failed => ?_⟩
  rcases failed_append.mp failed with before | ⟨error, here⟩
  · obtain ⟨known, deaf⟩ := numbered.failed s before
    exact ⟨sockets ▸ known, fun member => deaf (listening member)⟩
  · exact absurd here (quiet s error)

theorem Numbered.step {clock : Nat → DateTime} {past : List Event} {m next : Loop} {event : Event}
    (numbered : Numbered past m) (moved : Moves clock m event next) :
    Numbered (past ++ [event]) next := by
  cases moved with
  | connect | disconnect | refused | done =>
      exact numbered.mono nofun rfl (List.Subset.refl _) List.filter_sublist.subset
  | ended | cancelled =>
      exact numbered.mono nofun rfl List.filter_sublist.subset (List.Subset.refl _)
  | dials | completed => exact numbered.mono nofun rfl (List.Subset.refl _) (List.Subset.refl _)
  | stored at_ =>
      refine ⟨fun s member => ?_, fun s failed => ?_⟩
      · rcases List.mem_cons.mp member with rfl | member
        · exact Nat.lt_succ_self _
        · exact Nat.lt_succ_of_lt (numbered.opened s member)
      · rcases failed_append.mp failed with before | ⟨error, ⟨⟩⟩
        obtain ⟨known, deaf⟩ := numbered.failed s before
        refine ⟨Nat.lt_succ_of_lt known, fun member => ?_⟩
        rcases List.mem_cons.mp member with rfl | member
        · exact absurd known (lt_irrefl _)
        · exact deaf member
  | @data s chunk | @leaves s chunk =>
      obtain ⟨_, _, opened, _⟩ := RemoteSessionClient.deliver_frame clock s m.client chunk
      exact numbered.mono nofun rfl (opened ▸ List.Subset.refl _)
        (RemoteSessionClient.deliver_listening clock s m.client chunk)
  | @failed s error live =>
      refine ⟨numbered.opened, fun t failed => ?_⟩
      rcases failed_append.mp failed with before | ⟨error', same⟩
      · obtain ⟨known, deaf⟩ := numbered.failed t before
        exact ⟨known, fun member => deaf (List.mem_filter.mp member).1⟩
      · obtain rfl : s = t := (Event.socketError.inj same).1
        exact ⟨numbered.opened s live.1, fun member =>
          absurd rfl (of_decide_eq_true (List.mem_filter.mp member).2)⟩

/-- The buffer holds bytes of one socket, which is the held one when there is one: the last that
have come from it as long as it is listened to. -/
structure Buffered (past : List Event) (m : Loop) : Prop where
  live : ∀ s, m.Live s → m.client.buffer <:+ received past s
  one : ∃ s, (∀ t, m.client.socket = some t → t = s) ∧ m.client.buffer <:+: received past s
  idle : m.Connecting → m.client.buffer = [] ∧ ∀ s, ¬ m.Live s

theorem Buffered.cleared {past : List Event} {m : Loop} (empty : m.client.buffer = [])
    (dead : ∀ s, ¬ m.Live s) : Buffered past m := by
  refine ⟨fun s live => (dead s live).elim, ⟨m.client.socket.getD 0, ?_, ?_⟩,
    fun _ => ⟨empty, dead⟩⟩
  · intro t stored
    rw [stored]
    rfl
  · rw [empty]
    exact List.nil_infix

/-- An event that brings no bytes of a live socket and starts no `connect`. -/
theorem Buffered.mono {past : List Event} {m next : Loop} {event : Event}
    (buffered : Buffered past m) (buffer : next.client.buffer = m.client.buffer)
    (socket : ∀ s, next.client.socket = some s → m.client.socket = some s)
    (live : ∀ s, next.Live s → m.Live s) (quiet : ∀ s chunk, m.Live s → event ≠ .data s chunk)
    (connecting : next.Connecting → m.Connecting) : Buffered (past ++ [event]) next := by
  refine ⟨fun s reached => ?_, ?_, fun connects => ?_⟩
  · rw [buffer, received_append, received_other fun chunk => quiet s chunk (live s reached),
      List.append_nil]
    exact buffered.live s (live s reached)
  · obtain ⟨s, only, within⟩ := buffered.one
    refine ⟨s, fun t stored => only t (socket t stored), ?_⟩
    rw [buffer, received_append]
    exact within.trans (List.prefix_append _ _).isInfix
  · obtain ⟨empty, dead⟩ := buffered.idle (connecting connects)
    exact ⟨buffer.trans empty, fun s reached => dead s (live s reached)⟩

/-- Bytes of a live socket, of which the last stay in the buffer. -/
theorem Buffered.data {past : List Event} {m next : Loop} {s : Nat} {chunk : Bytes}
    (buffered : Buffered past m) (live : m.Live s) (only : ∀ t, m.Live t → t = s)
    (buffer : next.client.buffer <:+ m.client.buffer ++ chunk)
    (socket : ∀ t, next.client.socket = some t → t = s) (lives : ∀ t, next.Live t → m.Live t)
    (connecting : next.Connecting → m.Connecting) :
    Buffered (past ++ [.data s chunk]) next := by
  have last : next.client.buffer <:+ received (past ++ [.data s chunk]) s := by
    rw [received_append, received_data]
    exact buffer.trans ((List.suffix_append_inj_of_length_eq rfl).mpr ⟨buffered.live s live, rfl⟩)
  refine ⟨fun t reached => ?_, ⟨s, socket, last.isInfix⟩, fun connects => ?_⟩
  · rw [only t (lives t reached)]
    exact last
  · exact absurd live ((buffered.idle (connecting connects)).2 s)

/-- When the subscription is that of the only open socket, its cancel leaves none that is live. -/
theorem beginDisconnect_dead {c : RemoteSessionClient} (opened : c.opened = c.socket.toList)
    (subscription : c.subscription = c.socket) (s : Nat) :
    ¬ (s ∈ c.beginDisconnect.opened ∧ s ∈ c.beginDisconnect.listening) := by
  rintro ⟨member, listens⟩
  have stored : c.socket = some s := by
    have member : s ∈ c.opened := member
    rw [opened] at member
    exact Option.mem_toList.mp member
  have apart := of_decide_eq_true (List.mem_filter.mp listens).2
  rw [subscription, stored] at apart
  exact apart rfl

/-- A call that moves on starts a `connect` only where it was one, or is a new one. -/
theorem Connecting.of_put {m next : Loop} {call : Nat} {await : Option Await}
    (connecting : (next.put call await).Connecting) (pending : next.pending = m.pending)
    (same : ∀ a, await = some a → a.connecting = true → m.Connecting) : m.Connecting := by
  obtain ⟨i, a, at_, connects⟩ := connecting
  rw [put_pending, pending] at at_
  split at at_
  · exact same a at_ connects
  · exact ⟨i, a, at_, connects⟩

theorem Held.live {past : List Event} {m : Loop} (held : Held past m) {s : Nat} (live : m.Live s) :
    m.client.socket = some s := by
  have member := live.1
  rw [held.opened] at member
  exact Option.mem_toList.mp member

theorem Buffered.deliver {clock : Nat → DateTime} {past : List Event} {m next : Loop} {s : Nat}
    {chunk : Bytes} (buffered : Buffered past m) (held : Held past m)
    (client : next.client = m.client.deliver clock s chunk)
    (connecting : next.Connecting → m.Connecting) :
    Buffered (past ++ [.data s chunk]) next := by
  obtain ⟨socket, _, opened, _⟩ := RemoteSessionClient.deliver_frame clock s m.client chunk
  have listening := RemoteSessionClient.deliver_listening clock s m.client chunk
  rw [← client] at socket opened listening
  have lives : ∀ t, next.Live t → m.Live t :=
    fun t live => ⟨opened ▸ live.1, listening live.2⟩
  by_cases live : m.Live s
  · have stored := held.live live
    refine buffered.data live (fun t reached => ?_) ?_ (fun t held' => ?_) lives connecting
    · exact Option.some.inj ((held.live reached).symm.trans stored)
    · have delivered : m.client.deliver clock s chunk = (m.client.onData clock chunk).1 :=
        if_pos live
      rw [client, delivered]
      exact RemoteSessionClient.drain_buffer clock _
    · exact Option.some.inj ((held'.symm.trans socket).trans stored)
  · have same : next.client = m.client := client.trans (if_neg live)
    refine buffered.mono (by rw [same]) (fun t held' => same ▸ held') lives ?_ connecting
    rintro t chunk' reached ⟨⟩
    exact live reached

theorem Buffered.step {clock : Nat → DateTime} {past : List Event} {m next : Loop} {event : Event}
    (buffered : Buffered past m) (held : Held past m) (moved : Moves clock m event next) :
    Buffered (past ++ [event]) next := by
  have dead := beginDisconnect_dead held.opened held.subscription
  cases moved with
  | connect | disconnect | refused | done => exact .cleared rfl dead
  | ended at_ =>
      exact buffered.mono rfl nofun (fun s live => ⟨(List.mem_filter.mp live.1).1, live.2⟩) nofun
        fun connecting => connecting.of_put rfl nofun
  | @cancelled call waiting at_ busy =>
      refine buffered.mono rfl nofun (fun s live => ⟨(List.mem_filter.mp live.1).1, live.2⟩) nofun
        fun connecting => connecting.of_put rfl fun a _ _ => ⟨call, _, at_, ?_⟩
      cases waiting with
      | none => exact absurd rfl busy
      | dial | failed => rfl
  | @dials call host port at_ =>
      exact buffered.mono rfl (fun _ => id) (fun _ => id) nofun
        fun connecting => connecting.of_put rfl fun _ _ _ => ⟨call, _, at_, rfl⟩
  | completed at_ =>
      exact buffered.mono rfl (fun _ => id) (fun _ => id) nofun
        fun connecting => connecting.of_put rfl nofun
  | @stored call host port result at_ =>
      obtain ⟨empty, dead⟩ := buffered.idle ⟨call, _, at_, rfl⟩
      refine ⟨fun s live => ?_, ⟨m.sockets, fun t stored => (Option.some.inj stored).symm, ?_⟩, ?_⟩
      · change m.client.buffer <:+ _
        rw [empty]
        exact List.nil_suffix
      · change m.client.buffer <:+: _
        rw [empty]
        exact List.nil_infix
      · -- it was the only `connect`
        rintro ⟨i, a, there, connects⟩
        rw [put_pending] at there
        split at there
        · cases there
        · next other =>
            rw [held.alone at_ rfl i a other there] at connects
            cases connects
  | data => exact buffered.deliver held rfl id
  | leaves =>
      refine buffered.deliver held rfl fun connecting => connecting.of_put rfl ?_
      rintro a ⟨⟩ ⟨⟩
  | failed =>
      exact buffered.mono rfl (fun _ => id) (fun s live => ⟨live.1, (List.mem_filter.mp live.2).1⟩)
        nofun id

/-- After a call of `disconnect` and without another `connect`: no socket can be stored, and
none is left once the call has completed. -/
structure Ending (call : Nat) (m : Loop) : Prop where
  idle : ¬ m.Connecting
  waits : m.pending call = some (.cancel .none) ∨ m.client.socket = none

theorem begin_idle {m : Loop} (idle : ¬ m.Connecting) : ¬ (m.begin .none).Connecting := by
  rintro ⟨i, a, at_, connects⟩
  simp only [Loop.begin, put_pending] at at_
  split at at_
  · cases at_
    cases connects
  · exact idle ⟨i, a, at_, connects⟩

theorem Ending.begin {call : Nat} {m : Loop} (ending : Ending call m) :
    Ending call (m.begin .none) := by
  refine ⟨begin_idle ending.idle, ?_⟩
  rcases ending.waits with pending | free
  · refine .inl ?_
    simp only [Loop.begin, put_pending]
    split
    · rfl
    · exact pending
  · exact .inr free

theorem Ending.step {clock : Nat → DateTime} {call : Nat} {m next : Loop} {event : Event}
    (ending : Ending call m) (other : ∀ host port, event ≠ .connect host port)
    (moved : Moves clock m event next) : Ending call next := by
  have never : ∀ i a, m.pending i = some a → a.connecting = true → False :=
    fun i a at_ connects => ending.idle ⟨i, a, at_, connects⟩
  cases moved with
  | @connect host port => exact absurd rfl (other host port)
  | disconnect => exact ending.begin
  | ended at_ => exact ⟨fun connecting => ending.idle (connecting.of_put rfl nofun), .inr rfl⟩
  | @cancelled i waiting at_ busy =>
      cases waiting with
      | none => exact absurd rfl busy
      | dial | failed => exact (never i _ at_ rfl).elim
  | dials at_ | completed at_ | stored at_ | refused at_ => exact (never _ _ at_ rfl).elim
  | @data s chunk =>
      obtain ⟨socket, _⟩ := RemoteSessionClient.deliver_frame clock s m.client chunk
      exact ⟨ending.idle, ending.waits.imp_right socket.trans⟩
  | @leaves s chunk =>
      obtain ⟨socket, _⟩ := RemoteSessionClient.deliver_frame clock s m.client chunk
      have delivered : Ending call { m with client := m.client.deliver clock s chunk } :=
        ⟨ending.idle, ending.waits.imp_right socket.trans⟩
      exact ⟨delivered.begin.idle, delivered.begin.waits⟩
  | failed => exact ⟨ending.idle, ending.waits⟩
  | done =>
      have acted : Ending call { m with client :=
          (m.client.act (.state .disconnected)).act (.status "Connection closed") } :=
        ⟨ending.idle, ending.waits⟩
      exact acted.begin

/-- What holds in every state of a run whose calls of `connect` do not overlap. -/
structure Kept (past : List Event) (m : Loop) : Prop where
  held : Held past m
  numbered : Numbered past m
  buffered : Buffered past m

theorem Kept.step {clock : Nat → DateTime} {past : List Event} {m next : Loop} {event : Event}
    (kept : Kept past m) (apart : m.Apart event) (taken : m.step clock event = some next) :
    Kept (past ++ [event]) next :=
  have moved := step_moves taken
  ⟨kept.held.step apart moved, kept.numbered.step moved, kept.buffered.step kept.held moved⟩

theorem Kept.initial : Kept [] {} := by
  refine ⟨.initial, ⟨nofun, ?_⟩, .cleared rfl fun s live => ?_⟩
  · rintro s ⟨error, member⟩
    cases member
  · cases live.1

/-- As long as no `connect` is called before an earlier one has completed: every open socket is
the held one; apart from the time a `disconnect` waits for its subscription, and unless it has
reported an error, it is open and its events reach the client, while those of other sockets
change nothing; what is buffered are bytes of one socket, the held one if there is one. Once a
`disconnect` that was called when no `connect` was pending has completed, no socket is open or
held until `connect` is called again. -/
theorem open_sockets_held {clock : Nat → DateTime} {events : List Event} {m : Loop}
    (run : Transition.exec (Loop.step clock) {} events = some m)
    (apart : Transition.Along (Loop.step clock) Apart {} events) :
    (∀ s, s ∈ m.client.opened → m.client.socket = some s) ∧
    (¬ m.Cancelling → ∀ s, m.Live s ↔ m.client.socket = some s ∧ ¬ Failed events s) ∧
    (∀ s chunk, m.client.socket ≠ some s → m.client.deliver clock s chunk = m.client) ∧
    (∃ s, (∀ t, m.client.socket = some t → t = s) ∧ m.client.buffer <:+: received events s) ∧
    (∀ before after b, events = before ++ .disconnect :: after →
      Transition.exec (Loop.step clock) {} before = some b → ¬ b.Connecting →
      (∀ event ∈ after, ∀ host port, event ≠ .connect host port) → m.pending b.calls = none →
      m.client.opened = [] ∧ m.client.socket = none) := by
  have kept : Kept events m := by
    have whole := Transition.exec_past
      (fun _ _ _ _ kept apart taken => Kept.step kept apart taken) Kept.initial run apart
    rwa [List.nil_append] at whole
  have held := kept.held
  have only : ∀ s, s ∈ m.client.opened → m.client.socket = some s := by
    intro s member
    rw [held.opened] at member
    exact Option.mem_toList.mp member
  refine ⟨only, ?_, ?_, kept.buffered.one, ?_⟩
  · intro settled s
    constructor
    · exact fun live => ⟨only s live.1, fun failed => (kept.numbered.failed s failed).2 live.2⟩
    · rintro ⟨stored, sound⟩
      refine ⟨?_, ((held.listening s stored).resolve_right ?_)⟩
      · rw [held.opened, stored]
        exact List.mem_cons_self
      · exact fun either => either.elim settled sound
  · intro s chunk other
    exact if_neg fun live => other (only s live.1)
  · rintro before after b rfl reached idle without completed
    obtain ⟨b', reached', rest⟩ := Transition.exec_append_some run
    obtain rfl : b = b' := Option.some.inj (reached.symm.trans reached')
    obtain ⟨c, called, rest⟩ := Transition.exec_cons_some rest
    cases called
    have first : Ending b.calls (b.begin .none) := ⟨begin_idle idle, .inl (if_pos rfl)⟩
    have ending : Ending b.calls m := by
      refine Transition.exec_along
        (fun _ _ _ ending other taken => Ending.step ending other (step_moves taken)) first rest ?_
      intro earlier event later t split _
      exact without event (by rw [split]; exact List.mem_append_right _ List.mem_cons_self)
    have free : m.client.socket = none := ending.waits.resolve_left (by rw [completed]; nofun)
    exact ⟨by rw [held.opened, free]; rfl, free⟩

/-- Calls without a `connect` among them do not overlap one. -/
theorem apart_of_without {clock : Nat → DateTime} {m : Loop} {events : List Event}
    (without : ∀ event ∈ events, ∀ host port, event ≠ .connect host port) :
    Transition.Along (Loop.step clock) Apart m events := by
  rintro before event after t rfl -
  have other := without event (List.mem_append_right _ List.mem_cons_self)
  cases event with
  | connect host port => exact absurd rfl (other host port)
  | _ => trivial

/-- Bytes that make no header wait in the buffer. -/
theorem step_short {clock : Nat → DateTime} {m : Loop} {s : Nat} {chunk : Bytes} (live : m.Live s)
    (short : (m.client.buffer ++ chunk).length < 24) :
    m.step clock (.data s chunk) =
      some { m with client := { m.client with buffer := m.client.buffer ++ chunk } } := by
  have delivered : m.client.deliver clock s chunk =
      { m.client with buffer := m.client.buffer ++ chunk } := by
    have reaches : m.client.deliver clock s chunk = (m.client.onData clock chunk).1 := if_pos live
    rw [reaches, RemoteSessionClient.onData, RemoteSessionClient.drain]
    exact congrArg Prod.fst (if_pos short)
  simp only [step, delivered]
  refine if_neg ?_
  have same : RemoteSessionClient.handled { m.client with buffer := m.client.buffer ++ chunk } =
      m.client.handled := rfl
  rw [same, List.drop_length]
  exact RemoteSessionClient.not_disconnects_nil

/-- A connection that is made, brings three bytes, fails and is ended. -/
theorem open_sockets_held_once :
    let clock : Nat → DateTime := fun _ => ⟨0, by decide⟩
    let brings := [Event.connect "host" 4545, .cancelled 0, .resumed 0, .dialed 0 (.ok ()),
      .data 0 [1, 2], .data 0 [3]]
    let fails := brings ++ [.socketError 0 "Connection reset by peer"]
    ∃ a b m, Transition.exec (Loop.step clock) {} brings = some a ∧ a.Live 0 ∧
      a.client.buffer = [1, 2, 3] ∧ a.client.buffer <:+: received brings 0 ∧
      Transition.exec (Loop.step clock) {} fails = some b ∧ b.client.socket = some 0 ∧ ¬ b.Live 0 ∧
      Transition.exec (Loop.step clock) {} (fails ++ [.disconnect, .cancelled 1]) = some m ∧
      m.client.opened = [] ∧ m.client.socket = none := by
  intro clock brings fails
  have apart : ∀ events, (∀ event ∈ events, ∀ host port, event ≠ .connect host port) →
      Transition.Along (Loop.step clock) Apart {} (.connect "host" 4545 :: events) := by
    refine fun events without => .cons ?_ rfl (apart_of_without without)
    rintro ⟨_, _, ⟨⟩, _⟩
  obtain ⟨c, connected, live, empty, calls, settled⟩ : ∃ c, Transition.exec (Loop.step clock) {}
      [.connect "host" 4545, .cancelled 0, .resumed 0, .dialed 0 (.ok ())] = some c ∧
      c.Live 0 ∧ c.client.buffer = [] ∧ c.calls = 1 ∧ ∀ i, c.pending i = none := by
    refine ⟨_, rfl, by decide, rfl, rfl, fun i => ?_⟩
    by_cases here : i = 0 <;> simp [Loop.begin, here]
  let a : Loop := { c with client := { c.client with buffer := [1, 2, 3] } }
  let b : Loop := { a with client := a.client.onSocketError 0 "Connection reset by peer" }
  have first : c.step clock (.data 0 [1, 2]) =
      some { c with client := { c.client with buffer := [1, 2] } } := by
    rw [step_short live (by rw [empty]; decide), empty]
    rfl
  have reached : Transition.exec (Loop.step clock) {} brings = some a :=
    Transition.exec_trans connected (Transition.exec_step first
      (Transition.exec_step (step_short live (show 3 < 24 by decide)) rfl))
  have failed : Transition.exec (Loop.step clock) {} fails = some b :=
    Transition.exec_trans reached (Transition.exec_step (if_pos live) rfl)
  have cancelled : (b.begin .none).pending 1 = some (.cancel .none) := if_pos calls.symm
  have ended : Transition.exec (Loop.step clock) {} (fails ++ [.disconnect, .cancelled 1]) =
      some ({ b.begin .none with client := (b.begin .none).client.endDisconnect }.put 1 none) := by
    refine Transition.exec_trans failed (Transition.exec_step rfl (Transition.exec_step ?_ rfl))
    simp only [step, cancelled]
  -- no call is pending before the last one
  have waits : ∀ d : Loop, d.pending = c.pending → ¬ d.Cancelling := by
    rintro d same ⟨i, waiting, at_⟩
    rw [same, settled i] at at_
    cases at_
  obtain ⟨held, lives, -, ⟨s, only, within⟩, -⟩ := open_sockets_held reached (apart _ (by simp))
  obtain ⟨-, deaf, -⟩ := open_sockets_held failed (apart _ (by simp))
  obtain ⟨_, _, _, _, freed⟩ := open_sockets_held ended (apart _ (by simp))
  have stored : a.client.socket = some 0 := held 0 live.1
  have sound : ¬ Failed brings 0 := by
    rintro ⟨error, member⟩
    simp [brings] at member
  refine ⟨a, b, _, reached, (lives (waits a rfl) 0).mpr ⟨stored, sound⟩, rfl, ?_, failed, stored,
    ?_, ended, ?_⟩
  · rw [only 0 stored]
    exact within
  · intro hears
    refine ((deaf (waits b rfl) 0).mp hears).2 ⟨"Connection reset by peer", ?_⟩
    exact List.mem_append_right brings List.mem_cons_self
  · refine freed fails [.cancelled 1] b rfl failed ?_ (by simp) ?_
    · rintro ⟨i, await, at_, _⟩
      cases at_.symm.trans (settled i)
    · exact if_pos calls

/-- Two calls of `connect` at once leave two open sockets that both reach the client, a
`connect` outlives a `disconnect` that was called and completed during it, and a held socket
is deaf while its `disconnect` waits and after it has reported an error. -/
theorem overlapping_calls :
    let clock : Nat → DateTime := fun _ => ⟨0, by decide⟩
    let dial (call : Nat) : List Event := [.connect "host" 4545, .cancelled call, .resumed call]
    (∃ m, Transition.exec (Loop.step clock) {}
        (dial 0 ++ dial 1 ++ [.dialed 0 (.ok ()), .dialed 1 (.ok ())]) = some m ∧
      m.client.socket = some 1 ∧ m.Live 0 ∧ m.Live 1) ∧
    (∃ b m, Transition.exec (Loop.step clock) {} (dial 0 ++ [.disconnect, .cancelled 1]) = some b ∧
      b.pending 1 = none ∧ Loop.step clock b (.dialed 0 (.ok ())) = some m ∧
      m.client.socket = some 0 ∧ m.Live 0) ∧
    (∃ m, Transition.exec (Loop.step clock) {} (dial 0 ++ [.dialed 0 (.ok ()), .disconnect]) =
        some m ∧
      m.client.socket = some 0 ∧ ¬ m.Live 0) ∧
    (∃ m, Transition.exec (Loop.step clock) {}
        (dial 0 ++ [.dialed 0 (.ok ()), .socketError 0 "Connection reset by peer"]) = some m ∧
      m.client.socket = some 0 ∧ ¬ m.Live 0) := by
  intro clock dial
  exact ⟨⟨_, rfl, rfl, by decide, by decide⟩, ⟨_, _, rfl, rfl, rfl, rfl, by decide⟩,
    ⟨_, rfl, rfl, by decide⟩, ⟨_, rfl, rfl, by decide⟩⟩

end Loop
end Screenscrab.Client
