import Screenscrab.Wire.Codec

/-! The two-socket transport of transport.cpp. What Winsock answers is an
argument of each member function, one component for each call it makes. -/
namespace Screenscrab.Session

/-- A socket handle; `INVALID_SOCKET` is `none` where a field holds it. -/
abbrev SOCKET := Nat

def wsaEINVAL : Int32 := 10022
def wsaENOTCONN : Int32 := 10057

structure Transport where
  socket : Option SOCKET := none
  listenSocket : Option SOCKET := none
  lastError : Int32 := 0
  deriving DecidableEq, Repr

namespace Transport

/-- The answers to the calls of `listen`, an error being `WSAGetLastError()`. -/
structure ListenCalls where
  startup : Except Int32 Unit
  socket : Except Int32 SOCKET
  setReuse : Except Int32 Unit
  bind : Except Int32 Unit
  listen : Except Int32 Unit

/-- One address of `getaddrinfo`: `none` when no socket can be made for it. -/
structure AddressCalls where
  socket : Option SOCKET
  connect : Except Int32 Unit

structure ConnectCalls where
  startup : Except Int32 Unit
  getaddrinfo : Except Int32 (List AddressCalls)

def disconnect (t : Transport) : Transport := { t with socket := none, listenSocket := none }

def connected (t : Transport) : Bool := t.socket.isSome

def listen (t : Transport) (os : ListenCalls) : Transport × Bool :=
  match os.startup with
  | .error e => ({ t with lastError := e }, false)
  | .ok _ =>
    let t := t.disconnect
    match os.socket with
    | .error e => ({ t with lastError := e }, false)
    | .ok handle =>
      let t := { t with listenSocket := some handle }
      match os.setReuse with
      | .error e => ({ t with lastError := e }.disconnect, false)
      | .ok _ =>
        match os.bind with
        | .error e => ({ t with lastError := e }.disconnect, false)
        | .ok _ =>
          match os.listen with
          | .error e => ({ t with lastError := e }.disconnect, false)
          | .ok _ => (t, true)

def accept (t : Transport) (answer : Except Int32 SOCKET) : Transport × Bool :=
  if t.listenSocket = none then ({ t with lastError := wsaEINVAL }, false)
  else
    match answer with
    | .error e => ({ t with socket := none, lastError := e }, false)
    | .ok handle => ({ t with socket := some handle }, true)

/-- The loop over the addresses, which stops at the first that connects. -/
def connectFirst (t : Transport) : List AddressCalls → Transport
  | [] => t
  | address :: rest =>
    match address.socket with
    | none => t.connectFirst rest
    | some handle =>
      match address.connect with
      | .ok _ => { t with socket := some handle, lastError := 0 }
      | .error e => { t with lastError := e }.connectFirst rest

def connect (t : Transport) (os : ConnectCalls) : Transport × Bool :=
  match os.startup with
  | .error e => ({ t with lastError := e }, false)
  | .ok _ =>
    let t := { t.disconnect with lastError := 0 }
    match os.getaddrinfo with
    | .error e => ({ t with lastError := e }, false)
    | .ok addresses =>
      let t := t.connectFirst addresses
      (t, t.socket.isSome)

/-- `send_all`; `sent` is what `send_exact` returns on a valid socket. -/
def sendAll (t : Transport) (sent : Bool) : Transport × Bool :=
  if t.socket = none then ({ t with lastError := wsaENOTCONN }, false) else (t, sent)

/-- `receive_all`; `received` is what `receive_exact` leaves in the span, if it succeeds. -/
def receiveAll (t : Transport) (received : Option Bytes) : Transport × Option Bytes :=
  if t.socket = none then ({ t with lastError := wsaENOTCONN }, none) else (t, received)

/-- `poll_readable`, with the answer of `select` and `FD_ISSET`. -/
def pollReadable (t : Transport) (answer : Except Int32 Bool) : Transport × Bool :=
  if t.socket = none then ({ t with lastError := wsaENOTCONN }, false)
  else
    match answer with
    | .error e => ({ t with lastError := e }, false)
    | .ok ready => (t, ready)

theorem socket_ne_none {t : Transport} (connected : t.connected = true) : t.socket ≠ none :=
  Option.isSome_iff_ne_none.mp connected

theorem sendAll_connected {t : Transport} (connected : t.connected = true) (sent : Bool) :
    t.sendAll sent = (t, sent) := if_neg (Transport.socket_ne_none connected)

theorem receiveAll_connected {t : Transport} (connected : t.connected = true)
    (received : Option Bytes) : t.receiveAll received = (t, received) :=
  if_neg (Transport.socket_ne_none connected)

theorem pollReadable_ready {t t' : Transport} {answer : Except Int32 Bool}
    (polled : t.pollReadable answer = (t', true)) : t' = t := by
  unfold pollReadable at polled
  split at polled
  · cases polled
  · split at polled <;> cases polled
    rfl

@[simp] theorem pollReadable_socket (t : Transport) (answer : Except Int32 Bool) :
    (t.pollReadable answer).1.socket = t.socket := by
  unfold pollReadable
  split
  · rfl
  · cases answer <;> rfl

@[simp] theorem accept_listenSocket (t : Transport) (answer : Except Int32 SOCKET) :
    (t.accept answer).1.listenSocket = t.listenSocket := by
  unfold accept
  split
  · rfl
  · cases answer <;> rfl

theorem listen_open {t : Transport} {os : ListenCalls} (ok : (t.listen os).2 = true) :
    (t.listen os).1.listenSocket.isSome = true := by
  unfold listen at ok ⊢
  split at ok
  · cases ok
  · split at ok
    · cases ok
    · split at ok
      · cases ok
      · split at ok
        · cases ok
        · split at ok
          · cases ok
          · rfl

theorem connect_connected {t : Transport} {os : ConnectCalls} (ok : (t.connect os).2 = true) :
    (t.connect os).1.connected = true := by
  unfold connect at ok ⊢
  split at ok
  · cases ok
  · split at ok
    · cases ok
    · exact ok

structure Closed (t : Transport) : Prop where
  socket : t.socket = none
  listenSocket : t.listenSocket = none

theorem closed_disconnect (t : Transport) : t.disconnect.Closed := ⟨rfl, rfl⟩

theorem Closed.sendAll {t : Transport} (closed : t.Closed) (sent : Bool) :
    (t.sendAll sent).1.Closed := by
  unfold Transport.sendAll
  split
  · exact ⟨closed.socket, closed.listenSocket⟩
  · exact closed

theorem Closed.receiveAll {t : Transport} (closed : t.Closed) (received : Option Bytes) :
    (t.receiveAll received).1.Closed := by
  unfold Transport.receiveAll
  split
  · exact ⟨closed.socket, closed.listenSocket⟩
  · exact closed

theorem Closed.pollReadable {t : Transport} (closed : t.Closed) (answer : Except Int32 Bool) :
    (t.pollReadable answer).1.Closed := by
  unfold Transport.pollReadable
  rw [if_pos closed.socket]
  exact ⟨closed.socket, closed.listenSocket⟩

theorem Closed.accept {t : Transport} (closed : t.Closed) (answer : Except Int32 SOCKET) :
    (t.accept answer).1.Closed := by
  unfold Transport.accept
  rw [if_pos closed.listenSocket]
  exact ⟨closed.socket, closed.listenSocket⟩

/-- A `listen` that fails closes what it has opened. -/
theorem Closed.listen_failed {t : Transport} {os : ListenCalls} (closed : t.Closed)
    (failed : (t.listen os).2 = false) : (t.listen os).1.Closed := by
  unfold listen at failed ⊢
  split at failed
  · exact ⟨closed.socket, closed.listenSocket⟩
  · split at failed
    · exact ⟨rfl, rfl⟩
    · split at failed
      · exact ⟨rfl, rfl⟩
      · split at failed
        · exact ⟨rfl, rfl⟩
        · split at failed
          · exact ⟨rfl, rfl⟩
          · cases failed

theorem connectFirst_listenSocket (t : Transport) (addresses : List AddressCalls) :
    (t.connectFirst addresses).listenSocket = t.listenSocket := by
  induction addresses generalizing t with
  | nil => rfl
  | cons address rest ih =>
      unfold connectFirst
      split
      · exact ih t
      · split
        · rfl
        · exact ih _

/-- A dial opens no listener. -/
theorem Closed.connect_listenSocket {t : Transport} (closed : t.Closed) (os : ConnectCalls) :
    (t.connect os).1.listenSocket = none := by
  unfold connect
  split
  · exact closed.listenSocket
  · split
    · rfl
    · exact connectFirst_listenSocket _ _

theorem Closed.connect_failed {t : Transport} {os : ConnectCalls} (closed : t.Closed)
    (failed : (t.connect os).2 = false) : (t.connect os).1.Closed := by
  refine ⟨?_, closed.connect_listenSocket os⟩
  unfold connect at failed ⊢
  split at failed
  · exact closed.socket
  · split at failed
    · rfl
    · exact Option.not_isSome_iff_eq_none.mp (Bool.not_eq_true _ ▸ failed)

end Transport

/-- `static_cast<int>` of a size. -/
def castInt (n : Nat) : Int := (n : Int).bmod (2 ^ 32)

theorem castInt_small {n : Nat} (small : n < 2 ^ 31) : castInt n = n :=
  Int.bmod_eq_of_le (by omega) (by omega)

theorem castInt_toNat_le (n : Nat) : (castInt n).toNat ≤ n := by
  unfold castInt
  rw [Int.bmod_def]
  split <;> omega

/-- `receive_exact`: `recv` is called until the span is full. A call that may
return at most `n` bytes delivers the next bytes of the wire; none delivered, a
failed call and the end of the schedule all end the loop with `false`. -/
def receiveExact (want : Nat) (wire : Bytes) : List Nat → Option Bytes × Bytes
  | [] => if want = 0 then (some [], wire) else (none, wire)
  | n :: schedule =>
    if want = 0 then (some [], wire)
    else
      let received := wire.take (min n (castInt want).toNat)
      if received = [] then (none, wire)
      else
        let (more, left) :=
          receiveExact (want - received.length) (wire.drop received.length) schedule
        (more.map (received ++ ·), left)

/-- Whatever the schedule, a filled span holds the next bytes of the wire, and a
failed call has only taken bytes from its front. -/
theorem receiveExact_spec (want : Nat) (wire : Bytes) (schedule : List Nat) :
    (∀ data, (receiveExact want wire schedule).1 = some data →
      data.length = want ∧ data ++ (receiveExact want wire schedule).2 = wire) ∧
    ∃ lost, lost ++ (receiveExact want wire schedule).2 = wire := by
  induction schedule generalizing want wire with
  | nil =>
      unfold receiveExact
      split
      · next empty => exact ⟨fun data got => by cases got; exact ⟨empty.symm, rfl⟩, [], rfl⟩
      · exact ⟨fun data got => (by cases got), [], rfl⟩
  | cons n schedule ih =>
      unfold receiveExact
      by_cases empty : want = 0
      · rw [if_pos empty]
        exact ⟨fun data got => by cases got; exact ⟨empty.symm, rfl⟩, [], rfl⟩
      rw [if_neg empty]
      have room := castInt_toNat_le want
      generalize (castInt want).toNat = count at room ⊢
      by_cases nothing : wire.take (min n count) = []
      · simp only [if_pos nothing]
        exact ⟨fun data got => (by cases got), [], rfl⟩
      simp only [if_neg nothing]
      set received := wire.take (min n count) with taken
      have front : received ++ wire.drop received.length = wire := by
        have same : wire.drop received.length = wire.drop (min n count) := by
          rw [taken, List.length_take]
          by_cases fits : min n count ≤ wire.length
          · rw [Nat.min_eq_left fits]
          · rw [Nat.min_eq_right (by omega), List.drop_length, List.drop_eq_nil_of_le (by omega)]
        rw [same, taken, List.take_append_drop]
      have bounded : received.length ≤ want := by
        rw [taken, List.length_take]
        omega
      obtain ⟨filled, lost, rest⟩ := ih (want - received.length) (wire.drop received.length)
      refine ⟨?_, received ++ lost, by rw [List.append_assoc, rest, front]⟩
      intro data got
      obtain ⟨more, gotMore, rfl⟩ := Option.map_eq_some_iff.mp got
      obtain ⟨size, whole⟩ := filled more gotMore
      refine ⟨by rw [List.length_append, size]; omega, ?_⟩
      rw [List.append_assoc, whole, front]

end Screenscrab.Session
