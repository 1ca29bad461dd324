import Screenscrab.Session.Outgoing

/-! What `last_error` says after a member function of the transport has failed. -/
namespace Screenscrab.Session

/-- The static flags of `winsock_ready`. -/
structure Winsock where
  initialized : Bool := false
  ready : Bool := false
  deriving DecidableEq, Repr

/-- `initialize_winsock` with what `WSAGetLastError` says afterwards, which is `leftover` when this
makes no call. -/
def Winsock.startup (w : Winsock) (leftover : Int32) (answer : Except Int32 Unit) :
    Winsock × Except Int32 Unit :=
  if w.initialized then (w, if w.ready then .ok () else .error leftover)
  else
    match answer with
    | .ok _ => ({ initialized := true, ready := true }, .ok ())
    | .error e => ({ initialized := true, ready := false }, .error e)

/-- The member functions whose failures are reported with `last_error`, with the outcomes of
their socket calls. -/
inductive Op where
  | listen (calls : Transport.ListenCalls)
  | accept (answer : Except Int32 SOCKET)
  | connect (calls : Transport.ConnectCalls)
  | sendAll (bytes : Bytes) (schedule : List Nat)
  | receiveAll (want : Nat) (wire : Bytes) (schedule : List Nat)

structure Endpoint where
  winsock : Winsock := {}
  transport : Transport := {}
  deriving DecidableEq, Repr

namespace Endpoint

/-- A member function that returns `result.2` and leaves `result.1`. -/
def returning (s : Endpoint) (winsock : Winsock) (result : Transport × Bool) : Endpoint × Bool :=
  ({ s with winsock, transport := result.1 }, result.2)

def run (s : Endpoint) (leftover : Int32) : Op → Endpoint × Bool
  | .listen calls =>
    let (winsock, startup) := s.winsock.startup leftover calls.startup
    s.returning winsock (s.transport.listen { calls with startup })
  | .accept answer => s.returning s.winsock (s.transport.accept answer)
  | .connect calls =>
    let (winsock, startup) := s.winsock.startup leftover calls.startup
    s.returning winsock (s.transport.connect { calls with startup })
  | .sendAll bytes schedule =>
    s.returning s.winsock (s.transport.sendAll (sendExact bytes schedule).2)
  | .receiveAll want wire schedule =>
    let (transport, received) := s.transport.receiveAll (receiveExact want wire schedule).1
    s.returning s.winsock (transport, received.isSome)

/-- The same object after an earlier failure has stored another code. -/
def after (s : Endpoint) (earlier : Int32) : Endpoint :=
  { s with transport := { s.transport with lastError := earlier } }

end Endpoint

/-- The code of a call that fails. -/
def failure {α : Type} : Except Int32 α → List Int32
  | .ok _ => []
  | .error e => [e]

namespace Op

/-- The codes that the function may store, as it is called: those of its failing calls, and the
constants of the source. -/
def codes : Op → List Int32
  | .listen calls =>
    failure calls.startup ++ failure calls.socket ++ failure calls.setReuse ++
      failure calls.bind ++ failure calls.listen
  | .accept answer => wsaEINVAL :: failure answer
  | .connect calls =>
    failure calls.startup ++
      match calls.getaddrinfo with
      | .error e => [e]
      | .ok addresses => addresses.flatMap fun address => failure address.connect
  | .sendAll _ _ | .receiveAll _ _ _ => [wsaENOTCONN]

end Op

/-- When the function fails, the code it leaves is its own, and no code from before the call. -/
def Reports (s : Endpoint) (op : Op) : Prop :=
  ∀ leftover, (s.run leftover op).2 = false →
    ∃ code ∈ op.codes, code ≠ 0 ∧
      ∀ earlier other, ((s.after earlier).run other op).1.transport.lastError = code

/-- Calls that each move at least one byte have room for `length` bytes. -/
def Enough (length : Nat) (schedule : List Nat) : Prop :=
  ∃ k, (∀ n ∈ schedule.take k, 0 < n) ∧ length ≤ (schedule.take k).sum

/-- What keeps the function from failing without a code of its own. -/
def Informative (s : Endpoint) : Op → Prop
  | .listen _ => s.winsock.initialized = true → s.winsock.ready = true
  | .accept _ => True
  | .connect calls =>
    (s.winsock.initialized = true → s.winsock.ready = true) ∧
      (s.winsock.initialized = true ∨ calls.startup = .ok () →
        ∀ addresses, calls.getaddrinfo = .ok addresses →
          ∃ address ∈ addresses, address.socket ≠ none)
  | .sendAll bytes schedule =>
    s.transport.socket = none ∨ bytes.length < 2 ^ 31 ∧ Enough bytes.length schedule
  | .receiveAll want wire schedule =>
    s.transport.socket = none ∨ want < 2 ^ 31 ∧ want ≤ wire.length ∧ Enough want schedule

/-! The loops over `send` and `recv` -/

theorem enough_zero (schedule : List Nat) : Enough 0 schedule :=
  ⟨0, by simp, Nat.zero_le _⟩

theorem enough_nil (length : Nat) : Enough length [] ↔ length = 0 := by
  constructor
  · rintro ⟨k, -, room⟩
    simpa using room
  · rintro rfl
    exact enough_zero []

theorem enough_cons {length : Nat} (some_ : length ≠ 0) (n : Nat) (schedule : List Nat) :
    Enough length (n :: schedule) ↔ 0 < n ∧ Enough (length - n) schedule := by
  constructor
  · rintro ⟨k, moves, room⟩
    cases k with
    | zero => simp at room; omega
    | succ k =>
        rw [List.take_succ_cons] at moves room
        rw [List.sum_cons] at room
        obtain ⟨first, rest⟩ := List.forall_mem_cons.mp moves
        exact ⟨first, k, rest, by omega⟩
  · rintro ⟨first, k, rest, room⟩
    refine ⟨k + 1, ?_, ?_⟩
    · rw [List.take_succ_cons]
      exact List.forall_mem_cons.mpr ⟨first, rest⟩
    · rw [List.take_succ_cons, List.sum_cons]
      omega

/-- The count of a longer span is cut to its low bits, which run out first. -/
theorem castInt_large {n : Nat} (large : 2 ^ 31 ≤ n) : 2 ^ 31 ≤ n - (castInt n).toNat := by
  unfold castInt
  rw [Int.bmod_def]
  split <;> omega

theorem sendExact_large {bytes : Bytes} (large : 2 ^ 31 ≤ bytes.length) (schedule : List Nat) :
    (sendExact bytes schedule).2 = false := by
  induction schedule generalizing bytes with
  | nil =>
      have some_ : bytes ≠ [] := List.ne_nil_of_length_pos (by omega)
      simpa [sendExact] using some_
  | cons n schedule ih =>
      have some_ : bytes ≠ [] := List.ne_nil_of_length_pos (by omega)
      have left := castInt_large large
      unfold sendExact
      rw [if_neg some_]
      dsimp only
      split
      · rfl
      · refine ih ?_
        rw [List.length_drop, List.length_take]
        omega

theorem sendExact_ok_iff {bytes : Bytes} (small : bytes.length < 2 ^ 31) (schedule : List Nat) :
    (sendExact bytes schedule).2 = true ↔ Enough bytes.length schedule := by
  induction schedule generalizing bytes with
  | nil => simp [sendExact, enough_nil]
  | cons n schedule ih =>
      unfold sendExact
      by_cases empty : bytes = []
      · rw [if_pos empty, empty]
        exact iff_of_true rfl (enough_zero _)
      · have some_ : bytes.length ≠ 0 := mt List.eq_nil_of_length_eq_zero empty
        rw [if_neg empty, enough_cons some_, castInt_small small, Int.toNat_natCast]
        dsimp only
        split
        · next nothing =>
            have none_sent := congrArg List.length nothing
            rw [List.length_take, List.length_nil] at none_sent
            exact iff_of_false (by simp) fun both => by omega
        · next sent =>
            have sent_pos := List.length_pos_iff.mpr sent
            rw [List.length_take] at sent_pos
            have rest : (bytes.drop (bytes.take (min n bytes.length)).length).length =
                bytes.length - n := by
              rw [List.length_drop, List.length_take]
              omega
            rw [ih (by omega), rest]
            exact (and_iff_right (by omega)).symm

theorem receiveExact_large {want : Nat} (large : 2 ^ 31 ≤ want) (wire : Bytes)
    (schedule : List Nat) : (receiveExact want wire schedule).1 = none := by
  have some_ : want ≠ 0 := by omega
  induction schedule generalizing want wire with
  | nil =>
      unfold receiveExact
      rw [if_neg some_]
  | cons n schedule ih =>
      have left := castInt_large large
      unfold receiveExact
      rw [if_neg some_]
      dsimp only
      split
      · rfl
      · have short : 2 ^ 31 ≤ want - (wire.take (min n (castInt want).toNat)).length := by
          rw [List.length_take]
          omega
        rw [ih short _ (by omega)]
        rfl

theorem receiveExact_some_iff {want : Nat} (small : want < 2 ^ 31) (wire : Bytes)
    (schedule : List Nat) :
    (receiveExact want wire schedule).1.isSome = true ↔
      want ≤ wire.length ∧ Enough want schedule := by
  induction schedule generalizing want wire with
  | nil =>
      unfold receiveExact
      rw [enough_nil]
      split
      · next empty => exact iff_of_true rfl ⟨by omega, empty⟩
      · next some_ => exact iff_of_false (by simp) fun both => some_ both.2
  | cons n schedule ih =>
      unfold receiveExact
      by_cases empty : want = 0
      · rw [if_pos empty, empty]
        exact iff_of_true rfl ⟨Nat.zero_le _, enough_zero _⟩
      · rw [if_neg empty, enough_cons empty, castInt_small small, Int.toNat_natCast]
        dsimp only
        split
        · next nothing =>
            have none_left := congrArg List.length nothing
            rw [List.length_take, List.length_nil] at none_left
            exact iff_of_false (by simp) fun both => by omega
        · next received =>
            have received_pos := List.length_pos_iff.mpr received
            rw [List.length_take] at received_pos
            rw [Option.isSome_map, ih (by omega), List.length_drop, List.length_take]
            constructor
            · rintro ⟨fits, enough⟩
              have whole : want - min (min n want) wire.length = want - n := by omega
              rw [whole] at enough
              exact ⟨by omega, by omega, enough⟩
            · rintro ⟨fits, -, enough⟩
              have whole : want - min (min n want) wire.length = want - n := by omega
              rw [whole]
              exact ⟨by omega, enough⟩

/-! The functions themselves -/

open Transport (AddressCalls ListenCalls ConnectCalls)

/-- A round over the addresses that connects to none leaves the code of a failing `connect`, or
has come to no `connect` at all. -/
theorem connectFirst_failed {t : Transport} {addresses : List AddressCalls}
    (failed : (t.connectFirst addresses).socket = none) :
    (t.connectFirst addresses).lastError ∈
        addresses.flatMap (fun address => failure address.connect) ∨
      (∀ address ∈ addresses, address.socket = none) ∧ t.connectFirst addresses = t := by
  induction addresses generalizing t with
  | nil => exact .inr ⟨fun _ member => absurd member List.not_mem_nil, rfl⟩
  | cons address rest ih =>
      rw [List.flatMap_cons]
      cases made : address.socket with
      | none =>
          have skipped : t.connectFirst (address :: rest) = t.connectFirst rest := by
            rw [Transport.connectFirst, made]
          rw [skipped] at failed ⊢
          rcases ih failed with stored | ⟨unmade, same⟩
          · exact .inl (List.mem_append_right _ stored)
          · exact .inr ⟨List.forall_mem_cons.mpr ⟨made, unmade⟩, same⟩
      | some handle =>
          cases answer : address.connect with
          | ok =>
              have connected : (t.connectFirst (address :: rest)).socket = some handle := by
                rw [Transport.connectFirst, made, answer]
              exact absurd (connected.symm.trans failed) (Option.some_ne_none handle)
          | error e =>
              have stored : t.connectFirst (address :: rest) =
                  { t with lastError := e }.connectFirst rest := by
                rw [Transport.connectFirst, made, answer]
              rw [stored] at failed ⊢
              rcases ih failed with later | ⟨-, same⟩
              · exact .inl (List.mem_append_right _ later)
              · rw [same]
                exact .inl (List.mem_append_left _ (List.mem_singleton.mpr rfl))

theorem connectFirst_unmade (t : Transport) {addresses : List AddressCalls}
    (unmade : ∀ address ∈ addresses, address.socket = none) :
    t.connectFirst addresses = t := by
  induction addresses with
  | nil => rfl
  | cons address rest ih =>
      obtain ⟨here, later⟩ := List.forall_mem_cons.mp unmade
      rw [Transport.connectFirst, here]
      exact ih later

theorem listen_stores {t : Transport} {calls : ListenCalls}
    (failed : (t.listen calls).2 = false) :
    ∃ code ∈ (Op.listen calls).codes, ∀ earlier,
      ({ t with lastError := earlier }.listen calls).1.lastError = code := by
  obtain ⟨startup, socket, setReuse, bind, listen⟩ := calls
  cases startup with
  | error e => exact ⟨e, by simp [Op.codes, failure], fun _ => rfl⟩
  | ok =>
  cases socket with
  | error e => exact ⟨e, by simp [Op.codes, failure], fun _ => rfl⟩
  | ok handle =>
  cases setReuse with
  | error e => exact ⟨e, by simp [Op.codes, failure], fun _ => rfl⟩
  | ok =>
  cases bind with
  | error e => exact ⟨e, by simp [Op.codes, failure], fun _ => rfl⟩
  | ok =>
  cases listen with
  | error e => exact ⟨e, by simp [Op.codes, failure], fun _ => rfl⟩
  | ok => cases failed

/-- A dial clears the code first, so that it never leaves an earlier one. -/
theorem connect_stores {t : Transport} {calls : ConnectCalls}
    (failed : (t.connect calls).2 = false) :
    (∃ code ∈ (Op.connect calls).codes, ∀ earlier,
        ({ t with lastError := earlier }.connect calls).1.lastError = code) ∨
      ∃ addresses, calls.startup = .ok () ∧ calls.getaddrinfo = .ok addresses ∧
        (∀ address ∈ addresses, address.socket = none) := by
  obtain ⟨startup, getaddrinfo⟩ := calls
  cases startup with
  | error e => exact .inl ⟨e, by simp [Op.codes, failure], fun _ => rfl⟩
  | ok =>
      cases getaddrinfo with
      | error e => exact .inl ⟨e, by simp [Op.codes, failure], fun _ => rfl⟩
      | ok addresses =>
          let cleared : Transport := {}
          have unconnected : (cleared.connectFirst addresses).socket = none :=
            Option.not_isSome_iff_eq_none.mp (Bool.not_eq_true _ ▸ failed)
          rcases connectFirst_failed unconnected with stored | ⟨unmade, -⟩
          · exact .inl ⟨_, stored, fun _ => rfl⟩
          · exact .inr ⟨addresses, rfl, rfl, unmade⟩

/-- What `initialize_winsock` says unless it has failed in an earlier call. -/
def Winsock.settled (w : Winsock) (answer : Except Int32 Unit) : Except Int32 Unit :=
  if w.initialized = true then .ok () else answer

theorem startup_settled {w : Winsock} (sound : w.initialized = true → w.ready = true)
    (leftover : Int32) (answer : Except Int32 Unit) :
    (w.startup leftover answer).2 = w.settled answer := by
  unfold Winsock.startup Winsock.settled
  split
  · next initialized => rw [if_pos (sound initialized)]
  · cases answer <;> rfl

theorem startup_failed {w : Winsock} (initialized : w.initialized = true)
    (unready : ¬ w.ready = true) (leftover : Int32) (answer : Except Int32 Unit) :
    w.startup leftover answer = (w, .error leftover) := by
  unfold Winsock.startup
  rw [if_pos initialized, if_neg unready]

theorem failure_settled (w : Winsock) (answer : Except Int32 Unit) :
    ∀ code ∈ failure (w.settled answer), code ∈ failure answer := by
  intro code member
  unfold Winsock.settled at member
  split at member
  · cases member
  · exact member

theorem settled_ok_iff (w : Winsock) (answer : Except Int32 Unit) :
    w.settled answer = .ok () ↔ w.initialized = true ∨ answer = .ok () := by
  unfold Winsock.settled
  split
  · next initialized => exact iff_of_true rfl (.inl initialized)
  · next fresh => exact (or_iff_right fresh).symm

section reports
variable {s : Endpoint}

/-- A code that is whatever was there before the call is not one of the call. -/
theorem not_reports {op : Op} (failed : (s.run 0 op).2 = false)
    (kept : ∀ leftover, ((s.after leftover).run leftover op).1.transport.lastError = leftover) :
    ¬ Reports s op := by
  intro reports
  obtain ⟨code, -, nonzero, same⟩ := reports 0 failed
  exact nonzero ((same 0 0).symm.trans (kept 0))

theorem reports_of_stores {op : Op} (documented : ∀ code ∈ op.codes, code ≠ 0)
    (stores : (∃ leftover, (s.run leftover op).2 = false) → ∃ code ∈ op.codes,
      ∀ earlier other, ((s.after earlier).run other op).1.transport.lastError = code) :
    Reports s op := by
  intro leftover failed
  obtain ⟨code, member, same⟩ := stores ⟨leftover, failed⟩
  exact ⟨code, member, documented code member, same⟩

/-- A function that asks Winsock first, and fails with what `WSAGetLastError` says when it is not
ready, reports only on a Winsock that has not failed earlier. -/
theorem sound_of_reports {op : Op} (reports : Reports s op)
    (unstarted : ∀ (t : Endpoint) leftover, t.winsock.initialized = true →
      ¬ t.winsock.ready = true →
      (t.run leftover op).2 = false ∧ (t.run leftover op).1.transport.lastError = leftover) :
    s.winsock.initialized = true → s.winsock.ready = true := by
  intro initialized
  by_contra unready
  have failed := (unstarted s 0 initialized unready).1
  have kept (leftover : Int32) := (unstarted (s.after leftover) leftover initialized unready).2
  exact not_reports failed kept reports

theorem listen_reports_iff {calls : ListenCalls}
    (documented : ∀ code ∈ (Op.listen calls).codes, code ≠ 0) :
    Reports s (.listen calls) ↔ Informative s (.listen calls) := by
  constructor
  · intro reports
    apply sound_of_reports reports
    intro t leftover initialized unready
    simp only [Endpoint.run, startup_failed initialized unready]
    exact ⟨rfl, rfl⟩
  · intro sound
    refine reports_of_stores documented ?_
    rintro ⟨leftover, failed⟩
    simp only [Endpoint.run, startup_settled sound] at failed
    obtain ⟨code, member, same⟩ := listen_stores failed
    refine ⟨code, ?_, fun earlier other => ?_⟩
    · have settled := failure_settled s.winsock calls.startup code
      simp only [Op.codes, List.mem_append] at member ⊢
      tauto
    · simp only [Endpoint.run, Endpoint.after, startup_settled sound]
      exact same earlier

/-- A dial in which no address gets a socket fails with the code 0. -/
theorem run_connect_unmade {calls : ConnectCalls}
    (sound : s.winsock.initialized = true → s.winsock.ready = true)
    (started : s.winsock.settled calls.startup = .ok ()) {addresses : List AddressCalls}
    (resolved : calls.getaddrinfo = .ok addresses)
    (unmade : ∀ address ∈ addresses, address.socket = none) (leftover : Int32) :
    (s.run leftover (.connect calls)).2 = false ∧
      (s.run leftover (.connect calls)).1.transport.lastError = 0 := by
  simp only [Endpoint.run, Endpoint.returning, Transport.connect, resolved,
    startup_settled sound, started]
  rw [connectFirst_unmade _ unmade]
  exact ⟨rfl, rfl⟩

theorem connect_reports_iff {calls : ConnectCalls}
    (documented : ∀ code ∈ (Op.connect calls).codes, code ≠ 0) :
    Reports s (.connect calls) ↔ Informative s (.connect calls) := by
  constructor
  · intro reports
    have sound : s.winsock.initialized = true → s.winsock.ready = true := by
      apply sound_of_reports reports
      intro t leftover initialized unready
      simp only [Endpoint.run, startup_failed initialized unready]
      exact ⟨rfl, rfl⟩
    refine ⟨sound, fun begun addresses resolved => ?_⟩
    by_contra none_made
    push Not at none_made
    have started := (settled_ok_iff s.winsock calls.startup).mpr begun
    obtain ⟨code, -, nonzero, same⟩ :=
      reports 0 (run_connect_unmade sound started resolved none_made 0).1
    have zero : code = 0 :=
      (same 0 0).symm.trans
        (run_connect_unmade (s := s.after 0) sound started resolved none_made 0).2
    exact nonzero zero
  · rintro ⟨sound, made⟩
    refine reports_of_stores documented ?_
    rintro ⟨leftover, failed⟩
    simp only [Endpoint.run, startup_settled sound] at failed
    rcases connect_stores failed with ⟨code, member, same⟩ | ⟨addresses, started, resolved, unmade⟩
    · refine ⟨code, ?_, fun earlier other => ?_⟩
      · have settled := failure_settled s.winsock calls.startup code
        simp only [Op.codes, List.mem_append] at member ⊢
        tauto
      · simp only [Endpoint.run, Endpoint.after, startup_settled sound]
        exact same earlier
    · have begun := (settled_ok_iff s.winsock calls.startup).mp started
      obtain ⟨address, member, some_⟩ := made begun addresses resolved
      exact absurd (unmade address member) some_

theorem accept_reports {answer : Except Int32 SOCKET}
    (documented : ∀ code ∈ (Op.accept answer).codes, code ≠ 0) : Reports s (.accept answer) := by
  refine reports_of_stores documented ?_
  rintro ⟨leftover, failed⟩
  by_cases unopened : s.transport.listenSocket = none
  · refine ⟨wsaEINVAL, List.mem_cons_self, fun earlier other => ?_⟩
    simp [Endpoint.run, Endpoint.after, Endpoint.returning, Transport.accept, unopened]
  · cases answer with
    | ok handle =>
        simp [Endpoint.run, Endpoint.returning, Transport.accept, unopened] at failed
    | error e =>
        refine ⟨e, by simp [Op.codes, failure], fun earlier other => ?_⟩
        simp [Endpoint.run, Endpoint.after, Endpoint.returning, Transport.accept, unopened]

/-- A transfer on a socket stores nothing. -/
theorem transfer_reports_iff {op : Op} {done : Bool} (codes : op.codes = [wsaENOTCONN])
    (runs : ∀ (t : Endpoint) leftover, t.transport.socket = s.transport.socket →
      (t.run leftover op).2 = (decide (s.transport.socket ≠ none) && done) ∧
      (t.run leftover op).1.transport.lastError =
        if s.transport.socket = none then wsaENOTCONN else t.transport.lastError) :
    Reports s op ↔ s.transport.socket = none ∨ done = true := by
  by_cases missing : s.transport.socket = none
  · refine iff_of_true ?_ (.inl missing)
    have documented : ∀ code ∈ op.codes, code ≠ 0 := by
      rw [codes]
      exact List.forall_mem_singleton.mpr (by decide)
    refine reports_of_stores documented fun _ => ⟨wsaENOTCONN, by simp [codes], ?_⟩
    intro earlier other
    rw [(runs (s.after earlier) other rfl).2, if_pos missing]
  · rw [or_iff_right missing]
    cases done with
    | true =>
        refine iff_of_true ?_ rfl
        intro leftover failed
        rw [(runs s leftover rfl).1] at failed
        simp [missing] at failed
    | false =>
        refine iff_of_false (not_reports ?_ fun leftover => ?_) (by simp)
        · rw [(runs s 0 rfl).1, Bool.and_false]
        · rw [(runs (s.after leftover) leftover rfl).2, if_neg missing]
          rfl

theorem sendAll_reports_iff (bytes : Bytes) (schedule : List Nat) :
    Reports s (.sendAll bytes schedule) ↔ Informative s (.sendAll bytes schedule) := by
  have done : (sendExact bytes schedule).2 = true ↔
      bytes.length < 2 ^ 31 ∧ Enough bytes.length schedule := by
    rcases Nat.lt_or_ge bytes.length (2 ^ 31) with small | large
    · rw [sendExact_ok_iff small, and_iff_right small]
    · rw [sendExact_large large]
      exact iff_of_false (by simp) fun both => by omega
  refine (transfer_reports_iff rfl fun t leftover same => ?_).trans (or_congr_right done)
  rw [← same]
  simp only [Endpoint.run, Endpoint.returning, Transport.sendAll]
  by_cases missing : t.transport.socket = none <;> simp [missing]

theorem receiveAll_reports_iff (want : Nat) (wire : Bytes) (schedule : List Nat) :
    Reports s (.receiveAll want wire schedule) ↔
      Informative s (.receiveAll want wire schedule) := by
  have done : (receiveExact want wire schedule).1.isSome = true ↔
      want < 2 ^ 31 ∧ want ≤ wire.length ∧ Enough want schedule := by
    rcases Nat.lt_or_ge want (2 ^ 31) with small | large
    · rw [receiveExact_some_iff small, and_iff_right small]
    · rw [receiveExact_large large]
      exact iff_of_false (by simp) fun both => by omega
  refine (transfer_reports_iff rfl fun t leftover same => ?_).trans (or_congr_right done)
  rw [← same]
  simp only [Endpoint.run, Endpoint.returning, Transport.receiveAll]
  by_cases missing : t.transport.socket = none <;> simp [missing]

end reports

/-- A failing member function leaves a code of its own exactly where it is informative: not on a
Winsock that failed in an earlier call, not when no address gets a socket, and not when a
connected socket fails to send or to receive. -/
theorem reports_iff (s : Endpoint) (op : Op) (documented : ∀ code ∈ op.codes, code ≠ 0) :
    Reports s op ↔ Informative s op := by
  cases op with
  | listen calls => exact listen_reports_iff documented
  | accept answer => exact iff_of_true (accept_reports documented) trivial
  | connect calls => exact connect_reports_iff documented
  | sendAll bytes schedule => exact sendAll_reports_iff bytes schedule
  | receiveAll want wire schedule => exact receiveAll_reports_iff want wire schedule

/-- A dial that is refused. -/
theorem reports_iff_refused :
    let calls : ConnectCalls :=
      { startup := .ok (), getaddrinfo := .ok [{ socket := some 7, connect := .error 10061 }] }
    Reports {} (.connect calls) ↔ Informative {} (.connect calls) :=
  reports_iff {} _ (List.forall_mem_singleton.mpr (by decide))

/-- The peer closes the connection, and the failing receive leaves the code 0 of the connect. -/
theorem receive_of_closed_unreported :
    ¬ ∀ (s : Endpoint) (op : Op), (∀ code ∈ op.codes, code ≠ 0) → Reports s op := by
  intro reports
  let connected : Endpoint :=
    { winsock := { initialized := true, ready := true }, transport := { socket := some 7 } }
  obtain ⟨code, -, nonzero, same⟩ :=
    reports connected (.receiveAll 24 [] [24]) (List.forall_mem_singleton.mpr (by decide)) 0 rfl
  exact nonzero (same 0 0).symm

end Screenscrab.Session
