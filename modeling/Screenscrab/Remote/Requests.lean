import Screenscrab.Remote.Upstream

/-! What the user does on its way to the host. Nothing is asked of what comes back: the host's
sends may fail or be cut off, and the client may be sent anything. -/
namespace Screenscrab.Remote
open Protocol Dart Client Session
open Transition (exec Along)

/-- The messages that the user causes. -/
def isInput : SessionCodec.Call → Bool
  | .mouseEvent .. | .keyEvent .. | .clipboardText _ => true
  | _ => false

section
variable {Double : Type} (d : Doubles Double) (clock : Nat → DateTime) (s : Nat)

/-- The messages that a step of the user causes. -/
def performedBy (l : Link) : Label Double → List SessionCodec.Call
  | .input input =>
    if l.client.socket = none then []
    else (RemoteSessionClient.callOf d l.client.pendingMetadata input).toList
  | _ => []

/-- What the user causes over some steps. -/
def performed (l : Link) :
    List (Label Double) → List SessionCodec.Call
  | [] => []
  | label :: labels =>
    performedBy d l label ++
      match l.step d clock s label with
      | none => []
      | some next => performed next labels

end

/-- What a `send_all` of the host leaves alone. -/
theorem HostEnd.sendAll_incoming (h : HostEnd) (bytes : Bytes) (schedule : List Nat) :
    (h.sendAll bytes schedule).1.incoming.handled = h.incoming.handled ∧
    (h.sendAll bytes schedule).1.incoming.errors = h.incoming.errors ∧
    (h.sendAll bytes schedule).1.incoming.wire = h.incoming.wire ∧
    (h.sendAll bytes schedule).1.connected = h.connected := by
  refine ⟨rfl, rfl, rfl, ?_⟩
  simp only [connected, Transport.connected, sendAll, Outgoing.sendAll, sendAll_socket]

theorem HostEnd.skip_incoming (h : HostEnd) (captured : Bool) :
    ∃ code message, h.skip captured =
      { h with incoming := h.incoming.applyError code message } ∧ message ∈ hostTexts := by
  cases captured with
  | false => exact ⟨_, _, rfl, List.mem_cons_self⟩
  | true => exact ⟨_, _, rfl, List.mem_cons_of_mem _ List.mem_cons_self⟩

theorem HostEnd.frame_incoming (h : HostEnd) (encoded : EncodedFrame)
    (metadata payload : List Nat) :
    (h.frame encoded metadata payload).incoming.handled = h.incoming.handled ∧
    (∀ e ∈ (h.frame encoded metadata payload).incoming.errors,
      e ∈ h.incoming.errors ∨ e.2 ∈ hostTexts) ∧
    (h.frame encoded metadata payload).incoming.wire = h.incoming.wire ∧
    ((h.frame encoded metadata payload).connected = true → h.connected = true) := by
  have lossText : ascii "frame send failed" ∈ hostTexts := by
    refine List.mem_append_right _ ?_
    exact List.mem_cons_of_mem _ (List.mem_cons_of_mem _ List.mem_cons_self)
  have failed {g : HostEnd} (errors : g.incoming.errors = h.incoming.errors) :
      ∀ e ∈ (g.incoming.applyError g.incoming.transport.lastError
        (ascii "frame send failed")).errors, e ∈ h.incoming.errors ∨ e.2 ∈ hostTexts := by
    intro e member
    rcases List.mem_append.mp member with old | new
    · exact .inl (errors ▸ old)
    · rw [List.mem_singleton.mp new]
      exact .inr lossText
  obtain ⟨handled, errors, wire, connected⟩ :=
    h.sendAll_incoming (Outgoing.metadataPacket encoded) metadata
  unfold HostEnd.frame HostEnd.sendFrame
  generalize h.sendAll (Outgoing.metadataPacket encoded) metadata = first
    at handled errors wire connected ⊢
  obtain ⟨middle, ok⟩ := first
  cases ok with
  | false => exact ⟨handled, failed errors, wire, nofun⟩
  | true =>
      obtain ⟨handled', errors', wire', connected'⟩ :=
        middle.sendAll_incoming (Outgoing.framePacket encoded) payload
      dsimp only
      generalize middle.sendAll (Outgoing.framePacket encoded) payload = second
        at handled' errors' wire' connected' ⊢
      obtain ⟨next, ok⟩ := second
      cases ok with
      | false =>
          exact ⟨handled'.trans handled, failed (errors'.trans errors), wire'.trans wire, nofun⟩
      | true =>
          refine ⟨handled'.trans handled, ?_, wire'.trans wire, ?_⟩
          · intro e member
            exact .inl ((errors'.trans errors) ▸ member)
          · intro open_
            exact (connected'.trans connected).symm.trans open_

/-- The messages of the user are of the kinds that the host takes. -/
theorem posts_callOf {Double : Type} {d : Doubles Double} {metadata : Option RemoteFrameMetadata}
    {input : UserInput Double} {call : SessionCodec.Call}
    (found : RemoteSessionClient.callOf d metadata input = some call)
    (fits : ∀ text, input = .clipboard text → (Utf8.encode text).length ≤ clipboardLimit) :
    Posts call ∧ isInput call = true := by
  cases input with
  | position localPosition surfaceSize =>
      obtain ⟨place, _, made⟩ := Option.bind_eq_some_iff.mp found
      cases made
      exact ⟨⟨nofun, nofun, nofun⟩, rfl⟩
  | button localPosition surfaceSize down button =>
      obtain ⟨place, _, made⟩ := Option.bind_eq_some_iff.mp found
      cases made
      exact ⟨⟨nofun, nofun, nofun⟩, rfl⟩
  | wheel delta =>
      cases found
      exact ⟨⟨nofun, nofun, nofun⟩, rfl⟩
  | key keyCode down =>
      cases found
      exact ⟨⟨nofun, nofun, nofun⟩, rfl⟩
  | clipboard text =>
      cases found
      refine ⟨⟨nofun, nofun, ?_⟩, rfl⟩
      rintro _ ⟨⟩
      exact fits text rfl

/-- The nonce that a message answers. -/
def pongOf (m : Posted) : Option Int :=
  match m.1 with
  | .pong nonce => some nonce
  | _ => none

theorem pongs_posts {posted : List Posted} {nonces : List Int}
    (calls : posted.map Prod.fst = nonces.map .pong) :
    (∀ m ∈ posted, Posts m.1) ∧ posted.filterMap pongOf = nonces ∧
      (posted.map Prod.fst).filter isInput = [] := by
  refine ⟨?_, ?_, ?_⟩
  · intro m member
    have inside : m.1 ∈ nonces.map SessionCodec.Call.pong := by
      rw [← calls]
      exact List.mem_map_of_mem member
    obtain ⟨nonce, _, same⟩ := List.mem_map.mp inside
    rw [← same]
    exact ⟨nofun, nofun, nofun⟩
  · have same : posted.filterMap pongOf = (posted.map Prod.fst).filterMap fun
        | .pong nonce => some nonce
        | _ => none := by
      rw [List.filterMap_map]
      rfl
    rw [same, calls, List.filterMap_map]
    exact List.filterMap_some
  · rw [calls]
    refine List.filter_eq_nil_iff.mpr fun call member => ?_
    obtain ⟨nonce, _, rfl⟩ := List.mem_map.mp member
    exact Bool.false_ne_true

namespace Upstream
variable {Double : Type} {d : Doubles Double} {clock : Nat → DateTime} {s : Nat} {l next : Link}
  {base : List Bytes} {posted : List Posted} {rest : List Bytes}

/-- The user does something, which posts one message or none. -/
theorem input {input : UserInput Double} (up : Upstream base l.host l.client posted rest)
    (short : (Label.input input).Short) (now : DateTime) :
    ∃ messages rest,
      Upstream base (l.reply (l.client.perform d input now)).host (l.client.perform d input now)
        (posted ++ messages) rest ∧
      (messages.map Prod.fst).filter isInput = performedBy d l (.input input) := by
  have nothing : ∃ messages rest, Upstream base (l.reply l.client).host l.client
      (posted ++ messages) rest ∧ (messages.map Prod.fst).filter isInput = [] :=
    ⟨[], _, up.reply (List.forall_mem_nil _) (List.append_nil _).symm, rfl⟩
  rw [RemoteSessionClient.perform_eq, performedBy]
  cases found : RemoteSessionClient.callOf d l.client.pendingMetadata input with
  | none =>
      rw [Option.toList_none, ite_self]
      exact nothing
  | some call =>
      dsimp only [RemoteSessionClient.send]
      by_cases closed : l.client.socket = none
      · rw [if_pos closed, if_pos closed]
        exact nothing
      rw [if_neg closed, if_neg closed]
      have fits : ∀ text, input = .clipboard text →
          (Utf8.encode text).length ≤ clipboardLimit := by
        rintro text rfl
        exact short
      obtain ⟨posts, caused⟩ := posts_callOf found fits
      let m : Posted := (call, now)
      have added : (l.client.act (.add m.bytes)).added =
          l.client.added ++ [m].map Posted.bytes := by
        simp [RemoteSessionClient.added, RemoteSessionClient.act]
      refine ⟨[m], _, up.reply (List.forall_mem_singleton.mpr posts) added, ?_⟩
      exact List.filter_eq_self.mpr (List.forall_mem_singleton.mpr caused)

/-- One step of either end. -/
theorem step {label : Label Double} (up : Upstream base l.host l.client posted rest)
    (short : label.Short) (taken : l.step d clock s label = some next) :
    ∃ messages rest, Upstream base next.host next.client (posted ++ messages) rest ∧
      (messages.map Prod.fst).filter isInput = performedBy d l label := by
  have silent {h : HostEnd} {c : RemoteSessionClient} {rest : List Bytes}
      (kept : Upstream base h c posted rest) : ∃ messages rest,
        Upstream base h c (posted ++ messages) rest ∧
        (messages.map Prod.fst).filter isInput = [] :=
    ⟨[], rest, by rwa [List.append_nil], rfl⟩
  have client {c : RemoteSessionClient} (added : c.added = l.client.added) :
      Upstream base l.host c posted rest :=
    up.of_incoming rfl up.errors rfl (fun open_ => open_) added
  cases label with
  | frame encoded metadata payload =>
      cases taken
      obtain ⟨handled, errors, wire, connected⟩ := l.host.frame_incoming encoded metadata payload
      refine silent (up.of_incoming handled ?_ wire connected rfl)
      intro e member
      rcases errors e member with old | known
      · exact up.errors e old
      · exact known
  | skip captured =>
      cases taken
      obtain ⟨code, message, skipped, known⟩ := l.host.skip_incoming captured
      rw [skipped]
      refine silent (up.of_incoming rfl ?_ rfl (fun open_ => open_) rfl)
      exact List.forall_mem_append.mpr ⟨up.errors, List.forall_mem_singleton.mpr known⟩
  | ping now schedule =>
      cases taken
      obtain ⟨handled, errors, wire, connected⟩ :=
        l.host.sendAll_incoming (makePacket .ping 0 (makePing now) now) schedule
      refine silent (up.of_incoming handled ?_ wire (fun open_ => connected.symm.trans open_) rfl)
      rw [HostEnd.ping, errors]
      exact up.errors
  | receive a pong =>
      obtain ⟨host, received, rfl⟩ := Option.map_eq_some_iff.mp taken
      obtain ⟨_, _, rest, up⟩ := up.receive received
      exact silent up
  | close =>
      cases taken
      exact silent (up.of_incoming rfl up.errors rfl nofun rfl)
  | input input =>
      cases taken
      exact up.input short _
  | data size =>
      cases taken
      obtain ⟨messages, nonces, added, calls⟩ :=
        RemoteSessionClient.deliver_answers clock s l.client (l.host.arriving.take size)
      obtain ⟨posts, _, caused⟩ := pongs_posts calls
      have left : Upstream base { l.host with arriving := l.host.arriving.drop size } l.client
          posted rest := up.of_incoming rfl up.errors rfl (fun open_ => open_) rfl
      exact ⟨messages, _,
        Upstream.reply (l := { l with
          host := { l.host with arriving := l.host.arriving.drop size } }) left posts added, caused⟩
  | rendered ok =>
      simp only [Link.step] at taken
      split at taken
      · cases taken
      · cases taken
        refine silent (client ?_)
        cases ok <;> rfl
  | socketError error =>
      simp only [Link.step] at taken
      split at taken
      · cases taken
        refine silent (client ?_)
        simp [RemoteSessionClient.onSocketError, RemoteSessionClient.added,
          RemoteSessionClient.act]
      · cases taken
  | socketDone =>
      simp only [Link.step] at taken
      split at taken
      · cases taken
        refine silent (client ?_)
        simp [RemoteSessionClient.beginDisconnect, RemoteSessionClient.added,
          RemoteSessionClient.act]
      · cases taken
  | beginDisconnect =>
      cases taken
      exact silent (client rfl)
  | endDisconnect =>
      cases taken
      refine silent (client ?_)
      simp [RemoteSessionClient.endDisconnect, RemoteSessionClient.added, RemoteSessionClient.act]

theorem run {labels : List (Label Double)} (up : Upstream base l.host l.client posted rest)
    (short : ∀ label ∈ labels, label.Short)
    (reached : exec (Link.step d clock s) l labels = some next) :
    ∃ messages rest, Upstream base next.host next.client (posted ++ messages) rest ∧
      (messages.map Prod.fst).filter isInput = performed d clock s l labels := by
  induction labels generalizing l posted rest with
  | nil =>
      cases reached
      exact ⟨[], rest, by rwa [List.append_nil], rfl⟩
  | cons label labels ih =>
      obtain ⟨here, others⟩ := List.forall_mem_cons.mp short
      obtain ⟨m, taken, later⟩ := Transition.exec_cons_some reached
      obtain ⟨first, rest, up, caused⟩ := up.step here taken
      obtain ⟨more, rest, up, caused'⟩ := ih up others later
      refine ⟨first ++ more, rest, by rwa [← List.append_assoc], ?_⟩
      rw [List.map_append, List.filter_append, caused, caused', performed, taken]

end Upstream

/-- What the client has posted when nothing has happened but the two greetings. -/
theorem upstream_start {clock : Nat → DateTime} {s : Nat} {transport : Transport}
    {calls : HelloCalls} {host : String} {port : Nat} {earlier : RemoteSessionClient}
    {rendering : Nat} :
    let first := Link.start clock s transport calls host port earlier rendering
    ∃ posted rest, Upstream earlier.added first.host first.client posted rest ∧
      (posted.map Prod.fst).filter isInput = [] ∧ posted.filterMap pongOf = [] := by
  intro first
  let client := earlier.connect clock host port s
  let incoming :=
    Incoming.start transport (client.added.drop earlier.added.length).flatten
  obtain ⟨now, later, greeting⟩ :=
    RemoteSessionClient.connect_added clock host port s earlier
  let announced := RemoteSessionClient.announced
  let posted : List Posted :=
    [(.hello 1 1 announced, now), (.capabilities announced announced, later)]
  have added : client.added = earlier.added ++ posted.map Posted.bytes := greeting
  refine ⟨posted, posted.map Posted.bytes, ?_, rfl, rfl⟩
  refine ⟨added, ?_, rfl, ?_, List.forall_mem_nil _, List.forall_mem_nil _⟩
  · refine List.forall_mem_cons.mpr ⟨⟨nofun, nofun, nofun⟩, ?_⟩
    exact List.forall_mem_singleton.mpr ⟨nofun, nofun, nofun⟩
  · intro _
    refine ⟨?_, List.forall_mem_nil _⟩
    have wire : incoming.wire = (posted.map Posted.bytes).flatten := by
      rw [show incoming.wire = (client.added.drop earlier.added.length).flatten from rfl, added,
        List.drop_left]
    exact wire

section
variable {Double : Type} {d : Doubles Double} {clock : Nat → DateTime} {s : Nat}
  {transport : Transport} {calls : HelloCalls} {host : String} {port : Nat}
  {earlier : RemoteSessionClient} {rendering : Nat} {labels : List (Label Double)} {l : Link}

/-- A run of a connection in which the user syncs no text that is too long for the host. -/
structure Upward (d : Doubles Double) (clock : Nat → DateTime) (s : Nat) (transport : Transport)
    (calls : HelloCalls) (host : String) (port : Nat) (earlier : RemoteSessionClient)
    (rendering : Nat) (labels : List (Label Double)) (l : Link) : Prop where
  short : ∀ label ∈ labels, label.Short
  reached : exec (Link.step d clock s)
    (Link.start clock s transport calls host port earlier rendering) labels = some l

theorem Upward.upstream
    (run : Upward d clock s transport calls host port earlier rendering labels l) :
    let first := Link.start clock s transport calls host port earlier rendering
    ∃ posted rest, Upstream earlier.added l.host l.client posted rest ∧
      (posted.map Prod.fst).filter isInput = performed d clock s first labels := by
  intro first
  obtain ⟨greeting, rest, up, none_, _⟩ := @upstream_start clock s transport calls host port
    earlier rendering
  obtain ⟨messages, rest, up, caused⟩ := up.run run.short run.reached
  refine ⟨greeting ++ messages, rest, up, ?_⟩
  rw [List.map_append, List.filter_append, none_, caused]
  rfl

/-- Two frames of different sizes and a ping between them are sent, two keys are pressed, and all
that is on its way arrives: the bytes of the host in two pieces, the pong after the keys. -/
def shortVisit : List (Label Int) :=
  let a : Answers := ⟨false, .ok true, [24], [16], inputOn, true⟩
  [.frame ⟨6, 1, 1, 4, 0, [1, 2, 3, 255]⟩ [100] [10, 100], .ping 7 [100],
    .frame ⟨8, 2, 1, 8, 0, [4, 5, 6, 255, 7, 8, 9, 255]⟩ [100] [100], .input (.key 65 true),
    .receive a [], .receive a [], .input (.key 66 true), .receive a [], .data 100, .data 1000,
    .receive a [], .receive a []]

def shortHello : HelloCalls := ⟨5, 5, 5, [7, 100], [100], [100]⟩

def shortStart : Link := Link.start epoch 7 { socket := some 1 } shortHello "host" 4545 {} 0

theorem shortVisit_ends :
    (exec (Link.step Pointing.wholeDoubles epoch 7) shortStart shortVisit).map (fun l =>
      (l.host.connected, l.host.incoming.wire, l.client.added.length)) = some (true, [], 5) := by
  decide +kernel

theorem shortVisit_upward :
    ∃ l, Upward Pointing.wholeDoubles epoch 7 { socket := some 1 } shortHello "host" 4545 {} 0
      shortVisit l ∧ l.host.connected = true ∧ l.host.incoming.wire = [] ∧
      l.client.added.length = 5 := by
  obtain ⟨l, reached, ends⟩ := Option.map_eq_some_iff.mp shortVisit_ends
  simp only [Prod.mk.injEq] at ends
  refine ⟨l, ⟨?_, reached⟩, ends⟩
  simp [shortVisit, Label.Short]

/-- The host has handled the first packets that the client has added to its socket, each once and
byte for byte; no error is about what a packet holds. While the connection is open, all of them
were taken, and with an empty wire none is left. -/
theorem host_handles_what_client_adds
    (run : Upward d clock s transport calls host port earlier rendering labels l) :
    let added := l.client.added.drop earlier.added.length
    l.host.incoming.handled.map Prod.fst <+: added ∧
    (∀ e ∈ l.host.incoming.errors, e.2 ∈ hostTexts) ∧
    (l.host.connected = true → (∀ entry ∈ l.host.incoming.handled, entry.2 = true) ∧
      (l.host.incoming.wire = [] → l.host.incoming.handled.map Prod.fst = added)) := by
  intro added
  obtain ⟨posted, rest, up, _⟩ := run.upstream
  have same : added = posted.map Posted.bytes := by
    rw [show added = l.client.added.drop earlier.added.length from rfl, up.added, List.drop_left]
  refine ⟨?_, up.errors, ?_⟩
  · rw [same, up.split]
    exact List.prefix_append _ _
  · intro open_
    refine ⟨(up.live open_).2, fun empty => ?_⟩
    rw [same]
    exact up.all_handled open_ empty

/-- The two greetings, the two keys and the pong. -/
theorem host_handles_what_client_adds_visit :
    ∃ l : Link, l.host.incoming.handled.map Prod.fst = l.client.added ∧
      l.client.added.length = 5 ∧ ∀ entry ∈ l.host.incoming.handled, entry.2 = true := by
  obtain ⟨l, run, open_, empty, size⟩ := shortVisit_upward
  obtain ⟨_, _, live⟩ := host_handles_what_client_adds run
  obtain ⟨accepted, all⟩ := live open_
  exact ⟨l, all empty, size, accepted⟩

end

end Screenscrab.Remote
