import Screenscrab.Remote.Pointer
import Screenscrab.Remote.Link

/-! From the client to the host: whatever the order of the steps, the packets that the host has
handled are the first ones that the client has added to its socket. -/
namespace Screenscrab.Remote
open Protocol Dart Client Session
open LittleEndian (word word_append)
open Incoming (Delivers)

/-- What the client posts: it takes no part of the host, and its texts are short enough. -/
structure Posts (call : SessionCodec.Call) : Prop where
  stays : ∀ reasonCode reason, call ≠ .disconnect reasonCode reason
  answers : ∀ nonce, call ≠ .ping nonce
  fits : ∀ text, call = .clipboardText text → (Utf8.encode text).length ≤ clipboardLimit

theorem Posts.type {call : SessionCodec.Call} (posts : Posts call) (now : DateTime) :
    (call.packet now).type ≠ .disconnect ∧ (call.packet now).type ≠ .ping := by
  cases call with
  | disconnect reasonCode reason => exact absurd rfl (posts.stays reasonCode reason)
  | ping nonce => exact absurd rfl (posts.answers nonce)
  | _ => exact ⟨nofun, nofun⟩

theorem Posts.small {call : SessionCodec.Call} (posts : Posts call) (now : DateTime) :
    (call.packet now).payload.length ≤ 1024 * 1024 :=
  payload_small now call (posts.type now).1 posts.fits

theorem Posts.onWire {call : SessionCodec.Call} (posts : Posts call) (now : DateTime) :
    (call.packet now).OnWire := by
  have small := posts.small now
  exact .unflagged (by omega) (packet_flags now call)

theorem Posts.framed {m : Posted} (posts : Posts m.1) : Framed m.bytes :=
  framed_encode (posts.onWire m.2) (posts.small m.2)

/-- The calls that input can make. -/
theorem handleInputPacket_silent (s : Settings) (payload : Bytes) :
    ∃ handling, handleInputPacket s payload = some handling ∧
      ∀ packet, handling ≠ .calls (.sendPong packet) := by
  unfold handleInputPacket
  split
  · exact ⟨_, rfl, nofun⟩
  · split
    · exact ⟨_, rfl, nofun⟩
    · rw [readU32_eq (by omega)]
      simp only [Option.bind_eq_bind, Option.bind_some, Option.pure_def]
      split
      · split
        · exact ⟨_, rfl, nofun⟩
        · rw [readU32_eq (by omega), readU32_eq (by omega), readU32_eq (by omega),
            readU32_eq (by omega), readU32_eq (by omega)]
          simp only [Option.bind_some]
          split
          · exact ⟨_, rfl, nofun⟩
          · split
            · exact ⟨_, rfl, nofun⟩
            · exact ⟨_, rfl, nofun⟩
      · split
        · split
          · exact ⟨_, rfl, nofun⟩
          · rw [readU32_eq (by omega), readU32_eq (by omega)]
            exact ⟨_, rfl, nofun⟩
        · exact ⟨_, rfl, nofun⟩

theorem handleClipboardPacket_silent (s : Settings) (payload : Bytes) :
    ∃ handling, handleClipboardPacket s payload = some handling ∧
      ∀ packet, handling ≠ .calls (.sendPong packet) := by
  unfold handleClipboardPacket
  split
  · exact ⟨_, rfl, nofun⟩
  · next guarded =>
      push Not at guarded
      rw [readU32_eq (by omega)]
      simp only [Option.bind_eq_bind, Option.bind_some, Option.pure_def]
      split
      · exact ⟨_, rfl, nofun⟩
      · exact ⟨_, rfl, nofun⟩

/-- Only a ping makes a handler send a pong. -/
theorem dispatch_pong {s : Settings} {view : WirePacketView} {packet : Bytes}
    (dispatched : dispatch s view = some (.calls (.sendPong packet))) : view.type = .ping := by
  unfold dispatch at dispatched
  cases type : view.type with
  | ping => rfl
  | inputEvent =>
      obtain ⟨handling, handled, silent⟩ := handleInputPacket_silent s view.payload
      rw [type] at dispatched
      exact absurd (Option.some.inj (handled.symm.trans dispatched)) (silent packet)
  | clipboardSync =>
      obtain ⟨handling, handled, silent⟩ := handleClipboardPacket_silent s view.payload
      rw [type] at dispatched
      exact absurd (Option.some.inj (handled.symm.trans dispatched)) (silent packet)
  | _ =>
      rw [type] at dispatched
      cases dispatched

/-- What the host does with a packet that the client posts: it goes on, with at most one call,
and that call answers nothing. -/
theorem Posts.handled {m : Posted} (posts : Posts m.1) (s : Settings) :
    ∃ handling, handlePacket s m.bytes = some handling ∧
      (handling = .returns true ∨
        ∃ call, handling = .calls call ∧ ∀ packet, call ≠ .sendPong packet) := by
  obtain ⟨stays, silent⟩ := posts.type m.2
  obtain ⟨view, type, payload, same⟩ :=
    handlePacket_encode s (posts.onWire m.2) (posts.small m.2)
  obtain ⟨handling, dispatched, benign⟩ := dispatch_benign s m.2 m.1 stays type payload
  refine ⟨handling, same.trans dispatched, ?_⟩
  rcases benign with rfl | ⟨call, rfl⟩
  · exact .inl rfl
  · refine .inr ⟨call, rfl, ?_⟩
    rintro packet rfl
    exact silent (type.symm.trans (dispatch_pong dispatched))

/-- The errors of a connection that is lost: none of them is about what a packet holds. -/
def lossTexts : List Bytes :=
  [ascii "packet header receive failed", ascii "packet payload receive failed",
    ascii "frame send failed"]

/-- These, and the errors of a screen that could not be captured or encoded. -/
def hostTexts : List Bytes := [ascii "capture failed", ascii "encode failed"] ++ lossTexts

theorem receiveAll_fields (c : Incoming) (want : Nat) (schedule : List Nat) :
    (c.receiveAll want schedule).1.calls = c.calls ∧
      (c.receiveAll want schedule).1.errors = c.errors := ⟨rfl, rfl⟩

/-- The connection has been lost in the middle of a packet: nothing was handled. -/
structure Lost (c next : Incoming) : Prop where
  handled : next.handled = c.handled
  calls : next.calls = c.calls
  closed : next.transport.connected = false
  errors : ∃ e, next.errors = c.errors ++ [e] ∧ e.2 ∈ lossTexts

/-- A packet has been received and is about to be handled. -/
structure Received (c d : Incoming) (rest : Bytes) : Prop where
  wire : d.wire = rest
  handled : d.handled = c.handled
  calls : d.calls = c.calls
  errors : d.errors = c.errors
  connected : d.transport.connected = true

/-- What an iteration makes of a connection whose wire begins with a whole packet: the packet is
handled as it is, or the connection is lost on the way to it. -/
theorem receivePacket_whole {c : Incoming} (connected : c.transport.connected = true)
    {packet rest : Bytes} (framed : Framed packet) (wire : c.wire = packet ++ rest) (a : Answers) :
    (∃ next, c.receivePacket a = some next ∧ Lost c next) ∨
      ∃ d, c.receivePacket a = d.handle a packet ∧ Received c d rest := by
  have size := framed.size
  have small := framed.small
  have whole : packet.take 24 ++ packet.drop 24 = packet := List.take_append_drop 24 packet
  have headerSize : (packet.take 24).length = 24 := by rw [List.length_take]; omega
  obtain ⟨sameTransport, sameHandled, _, filled⟩ := Incoming.receiveAll_spec connected 24 a.header
  obtain ⟨sameCalls, sameErrors⟩ := receiveAll_fields c 24 a.header
  cases first : c.receiveAll 24 a.header with
  | mk d data =>
  rw [first] at sameTransport sameHandled filled sameCalls sameErrors
  cases data with
  | none =>
      left
      unfold Incoming.receivePacket
      rw [first]
      refine ⟨_, rfl, sameHandled, sameCalls, rfl, _, congrArg (· ++ _) sameErrors, ?_⟩
      exact List.mem_cons_self
  | some header =>
      obtain ⟨length, split, _⟩ := filled header rfl
      have parts : header ++ d.wire = packet.take 24 ++ (packet.drop 24 ++ rest) := by
        rw [← split, wire, ← List.append_assoc, whole]
      obtain ⟨rfl, left⟩ := List.append_inj parts (length.trans headerSize.symm)
      have at_ {offset width : Nat} (inside : offset + width ≤ 24) :
          word (packet.take 24) offset width = word packet offset width := by
        have same :=
          word_append (packet.take 24) (packet.drop 24) (by rw [headerSize]; exact inside)
        rw [whole] at same
        exact same.symm
      have still : d.transport.connected = true := by
        rw [sameTransport]
        exact connected
      rw [Incoming.receivePacket_header first length, at_ (by omega), at_ (by omega),
        at_ (by omega), if_neg (by simp only [framed.magic, framed.version, ne_eq,
          not_true_eq_false, or_self, not_false_eq_true]), if_neg (by omega)]
      by_cases empty : word packet 12 4 = 0
      · right
        have nothing : packet.drop 24 = [] :=
          List.drop_eq_nil_of_le (by omega)
        rw [nothing, List.append_nil] at whole
        rw [nothing, List.nil_append] at left
        rw [if_pos empty, whole]
        exact ⟨d, rfl, left, sameHandled, sameCalls, sameErrors, still⟩
      rw [if_neg empty]
      obtain ⟨sameTransport', sameHandled', _, filled'⟩ :=
        Incoming.receiveAll_spec still (word packet 12 4) a.payload
      obtain ⟨sameCalls', sameErrors'⟩ := receiveAll_fields d (word packet 12 4) a.payload
      generalize d.receiveAll (word packet 12 4) a.payload = second
        at sameTransport' sameHandled' filled' sameCalls' sameErrors' ⊢
      obtain ⟨e, data'⟩ := second
      cases data' with
      | none =>
          refine .inl ⟨_, rfl, sameHandled'.trans sameHandled, sameCalls'.trans sameCalls, rfl,
            _, congrArg (· ++ _) (sameErrors'.trans sameErrors), ?_⟩
          exact List.mem_cons_of_mem _ List.mem_cons_self
      | some payload =>
          obtain ⟨length', split', _⟩ := filled' payload rfl
          have body : payload ++ e.wire = packet.drop 24 ++ rest := by rw [← split', left]
          obtain ⟨rfl, behind⟩ := List.append_inj body (by rw [length', List.length_drop]; omega)
          refine .inr ⟨e, congrArg (e.handle a) whole, behind, sameHandled'.trans sameHandled,
            sameCalls'.trans sameCalls, sameErrors'.trans sameErrors, ?_⟩
          rw [sameTransport']
          exact still

/-- With an empty wire a connection can only be lost. -/
theorem receivePacket_nothing {c : Incoming} (connected : c.transport.connected = true)
    (nothing : c.wire = []) (a : Answers) :
    ∃ next, c.receivePacket a = some next ∧ Lost c next := by
  obtain ⟨_, sameHandled, _, filled⟩ := Incoming.receiveAll_spec connected 24 a.header
  obtain ⟨sameCalls, sameErrors⟩ := receiveAll_fields c 24 a.header
  cases first : c.receiveAll 24 a.header with
  | mk d data =>
  rw [first] at sameHandled filled sameCalls sameErrors
  cases data with
  | none =>
      unfold Incoming.receivePacket
      rw [first]
      refine ⟨_, rfl, sameHandled, sameCalls, rfl, _, congrArg (· ++ _) sameErrors, ?_⟩
      exact List.mem_cons_self
  | some header =>
      obtain ⟨length, split, _⟩ := filled header rfl
      rw [nothing] at split
      rw [(List.append_eq_nil_iff.mp split.symm).1] at length
      cases length

/-- What an iteration makes of a connection with whole packets on its wire. -/
inductive Took (c next : Incoming) (s : Settings) (rest : List Bytes) : Prop
  | kept (handled : next.handled = c.handled) (calls : next.calls = c.calls)
      (errors : next.errors = c.errors) (wire : next.wire = c.wire)
      (connected : next.transport.connected = c.transport.connected) : Took c next s rest
  | lost (lost : Lost c next) : Took c next s rest
  | handled (packet : Bytes) (behind : List Bytes) (result : Bool) (front : rest = packet :: behind)
      (before : c.transport.connected = true)
      (handled : next.handled = c.handled ++ [(packet, result)])
      (calls : next.calls = c.calls ++ injected s [packet]) (errors : next.errors = c.errors)
      (wire : next.wire = behind.flatten) (connected : next.transport.connected = result) :
      Took c next s rest

theorem handle_posted (d : Incoming) (a : Answers) {m : Posted} (posts : Posts m.1)
    (connected : d.transport.connected = true) :
    ∃ next result, d.handle a m.bytes = some next ∧
      next.handled = d.handled ++ [(m.bytes, result)] ∧
      next.calls = d.calls ++ injected a.settings [m.bytes] ∧ next.errors = d.errors ∧
      next.wire = d.wire ∧ next.transport.connected = result := by
  obtain ⟨handling, chosen, kind⟩ := posts.handled a.settings
  unfold Incoming.handle
  rw [chosen]
  simp only [injected, List.filterMap_cons, chosen, List.filterMap_nil]
  rcases kind with rfl | ⟨call, rfl, _⟩
  · exact ⟨_, true, rfl, rfl, (List.append_nil _).symm, rfl, rfl, connected⟩
  · cases result : a.callResult with
    | true => exact ⟨_, true, rfl, rfl, rfl, rfl, rfl, connected⟩
    | false => exact ⟨_, false, rfl, rfl, rfl, rfl, rfl, rfl⟩

theorem iteration_took {c : Incoming} {posted : List Posted} (posts : ∀ m ∈ posted, Posts m.1)
    {rest : List Bytes} (known : ∀ packet ∈ rest, ∃ m ∈ posted, packet = m.bytes)
    (live : c.transport.connected = true → c.wire = rest.flatten) (a : Answers) :
    ∃ next, c.step (.iteration a) = some next ∧ Took c next a.settings rest := by
  obtain ⟨wire, _, handled, connected, readable⟩ := Incoming.awaits_spec c a
  obtain ⟨calls, errors⟩ := Incoming.awaits_fields c a
  simp only [Incoming.step]
  generalize c.awaits a = waiting at wire handled connected readable calls errors ⊢
  obtain ⟨d, ready⟩ := waiting
  cases ready with
  | false => exact ⟨d, rfl, .kept handled calls errors wire connected⟩
  | true =>
      have open_ : d.transport.connected = true := connected.trans (readable rfl)
      have lying : d.wire = rest.flatten := wire.trans (live (readable rfl))
      have lost {next : Incoming} (dropped : Lost d next) : Took c next a.settings rest := by
        obtain ⟨handled', calls', closed, e, errors', known⟩ := dropped
        exact .lost ⟨handled'.trans handled, calls'.trans calls, closed, e,
          errors'.trans (congrArg (· ++ [e]) errors), known⟩
      cases rest with
      | nil =>
          obtain ⟨next, received, dropped⟩ := receivePacket_nothing open_ lying a
          exact ⟨next, received, lost dropped⟩
      | cons packet behind =>
          obtain ⟨m, member, rfl⟩ := known packet List.mem_cons_self
          have posts := posts m member
          rcases receivePacket_whole open_ posts.framed lying a with
            ⟨next, received, dropped⟩ | ⟨e, received, whole⟩
          · exact ⟨next, received, lost dropped⟩
          · obtain ⟨next, result, taken, handled', calls', errors', wire', connected'⟩ :=
              handle_posted e a posts whole.connected
            refine ⟨next, received.trans taken, .handled m.bytes behind result rfl (readable rfl)
              ?_ ?_ ?_ ?_ connected'⟩
            · rw [handled', whole.handled, handled]
            · rw [calls', whole.calls, calls]
            · rw [errors', whole.errors, errors]
            · exact wire'.trans whole.wire

/-- The host on its way through what the client has posted: it has handled the first of the
packets, and while the connection is open the others lie on the wire. -/
structure Upstream (base : List Bytes) (h : HostEnd) (c : RemoteSessionClient)
    (posted : List Posted) (rest : List Bytes) : Prop where
  added : c.added = base ++ posted.map Posted.bytes
  posts : ∀ m ∈ posted, Posts m.1
  split : posted.map Posted.bytes = h.incoming.handled.map Prod.fst ++ rest
  live : h.connected = true →
    h.incoming.wire = rest.flatten ∧ ∀ entry ∈ h.incoming.handled, entry.2 = true
  accepted : ∀ entry ∈ h.incoming.handled.dropLast, entry.2 = true
  errors : ∀ e ∈ h.incoming.errors, e.2 ∈ hostTexts

namespace Upstream
variable {base : List Bytes} {h : HostEnd} {c : RemoteSessionClient} {posted : List Posted}
  {rest : List Bytes}

theorem known (up : Upstream base h c posted rest) :
    ∀ packet ∈ rest, ∃ m ∈ posted, packet = m.bytes := by
  intro packet member
  have inside : packet ∈ posted.map Posted.bytes := by
    rw [up.split]
    exact List.mem_append_right _ member
  obtain ⟨m, there, same⟩ := List.mem_map.mp inside
  exact ⟨m, there, same.symm⟩

/-- On an open connection with an empty wire, everything that was posted has been handled. -/
theorem all_handled (up : Upstream base h c posted rest) (open_ : h.connected = true)
    (empty : h.incoming.wire = []) :
    h.incoming.handled.map Prod.fst = posted.map Posted.bytes := by
  rw [(up.live open_).1] at empty
  have none : rest = [] := by
    refine List.eq_nil_iff_forall_not_mem.mpr fun packet member => ?_
    obtain ⟨m, there, rfl⟩ := up.known packet member
    have long : 24 ≤ m.bytes.length := by
      rw [Posted.bytes, WirePacket.encode_length]
      exact Nat.le_add_right 24 _
    rw [List.flatten_eq_nil_iff.mp empty _ member] at long
    exact absurd long (Nat.not_succ_le_zero 23)
  rw [up.split, none, List.append_nil]

/-- Of the host it matters what it receives, of the client what it has added. -/
theorem of_incoming {next : HostEnd} {client : RemoteSessionClient}
    (up : Upstream base h c posted rest) (handled : next.incoming.handled = h.incoming.handled)
    (errors : ∀ e ∈ next.incoming.errors, e.2 ∈ hostTexts)
    (wire : next.incoming.wire = h.incoming.wire)
    (connected : next.connected = true → h.connected = true) (added : client.added = c.added) :
    Upstream base next client posted rest where
  added := added.trans up.added
  posts := up.posts
  split := by rw [handled]; exact up.split
  live := by
    intro open_
    rw [handled, wire]
    exact up.live (connected open_)
  accepted := by rw [handled]; exact up.accepted
  errors := errors

/-- The receive loop goes on: it posts no pong, and what it has handled is the front of what the
client has posted. -/
theorem receive {next : HostEnd} {a : Answers} {pong : List Nat}
    (up : Upstream base h c posted rest) (taken : h.receive a pong = some next) :
    next = { h with incoming := next.incoming } ∧
    Took h.incoming next.incoming a.settings rest ∧
    ∃ rest, Upstream base next c posted rest := by
  obtain ⟨incoming, stepped, took⟩ :=
    iteration_took up.posts up.known (fun open_ => (up.live open_).1) a
  have silent : ∀ packet, incoming.calls.drop h.incoming.calls.length ≠ [.sendPong packet] := by
    intro packet same
    cases took with
    | kept _ calls => rw [calls, List.drop_length] at same; cases same
    | lost lost => rw [lost.calls, List.drop_length] at same; cases same
    | handled bytes behind result front _ _ calls =>
        obtain ⟨m, member, rfl⟩ := up.known bytes (front ▸ List.mem_cons_self)
        obtain ⟨handling, chosen, kind⟩ := (up.posts m member).handled a.settings
        rw [calls, List.drop_left] at same
        simp only [injected, List.filterMap_cons, chosen, List.filterMap_nil] at same
        rcases kind with rfl | ⟨call, rfl, other⟩
        · cases same
        · exact other packet (List.singleton_inj.mp same)
  have result : next = { h with incoming } := by
    unfold HostEnd.receive at taken
    rw [stepped] at taken
    simp only [Option.bind_eq_bind, Option.bind_some] at taken
    exact (Option.some.inj taken).symm
  subst result
  refine ⟨rfl, took, ?_⟩
  cases took with
  | kept handled calls errors wire connected =>
      refine ⟨rest, up.of_incoming handled ?_ wire (fun open_ => connected.symm.trans open_) rfl⟩
      rw [errors]
      exact up.errors
  | lost lost =>
      obtain ⟨handled, _, closed, e, errors, known⟩ := lost
      refine ⟨rest, up.added, up.posts, ?_, ?_, ?_, ?_⟩
      · rw [handled]
        exact up.split
      · intro open_
        exact absurd open_ (Bool.eq_false_iff.mp closed)
      · rw [handled]
        exact up.accepted
      · rw [errors]
        refine List.forall_mem_append.mpr ⟨up.errors, List.forall_mem_singleton.mpr ?_⟩
        exact List.mem_append_right _ known
  | handled packet behind result front before handled calls errors wire connected =>
      refine ⟨behind, up.added, up.posts, ?_, ?_, ?_, ?_⟩
      · rw [up.split, handled, front, List.map_append, List.append_assoc]
        rfl
      · intro open_
        obtain rfl : result = true := connected.symm.trans open_
        refine ⟨wire, ?_⟩
        rw [handled]
        exact List.forall_mem_append.mpr ⟨(up.live before).2, List.forall_mem_singleton.mpr rfl⟩
      · rw [handled, List.dropLast_concat]
        exact (up.live before).2
      · rw [errors]
        exact up.errors

/-- The client posts further packets. -/
theorem reply {l : Link} {client : RemoteSessionClient} {more : List Posted}
    (up : Upstream base l.host l.client posted rest) (posts : ∀ m ∈ more, Posts m.1)
    (added : client.added = l.client.added ++ more.map Posted.bytes) :
    Upstream base (l.reply client).host client (posted ++ more)
      (rest ++ more.map Posted.bytes) where
  added := by rw [added, up.added, List.map_append, List.append_assoc]
  posts := List.forall_mem_append.mpr ⟨up.posts, posts⟩
  split := by
    rw [List.map_append, up.split, List.append_assoc]
    rfl
  live := by
    intro open_
    obtain ⟨wire, accepted⟩ := up.live open_
    refine ⟨?_, accepted⟩
    simp only [Link.reply, wire, added, List.drop_left, List.flatten_append]
  accepted := up.accepted
  errors := up.errors

end Upstream
end Screenscrab.Remote
