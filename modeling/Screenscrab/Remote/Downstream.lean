import Screenscrab.Library.Flow
import Screenscrab.Remote.Link

/-! From the host to the client: whatever the order of the steps, the packets that the client
has handled are the first ones that the host has sent. -/
namespace Screenscrab.Remote
open Protocol Dart Client Session

/-- A packet that a client takes and that does not end the connection. -/
structure Delivered (p : WirePacket) : Prop where
  fits : p.OnWire
  stays : p.type ≠ .disconnect

theorem delivered_received {type : MessageType} (stays : type ≠ .disconnect) {payload : Bytes}
    (small : payload.length < 2 ^ 32) (now : UInt64) : Delivered (received type payload now) :=
  ⟨received_onWire type small now, stays⟩

theorem encode_ne_nil (p : WirePacket) : p.encode ≠ [] := by
  refine List.ne_nil_of_length_pos ?_
  rw [WirePacket.encode_length]
  omega

/-- The packets `frames` have been sent whole and `tail` of one more; the client has handled
those in `read`. While it listens, what it holds and what is in flight are the rest. -/
structure Downstream (s : Nat) (start : RemoteSessionClient) (h : HostEnd)
    (c : RemoteSessionClient) (frames : List WirePacket) (extra : WirePacket) (tail : Bytes)
    (read : List WirePacket) : Prop where
  delivered : ∀ p ∈ extra :: frames, Delivered p
  sent : frames.map WirePacket.encode <+: h.sent
  whole : h.Succeeded → tail = [] ∧ frames.map WirePacket.encode = h.sent
  front : read <+: frames
  handled : c.handled = start.handled ++ read
  renders : c.renders = start.renders ++ drawn none read
  reported : ∀ e, c.Reported e ↔ start.Reported e
  live : c.Live s → c.socket = some s ∧ c.subscription = some s ∧
    c.pendingMetadata = read.foldl metadataAfter none ∧
    Framing.Flow WirePacket.encode frames extra tail read c.buffer h.arriving

namespace Downstream
variable {s : Nat} {start c : RemoteSessionClient} {h : HostEnd} {frames read : List WirePacket}
  {extra : WirePacket} {tail : Bytes}

/-- It is a matter of what has been sent, what has arrived and what has failed. -/
theorem host {next : HostEnd} (down : Downstream s start h c frames extra tail read)
    (sent : next.sent = h.sent) (arriving : next.arriving = h.arriving)
    (results : next.results = h.results) : Downstream s start next c frames extra tail read where
  delivered := down.delivered
  sent := by rw [sent]; exact down.sent
  whole := by
    intro succeeded
    rw [sent]
    refine down.whole ?_
    rw [HostEnd.Succeeded, ← results]
    exact succeeded
  front := down.front
  handled := down.handled
  renders := down.renders
  reported := down.reported
  live := by rw [arriving]; exact down.live

/-- The client does something else: it handles nothing, and it listens on only as it was. -/
theorem client {next : RemoteSessionClient} (down : Downstream s start h c frames extra tail read)
    (handled : next.handled = c.handled) (renders : next.renders = c.renders)
    (reported : ∀ e, next.Reported e ↔ c.Reported e)
    (live : next.Live s → c.Live s ∧ next.socket = c.socket ∧
      next.subscription = c.subscription ∧ next.pendingMetadata = c.pendingMetadata ∧
      next.buffer = c.buffer) : Downstream s start h next frames extra tail read where
  delivered := down.delivered
  sent := down.sent
  whole := down.whole
  front := down.front
  handled := handled.trans down.handled
  renders := renders.trans down.renders
  reported := fun e => (reported e).trans (down.reported e)
  live := by
    intro listening
    obtain ⟨before, socket, subscription, metadata, buffer⟩ := live listening
    rw [socket, subscription, metadata, buffer]
    exact down.live before

/-- A packet is sent: it is whole behind the others, or the stream ends with a front of it. -/
theorem send {next : HostEnd} {ok : Bool} {p : WirePacket}
    (down : Downstream s start h c frames extra tail read) (fits : Delivered p)
    (sent : HostEnd.Sent h next p.encode ok) :
    (ok = true → Downstream s start next c (frames ++ [p]) extra [] read) ∧
    (ok = false → ∃ extra tail, Downstream s start next c frames extra tail read) := by
  constructor
  · intro ok
    obtain ⟨before, after, arriving⟩ := sent.taken ok
    obtain ⟨rfl, all⟩ := down.whole before
    have same : (frames ++ [p]).map WirePacket.encode = next.sent := by
      rw [List.map_append, all, sent.sent]
      rfl
    refine ⟨?_, ?_, ?_, ?_, down.handled, down.renders, down.reported, ?_⟩
    · intro q member
      rcases List.mem_cons.mp member with rfl | member
      · exact down.delivered q List.mem_cons_self
      · rcases List.mem_append.mp member with old | new
        · exact down.delivered q (List.mem_cons_of_mem _ old)
        · rw [List.mem_singleton.mp new]
          exact fits
    · exact ⟨[], (List.append_nil _).trans same⟩
    · exact fun _ => ⟨rfl, same⟩
    · exact down.front.trans (List.prefix_append frames [p])
    · intro listening
      obtain ⟨socket, subscription, metadata, flow⟩ := down.live listening
      refine ⟨socket, subscription, metadata, ?_⟩
      rw [arriving]
      exact flow.write (encode_ne_nil p)
  · intro failed
    obtain ⟨after, front, missing, nonempty, whole, arriving, steady⟩ := sent.broken failed
    have behind : frames.map WirePacket.encode <+: next.sent := by
      rw [sent.sent]
      exact down.sent.trans (List.prefix_append h.sent [p.encode])
    by_cases before : h.Succeeded
    · obtain ⟨rfl, all⟩ := down.whole before
      refine ⟨p, front, ?_, behind, fun succeeded => absurd succeeded after, down.front,
        down.handled, down.renders, down.reported, ?_⟩
      · refine List.forall_mem_cons.mpr ⟨fits, fun q member => ?_⟩
        exact down.delivered q (List.mem_cons_of_mem _ member)
      · intro listening
        obtain ⟨socket, subscription, metadata, flow⟩ := down.live listening
        refine ⟨socket, subscription, metadata, ?_⟩
        rw [arriving]
        exact flow.break_off ⟨missing, nonempty, whole⟩
    · refine ⟨extra, tail, down.delivered, behind, fun succeeded => absurd succeeded after,
        down.front, down.handled, down.renders, down.reported, ?_⟩
      rw [arriving, steady before, List.append_nil]
      exact down.live

/-- Bytes arrive: the client handles the packets that they complete, and answers the pings. -/
theorem deliver (clock : Nat → DateTime) {chunk rest : Bytes}
    (down : Downstream s start h c frames extra tail read)
    (arriving : h.arriving = chunk ++ rest) :
    ∃ more, Downstream s start { h with arriving := rest }
        (RemoteSessionClient.deliver clock s c chunk) frames extra tail (read ++ more) ∧
      ∃ posted : List Posted,
        (RemoteSessionClient.deliver clock s c chunk).added =
          c.added ++ posted.map Posted.bytes ∧
        posted.map Prod.fst = (more.filterMap nonce?).map .pong := by
  by_cases listening : c.Live s
  · obtain ⟨socket, subscription, metadata, flow⟩ := down.live listening
    rw [arriving] at flow
    obtain ⟨more, left, f, arrived, inside, known, short, flow⟩ := flow.arrive
    have stay : ∀ p ∈ more, p.type ≠ .disconnect := fun p member =>
      (down.delivered p (List.mem_cons_of_mem extra (inside p member))).stays
    have fits : ∀ p ∈ more, p.OnWire := fun p member =>
      (down.delivered p (List.mem_cons_of_mem extra (inside p member))).fits
    have open_ : c.socket ≠ none := by rw [socket]; nofun
    have heard := RemoteSessionClient.handlePackets_heard clock open_ stay
    have same : RemoteSessionClient.deliver clock s c chunk =
        { more.foldl (RemoteSessionClient.handlePacket clock) c with buffer := left } := by
      have drained :=
        RemoteSessionClient.drain_packets clock fits (down.delivered f known).fits short c
      have alive : s ∈ c.opened ∧ s ∈ c.listening := listening
      rw [RemoteSessionClient.deliver, if_pos alive, RemoteSessionClient.onData, arrived,
        drained, RemoteSessionClient.after, RemoteSessionClient.handleUntil_foldl clock stay,
        if_neg (RemoteSessionClient.not_disconnects stay)]
    rw [same]
    refine ⟨more, ⟨down.delivered, down.sent, down.whole, flow.read_prefix, ?_, ?_, ?_, ?_⟩,
      heard.answers⟩
    · exact heard.handled.trans (by rw [down.handled, List.append_assoc])
    · refine heard.renders.trans ?_
      rw [down.renders, metadata, List.append_assoc, ← drawn_append]
    · exact fun e => (heard.reported e).trans (down.reported e)
    · intro _
      refine ⟨heard.holds.socket.trans socket, heard.holds.subscription.trans subscription, ?_,
        flow⟩
      rw [List.foldl_append, ← metadata]
      exact heard.metadata
  · have same : RemoteSessionClient.deliver clock s c chunk = c := if_neg listening
    rw [same]
    refine ⟨[], ?_, [], (List.append_nil _).symm, rfl⟩
    rw [List.append_nil]
    exact ⟨down.delivered, down.sent, down.whole, down.front, down.handled, down.renders,
      down.reported, fun again => absurd again listening⟩

end Downstream
end Screenscrab.Remote
