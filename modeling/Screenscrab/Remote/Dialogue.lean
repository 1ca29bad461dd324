import Mathlib.Data.List.Basic
import Screenscrab.Remote.Downstream
import Screenscrab.Remote.Requests

/-! The two directions of a connection together: what holds of the host and of the client after
any steps of the two. -/
namespace Screenscrab.Remote
open Protocol Dart Client Session
open LittleEndian (word)
open Transition (exec Along)

/-- What has been sent and read, with the frames among it. -/
def Flows (s : Nat) (start : RemoteSessionClient) (h : HostEnd) (c : RemoteSessionClient)
    (read : List WirePacket) : Prop :=
  ∃ frames extra tail, Downstream s start h c frames extra tail read ∧
    drawn none frames = h.frames.map RenderCall.ofFrame

namespace Flows
variable {s : Nat} {start c : RemoteSessionClient} {h : HostEnd} {read : List WirePacket}

theorem host {next : HostEnd} (flows : Flows s start h c read) (sent : next.sent = h.sent)
    (arriving : next.arriving = h.arriving) (results : next.results = h.results)
    (frames : next.frames = h.frames) : Flows s start next c read := by
  obtain ⟨whole, extra, tail, down, seen⟩ := flows
  exact ⟨whole, extra, tail, down.host sent arriving results, seen.trans (by rw [frames])⟩

theorem client {next : RemoteSessionClient} (flows : Flows s start h c read)
    (handled : next.handled = c.handled) (renders : next.renders = c.renders)
    (reported : ∀ e, next.Reported e ↔ c.Reported e)
    (live : next.Live s → c.Live s ∧ next.socket = c.socket ∧
      next.subscription = c.subscription ∧ next.pendingMetadata = c.pendingMetadata ∧
      next.buffer = c.buffer) : Flows s start h next read := by
  obtain ⟨frames, extra, tail, down, seen⟩ := flows
  exact ⟨frames, extra, tail, down.client handled renders reported live, seen⟩

/-- A packet that is no part of a frame is sent. -/
theorem send {type : MessageType} {payload : Bytes} {now : UInt64} {schedule : List Nat}
    (flows : Flows s start h c read) (hidden : type ≠ .videoFrame) (stays : type ≠ .disconnect)
    (small : payload.length < 2 ^ 32) (onTime : OnTime now) (steady : h.Steady schedule) :
    Flows s start (h.sendAll (makePacket type 0 payload now) schedule).1 c read := by
  obtain ⟨frames, extra, tail, down, seen⟩ := flows
  have fits : Delivered (received type payload now) := delivered_received stays small now
  have sent := h.sendAll_sent (encode_ne_nil (received type payload now)) steady
  rw [makePacket_encode type payload onTime]
  obtain ⟨whole, broken⟩ := down.send fits sent
  rw [Flows]
  cases ok : (h.sendAll (received type payload now).encode schedule).2 with
  | true =>
      refine ⟨_, extra, [], whole ok, ?_⟩
      rw [drawn_append, drawn_hidden _ hidden, List.append_nil]
      exact seen
  | false =>
      obtain ⟨extra, tail, down⟩ := broken ok
      exact ⟨frames, extra, tail, down, seen⟩

/-- A frame is sent, in two packets that are whole, or the connection is closed on the way. -/
theorem frame {encoded : EncodedFrame} {metadata payload : List Nat}
    (flows : Flows s start h c read) (sendable : Sendable (.frame encoded metadata payload))
    (steady : h.Steady metadata) :
    Flows s start (h.frame encoded metadata payload) c read := by
  obtain ⟨frames, extra, tail, down, seen⟩ := flows
  obtain ⟨same, fits, stay⟩ := packets_received sendable
  obtain ⟨sizes, pixels, both⟩ : ∃ sizes pixels : WirePacket,
      receivedPackets (.frame encoded metadata payload) = [sizes, pixels] := ⟨_, _, rfl⟩
  have pair := drawn_frame (frames.foldl metadataAfter none) encoded metadata payload
  have hidden : sizes.type ≠ .videoFrame := by
    rw [← (List.cons.inj both).1]
    nofun
  rw [both] at same fits stay pair
  obtain ⟨sizesBytes, pixelsBytes⟩ : Outgoing.metadataPacket encoded = sizes.encode ∧
      Outgoing.framePacket encoded = pixels.encode := by
    obtain ⟨first, rest⟩ := List.cons.inj same
    exact ⟨first, (List.cons.inj rest).1⟩
  have sizesFits : Delivered sizes :=
    ⟨fits _ List.mem_cons_self, fun last => stay ⟨sizes, List.mem_cons_self, last⟩⟩
  have pixelsFits : Delivered pixels :=
    ⟨fits _ (List.mem_cons_of_mem _ List.mem_cons_self),
      fun last => stay ⟨pixels, List.mem_cons_of_mem _ List.mem_cons_self, last⟩⟩
  unfold HostEnd.frame HostEnd.sendFrame
  rw [sizesBytes, pixelsBytes]
  have sent := h.sendAll_sent (encode_ne_nil sizes) steady
  obtain ⟨whole, broken⟩ := down.send sizesFits sent
  generalize h.sendAll sizes.encode metadata = first at sent whole broken ⊢
  obtain ⟨middle, ok⟩ := first
  cases ok with
  | false =>
      obtain ⟨extra, tail, down⟩ := broken rfl
      exact ⟨frames, extra, tail, down.host rfl rfl rfl, seen.trans (by rw [← sent.frames])⟩
  | true =>
      have down := whole rfl
      have still : middle.Steady payload := .inl (sent.taken rfl).2.1
      have sent' := middle.sendAll_sent (encode_ne_nil pixels) still
      obtain ⟨whole, broken⟩ := down.send pixelsFits sent'
      have framesSame := sent'.frames.trans sent.frames
      dsimp only
      generalize middle.sendAll pixels.encode payload = second at sent' whole broken framesSame ⊢
      obtain ⟨next, ok⟩ := second
      cases ok with
      | false =>
          obtain ⟨extra, tail, down⟩ := broken rfl
          refine ⟨frames ++ [sizes], extra, tail, down.host rfl rfl rfl, ?_⟩
          rw [drawn_append, drawn_hidden _ hidden, List.append_nil, seen]
          exact congrArg (List.map RenderCall.ofFrame) framesSame.symm
      | true =>
          refine ⟨frames ++ [sizes] ++ [pixels], extra, [], (whole rfl).host rfl rfl rfl, ?_⟩
          rw [List.append_assoc, List.singleton_append, drawn_append, pair, seen]
          dsimp only
          rw [show next.frames = h.frames from framesSame, List.map_append]
          rfl

/-- The bytes that arrive complete packets, which the client handles and answers. -/
theorem deliver (clock : Nat → DateTime) {chunk rest : Bytes} (flows : Flows s start h c read)
    (arriving : h.arriving = chunk ++ rest) :
    ∃ more, Flows s start { h with arriving := rest }
        (RemoteSessionClient.deliver clock s c chunk) (read ++ more) ∧
      ∃ posted : List Posted,
        (RemoteSessionClient.deliver clock s c chunk).added =
          c.added ++ posted.map Posted.bytes ∧
        posted.map Prod.fst = (more.filterMap nonce?).map .pong := by
  obtain ⟨frames, extra, tail, down, seen⟩ := flows
  obtain ⟨more, down, answers⟩ := down.deliver clock arriving
  exact ⟨more, ⟨frames, extra, tail, down, seen⟩, answers⟩

theorem renders (flows : Flows s start h c read) :
    c.renders = start.renders ++ drawn none read := by
  obtain ⟨_, _, _, down, _⟩ := flows
  exact down.renders

/-- What the client has read has been sent to it. -/
theorem read_sent (flows : Flows s start h c read) {p : WirePacket} (member : p ∈ read) :
    p.OnWire ∧ p.encode ∈ h.sent := by
  obtain ⟨frames, extra, tail, down, _⟩ := flows
  have inside := down.front.subset member
  constructor
  · exact (down.delivered p (List.mem_cons_of_mem extra inside)).fits
  · exact down.sent.subset (List.mem_map_of_mem inside)

/-- A client that listens holds the socket and its subscription. -/
theorem held (flows : Flows s start h c read) (listening : c.Live s) :
    c.socket = some s ∧ c.subscription = some s := by
  obtain ⟨_, _, _, down, _⟩ := flows
  obtain ⟨socket, subscription, _⟩ := down.live listening
  exact ⟨socket, subscription⟩

end Flows

/-- The first payload words of the packets of one type. -/
def nonces (type : MessageType) (packets : List Bytes) : List Nat :=
  packets.filterMap fun bytes =>
    if word bytes 6 2 = type.value ∧ 32 ≤ bytes.length then some (word bytes 24 8) else none

theorem nonces_append (type : MessageType) (packets more : List Bytes) :
    nonces type (packets ++ more) = nonces type packets ++ nonces type more :=
  List.filterMap_append

theorem nonces_mono (type : MessageType) {packets all : List Bytes} (front : packets <+: all) :
    nonces type packets <+: nonces type all := by
  obtain ⟨more, rfl⟩ := front
  rw [nonces_append]
  exact List.prefix_append _ _

/-- The low 64 bits of an integer, as a payload holds them. -/
def low (n : Int) : Nat := (n % 256 ^ 8).toNat

theorem low_signed64 {n : Nat} (small : n < 256 ^ 8) : low (signed64 n) = n := by
  unfold low signed64
  split <;> omega

theorem value_inj {t u : MessageType} (same : t.value = u.value) : t = u := by
  have found := MessageType.values_value t
  rw [same, MessageType.values_value] at found
  exact (Option.some.inj found).symm

/-- Type, first payload word and length of an encoded packet. -/
theorem encode_facts {p : WirePacket} (fits : p.OnWire) (type : MessageType) :
    (word p.encode 6 2 = type.value ∧ 32 ≤ p.encode.length ↔
      p.type = type ∧ p.payload.length ≥ 8) ∧
    word p.encode 24 8 = word p.payload 0 8 := by
  have words := WirePacket.encode_words fits []
  rw [List.append_nil] at words
  have body : p.encode.drop 24 = p.payload := by
    rw [WirePacket.encode, ← WirePacket.header_length p, List.drop_left]
  constructor
  · rw [words.type, WirePacket.encode_length]
    constructor
    · rintro ⟨same, long⟩
      exact ⟨value_inj same, by omega⟩
    · rintro ⟨rfl, long⟩
      exact ⟨rfl, by omega⟩
  · unfold word
    rw [body, List.drop_zero]

/-- The pings of a host, and the nonces that the client takes from them. -/
theorem nonces_ping {packets : List WirePacket} (fits : ∀ p ∈ packets, p.OnWire) :
    nonces .ping (packets.map WirePacket.encode) = (packets.filterMap nonce?).map low := by
  rw [nonces, List.filterMap_map, List.map_filterMap]
  refine List.filterMap_congr fun p member => ?_
  obtain ⟨same, first⟩ := encode_facts (fits p member) .ping
  have bound := LittleEndian.word_lt p.payload 0 8
  rw [Function.comp_apply, nonce?]
  by_cases ping : p.type = .ping ∧ p.payload.length ≥ 8
  · rw [if_pos (same.mpr ping), if_pos ping, first, Option.map_some, low_signed64 bound]
  · rw [if_neg fun here => ping (same.mp here), if_neg ping]
    rfl

/-- The pongs of a client, and the nonces that it has put into them. -/
theorem nonces_pong {posted : List Posted} (posts : ∀ m ∈ posted, Posts m.1) :
    nonces .pong (posted.map Posted.bytes) = (posted.filterMap pongOf).map low := by
  rw [nonces, List.filterMap_map, List.map_filterMap]
  refine List.filterMap_congr fun m member => ?_
  obtain ⟨same, first⟩ := encode_facts ((posts m member).onWire m.2) .pong
  rw [Function.comp_apply, Posted.bytes, first]
  obtain ⟨call, now⟩ := m
  cases call with
  | pong nonce =>
      have payload : (SessionCodec.pong nonce now).payload =
          LittleEndian.fields (stored [(8, nonce)]) := SessionCodec.ping_payload nonce now
      have long : (SessionCodec.pong nonce now).payload.length ≥ 8 := by
        rw [payload, LittleEndian.fields_length]
        exact Nat.le_refl 8
      have read : word (SessionCodec.pong nonce now).payload 0 8 = low nonce := by
        rw [payload]
        have whole := LittleEndian.word_fields [] 8 (low nonce) [] [] rfl
        rw [List.append_nil] at whole
        refine whole.trans (Nat.mod_eq_of_lt ?_)
        unfold low
        omega
      rw [if_pos (same.mpr ⟨rfl, long⟩)]
      exact congrArg some read
  | _ =>
      rw [if_neg fun here => ?_]
      · rfl
      · cases (same.mp here).1

/-- A connection after any steps: the packets that the client has read, and what it has answered. -/
structure Linked (s : Nat) (first l : Link) (base : List Bytes) (read : List WirePacket) :
    Prop where
  flows : Flows s first.client l.host l.client read
  pongs : ∃ mine, l.client.added = base ++ mine ∧
    nonces .pong mine = nonces .ping (read.map WirePacket.encode)
  rendering : l.client.framesReceived + l.rendering ≤
    first.client.framesReceived + first.rendering + (drawn none read).length

namespace Linked
variable {Double : Type} {d : Doubles Double} {clock : Nat → DateTime} {s : Nat}
  {first l next : Link} {base : List Bytes} {read : List WirePacket}

/-- A step of the host. -/
theorem host_step {h : HostEnd} (linked : Linked s first l base read)
    (flows : Flows s first.client h l.client read) :
    Linked s first { l with host := h } base read where
  flows := flows
  pongs := linked.pongs
  rendering := linked.rendering

/-- A step of the client that neither handles a packet nor posts one. -/
theorem client_step {c : RemoteSessionClient} {rendering : Nat}
    (linked : Linked s first l base read)
    (handled : c.handled = l.client.handled) (renders : c.renders = l.client.renders)
    (reported : ∀ e, c.Reported e ↔ l.client.Reported e)
    (live : c.Live s → l.client.Live s ∧ c.socket = l.client.socket ∧
      c.subscription = l.client.subscription ∧ c.pendingMetadata = l.client.pendingMetadata ∧
      c.buffer = l.client.buffer)
    (added : c.added = l.client.added)
    (count : c.framesReceived + rendering ≤ l.client.framesReceived + l.rendering) :
    Linked s first { l with client := c, rendering } base read where
  flows := linked.flows.client handled renders reported live
  pongs := by
    rw [added]
    exact linked.pongs
  rendering := count.trans linked.rendering

/-- A step of the client that handles `more` packets of the host and posts messages. -/
theorem reply_step {c : RemoteSessionClient} {more : List WirePacket} {messages : List Posted}
    {arriving : Bytes} (linked : Linked s first l base read)
    (flows : Flows s first.client { l.host with arriving } c (read ++ more))
    (posts : ∀ m ∈ messages, Posts m.1)
    (added : c.added = l.client.added ++ messages.map Posted.bytes)
    (pongs : messages.filterMap pongOf = more.filterMap nonce?)
    (frames : c.framesReceived = l.client.framesReceived) :
    Linked s first ({ l with host := { l.host with arriving } }.reply c) base (read ++ more) where
  flows := flows.host rfl rfl rfl rfl
  pongs := by
    obtain ⟨mine, posted, answered⟩ := linked.pongs
    have fits : ∀ p ∈ more, p.OnWire := fun p member =>
      (flows.read_sent (List.mem_append_right read member)).1
    have replied : nonces .pong (messages.map Posted.bytes) =
        nonces .ping (more.map WirePacket.encode) := by
      rw [nonces_pong posts, pongs, nonces_ping fits]
    refine ⟨mine ++ messages.map Posted.bytes, ?_, ?_⟩
    · rw [← List.append_assoc, ← posted]
      exact added
    · rw [nonces_append, answered, replied, List.map_append, nonces_append]
  rendering := by
    have before := linked.flows.renders
    have after := flows.renders
    have counted := linked.rendering
    have size : (drawn none (read ++ more)).length =
        (drawn none read).length + (c.renders.length - l.client.renders.length) := by
      obtain ⟨new, grown⟩ := drawn_mono none (List.prefix_append read more)
      rw [after, before, ← grown]
      simp only [List.length_append]
      omega
    simp only [Link.reply, frames, size]
    omega

end Linked

/-- An action that is neither about a packet nor about a decoding error. -/
def Reports : Action → Prop
  | .status _ | .state _ => True
  | .error message => ∀ e, Action.error message = RemoteSessionClient.wireDecodeError e → False
  | _ => False

theorem reports_socketError (error : String) : Reports (.error ("Socket error: " ++ error)) := by
  intro e same
  have letters := congrArg String.toList (Action.error.inj same)
  rw [String.toList_append, String.toList_append] at letters
  have first : 'S' = 'W' := (List.cons.inj letters).1
  exact absurd first (by decide)

namespace Linked
variable {Double : Type} {d : Doubles Double} {clock : Nat → DateTime} {s : Nat}
  {first l next : Link} {base : List Bytes} {read : List WirePacket}

/-- What an action that only reports something leaves alone. -/
theorem act_step (linked : Linked s first l base read) {action : Action}
    (reports : Reports action) :
    Linked s first { l with client := l.client.act action } base read := by
  refine linked.client_step ?_ ?_ ?_ (fun live => ⟨live, rfl, rfl, rfl, rfl⟩) ?_ le_rfl
  · refine RemoteSessionClient.handled_act _ action ?_
    rintro p rfl
    exact reports
  · cases action with
    | renderFrame bytes w h n => exact reports.elim
    | _ => simp [RemoteSessionClient.renders, RemoteSessionClient.act]
  · intro e
    refine List.mem_append.trans (or_iff_left ?_)
    intro member
    rw [← List.mem_singleton.mp member] at reports
    exact reports e rfl
  · cases action with
    | add bytes => exact reports.elim
    | _ => simp [RemoteSessionClient.added, RemoteSessionClient.act]

theorem beginDisconnect_step (linked : Linked s first l base read) :
    Linked s first { l with client := l.client.beginDisconnect } base read := by
  refine linked.client_step rfl rfl (fun _ => .rfl) ?_ rfl le_rfl
  rintro ⟨opened, listening⟩
  obtain ⟨before, other⟩ := List.mem_filter.mp listening
  have held := (linked.flows.held ⟨opened, before⟩).2
  exact absurd held.symm (of_decide_eq_true other)

theorem endDisconnect_step (linked : Linked s first l base read) :
    Linked s first { l with client := l.client.endDisconnect } base read := by
  let closed : RemoteSessionClient :=
    { l.client with
      subscription := none
      opened := l.client.opened.filter fun s => some s ≠ l.client.socket
      socket := none }
  have silent : Linked s first { l with client := closed } base read := by
    refine linked.client_step rfl rfl (fun _ => .rfl) ?_ rfl le_rfl
    rintro ⟨opened, listening⟩
    obtain ⟨before, other⟩ := List.mem_filter.mp opened
    have held := (linked.flows.held ⟨before, listening⟩).1
    exact absurd held.symm (of_decide_eq_true other)
  exact silent.act_step trivial

/-- The user does something, which posts one message or none. -/
theorem input_step {input : UserInput Double} (linked : Linked s first l base read)
    (short : (Label.input input).Short) (now : DateTime) :
    Linked s first (l.reply (l.client.perform d input now)) base read := by
  have nothing : Linked s first (l.reply l.client) base (read ++ []) := by
    refine linked.reply_step ?_ (List.forall_mem_nil _) (List.append_nil _).symm rfl rfl
    rw [List.append_nil]
    exact linked.flows
  rw [List.append_nil] at nothing
  rcases RemoteSessionClient.perform_posted d l.client input now with same | ⟨call, found, same⟩
  · rw [same]
    exact nothing
  · rw [same]
    have fits : ∀ text, input = .clipboard text →
        (Utf8.encode text).length ≤ clipboardLimit := by
      rintro text rfl
      exact short
    obtain ⟨posts, caused⟩ := posts_callOf found fits
    let m : Posted := (call, now)
    let c := l.client.act (.add m.bytes)
    have pongs : [m].filterMap pongOf = [] := by
      cases call with
      | pong nonce => cases caused
      | _ => rfl
    have added : c.added = l.client.added ++ [m].map Posted.bytes := by
      simp [c, RemoteSessionClient.added, RemoteSessionClient.act]
    have flows : Flows s first.client l.host c (read ++ []) := by
      rw [List.append_nil]
      refine linked.flows.client ?_ ?_ ?_ ?_
      · refine RemoteSessionClient.handled_act _ _ ?_
        intro p same
        cases same
      · simp [c, RemoteSessionClient.renders, RemoteSessionClient.act]
      · intro e
        refine List.mem_append.trans (or_iff_left ?_)
        intro member
        cases List.mem_singleton.mp member
      · intro live
        exact ⟨live, rfl, rfl, rfl, rfl⟩
    have step := linked.reply_step flows (List.forall_mem_singleton.mpr posts) added pongs rfl
    rw [List.append_nil] at step
    exact step

/-- Bytes of the host arrive. -/
theorem data_step (linked : Linked s first l base read) (size : Nat) :
    ∃ more, Linked s first
      ({ l with host := { l.host with arriving := l.host.arriving.drop size } }.reply
        (RemoteSessionClient.deliver clock s l.client (l.host.arriving.take size)))
      base (read ++ more) := by
  have parts : l.host.arriving = l.host.arriving.take size ++ l.host.arriving.drop size :=
    (List.take_append_drop size l.host.arriving).symm
  obtain ⟨more, flows, messages, added, calls⟩ := linked.flows.deliver clock parts
  obtain ⟨posts, pongs, _⟩ := pongs_posts calls
  have frames :=
    RemoteSessionClient.deliver_framesReceived clock s l.client (l.host.arriving.take size)
  exact ⟨more, linked.reply_step flows posts added pongs frames⟩

/-- One step of either end. -/
theorem step {label : Label Double} {posted : List Posted} {rest : List Bytes}
    (linked : Linked s first l base read) (up : Upstream base l.host l.client posted rest)
    (sound : l.Sound label) (taken : Link.step d clock s l label = some next) :
    ∃ more, Linked s first next base (read ++ more) := by
  have same {m : Link} (kept : Linked s first m base read) :
      ∃ more, Linked s first m base (read ++ more) := ⟨[], by rwa [List.append_nil]⟩
  cases label with
  | frame encoded metadata payload =>
      cases taken
      exact same (linked.host_step (linked.flows.frame sound.1 sound.2))
  | skip captured =>
      cases taken
      obtain ⟨_, _, skipped, _⟩ := l.host.skip_incoming captured
      rw [skipped]
      exact same (linked.host_step (linked.flows.host rfl rfl rfl rfl))
  | ping now schedule =>
      cases taken
      have small : (makePing now).length < 2 ^ 32 := by simp [makePing, appendU64_eq]
      have shows : MessageType.ping ≠ .videoFrame := by decide
      have stays : MessageType.ping ≠ .disconnect := by decide
      exact same (linked.host_step (linked.flows.send shows stays small sound.1 sound.2))
  | receive a pong =>
      -- the client posts no pings, so that the host sends no pong
      obtain ⟨host, received, rfl⟩ := Option.map_eq_some_iff.mp taken
      obtain ⟨kept, _⟩ := up.receive received
      refine same (linked.host_step ?_)
      rw [kept]
      exact linked.flows.host rfl rfl rfl rfl
  | close =>
      cases taken
      exact same (linked.host_step (linked.flows.host rfl rfl rfl rfl))
  | input input =>
      cases taken
      exact same (linked.input_step sound _)
  | data size =>
      cases taken
      exact linked.data_step size
  | rendered ok =>
      simp only [Link.step] at taken
      split at taken
      · cases taken
      · next waiting =>
          cases taken
          refine same (linked.client_step ?_ ?_ ?_ ?_ ?_ ?_)
          · cases ok <;> rfl
          · cases ok <;> rfl
          · intro e
            cases ok <;> rfl
          · intro live
            cases ok <;> exact ⟨live, rfl, rfl, rfl, rfl⟩
          · cases ok <;> rfl
          · have positive : 0 < l.rendering := Nat.pos_of_ne_zero waiting
            cases ok with
            | false => exact Nat.add_le_add_left (Nat.sub_le _ _) _
            | true =>
                simp only [RemoteSessionClient.rendered, if_true]
                omega
  | socketError error =>
      simp only [Link.step] at taken
      split at taken
      · cases taken
        let listening := l.client.listening.filter (· ≠ s)
        have cancelled :
            Linked s first { l with client := { l.client with listening } } base read := by
          refine linked.client_step rfl rfl (fun _ => .rfl) ?_ rfl le_rfl
          rintro ⟨_, still⟩
          exact absurd rfl (of_decide_eq_true (List.mem_filter.mp still).2)
        have failed : Reports (.state .error) := trivial
        exact same ((cancelled.act_step failed).act_step (reports_socketError error))
      · cases taken
  | socketDone =>
      simp only [Link.step] at taken
      split at taken
      · cases taken
        have reported : Reports (.state .disconnected) := trivial
        have closed : Reports (.status "Connection closed") := trivial
        exact same ((linked.act_step reported).act_step closed).beginDisconnect_step
      · cases taken
  | beginDisconnect =>
      cases taken
      exact same linked.beginDisconnect_step
  | endDisconnect =>
      cases taken
      exact same linked.endDisconnect_step

theorem run {labels : List (Label Double)} {posted : List Posted} {rest : List Bytes}
    (linked : Linked s first l base read) (up : Upstream base l.host l.client posted rest)
    (reached : exec (Link.step d clock s) l labels = some next)
    (sound : Along (Link.step d clock s) (fun m label => m.Sound label) l labels) :
    ∃ read, Linked s first next base read := by
  induction labels generalizing l read posted rest with
  | nil =>
      cases reached
      exact ⟨read, linked⟩
  | cons label labels ih =>
      obtain ⟨m, taken, later⟩ := Transition.exec_cons_some reached
      obtain ⟨more, linked⟩ := linked.step up sound.head taken
      obtain ⟨messages, rest, up, _⟩ := up.step sound.head.short taken
      exact ih linked up later (sound.tail taken)

end Linked

/-- The hello is sent, whole or in part. -/
theorem flows_hello {s : Nat} {start c : RemoteSessionClient} {h : HostEnd}
    {read : List WirePacket} {calls : HelloCalls} (flows : Flows s start h c read)
    (sound : Link.SoundHello h calls) : Flows s start (h.sendHostHello calls) c read := by
  obtain ⟨⟨hello, capabilities, started⟩, first, second, third⟩ := sound
  let helloPacket := makePacket .hello 0 (makeHello 1 1 capabilityMask) calls.helloNow
  let capabilitiesPacket :=
    makePacket .capabilities 0 (makeCapabilities capabilityMask capabilityMask)
      calls.capabilitiesNow
  let greeted := (h.sendAll helloPacket calls.hello).1
  let agreed := (greeted.sendAll capabilitiesPacket calls.capabilities).1
  have helloSent : Flows s start greeted c read := flows.send nofun nofun (by decide) hello first
  have agreedSent : Flows s start agreed c read :=
    helloSent.send nofun nofun (by decide) capabilities second
  exact agreedSent.send nofun nofun (by decide) started third

/-- A connection on which nothing has happened but the two greetings. -/
theorem linked_start {clock : Nat → DateTime} {s : Nat} {transport : Transport}
    {calls : HelloCalls} {host : String} {port : Nat} {earlier : RemoteSessionClient}
    {rendering : Nat} (sound : Link.SoundHello
      { incoming := .start transport
          ((earlier.connect clock host port s).added.drop earlier.added.length).flatten } calls) :
    let first := Link.start clock s transport calls host port earlier rendering
    Linked s first first earlier.added [] := by
  intro first
  let client := earlier.connect clock host port s
  let incoming :=
    Incoming.start transport (client.added.drop earlier.added.length).flatten
  have fits : Delivered (received .ping [] 0) := ⟨received_onWire _ (by decide) 0, nofun⟩
  have nothing : Downstream s client { incoming } client [] (received .ping [] 0) [] [] := by
    refine ⟨List.forall_mem_singleton.mpr fits, List.nil_prefix, fun _ => ⟨rfl, rfl⟩,
      List.nil_prefix, (List.append_nil _).symm, (List.append_nil _).symm, fun _ => .rfl, ?_⟩
    intro _
    exact ⟨rfl, rfl, rfl, Framing.Flow.start (encode_ne_nil _)⟩
  have flows : Flows s client { incoming } client [] := ⟨[], _, [], nothing, rfl⟩
  refine ⟨flows_hello flows sound, ?_, le_rfl⟩
  obtain ⟨posted, rest, up, _, silent⟩ :=
    @upstream_start clock s transport calls host port earlier rendering
  refine ⟨posted.map Posted.bytes, up.added, ?_⟩
  rw [nonces_pong up.posts, silent]
  rfl

section
variable {Double : Type} {d : Doubles Double} {clock : Nat → DateTime} {s : Nat}
  {transport : Transport} {calls : HelloCalls} {host : String} {port : Nat}
  {earlier : RemoteSessionClient} {rendering : Nat} {labels : List (Label Double)} {l : Link}

/-- A run of a connection on which both ends are given what they can take. -/
structure Ran (d : Doubles Double) (clock : Nat → DateTime) (s : Nat) (transport : Transport)
    (calls : HelloCalls) (host : String) (port : Nat) (earlier : RemoteSessionClient)
    (rendering : Nat) (labels : List (Label Double)) (l : Link) : Prop where
  hello : Link.SoundHello
    { incoming := .start transport
        ((earlier.connect clock host port s).added.drop earlier.added.length).flatten } calls
  sound : Along (Link.step d clock s) (fun m label => m.Sound label)
    (Link.start clock s transport calls host port earlier rendering) labels
  reached : exec (Link.step d clock s)
    (Link.start clock s transport calls host port earlier rendering) labels = some l

theorem Ran.upward (ran : Ran d clock s transport calls host port earlier rendering labels l) :
    Upward d clock s transport calls host port earlier rendering labels l := by
  refine ⟨?_, ran.reached⟩
  exact ran.sound.forall_mem ran.reached fun _ _ sound => Link.Sound.short sound

theorem Ran.linked (ran : Ran d clock s transport calls host port earlier rendering labels l) :
    let first := Link.start clock s transport calls host port earlier rendering
    ∃ read, Linked s first l earlier.added read := by
  intro first
  obtain ⟨posted, rest, up, _⟩ :=
    @upstream_start clock s transport calls host port earlier rendering
  exact (linked_start ran.hello).run up ran.reached ran.sound

theorem shortHello_sound :
    Link.SoundHello
      { incoming := .start { socket := some 1 }
          ((RemoteSessionClient.connect epoch "host" 4545 7 {}).added.drop 0).flatten }
      shortHello :=
  ⟨⟨by decide, by decide, by decide⟩, .inl (by decide +kernel), .inl (by decide +kernel),
    .inl (by decide +kernel)⟩

theorem shortVisit_ran :
    ∃ l, Ran Pointing.wholeDoubles epoch 7 { socket := some 1 } shortHello "host" 4545 {} 0
      shortVisit l ∧ (l.client.Live 7 ∧ l.host.Succeeded ∧ l.host.arriving = []) ∧
      (l.host.connected = true ∧ l.host.incoming.wire = []) ∧ l.host.sent.length = 8 ∧
      l.host.frames = [⟨6, 1, 1, 4, 0, [1, 2, 3, 255]⟩,
        ⟨8, 2, 1, 8, 0, [4, 5, 6, 255, 7, 8, 9, 255]⟩] ∧
      nonces .ping l.host.sent = [7] := by
  have ends : (exec (Link.step Pointing.wholeDoubles epoch 7) shortStart shortVisit).map (fun l =>
      decide ((l.client.Live 7 ∧ l.host.Succeeded ∧ l.host.arriving = []) ∧
        (l.host.connected = true ∧ l.host.incoming.wire = []) ∧ l.host.sent.length = 8 ∧
        l.host.frames = [⟨6, 1, 1, 4, 0, [1, 2, 3, 255]⟩,
          ⟨8, 2, 1, 8, 0, [4, 5, 6, 255, 7, 8, 9, 255]⟩] ∧
        nonces .ping l.host.sent = [7])) = some true := by
    decide +kernel
  obtain ⟨l, reached, ends⟩ := Option.map_eq_some_iff.mp ends
  refine ⟨l, ⟨shortHello_sound, ?_, reached⟩, of_decide_eq_true ends⟩
  refine .cons ⟨by decide, .inl (by decide +kernel)⟩ rfl ?_
  refine .cons ⟨by decide, .inl (by decide +kernel)⟩ rfl ?_
  refine .cons ⟨by decide, .inl (by decide +kernel)⟩ rfl ?_
  have rest : ∀ label ∈ shortVisit.drop 3, ∀ m : Link, m.Sound label := by
    simp [shortVisit, Link.Sound, Label.Short]
  rintro before label after m split -
  refine rest label ?_ m
  rw [show shortVisit.drop 3 = _ from split]
  exact List.mem_append_right before List.mem_cons_self

/-- Whatever the order in which the two ends take their steps, the client has handled the first
packets that the host has sent, each once and byte for byte, and has met no other bytes. When
nothing failed and nothing is in flight, a client that still listens has handled them all. -/
theorem client_handles_what_host_sends
    (ran : Ran d clock s transport calls host port earlier rendering labels l) :
    let start := earlier.connect clock host port s
    ∃ read, l.client.handled = start.handled ++ read ∧
      read.map WirePacket.encode <+: l.host.sent ∧
      (∀ e, l.client.Reported e ↔ start.Reported e) ∧
      (l.client.Live s → l.host.Succeeded → l.host.arriving = [] →
        read.map WirePacket.encode = l.host.sent) := by
  obtain ⟨read, linked⟩ := ran.linked
  obtain ⟨frames, extra, tail, down, _⟩ := linked.flows
  refine ⟨read, down.handled, ?_, down.reported, ?_⟩
  · exact (down.front.map WirePacket.encode).trans down.sent
  · intro listening succeeded arrived
    obtain ⟨rfl, all⟩ := down.whole succeeded
    obtain ⟨_, _, _, flow⟩ := down.live listening
    rw [arrived] at flow
    rw [flow.drained, all]

/-- In the visit the client handles all eight packets of the host. -/
theorem client_handles_what_host_sends_visit :
    ∃ l : Link, l.client.handled.map WirePacket.encode = l.host.sent ∧ l.host.sent.length = 8 ∧
      ∀ e, ¬ l.client.Reported e := by
  obtain ⟨l, ran, ⟨live, succeeded, arrived⟩, _, size, _⟩ := shortVisit_ran
  obtain ⟨read, handled, _, reported, all⟩ := client_handles_what_host_sends ran
  have fresh : (RemoteSessionClient.connect epoch "host" 4545 7 {}).handled = [] := rfl
  rw [fresh, List.nil_append] at handled
  refine ⟨l, ?_, size, fun e found => ?_⟩
  · rw [handled]
    exact all live succeeded arrived
  · have start := (reported e).mp found
    simp [RemoteSessionClient.Reported, RemoteSessionClient.connect, RemoteSessionClient.dial,
      RemoteSessionClient.install, RemoteSessionClient.sendInitialHandshake,
      RemoteSessionClient.beginDisconnect, RemoteSessionClient.endDisconnect,
      RemoteSessionClient.act, RemoteSessionClient.wireDecodeError] at start

/-- The frames that the client has been made to render are a front of those sent. -/
theorem Ran.renders (ran : Ran d clock s transport calls host port earlier rendering labels l) :
    ∃ new, l.client.renders = (earlier.connect clock host port s).renders ++ new ∧
      new <+: l.host.frames.map RenderCall.ofFrame ∧
      (l.client.Live s → l.host.Succeeded → l.host.arriving = [] →
        new = l.host.frames.map RenderCall.ofFrame) := by
  obtain ⟨read, linked⟩ := ran.linked
  obtain ⟨frames, extra, tail, down, seen⟩ := linked.flows
  refine ⟨drawn none read, down.renders, ?_, ?_⟩
  · rw [← seen]
    exact drawn_mono none down.front
  · intro listening succeeded arrived
    obtain ⟨rfl, _⟩ := down.whole succeeded
    obtain ⟨_, _, _, flow⟩ := down.live listening
    rw [arrived] at flow
    rw [flow.drained, seen]

/-- The client shows the first frames that the host has sent, each with its own metadata, and
counts no more frames than it has drawn. -/
theorem client_shows_frames_sent
    (ran : Ran d clock s transport calls host port earlier rendering labels l) :
    let start := earlier.connect clock host port s
    ∃ new, l.client.renders = start.renders ++ new ∧
      new <+: l.host.frames.map RenderCall.ofFrame ∧
      l.client.framesReceived ≤ start.framesReceived + rendering + l.host.frames.length ∧
      (l.client.Live s → l.host.Succeeded → l.host.arriving = [] →
        new = l.host.frames.map RenderCall.ofFrame) := by
  obtain ⟨new, same, front, all⟩ := ran.renders
  refine ⟨new, same, front, ?_, all⟩
  obtain ⟨read, linked⟩ := ran.linked
  obtain rfl : new = drawn none read :=
    List.append_cancel_left (same.symm.trans linked.flows.renders)
  have counted := linked.rendering
  have shorter := front.length_le
  rw [List.length_map] at shorter
  have start : (Link.start clock s transport calls host port earlier rendering).rendering =
    rendering := rfl
  have client : (Link.start clock s transport calls host port earlier rendering).client =
    earlier.connect clock host port s := rfl
  rw [start, client] at counted
  omega

/-- In the visit both frames are rendered, each with its own size. -/
theorem client_shows_frames_sent_visit :
    ∃ l : Link, l.client.renders =
        [⟨[1, 2, 3, 255], 1, 1, 4⟩, ⟨[4, 5, 6, 255, 7, 8, 9, 255], 2, 1, 8⟩] ∧
      l.client.framesReceived ≤ 2 := by
  obtain ⟨l, ran, ⟨live, succeeded, arrived⟩, _, _, frames, _⟩ := shortVisit_ran
  obtain ⟨new, same, _, counted, all⟩ := client_shows_frames_sent ran
  have fresh : (RemoteSessionClient.connect epoch "host" 4545 7 {}).renders = [] := rfl
  have zero : (RemoteSessionClient.connect epoch "host" 4545 7 {}).framesReceived = 0 := rfl
  rw [fresh, List.nil_append, all live succeeded arrived, frames] at same
  rw [zero, frames] at counted
  exact ⟨l, same, counted⟩

/-- The pongs that the host has received answer the pings that it has sent, one for one and in
the order of the pings. When nothing failed and nothing is on its way, every ping is answered. -/
theorem pongs_answer_pings
    (ran : Ran d clock s transport calls host port earlier rendering labels l) :
    nonces .pong (l.host.incoming.handled.map Prod.fst) <+: nonces .ping l.host.sent ∧
    (l.client.Live s → l.host.Succeeded → l.host.arriving = [] → l.host.connected = true →
      l.host.incoming.wire = [] →
      nonces .pong (l.host.incoming.handled.map Prod.fst) = nonces .ping l.host.sent) := by
  obtain ⟨read, linked⟩ := ran.linked
  obtain ⟨posted, rest, up, _⟩ := ran.upward.upstream
  obtain ⟨frames, extra, tail, down, _⟩ := linked.flows
  obtain ⟨mine, added, answered⟩ := linked.pongs
  obtain rfl : mine = posted.map Posted.bytes :=
    List.append_cancel_left (added.symm.trans up.added)
  have got : l.host.incoming.handled.map Prod.fst <+: posted.map Posted.bytes := by
    rw [up.split]
    exact List.prefix_append _ _
  have asked : read.map WirePacket.encode <+: l.host.sent :=
    (down.front.map WirePacket.encode).trans down.sent
  constructor
  · refine (nonces_mono .pong got).trans ?_
    rw [answered]
    exact nonces_mono .ping asked
  · intro listening succeeded arrived open_ empty
    obtain ⟨rfl, all⟩ := down.whole succeeded
    obtain ⟨_, _, _, flow⟩ := down.live listening
    rw [arrived] at flow
    rw [up.all_handled open_ empty, answered, flow.drained, all]

/-- The host has received the pong with the nonce of its ping. -/
theorem pongs_answer_pings_visit :
    ∃ l : Link, nonces .ping l.host.sent = [7] ∧
      nonces .pong (l.host.incoming.handled.map Prod.fst) = [7] := by
  obtain ⟨l, ran, ⟨live, succeeded, arrived⟩, ⟨open_, empty⟩, _, _, sent⟩ := shortVisit_ran
  have answered := (pongs_answer_pings ran).2 live succeeded arrived open_ empty
  exact ⟨l, sent, answered.trans sent⟩

end

end Screenscrab.Remote
