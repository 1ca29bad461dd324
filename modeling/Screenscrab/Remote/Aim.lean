import Screenscrab.Remote.Dialogue
import Screenscrab.Remote.Exchange

/-! Where the user points. The client takes the size of the screen from the metadata that has
arrived, while newer frames are on their way. The host moves its pointer to no place outside the
screens that it has captured. -/
namespace Screenscrab.Remote
open Protocol Dart Client Session
open Transition (exec Along)

/-- The client has handled some packets, and what is pending was so before or comes from them. -/
def Hears (c next : RemoteSessionClient) : Prop :=
  ∃ more, next.handled = c.handled ++ more ∧ ∀ m, next.pendingMetadata = some m →
    c.pendingMetadata = some m ∨
      ∃ p ∈ more, p.type = .frameMetadata ∧ RemoteFrameMetadata.fromBytes p.payload = some m

namespace Hears
variable {c middle next : RemoteSessionClient}

theorem of_same (handled : next.handled = c.handled)
    (metadata : next.pendingMetadata = c.pendingMetadata) : Hears c next := by
  refine ⟨[], handled.trans (List.append_nil _).symm, ?_⟩
  intro m pending
  exact .inl (metadata.symm.trans pending)

theorem trans (first : Hears c middle) (second : Hears middle next) : Hears c next := by
  obtain ⟨before, handled, known⟩ := first
  obtain ⟨after, handled', known'⟩ := second
  refine ⟨before ++ after, ?_, ?_⟩
  · rw [handled', handled, List.append_assoc]
  · intro m pending
    rcases known' m pending with old | ⟨p, member, new⟩
    · rcases known m old with older | ⟨p, member, new⟩
      · exact .inl older
      · exact .inr ⟨p, List.mem_append_left after member, new⟩
    · exact .inr ⟨p, List.mem_append_right before member, new⟩

variable (clock : Nat → DateTime)

theorem packet (c : RemoteSessionClient) (p : WirePacket) :
    Hears c (RemoteSessionClient.handlePacket clock c p) := by
  refine ⟨[p], RemoteSessionClient.handlePacket_handled clock c p, ?_⟩
  intro m pending
  cases type : p.type with
  | frameMetadata =>
      cases read : RemoteFrameMetadata.fromBytes p.payload with
      | none =>
          simp only [RemoteSessionClient.handlePacket, type, read] at pending
          exact .inl pending
      | some fresh =>
          simp only [RemoteSessionClient.handlePacket, type, read] at pending
          exact .inr ⟨p, List.mem_singleton_self p, type, read.trans pending⟩
  | videoFrame =>
      left
      cases before : c.pendingMetadata <;>
        simpa only [RemoteSessionClient.handlePacket, type, RemoteSessionClient.act, before]
          using pending
  | ping =>
      simp only [RemoteSessionClient.handlePacket, type] at pending
      split at pending <;> exact .inl pending
  | disconnect =>
      simp only [RemoteSessionClient.handlePacket, type] at pending
      cases pending
  | _ =>
      simp only [RemoteSessionClient.handlePacket, type] at pending
      exact .inl pending

theorem drain (c : RemoteSessionClient) : Hears c (RemoteSessionClient.drain clock c).1 := by
  fun_induction RemoteSessionClient.drain clock c with
  | case1 | case3 | case4 => exact .of_same rfl rfl
  | case2 c long e total =>
      refine .of_same (RemoteSessionClient.handled_act c _ ?_) rfl
      intro p same
      cases same
  | case5 c long n total enough bytes rest p decoded ih =>
      have cut : Hears c rest := .of_same rfl rfl
      exact cut.trans ((packet clock rest p).trans ih)

theorem deliver (s : Nat) (c : RemoteSessionClient) (chunk : Bytes) :
    Hears c (RemoteSessionClient.deliver clock s c chunk) := by
  unfold RemoteSessionClient.deliver
  split
  · have buffered : Hears c { c with buffer := c.buffer ++ chunk } := .of_same rfl rfl
    exact buffered.trans (drain clock _)
  · exact .of_same rfl rfl

end Hears

/-- What a frame and its metadata say of the size of a screen. -/
def Measures (encoded : EncodedFrame) (m : RemoteFrameMetadata) : Prop :=
  m.width = encoded.width.toNat ∧ m.height = encoded.height.toNat

/-- Every metadata packet among those sent is that of a frame in `offered`. -/
def Announced (offered : EncodedFrame → Prop) (sent : List Bytes) : Prop :=
  ∀ p : WirePacket, p.OnWire → p.encode ∈ sent → p.type = .frameMetadata →
    ∃ encoded, offered encoded ∧
      ∀ m, RemoteFrameMetadata.fromBytes p.payload = some m → Measures encoded m

namespace Announced
variable {offered : EncodedFrame → Prop} {sent : List Bytes} {h : HostEnd}

theorem encode_inj {p q : WirePacket} (fits : p.OnWire) (fits' : q.OnWire)
    (same : p.encode = q.encode) : p = q := by
  have first := WirePacket.decode_encode fits []
  have second := WirePacket.decode_encode fits' []
  rw [same, second] at first
  exact (Except.ok.inj first).symm

theorem concat (announced : Announced offered sent) {q : WirePacket} (fits : q.OnWire)
    (known : q.type = .frameMetadata → ∃ encoded, offered encoded ∧
      ∀ m, RemoteFrameMetadata.fromBytes q.payload = some m → Measures encoded m) :
    Announced offered (sent ++ [q.encode]) := by
  intro p onWire member type
  rcases List.mem_append.mp member with old | new
  · exact announced p onWire old type
  · obtain rfl := encode_inj onWire fits (List.mem_singleton.mp new)
    exact known type

/-- A packet that is no metadata is sent. -/
theorem other (announced : Announced offered h.sent) {type : MessageType} {payload : Bytes}
    {now : UInt64} (hidden : type ≠ .frameMetadata) (small : payload.length < 2 ^ 32)
    (onTime : OnTime now) (schedule : List Nat) :
    Announced offered (h.sendAll (makePacket type 0 payload now) schedule).1.sent := by
  rw [makePacket_encode type payload onTime]
  refine announced.concat (received_onWire type small now) ?_
  intro same
  exact absurd same hidden

theorem hello (announced : Announced offered h.sent) {calls : HelloCalls}
    (onTime : HelloOnTime calls) : Announced offered (h.sendHostHello calls).sent := by
  obtain ⟨hello, capabilities, start⟩ := onTime
  have first : MessageType.hello ≠ .frameMetadata := by decide
  have second : MessageType.capabilities ≠ .frameMetadata := by decide
  have third : MessageType.sessionStart ≠ .frameMetadata := by decide
  have helloSize : (makeHello 1 1 capabilityMask).length < 2 ^ 32 := by decide
  have capabilitiesSize : (makeCapabilities capabilityMask capabilityMask).length < 2 ^ 32 := by
    decide
  have greeted := announced.other first helloSize hello calls.hello
  have agreed := greeted.other second capabilitiesSize capabilities calls.capabilities
  exact agreed.other third (by decide) start calls.start

theorem frame (announced : Announced offered h.sent) {encoded : EncodedFrame}
    (known : offered encoded) {metadata payload : List Nat}
    (sendable : Sendable (.frame encoded metadata payload)) :
    Announced offered (h.frame encoded metadata payload).sent := by
  obtain ⟨onTime, small⟩ := sendable
  have first : Announced offered (h.sendAll (Outgoing.metadataPacket encoded) metadata).1.sent := by
    rw [Outgoing.metadataPacket, makePacket_encode _ _ onTime]
    refine announced.concat (received_onWire _ ?_ _) ?_
    · simp [makeFrameMetadata, appendU32_eq, appendU64_eq]
    · intro _
      refine ⟨encoded, known, ?_⟩
      intro m read
      have written := fromBytes_makeFrameMetadata encoded.monitorIndex encoded.width encoded.height
        encoded.strideBytes encoded.timestampUtcUs
      cases written.symm.trans read
      exact ⟨rfl, rfl⟩
  unfold HostEnd.frame HostEnd.sendFrame
  generalize h.sendAll (Outgoing.metadataPacket encoded) metadata = sent at first ⊢
  obtain ⟨middle, ok⟩ := sent
  cases ok with
  | false => exact first
  | true =>
      have second : Announced offered
          (middle.sendAll (Outgoing.framePacket encoded) payload).1.sent :=
        Announced.other first (by decide) (by omega) onTime payload
      dsimp only
      generalize middle.sendAll (Outgoing.framePacket encoded) payload = sent at second ⊢
      obtain ⟨next, ok⟩ := sent
      cases ok with
      | false => exact second
      | true => exact second

end Announced

/-- What has been sent, and what the client takes for the size of the screen, is that of a frame
in `offered`. -/
structure Measured (offered : EncodedFrame → Prop) (l : Link) : Prop where
  announced : Announced offered l.host.sent
  pending : ∀ m, l.client.pendingMetadata = some m → ∃ encoded, offered encoded ∧ Measures encoded m

section
variable {Double : Type} {d : Doubles Double} {clock : Nat → DateTime} {s : Nat}
  {offered : EncodedFrame → Prop} {first l next : Link} {base : List Bytes}
  {read : List WirePacket} {posted : List Posted} {rest : List Bytes}

theorem Measured.data (measured : Measured offered l)
    (linked : Linked s first l base read) (size : Nat)
    (taken : l.step d clock s (.data size) = some next) : Measured offered next := by
  cases taken
  obtain ⟨more, after⟩ := @Linked.data_step clock _ _ _ _ _ linked size
  obtain ⟨more', handled, known⟩ :=
    Hears.deliver clock s l.client (l.host.arriving.take size)
  have same : more' = more := by
    obtain ⟨_, _, _, down, _⟩ := linked.flows
    obtain ⟨_, _, _, down', _⟩ := after.flows
    have same := handled.symm.trans down'.handled
    rw [down.handled, List.append_assoc] at same
    exact List.append_cancel_left (List.append_cancel_left same)
  refine ⟨measured.announced, ?_⟩
  intro m pending
  rcases known m pending with old | ⟨p, member, type, new⟩
  · exact measured.pending m old
  · have inside : p ∈ read ++ more := List.mem_append_right read (same ▸ member)
    obtain ⟨fits, sent⟩ := after.flows.read_sent inside
    obtain ⟨encoded, known, measures⟩ := measured.announced p fits sent type
    exact ⟨encoded, known, measures m new⟩

/-- A step of the client that reads nothing. -/
theorem Measured.client (measured : Measured offered l) {client : RemoteSessionClient}
    {rendering : Nat} (metadata : ∀ m, client.pendingMetadata = some m →
      l.client.pendingMetadata = some m) :
    Measured offered { l with client, rendering } :=
  ⟨measured.announced, fun m pending => measured.pending m (metadata m pending)⟩

theorem Measured.step {label : Label Double} (measured : Measured offered l)
    (up : Upstream base l.host l.client posted rest)
    (linked : Linked s first l base read) (sound : l.Sound label)
    (offers : ∀ encoded metadata payload, label = .frame encoded metadata payload →
      offered encoded)
    (taken : l.step d clock s label = some next) : Measured offered next := by
  cases label with
  | frame encoded metadata payload =>
      cases taken
      exact ⟨measured.announced.frame (offers encoded metadata payload rfl) sound.1,
        measured.pending⟩
  | skip captured =>
      cases taken
      obtain ⟨_, _, skipped, _⟩ := l.host.skip_incoming captured
      rw [skipped]
      exact ⟨measured.announced, measured.pending⟩
  | ping now schedule =>
      cases taken
      have hidden : MessageType.ping ≠ .frameMetadata := by decide
      have small : (makePing now).length < 2 ^ 32 := by simp [makePing, appendU64_eq]
      exact ⟨measured.announced.other hidden small sound.1 schedule, measured.pending⟩
  | receive a pong =>
      obtain ⟨host, received, rfl⟩ := Option.map_eq_some_iff.mp taken
      obtain ⟨kept, _⟩ := up.receive received
      refine ⟨?_, measured.pending⟩
      rw [kept]
      exact measured.announced
  | close =>
      cases taken
      exact ⟨measured.announced, measured.pending⟩
  | input input =>
      cases taken
      refine ⟨measured.announced, ?_⟩
      intro m pending
      refine measured.pending m ?_
      rcases RemoteSessionClient.perform_posted d l.client input
        (clock l.client.trace.length) with same | ⟨call, _, same⟩
      · rw [Link.reply, same] at pending
        exact pending
      · rw [Link.reply, same] at pending
        exact pending
  | data size => exact measured.data linked size taken
  | rendered ok =>
      simp only [Link.step] at taken
      split at taken
      · cases taken
      · cases taken
        refine measured.client ?_
        cases ok <;> exact fun m pending => pending
  | socketError error =>
      simp only [Link.step] at taken
      split at taken
      · cases taken
        exact measured.client fun m pending => pending
      · cases taken
  | socketDone =>
      simp only [Link.step] at taken
      split at taken
      · cases taken
        refine measured.client ?_
        intro m pending
        cases pending
      · cases taken
  | beginDisconnect =>
      cases taken
      refine measured.client ?_
      intro m pending
      cases pending
  | endDisconnect =>
      cases taken
      exact measured.client fun m pending => pending

end

/-- A place on a screen of that size. -/
def Inside (x y : Int) (width height : Nat) : Prop :=
  (0 ≤ x ∧ x < width) ∧ 0 ≤ y ∧ y < height

/-- The host reads a place as it was sent. -/
theorem Inside.received {x y : Int} {width height : Nat} (inside : Inside x y width height)
    (wide : width < 2 ^ 31) (high : height < 2 ^ 31) :
    Inside (x.bmod (2 ^ 32)) (y.bmod (2 ^ 32)) width height := by
  have same {n : Int} (natural : 0 ≤ n) (small : n < 2 ^ 31) : n.bmod (2 ^ 32) = n :=
    (bmod_eq_iff ⟨natural, by omega⟩ ⟨natural, by omega⟩).mpr ⟨rfl, small⟩
  obtain ⟨⟨left, right⟩, top, bottom⟩ := inside
  rw [same left (by omega), same top (by omega)]
  exact ⟨⟨left, right⟩, top, bottom⟩

section
variable {Double : Type} {d : Doubles Double}

variable {clock : Nat → DateTime} {s : Nat}

variable {transport : Transport} {calls : HelloCalls} {host : String} {port : Nat}
  {earlier : RemoteSessionClient} {rendering : Nat} {labels : List (Label Double)} {l : Link}

/-- A frame of the run. -/
def Offered (labels : List (Label Double)) (encoded : EncodedFrame) : Prop :=
  ∃ metadata payload, .frame encoded metadata payload ∈ labels

theorem Ran.measured {before after : List (Label Double)} {m : Link}
    (ran : Ran d clock s transport calls host port earlier rendering (before ++ after) l)
    (reached : exec (Link.step d clock s)
      (Link.start clock s transport calls host port earlier rendering) before = some m) :
    Measured (Offered (before ++ after)) m := by
  let I (m : Link) : Prop := Measured (Offered (before ++ after)) m ∧
    (∃ posted rest, Upstream earlier.added m.host m.client posted rest) ∧
    ∃ read, Linked s (Link.start clock s transport calls host port earlier rendering) m
      earlier.added read
  have keep : ∀ m label next, I m → m.Sound label ∧ label ∈ before →
      m.step d clock s label = some next → I next := by
    rintro m label next ⟨measured, ⟨posted, rest, up⟩, read, linked⟩ ⟨sound, member⟩ taken
    obtain ⟨messages, rest', up', _⟩ := up.step sound.short taken
    obtain ⟨more, linked'⟩ := linked.step up sound taken
    refine ⟨measured.step up linked sound ?_ taken, ⟨_, rest', up'⟩, _, linked'⟩
    rintro encoded metadata payload rfl
    exact ⟨metadata, payload, List.mem_append_left after member⟩
  obtain ⟨posted, rest, up, _⟩ :=
    @upstream_start clock s transport calls host port earlier rendering
  have silent : Announced (Offered (before ++ after)) [] := by
    intro p _ member
    cases member
  have begun : I (Link.start clock s transport calls host port earlier rendering) := by
    refine ⟨⟨Announced.hello silent ran.hello.1, ?_⟩, ⟨posted, rest, up⟩, [],
      linked_start ran.hello⟩
    intro m pending
    have fresh : (earlier.connect clock host port s).pendingMetadata = none := by
      unfold RemoteSessionClient.connect RemoteSessionClient.install
        RemoteSessionClient.sendInitialHandshake
      rfl
    cases fresh.symm.trans pending
  have along := ran.sound.left.and (.of_mem fun label member => member)
  exact (Transition.exec_along keep begun reached along).1

end
end Screenscrab.Remote
