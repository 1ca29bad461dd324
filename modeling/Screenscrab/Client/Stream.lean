import Screenscrab.Client.Session
import Screenscrab.Library.Framing

/-! What the client makes of a stream of packets, however it is cut into chunks. -/
namespace Screenscrab.Client.RemoteSessionClient
open Dart

/-- One turn of the loop, when the buffer begins with all that its header announces. -/
theorem drain_turn (clock : Nat → DateTime) {c : RemoteSessionClient} {front rest : Bytes}
    (split : c.buffer = front ++ rest)
    (total : WirePacket.totalLength c.buffer = .ok front.length) :
    drain clock c =
      match WirePacket.decode front with
      | .error e => ({ c with buffer := rest }, some e)
      | .ok packet => drain clock (handlePacket clock { c with buffer := rest } packet) := by
  have size : c.buffer.length = front.length + rest.length := by
    rw [split, List.length_append]
  have long := totalLength_ge total
  conv_lhs => rw [drain]
  rw [if_neg (by omega)]
  split
  · next e thrown => rw [total] at thrown; cases thrown
  · next n found =>
      obtain rfl : front.length = n := Except.ok.inj (total.symm.trans found)
      rw [if_neg (by omega)]
      cases decoded : WirePacket.decode front <;>
        simp only [split, List.take_left, List.drop_left, decoded]

theorem drain_packet (clock : Nat → DateTime) {c : RemoteSessionClient} {packet : WirePacket}
    (fits : packet.OnWire) {rest : Bytes} (front : c.buffer = packet.encode ++ rest) :
    drain clock c = drain clock (handlePacket clock { c with buffer := rest } packet) := by
  have total := WirePacket.totalLength_encode fits rest
  have whole := WirePacket.decode_encode fits []
  rw [List.append_nil] at whole
  rw [← front] at total
  rw [drain_turn clock front total, whole]

theorem drain_incomplete (clock : Nat → DateTime) {c : RemoteSessionClient} {packet : WirePacket}
    (fits : packet.OnWire) (front : Framing.Incomplete WirePacket.encode packet c.buffer) :
    drain clock c = (c, none) := by
  have short := front.length_lt
  obtain ⟨missing, _, whole⟩ := front
  rw [drain]
  split
  · rfl
  · next long =>
      have total := WirePacket.totalLength_prefix fits whole (Nat.le_of_not_lt long)
      split
      · next e thrown => rw [total] at thrown; cases thrown
      · next n found =>
          obtain rfl : packet.encode.length = n := Except.ok.inj (total.symm.trans found)
          rw [if_pos short]

/-- Handling a list of packets in order; a disconnect packet is the last one. -/
def handleUntil (clock : Nat → DateTime) (c : RemoteSessionClient) :
    List WirePacket → RemoteSessionClient
  | [] => c
  | p :: rest =>
    if p.type = .disconnect then handlePacket clock c p
    else handleUntil clock (handlePacket clock c p) rest

/-- The packets up to and including the first disconnect packet. -/
def untilDisconnect : List WirePacket → List WirePacket
  | [] => []
  | p :: rest => if p.type = .disconnect then [p] else p :: untilDisconnect rest

def Disconnects (packets : List WirePacket) : Prop := ∃ p ∈ packets, p.type = .disconnect

instance (packets : List WirePacket) : Decidable (Disconnects packets) :=
  inferInstanceAs (Decidable (∃ p ∈ packets, p.type = .disconnect))

/-- The client when `packets` and then a front of a further packet have arrived. -/
def after (clock : Nat → DateTime) (c : RemoteSessionClient) (packets : List WirePacket)
    (part : Bytes) : RemoteSessionClient :=
  { handleUntil clock c packets with buffer := if Disconnects packets then [] else part }

theorem disconnects_cons {p : WirePacket} (rest : List WirePacket) (other : p.type ≠ .disconnect) :
    Disconnects (p :: rest) ↔ Disconnects rest := by
  simp only [Disconnects, List.mem_cons, exists_eq_or_imp, other, false_or]

theorem disconnects_head {p : WirePacket} (rest : List WirePacket) (last : p.type = .disconnect) :
    Disconnects (p :: rest) := ⟨p, List.mem_cons_self, last⟩

theorem disconnects_append {before more : List WirePacket} :
    Disconnects (before ++ more) ↔ Disconnects before ∨ Disconnects more := by
  simp only [Disconnects, List.mem_append, or_and_right, exists_or]

theorem not_disconnects_nil : ¬ Disconnects [] := by
  rintro ⟨p, member, _⟩
  cases member

/-- Only a disconnect packet looks at the buffer, and only to clear it; no packet looks at
the number of frames. -/
theorem handlePacket_with (clock : Nat → DateTime) (c : RemoteSessionClient) (p : WirePacket)
    (bytes : Bytes) (frames : Nat) :
    handlePacket clock { c with buffer := bytes, framesReceived := frames } p =
      { handlePacket clock c p with
        buffer := if p.type = .disconnect then [] else bytes
        framesReceived := frames } := by
  unfold handlePacket
  cases p.type with
  | frameMetadata =>
      dsimp only
      cases RemoteFrameMetadata.fromBytes p.payload <;> rfl
  | videoFrame =>
      dsimp only [act]
      cases c.pendingMetadata <;> rfl
  | ping => dsimp only [act]; split <;> rfl
  | _ => rfl

theorem handlePacket_framesReceived (clock : Nat → DateTime) (c : RemoteSessionClient)
    (p : WirePacket) : (handlePacket clock c p).framesReceived = c.framesReceived := by
  unfold handlePacket
  cases p.type with
  | frameMetadata =>
      dsimp only
      cases RemoteFrameMetadata.fromBytes p.payload <;> rfl
  | videoFrame =>
      dsimp only [act]
      cases c.pendingMetadata <;> rfl
  | ping => dsimp only [act]; split <;> rfl
  | _ => rfl

theorem handlePacket_with_buffer (clock : Nat → DateTime) (c : RemoteSessionClient)
    (p : WirePacket) (bytes : Bytes) :
    handlePacket clock { c with buffer := bytes } p =
      { handlePacket clock c p with buffer := if p.type = .disconnect then [] else bytes } := by
  let put (frames : Nat) : RemoteSessionClient :=
    { handlePacket clock c p with
      buffer := if p.type = .disconnect then [] else bytes
      framesReceived := frames }
  have kept : put c.framesReceived = put (handlePacket clock c p).framesReceived :=
    congrArg put (handlePacket_framesReceived clock c p).symm
  exact (handlePacket_with clock c p bytes c.framesReceived).trans kept

theorem handlePacket_with_frames (clock : Nat → DateTime) (c : RemoteSessionClient)
    (p : WirePacket) (frames : Nat) :
    handlePacket clock { c with framesReceived := frames } p =
      { handlePacket clock c p with framesReceived := frames } := by
  have both := handlePacket_with clock c p c.buffer frames
  rw [← handlePacket_buffer clock c p] at both
  exact both

theorem handleUntil_with_frames (clock : Nat → DateTime) (frames : Nat) (packets : List WirePacket)
    (c : RemoteSessionClient) :
    handleUntil clock { c with framesReceived := frames } packets =
      { handleUntil clock c packets with framesReceived := frames } := by
  induction packets generalizing c with
  | nil => rfl
  | cons p packets ih =>
      simp only [handleUntil, handlePacket_with_frames]
      split
      · rfl
      · exact ih (handlePacket clock c p)

theorem drain_empty (clock : Nat → DateTime) {c : RemoteSessionClient} (empty : c.buffer = []) :
    drain clock c = (c, none) := by
  rw [drain, if_pos (by rw [empty]; decide)]

theorem drain_packets (clock : Nat → DateTime) {packets : List WirePacket}
    (fits : ∀ p ∈ packets, p.OnWire) {extra : WirePacket} (extraFits : extra.OnWire) {part : Bytes}
    (incomplete : Framing.Incomplete WirePacket.encode extra part) (c : RemoteSessionClient) :
    drain clock { c with buffer := packets.flatMap WirePacket.encode ++ part } =
      (after clock c packets part, none) := by
  induction packets generalizing c with
  | nil => exact drain_incomplete clock extraFits incomplete
  | cons p packets ih =>
      have rest := ih (fun q member => fits q (List.mem_cons_of_mem p member))
      let left := packets.flatMap WirePacket.encode ++ part
      have head :
          drain clock { c with buffer := (p :: packets).flatMap WirePacket.encode ++ part } =
          drain clock (handlePacket clock { c with buffer := left } p) :=
        drain_packet clock (fits p List.mem_cons_self) (List.append_assoc ..)
      rw [head, handlePacket_with_buffer]
      by_cases last : p.type = .disconnect
      · rw [if_pos last, drain_empty clock rfl]
        simp only [after, handleUntil, if_pos last, if_pos (disconnects_head packets last)]
      · rw [if_neg last, rest (handlePacket clock c p)]
        simp only [after, handleUntil, if_neg last, disconnects_cons packets last]

theorem handleUntil_append (clock : Nat → DateTime) (c : RemoteSessionClient)
    (packets more : List WirePacket) :
    handleUntil clock c (packets ++ more) =
      if Disconnects packets then handleUntil clock c packets
      else handleUntil clock (handleUntil clock c packets) more := by
  induction packets generalizing c with
  | nil => rfl
  | cons p packets ih =>
      simp only [List.cons_append, handleUntil]
      by_cases last : p.type = .disconnect
      · rw [if_pos last, if_pos (disconnects_head packets last), if_pos last]
      · rw [if_neg last, if_neg last, ih]
        simp only [disconnects_cons packets last]

/-- The sockets are left alone; a disconnect packet ends the held subscription. -/
theorem handlePacket_listening (clock : Nat → DateTime) (c : RemoteSessionClient)
    (p : WirePacket) :
    (handlePacket clock c p).socket = c.socket ∧
    (handlePacket clock c p).opened = c.opened ∧
    (handlePacket clock c p).subscription = c.subscription ∧
    (handlePacket clock c p).listening =
      if p.type = .disconnect then c.listening.filter fun s => some s ≠ c.subscription
      else c.listening := by
  unfold handlePacket
  cases p.type with
  | frameMetadata =>
      dsimp only
      cases RemoteFrameMetadata.fromBytes p.payload <;> exact ⟨rfl, rfl, rfl, rfl⟩
  | videoFrame =>
      dsimp only [act]
      cases c.pendingMetadata <;> exact ⟨rfl, rfl, rfl, rfl⟩
  | ping => dsimp only [act]; split <;> exact ⟨rfl, rfl, rfl, rfl⟩
  | _ => exact ⟨rfl, rfl, rfl, rfl⟩

/-- The connection listens until the first disconnect packet, and not after it. -/
theorem handleUntil_listening (clock : Nat → DateTime) {s : Nat} {c : RemoteSessionClient}
    (live : s ∈ c.opened ∧ s ∈ c.listening) (subscribed : c.subscription = some s)
    (packets : List WirePacket) :
    (s ∈ (handleUntil clock c packets).opened ∧ s ∈ (handleUntil clock c packets).listening) ↔
      ¬ Disconnects packets := by
  induction packets generalizing c with
  | nil => exact ⟨fun _ => not_disconnects_nil, fun _ => live⟩
  | cons p packets ih =>
      obtain ⟨_, opened, subscription, listening⟩ := handlePacket_listening clock c p
      by_cases last : p.type = .disconnect
      · simp only [handleUntil, if_pos last, listening, disconnects_head packets last,
          List.mem_filter, subscribed, ne_eq, not_true_eq_false, decide_false, Bool.false_eq_true,
          and_false]
      · rw [if_neg last] at listening
        simp only [handleUntil, if_neg last, disconnects_cons packets last]
        exact ih (by rw [opened, listening]; exact live) (subscription.trans subscribed)

/-- Any chunks of some packets and of an incomplete one leave the client as if each packet had
been handled on its own, up to the number of frames that the answers in between count. -/
theorem arrivals_after (clock : Nat → DateTime) {s : Nat} {c : RemoteSessionClient}
    (live : s ∈ c.opened ∧ s ∈ c.listening) (subscribed : c.subscription = some s)
    (empty : c.buffer = []) {packets : List WirePacket} (fits : ∀ p ∈ packets, p.OnWire)
    {extra : WirePacket} (extraFits : extra.OnWire) {tail : Bytes}
    (incomplete : Framing.Incomplete WirePacket.encode extra tail) {arrivals : List Arrival}
    (whole : arrivals.flatMap Arrival.bytes = packets.flatMap WirePacket.encode ++ tail) :
    ∃ frames, arrivals.foldl (arrive clock s) c =
      { after clock c packets tail with framesReceived := frames } := by
  let Reads (d : RemoteSessionClient) (before : List WirePacket) (part : Bytes) : Prop :=
    ∃ frames, d = { after clock c before part with framesReceived := frames }
  have start : Reads c [] [] := by
    refine ⟨c.framesReceived, ?_⟩
    simp only [after, handleUntil, if_neg not_disconnects_nil, ← empty]
  have strict : Framing.Incomplete WirePacket.encode (Framing.next extra packets) [] := by
    refine ⟨(Framing.next extra packets).encode, ?_, rfl⟩
    exact List.ne_nil_of_length_pos (by rw [WirePacket.encode_length]; omega)
  suffices event : ∀ d before part e more left f, (∀ g ∈ more, g ∈ packets) →
      f ∈ extra :: packets → Framing.Incomplete WirePacket.encode (Framing.next f more) part →
      Framing.Incomplete WirePacket.encode f left →
      part ++ Arrival.bytes e = more.flatMap WirePacket.encode ++ left → Reads d before part →
      Reads (arrive clock s d e) (before ++ more) left from
    Framing.chunks_rule incomplete event start (fun _ member => member) whole strict
  rintro d before part e more left f inside upcoming old short arrived ⟨frames, rfl⟩
  cases e with
  | rendered ok =>
      simp only [Arrival.bytes, List.append_nil] at arrived
      obtain rfl : more = [] := old.holds_none arrived
      obtain rfl : part = left := arrived
      rw [List.append_nil]
      refine ⟨if ok then frames + 1 else frames, ?_⟩
      cases ok <;> rfl
  | chunk bytes =>
      have fitsMore : ∀ p ∈ more, p.OnWire := fun p member => fits p (inside p member)
      have fitsNext : f.OnWire := by
        rcases List.mem_cons.mp upcoming with rfl | member
        · exact extraFits
        · exact fits f member
      have listens := handleUntil_listening clock live subscribed before
      refine ⟨frames, ?_⟩
      by_cases ended : Disconnects before
      · have dead : ¬ (s ∈ (after clock c before part).opened ∧
            s ∈ (after clock c before part).listening) := fun still => listens.mp still ended
        rw [arrive, deliver, if_neg dead]
        simp only [after, handleUntil_append, if_pos ended,
          if_pos (disconnects_append.mpr (.inl ended))]
      · have alive : s ∈ (after clock c before part).opened ∧
            s ∈ (after clock c before part).listening := listens.mpr ended
        have read := drain_packets clock fitsMore fitsNext short
          { handleUntil clock c before with framesReceived := frames }
        have rest : Disconnects (before ++ more) ↔ Disconnects more := by
          rw [disconnects_append, or_iff_right ended]
        have bytesArrived : part ++ bytes = more.flatMap WirePacket.encode ++ left := arrived
        rw [arrive, deliver, if_pos alive, onData]
        simp only [after, if_neg ended, bytesArrived, handleUntil_append, rest,
          handleUntil_with_frames] at read ⊢
        rw [read]

theorem handlePacket_handled (clock : Nat → DateTime) (c : RemoteSessionClient)
    (p : WirePacket) : (handlePacket clock c p).handled = c.handled ++ [p] := by
  unfold handlePacket
  cases p.type with
  | frameMetadata =>
      dsimp only
      cases RemoteFrameMetadata.fromBytes p.payload <;> simp [handled, act]
  | videoFrame =>
      dsimp only [act]
      cases c.pendingMetadata <;> simp [handled]
  | ping => dsimp only [act]; split <;> simp [handled]
  | _ => simp [handled, act, beginDisconnect]

theorem handleUntil_handled (clock : Nat → DateTime) (packets : List WirePacket)
    (c : RemoteSessionClient) :
    (handleUntil clock c packets).handled = c.handled ++ untilDisconnect packets := by
  induction packets generalizing c with
  | nil => exact (List.append_nil _).symm
  | cons p packets ih =>
      simp only [handleUntil, untilDisconnect]
      split
      · exact handlePacket_handled clock c p
      · rw [ih, handlePacket_handled, List.append_assoc]
        rfl

/-- A connection that `connect` has just made: its socket is open and listened to, and
nothing of an earlier one is left in the buffer. -/
theorem connect_fresh (clock : Nat → DateTime) (host : String) (port s : Nat)
    (c : RemoteSessionClient) :
    (s ∈ (connect clock host port s c).opened ∧ s ∈ (connect clock host port s c).listening) ∧
    (connect clock host port s c).subscription = some s ∧
    (connect clock host port s c).buffer = [] :=
  ⟨⟨List.mem_cons_self, List.mem_cons_self⟩, rfl, rfl⟩

/-- However the encodings of some packets and a strict front of one more are cut into chunks, the
packets handled on the connection are these, up to the first disconnect packet; without one,
the front is what the buffer holds in the end. -/
theorem chunks_handled_in_order (clock : Nat → DateTime) (host : String) (port s : Nat)
    (earlier : RemoteSessionClient) {packets : List WirePacket} (fits : ∀ p ∈ packets, p.OnWire)
    {extra : WirePacket} (extraFits : extra.OnWire) {tail : Bytes}
    (incomplete : Framing.Incomplete WirePacket.encode extra tail) {arrivals : List Arrival}
    (whole : arrivals.flatMap Arrival.bytes = packets.flatMap WirePacket.encode ++ tail) :
    let start := connect clock host port s earlier
    let finish := arrivals.foldl (arrive clock s) start
    finish.handled = start.handled ++ untilDisconnect packets ∧
    (¬ Disconnects packets → finish.buffer = tail) := by
  intro start finish
  obtain ⟨live, subscribed, empty⟩ := connect_fresh clock host port s earlier
  obtain ⟨frames, same⟩ :=
    arrivals_after clock live subscribed empty fits extraFits incomplete whole
  have reached : finish = { after clock start packets tail with framesReceived := frames } := same
  rw [reached]
  refine ⟨handleUntil_handled clock packets start, ?_⟩
  intro stays
  exact if_neg stays

/-- A hello packet in two chunks, the second of which begins the packet after it. -/
theorem chunks_handled_in_order_split :
    let clock : Nat → DateTime := fun _ => ⟨0, by decide⟩
    let hello : WirePacket := { type := .hello, payload := [1, 0], timestampUtc := clock 0 }
    let start := connect clock "host" 4545 7 {}
    let finish := [Arrival.chunk (hello.encode.take 10), .rendered true,
      .chunk (hello.encode.drop 10 ++ [0x42])].foldl (arrive clock 7) start
    finish.handled = start.handled ++ untilDisconnect [hello] ∧
    (¬ Disconnects [hello] → finish.buffer = [0x42]) := by
  intro clock hello start finish
  have helloFits : hello.OnWire := ⟨by decide, by decide⟩
  have incomplete : Framing.Incomplete WirePacket.encode hello [0x42] :=
    ⟨hello.encode.drop 1, by decide, by decide⟩
  exact chunks_handled_in_order clock "host" 4545 7 {} (List.forall_mem_singleton.mpr helloFits)
    helloFits incomplete (by decide)

end Screenscrab.Client.RemoteSessionClient
