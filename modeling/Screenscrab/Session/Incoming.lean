import Screenscrab.Session.Transport
import Screenscrab.Library.Transition

/-! The receive loop of the host, `process_incoming_packets`, with the handlers it
dispatches to. `none` is an access outside a span; what a client sends is the wire. -/
namespace Screenscrab.Session
open Protocol
open LittleEndian (word word_append)

/-- The one call a handler makes, whose result the handler returns. -/
inductive HandlerCall where
  | scroll (wheelDelta : Int)
  | mouseButton (down : Bool) (button : UInt32)
  | moveMouse (x y : Int)
  | key (down : Bool) (virtualKey : UInt16)
  | setText (text : Bytes)
  | sendPong (packet : Bytes)
  deriving DecidableEq, Repr

inductive Handling where
  | returns (result : Bool)
  | calls (call : HandlerCall)
  | invalid
  | disconnects
  deriving DecidableEq, Repr

/-- The settings the handlers read and the clock of the pong. -/
structure Settings where
  inputEnabled : Bool
  clipboardEnabled : Bool
  nowMicros : UInt64

def handleInputPacket (s : Settings) (payload : Bytes) : Option Handling :=
  if ¬ s.inputEnabled then some (.returns true)
  else if payload.length < 4 then some (.returns false)
  else do
    let kind ← readU32 payload 0
    if kind = 0 then
      if payload.length < 24 then return .returns false
      let x := (← readU32 payload 4).toInt32
      let y := (← readU32 payload 8).toInt32
      let wheelDelta := (← readU32 payload 12).toInt32
      let buttons ← readU32 payload 16
      let flags ← readU32 payload 20
      if flags &&& 0x4 ≠ 0 ∨ wheelDelta ≠ 0 then return .calls (.scroll wheelDelta.toInt)
      if flags &&& 0x2 ≠ 0 then return .calls (.mouseButton (flags &&& 0x1 ≠ 0) buttons)
      return .calls (.moveMouse x.toInt y.toInt)
    if kind = 1 then
      if payload.length < 16 then return .returns false
      let virtualKey ← readU32 payload 4
      let flags ← readU32 payload 12
      return .calls (.key (flags &&& 0x1 ≠ 0) virtualKey.toUInt16)
    return .returns false

def handleClipboardPacket (s : Settings) (payload : Bytes) : Option Handling :=
  if ¬ s.clipboardEnabled ∨ payload.length < 4 then some (.returns true)
  else do
    let format ← readU32 payload 0
    if format ≠ 1 then return .returns true
    return .calls (.setText (payload.drop 4))

def handlePingPacket (s : Settings) (payload : Bytes) : Option Handling :=
  if payload.length < 8 then some (.returns false)
  else do
    let nonce ← readU64 payload 0
    return .calls (.sendPong (makePacket .pong 0 (makePong nonce) s.nowMicros))

/-- The `switch` of `handle_packet`. -/
def dispatch (s : Settings) (view : WirePacketView) : Option Handling :=
  match view.type with
  | .inputEvent => handleInputPacket s view.payload
  | .clipboardSync => handleClipboardPacket s view.payload
  | .ping => handlePingPacket s view.payload
  | .disconnect => some .disconnects
  | _ => some (.returns true)

def handlePacket (s : Settings) (packet : Bytes) : Option Handling := do
  match ← parsePacket packet with
  | none => return .invalid
  | some view => dispatch s view

/-! The length guard of each handler covers every word it reads. -/

theorem handleInputPacket_some (s : Settings) (payload : Bytes) :
    ∃ handling, handleInputPacket s payload = some handling := by
  unfold handleInputPacket
  split
  · exact ⟨_, rfl⟩
  · split
    · exact ⟨_, rfl⟩
    · rw [readU32_eq (by omega)]
      simp only [Option.bind_eq_bind, Option.bind_some, Option.pure_def]
      split
      · split
        · exact ⟨_, rfl⟩
        · rw [readU32_eq (by omega), readU32_eq (by omega), readU32_eq (by omega),
            readU32_eq (by omega), readU32_eq (by omega)]
          simp only [Option.bind_some]
          split
          · exact ⟨_, rfl⟩
          · split <;> exact ⟨_, rfl⟩
      · split
        · split
          · exact ⟨_, rfl⟩
          · rw [readU32_eq (by omega), readU32_eq (by omega)]
            exact ⟨_, rfl⟩
        · exact ⟨_, rfl⟩

theorem handleClipboardPacket_some (s : Settings) (payload : Bytes) :
    ∃ handling, handleClipboardPacket s payload = some handling := by
  unfold handleClipboardPacket
  split
  · exact ⟨_, rfl⟩
  · next guarded =>
      push Not at guarded
      rw [readU32_eq (by omega)]
      simp only [Option.bind_eq_bind, Option.bind_some, Option.pure_def]
      split <;> exact ⟨_, rfl⟩

theorem handlePingPacket_some (s : Settings) (payload : Bytes) :
    ∃ handling, handlePingPacket s payload = some handling := by
  unfold handlePingPacket
  split
  · exact ⟨_, rfl⟩
  · rw [readU64_eq (by omega)]
    exact ⟨_, rfl⟩

theorem dispatch_some (s : Settings) (view : WirePacketView) :
    ∃ handling, dispatch s view = some handling := by
  unfold dispatch
  split
  · exact handleInputPacket_some s view.payload
  · exact handleClipboardPacket_some s view.payload
  · exact handlePingPacket_some s view.payload
  · exact ⟨_, rfl⟩
  · exact ⟨_, rfl⟩

/-- What the calls of one iteration answer. The schedules bound each `recv`. -/
structure Answers where
  stopRequested : Bool
  poll : Except Int32 Bool
  header : List Nat
  payload : List Nat
  settings : Settings
  callResult : Bool

/-- What `handle_packet` returns, which is for a call what that returns. -/
def returned (a : Answers) (packet : Bytes) : Option Bool :=
  (handlePacket a.settings packet).map fun
    | .returns result => result
    | .calls _ => a.callResult
    | .invalid | .disconnects => false

/-- The call that the handler of a packet makes. -/
def callOf (handed : Bytes × Settings) : Option HandlerCall :=
  match handlePacket handed.2 handed.1 with
  | some (.calls call) => some call
  | _ => none

/-- One connection: the bytes still to come, those received, and, in order, the
arguments and results of `handle_packet`, the calls of the handlers and the errors. -/
structure Incoming where
  transport : Transport
  wire : Bytes
  consumed : Bytes := []
  handled : List (Bytes × Bool) := []
  calls : List HandlerCall := []
  errors : List (Int32 × Bytes) := []

namespace Incoming

def receiveAll (c : Incoming) (want : Nat) (schedule : List Nat) : Incoming × Option Bytes :=
  let (data, left) :=
    if c.transport.connected then receiveExact want c.wire schedule else (none, c.wire)
  let (transport, data) := c.transport.receiveAll data
  let taken := c.wire.take (c.wire.length - left.length)
  ({ c with transport, wire := left, consumed := c.consumed ++ taken }, data)

def applyError (c : Incoming) (code : Int32) (message : Bytes) : Incoming :=
  { c with errors := c.errors ++ [(code, message)] }

def disconnect (c : Incoming) : Incoming := { c with transport := c.transport.disconnect }

/-- Lines 278 to 281: the packet is handled once and a `false` ends the session. -/
def handle (c : Incoming) (a : Answers) (packet : Bytes) : Option Incoming := do
  let (c, result) ← match ← handlePacket a.settings packet with
    | .returns result => some (c, result)
    | .calls call => some ({ c with calls := c.calls ++ [call] }, a.callResult)
    | .invalid => some (c.applyError (-8) (ascii "invalid packet"), false)
    | .disconnects => some (c.disconnect, false)
  let c := { c with handled := c.handled ++ [(packet, result)] }
  return if result then c else c.disconnect

/-- The body of the loop, entered with a readable connection. -/
def receivePacket (c : Incoming) (a : Answers) : Option Incoming := do
  match c.receiveAll 24 a.header with
  | (c, none) =>
    return (c.applyError c.transport.lastError (ascii "packet header receive failed")).disconnect
  | (c, some header) =>
    let magic ← readU32 header 0
    let version ← readU16 header 4
    if magic.toNat ≠ wireMagic ∨ version.toNat ≠ wireVersion then
      return (c.applyError (-6) (ascii "wire header mismatch")).disconnect
    let payloadSize ← readU32 header 12
    if payloadSize > 1024 * 1024 then
      return (c.applyError (-7) (ascii "packet payload too large")).disconnect
    let packetBytes := header ++ List.replicate ((24 + payloadSize).toNat - header.length) 0
    if payloadSize = 0 then
      c.handle a packetBytes
    else
      let span ← subspan packetBytes 24 payloadSize.toNat
      match c.receiveAll span.length a.payload with
      | (c, none) =>
        return (c.applyError c.transport.lastError
          (ascii "packet payload receive failed")).disconnect
      | (c, some payload) => c.handle a (header ++ payload)

/-- The condition of the loop, with the error `poll_readable` may store. -/
def awaits (c : Incoming) (a : Answers) : Incoming × Bool :=
  if a.stopRequested ∨ ¬ c.transport.connected then (c, false)
  else
    let (transport, ready) := c.transport.pollReadable a.poll
    ({ c with transport }, ready)

def processIncomingPackets (c : Incoming) : List Answers → Option Incoming
  | [] => some c
  | a :: rest =>
    match c.awaits a with
    | (c, false) => some c
    | (c, true) => (c.receivePacket a).bind fun c => c.processIncomingPackets rest

/-- What happens to a connection: an iteration of the loop, in this call or the
next, or the host closing it on its own. -/
inductive Event where
  | iteration (a : Answers)
  | lost

def step (c : Incoming) : Event → Option Incoming
  | .lost => some c.disconnect
  | .iteration a =>
    match c.awaits a with
    | (c, false) => some c
    | (c, true) => c.receivePacket a

def start (transport : Transport) (stream : Bytes) : Incoming := { transport, wire := stream }

/-- A whole packet that passes every check: header, announced size and type. -/
structure Accepted (packet : Bytes) : Prop extends Framed packet where
  type : word packet 6 2 ≤ MessageType.error.value

/-- The packet `handle_packet` sees has exactly the payload bytes that followed its header. -/
theorem Accepted.view {packet : Bytes} (accepted : Accepted packet) :
    parsePacket packet = some (some (viewOf packet)) ∧
      (viewOf packet).payload = packet.drop 24 := by
  refine ⟨by rw [parsePacket_framed accepted.toFramed, if_pos accepted.type], ?_⟩
  have size := accepted.size
  exact List.take_of_length_le (by simp only [List.length_drop]; omega)

/-- A packet has been taken from the wire and handed to `handle_packet` once, which has returned
`result` and made its call. -/
structure Passed (a : Answers) (c next : Incoming) (packet : Bytes) (result : Bool) : Prop where
  wire : c.wire = packet ++ next.wire
  consumed : next.consumed = c.consumed ++ packet
  returned : returned a packet = some result
  handled : next.handled = c.handled ++ [(packet, result)]
  calls : next.calls = c.calls ++ (callOf (packet, a.settings)).toList

/-- What one iteration may make of an open connection. Only an accepted packet whose
handler returned `true` leaves it open; the other two outcomes close it. -/
inductive Outcome (a : Answers) (c next : Incoming) : Prop
  | accepted (packet : Bytes) : Accepted packet → Passed a c next packet true →
      next.transport.connected = true → Outcome a c next
  | refused (packet : Bytes) : Framed packet → Passed a c next packet false →
      next.transport.connected = false → Outcome a c next
  | dropped (lost : Bytes) : c.wire = lost ++ next.wire → next.consumed = c.consumed ++ lost →
      next.handled = c.handled → next.calls = c.calls → next.transport.connected = false →
      Outcome a c next

theorem receiveAll_spec {c : Incoming} (connected : c.transport.connected = true)
    (want : Nat) (schedule : List Nat) :
    (c.receiveAll want schedule).1.transport = c.transport ∧
    (c.receiveAll want schedule).1.handled = c.handled ∧
    (∃ lost, c.wire = lost ++ (c.receiveAll want schedule).1.wire ∧
      (c.receiveAll want schedule).1.consumed = c.consumed ++ lost) ∧
    ∀ data, (c.receiveAll want schedule).2 = some data → data.length = want ∧
      c.wire = data ++ (c.receiveAll want schedule).1.wire ∧
      (c.receiveAll want schedule).1.consumed = c.consumed ++ data := by
  obtain ⟨filled, lost, rest⟩ := receiveExact_spec want c.wire schedule
  have valid := Transport.socket_ne_none connected
  have taken : ∀ front, front ++ (receiveExact want c.wire schedule).2 = c.wire →
      c.wire.take (c.wire.length - (receiveExact want c.wire schedule).2.length) = front := by
    intro front whole
    generalize (receiveExact want c.wire schedule).2 = left at whole ⊢
    rw [← whole, List.length_append, Nat.add_sub_cancel, List.take_left]
  simp only [receiveAll, connected, if_true, Transport.receiveAll, if_neg valid, true_and]
  refine ⟨⟨lost, rest.symm, by rw [taken lost rest]⟩, ?_⟩
  intro data got
  obtain ⟨size, whole⟩ := filled data got
  exact ⟨size, whole.symm, by rw [taken data whole]⟩

theorem handle_spec (c : Incoming) (a : Answers) {packet : Bytes} (framed : Framed packet) :
    ∃ next result, c.handle a packet = some next ∧ next.wire = c.wire ∧
      next.consumed = c.consumed ∧ returned a packet = some result ∧
      next.handled = c.handled ++ [(packet, result)] ∧
      next.calls = c.calls ++ (callOf (packet, a.settings)).toList ∧
      (result = true → Accepted packet ∧ next.transport = c.transport) ∧
      (result = false → next.transport.connected = false) := by
  have parsed := parsePacket_framed framed
  by_cases known : word packet 6 2 ≤ MessageType.error.value
  · rw [if_pos known] at parsed
    have accepted : Accepted packet := ⟨framed, known⟩
    obtain ⟨handling, handled⟩ := dispatch_some a.settings (viewOf packet)
    have chosen : handlePacket a.settings packet = some handling := by
      simp only [handlePacket, parsed, Option.bind_eq_bind, Option.bind_some, handled]
    simp only [handle, returned, callOf, chosen, Option.bind_eq_bind, Option.bind_some,
      Option.pure_def, Option.map_some]
    cases handling with
    | returns result =>
        cases result with
        | true =>
            exact ⟨_, true, rfl, rfl, rfl, rfl, rfl, (List.append_nil _).symm,
              fun _ => ⟨accepted, rfl⟩, nofun⟩
        | false =>
            exact ⟨_, false, rfl, rfl, rfl, rfl, rfl, (List.append_nil _).symm, nofun,
              fun _ => rfl⟩
    | calls call =>
        cases result : a.callResult with
        | true => exact ⟨_, true, rfl, rfl, rfl, rfl, rfl, rfl, fun _ => ⟨accepted, rfl⟩, nofun⟩
        | false => exact ⟨_, false, rfl, rfl, rfl, rfl, rfl, rfl, nofun, fun _ => rfl⟩
    | invalid | disconnects =>
        exact ⟨_, false, rfl, rfl, rfl, rfl, rfl, (List.append_nil _).symm, nofun, fun _ => rfl⟩
  · rw [if_neg known] at parsed
    have chosen : handlePacket a.settings packet = some .invalid := by
      simp only [handlePacket, parsed, Option.bind_eq_bind, Option.bind_some, Option.pure_def]
    simp only [handle, returned, callOf, chosen, Option.bind_eq_bind, Option.bind_some,
      Option.pure_def, Option.map_some]
    exact ⟨_, false, rfl, rfl, rfl, rfl, rfl, (List.append_nil _).symm, nofun, fun _ => rfl⟩

theorem handled_outcome {c d : Incoming} {packet : Bytes} (framed : Framed packet)
    (wire : c.wire = packet ++ d.wire) (consumed : d.consumed = c.consumed ++ packet)
    (handled : d.handled = c.handled) (calls : d.calls = c.calls)
    (connected : d.transport.connected = true) (a : Answers) :
    ∃ next, d.handle a packet = some next ∧ Outcome a c next := by
  obtain ⟨next, result, taken, sameWire, sameConsumed, returned, logged, made, accepted, refused⟩ :=
    handle_spec d a framed
  rw [← sameWire] at wire
  rw [← sameConsumed] at consumed
  rw [handled] at logged
  rw [calls] at made
  have passed : Passed a c next packet result := ⟨wire, consumed, returned, logged, made⟩
  refine ⟨next, taken, ?_⟩
  cases result with
  | true =>
      obtain ⟨ok, same⟩ := accepted rfl
      exact .accepted packet ok passed (by rw [same]; exact connected)
  | false => exact .refused packet framed passed (refused rfl)

/-- The body of the loop after a whole header, with its words as natural numbers. -/
theorem receivePacket_header {c d : Incoming} {a : Answers} {header : Bytes}
    (received : c.receiveAll 24 a.header = (d, some header)) (size : header.length = 24) :
    c.receivePacket a =
      if word header 0 4 ≠ wireMagic ∨ word header 4 2 ≠ wireVersion then
        some (d.applyError (-6) (ascii "wire header mismatch")).disconnect
      else if word header 12 4 > 1024 * 1024 then
        some (d.applyError (-7) (ascii "packet payload too large")).disconnect
      else if word header 12 4 = 0 then d.handle a header
      else
        match d.receiveAll (word header 12 4) a.payload with
        | (e, none) =>
          some
            (e.applyError e.transport.lastError (ascii "packet payload receive failed")).disconnect
        | (e, some payload) => e.handle a (header ++ payload) := by
  have magic := readU32_eq (show 0 + 4 ≤ header.length by omega)
  have version := readU16_eq (show 4 + 2 ≤ header.length by omega)
  have payloadSize := readU32_eq (show 12 + 4 ≤ header.length by omega)
  unfold receivePacket
  rw [received]
  simp only [magic, version, payloadSize, Option.bind_eq_bind, Option.bind_some,
    Option.pure_def, word_toU32, word_toU16]
  by_cases bad : word header 0 4 ≠ wireMagic ∨ word header 4 2 ≠ wireVersion
  · rw [if_pos bad, if_pos bad]
  rw [if_neg bad, if_neg bad]
  have bound :
      UInt32.ofNat (word header 12 4) > 1024 * 1024 ↔ word header 12 4 > 1024 * 1024 := by
    rw [gt_iff_lt, UInt32.lt_iff_toNat_lt, word_toU32]
    rfl
  by_cases large : word header 12 4 > 1024 * 1024
  · rw [if_pos (bound.mpr large), if_pos large]
  rw [if_neg (fun big => large (bound.mp big)), if_neg large]
  have end32 : ((24 : UInt32) + UInt32.ofNat (word header 12 4)).toNat =
      24 + word header 12 4 := by
    rw [UInt32.toNat_add, word_toU32, show UInt32.toNat 24 = 24 from rfl]
    omega
  have room : (24 + UInt32.ofNat (word header 12 4)).toNat - header.length =
      word header 12 4 := by omega
  have zero : UInt32.ofNat (word header 12 4) = 0 ↔ word header 12 4 = 0 := by
    rw [← UInt32.toNat_inj, word_toU32]
    rfl
  rw [room]
  by_cases empty : word header 12 4 = 0
  · rw [if_pos (zero.mpr empty), if_pos empty, empty, List.replicate_zero, List.append_nil]
  rw [if_neg (fun none => empty (zero.mp none)), if_neg empty]
  have span : subspan (header ++ List.replicate (word header 12 4) 0) 24 (word header 12 4) =
      some (List.replicate (word header 12 4) 0) := by
    rw [subspan, if_pos (by rw [List.length_append, List.length_replicate]; omega), ← size,
      List.drop_left, List.take_of_length_le (List.length_replicate ..).le]
  rw [span, Option.bind_some, List.length_replicate]

theorem receivePacket_outcome {c : Incoming} (connected : c.transport.connected = true)
    (a : Answers) : ∃ next, c.receivePacket a = some next ∧ Outcome a c next := by
  obtain ⟨sameTransport, sameHandled, ⟨lost, wire, consumed⟩, filled⟩ :=
    receiveAll_spec connected 24 a.header
  have sameCalls : (c.receiveAll 24 a.header).1.calls = c.calls := rfl
  cases first : c.receiveAll 24 a.header with
  | mk d data =>
  rw [first] at sameTransport sameHandled sameCalls wire consumed filled
  cases data with
  | none =>
      unfold receivePacket
      rw [first]
      exact ⟨_, rfl, .dropped lost wire consumed sameHandled sameCalls rfl⟩
  | some header =>
      obtain ⟨size, wire, consumed⟩ := filled header rfl
      have still : d.transport.connected = true := by rw [sameTransport]; exact connected
      rw [receivePacket_header first size]
      by_cases bad : word header 0 4 ≠ wireMagic ∨ word header 4 2 ≠ wireVersion
      · rw [if_pos bad]
        exact ⟨_, rfl, .dropped header wire consumed sameHandled sameCalls rfl⟩
      rw [if_neg bad]
      push Not at bad
      by_cases large : word header 12 4 > 1024 * 1024
      · rw [if_pos large]
        exact ⟨_, rfl, .dropped header wire consumed sameHandled sameCalls rfl⟩
      rw [if_neg large]
      by_cases empty : word header 12 4 = 0
      · rw [if_pos empty]
        exact handled_outcome ⟨bad.1, bad.2, by omega, by omega⟩ wire consumed sameHandled
          sameCalls still a
      rw [if_neg empty]
      obtain ⟨sameTransport2, sameHandled2, ⟨lost2, wire2, consumed2⟩, filled2⟩ :=
        receiveAll_spec still (word header 12 4) a.payload
      have sameCalls2 : (d.receiveAll (word header 12 4) a.payload).1.calls = c.calls := sameCalls
      generalize d.receiveAll (word header 12 4) a.payload = second
        at sameTransport2 sameHandled2 sameCalls2 wire2 consumed2 filled2 ⊢
      obtain ⟨e, data2⟩ := second
      cases data2 with
      | none =>
          refine ⟨_, rfl,
            .dropped (header ++ lost2) ?_ ?_ (sameHandled2.trans sameHandled) sameCalls2 rfl⟩
          · rw [wire, wire2, List.append_assoc]; rfl
          · rw [← List.append_assoc, ← consumed, ← consumed2]; rfl
      | some payload =>
          obtain ⟨size2, wire2, consumed2⟩ := filled2 payload rfl
          have announced : word (header ++ payload) 12 4 = word header 12 4 :=
            word_append header payload (by omega)
          refine handled_outcome ⟨?_, ?_, ?_, ?_⟩ ?_ ?_ (sameHandled2.trans sameHandled)
            sameCalls2 ?_ a
          · rw [word_append header payload (by omega), bad.1]
          · rw [word_append header payload (by omega), bad.2]
          · rw [announced]; omega
          · rw [announced, List.length_append, size, size2]
          · rw [wire, wire2, List.append_assoc]
          · rw [consumed2, consumed, List.append_assoc]
          · rw [sameTransport2]; exact still

/-- The calls of `recv` deliver as many bytes as are asked for. -/
def Delivers (want : Nat) (wire : Bytes) (schedule : List Nat) : Prop :=
  (receiveExact want wire schedule).1.isSome = true

instance (want : Nat) (wire : Bytes) (schedule : List Nat) :
    Decidable (Delivers want wire schedule) := inferInstanceAs (Decidable (_ = true))

/-- One call that may return everything delivers it. -/
theorem delivers_once {want : Nat} {wire : Bytes} (small : want < 2 ^ 31)
    (enough : want ≤ wire.length) : Delivers want wire [want] := by
  unfold Delivers receiveExact
  by_cases nothing : want = 0
  · rw [if_pos nothing]
    rfl
  rw [if_neg nothing, castInt_small small, Int.toNat_natCast]
  have some_ : wire.take (min want want) ≠ [] := by
    rw [Nat.min_self, Ne, List.take_eq_nil_iff]
    rintro (none | rfl)
    · exact nothing none
    · exact nothing (Nat.le_zero.mp enough)
  have full : want - (wire.take (min want want)).length = 0 := by
    rw [Nat.min_self, List.length_take]
    omega
  simp only [if_neg some_, full, receiveExact, if_true, Option.map_some, Option.isSome_some]

theorem receiveAll_delivered {c : Incoming} (connected : c.transport.connected = true)
    {data rest : Bytes} (wire : c.wire = data ++ rest) {schedule : List Nat}
    (delivers : Delivers data.length c.wire schedule) :
    ∃ d, c.receiveAll data.length schedule = (d, some data) ∧ d.wire = rest ∧
      d.consumed = c.consumed ++ data ∧ d.handled = c.handled ∧ d.transport = c.transport := by
  obtain ⟨sameTransport, sameHandled, _, filled⟩ := receiveAll_spec connected data.length schedule
  have valid := Transport.socket_ne_none connected
  obtain ⟨found, got⟩ := Option.isSome_iff_exists.mp delivers
  have answer : (c.receiveAll data.length schedule).2 = some found := by
    simp only [receiveAll, connected, if_true, Transport.receiveAll, if_neg valid, got]
  obtain ⟨size, split, consumed⟩ := filled found answer
  obtain ⟨rfl, tail⟩ := List.append_inj (wire.symm.trans split) size.symm
  exact ⟨_, Prod.ext rfl answer, tail.symm, consumed, sameHandled, sameTransport⟩

/-- A whole packet that `recv` delivers is handed to `handle_packet` as it is. -/
theorem receivePacket_delivered {c : Incoming} (connected : c.transport.connected = true)
    {a : Answers} {packet rest : Bytes} (framed : Framed packet) (wire : c.wire = packet ++ rest)
    (header : Delivers 24 c.wire a.header)
    (payload : Delivers (packet.length - 24) (packet.drop 24 ++ rest) a.payload) :
    ∃ d : Incoming, c.receivePacket a = d.handle a packet ∧ d.wire = rest ∧
      d.consumed = c.consumed ++ packet ∧ d.handled = c.handled ∧ d.transport = c.transport := by
  have size := framed.size
  have small := framed.small
  have whole : packet.take 24 ++ packet.drop 24 = packet := List.take_append_drop 24 packet
  have headerSize : (packet.take 24).length = 24 := by rw [List.length_take]; omega
  have payloadSize : (packet.drop 24).length = word packet 12 4 := by
    rw [List.length_drop]
    omega
  have split : c.wire = packet.take 24 ++ (packet.drop 24 ++ rest) := by
    rw [← List.append_assoc, whole, wire]
  obtain ⟨d, received, left, consumed, handled, transport⟩ :=
    receiveAll_delivered connected split (by rw [headerSize]; exact header)
  rw [headerSize] at received
  have at_ {offset width : Nat} (inside : offset + width ≤ 24) :
      word (packet.take 24) offset width = word packet offset width := by
    have same := word_append (packet.take 24) (packet.drop 24) (by rw [headerSize]; exact inside)
    rw [whole] at same
    exact same.symm
  rw [receivePacket_header received headerSize, at_ (by omega), at_ (by omega), at_ (by omega),
    if_neg (by simp only [framed.magic, framed.version, ne_eq, not_true_eq_false, or_self,
      not_false_eq_true]), if_neg (by omega)]
  by_cases empty : word packet 12 4 = 0
  · have nothing : packet.drop 24 = [] := List.length_eq_zero_iff.mp (payloadSize.trans empty)
    rw [nothing, List.append_nil] at whole
    rw [nothing, List.nil_append] at left
    rw [if_pos empty, whole]
    exact ⟨d, rfl, left, by rw [consumed, whole], handled, transport⟩
  rw [if_neg empty]
  have still : d.transport.connected = true := by rw [transport]; exact connected
  have wanted : packet.length - 24 = (packet.drop 24).length := by rw [List.length_drop]
  obtain ⟨e, received', left', consumed', handled', transport'⟩ :=
    receiveAll_delivered still left (by rw [left, ← wanted]; exact payload)
  rw [payloadSize] at received'
  rw [received']
  refine ⟨e, congrArg (e.handle a) whole, left', ?_, handled'.trans handled,
    transport'.trans transport⟩
  rw [consumed', consumed, List.append_assoc, whole]

/-- What is true of a connection after any events: the packets that have passed lie whole and
in order at the front of the stream, each with the answers of an iteration of its own. Bytes
beyond them, and a packet that was handled with `false`, are found on a closed connection only. -/
structure Aligned (stream : Bytes) (events : List Event) (c : Incoming)
    (passed : List (Bytes × Answers)) (rest : Bytes) (last : List (Bytes × Bool)) : Prop where
  stream : c.consumed ++ c.wire = stream
  accepted : ∀ entry ∈ passed, Accepted entry.1 ∧ returned entry.2 entry.1 = some true
  order : (passed.map fun entry => Event.iteration entry.2).Sublist events
  consumed : c.consumed = (passed.map Prod.fst).flatten ++ rest
  handled : c.handled = passed.map (fun entry => (entry.1, true)) ++ last
  refused : last.length ≤ 1 ∧ ∀ entry ∈ last, entry.2 = false
  calls : c.transport.connected = true →
    c.calls = passed.filterMap fun entry => callOf (entry.1, entry.2.settings)
  boundary : c.transport.connected = true → rest = [] ∧ last = []

theorem awaits_spec (c : Incoming) (a : Answers) :
    (c.awaits a).1.wire = c.wire ∧ (c.awaits a).1.consumed = c.consumed ∧
    (c.awaits a).1.handled = c.handled ∧
    (c.awaits a).1.transport.connected = c.transport.connected ∧
    ((c.awaits a).2 = true → c.transport.connected = true) := by
  unfold awaits
  by_cases stops : a.stopRequested = true ∨ ¬ c.transport.connected = true
  · rw [if_pos stops]
    exact ⟨rfl, rfl, rfl, rfl, nofun⟩
  · rw [if_neg stops]
    push Not at stops
    refine ⟨rfl, rfl, rfl, ?_, fun _ => stops.2⟩
    simp only [Transport.connected, Transport.pollReadable_socket]

theorem awaits_fields (c : Incoming) (a : Answers) :
    (c.awaits a).1.calls = c.calls ∧ (c.awaits a).1.errors = c.errors := by
  unfold awaits
  split
  · exact ⟨rfl, rfl⟩
  · exact ⟨rfl, rfl⟩

/-- One event: no access out of range, and what happened to the next packet. -/
theorem step_outcome (c : Incoming) (event : Event) :
    ∃ next, c.step event = some next ∧
      ((∃ a, event = .iteration a ∧ c.transport.connected = true ∧ Outcome a c next) ∨
        (next.wire = c.wire ∧ next.consumed = c.consumed ∧ next.handled = c.handled ∧
        next.calls = c.calls ∧
        (next.transport.connected = true → c.transport.connected = true))) := by
  cases event with
  | lost => exact ⟨_, rfl, .inr ⟨rfl, rfl, rfl, rfl, nofun⟩⟩
  | iteration a =>
      obtain ⟨wire, consumed, handled, connected, readable⟩ := awaits_spec c a
      have calls := (awaits_fields c a).1
      simp only [step]
      generalize c.awaits a = waiting at wire consumed handled connected readable calls ⊢
      obtain ⟨d, ready⟩ := waiting
      cases ready with
      | false =>
          exact ⟨d, rfl,
            .inr ⟨wire, consumed, handled, calls, fun yes => connected.symm.trans yes⟩⟩
      | true =>
          obtain ⟨next, received, outcome⟩ :=
            receivePacket_outcome (connected.trans (readable rfl)) a
          have same {packet : Bytes} {result : Bool} (passed : Passed a d next packet result) :
              Passed a c next packet result :=
            ⟨wire ▸ passed.wire, consumed ▸ passed.consumed, passed.returned,
              handled ▸ passed.handled, calls ▸ passed.calls⟩
          refine ⟨next, received, .inl ⟨a, rfl, readable rfl, ?_⟩⟩
          cases outcome with
          | accepted packet ok passed open_ => exact .accepted packet ok (same passed) open_
          | refused packet ok passed closed => exact .refused packet ok (same passed) closed
          | dropped lost w co h ca closed =>
              exact .dropped lost (wire ▸ w) (consumed ▸ co) (handled ▸ h) (calls ▸ ca) closed

/-- The iteration with number `k` of a call is reached, and finds the connection `ready` or not. -/
def Reaches (c : Incoming) (answers : List Answers) (k : Nat) (ready : Bool) : Prop :=
  ∃ d a, Transition.exec step c ((answers.take k).map .iteration) = some d ∧
    answers[k]? = some a ∧ (d.awaits a).2 = ready

/-- A call is a run of iterations up to the first that does not find the connection readable, so
that calls in sequence are runs too. -/
theorem processIncomingPackets_exec (c : Incoming) (answers : List Answers) :
    ∃ n ≤ answers.length,
      c.processIncomingPackets answers =
        Transition.exec step c ((answers.take n).map .iteration) ∧
      (∀ k, k + 1 < n → c.Reaches answers k true) ∧
      (n < answers.length → ∃ k, n = k + 1 ∧ c.Reaches answers k false) := by
  induction answers generalizing c with
  | nil => exact ⟨0, le_rfl, rfl, fun k early => absurd early (Nat.not_lt_zero _), nofun⟩
  | cons a rest ih =>
      unfold processIncomingPackets
      have readable := (awaits_spec c a).2.2.2
      cases waiting : c.awaits a with
      | mk d ready =>
          rw [waiting] at readable
          cases ready with
          | false =>
              refine ⟨1, Nat.le_add_left 1 _, ?_, fun k early => by omega, fun _ => ?_⟩
              · simp only [List.take_succ_cons, List.take_zero, List.map_cons, List.map_nil,
                  Transition.exec_cons, step, waiting, Option.bind_some, Transition.exec_nil]
              · exact ⟨0, rfl, c, a, rfl, rfl, by rw [waiting]⟩
          | true =>
              obtain ⟨e, received, _⟩ :=
                receivePacket_outcome (readable.1.trans (readable.2 rfl)) a
              have stepped : c.step (.iteration a) = some e := by
                simp only [step, waiting, received]
              obtain ⟨n, inside, same, before, last⟩ := ih e
              have later {k : Nat} {ready : Bool} (reaches : e.Reaches rest k ready) :
                  c.Reaches (a :: rest) (k + 1) ready := by
                obtain ⟨f, b, run, there, found⟩ := reaches
                refine ⟨f, b, ?_, there, found⟩
                rw [List.take_succ_cons, List.map_cons, Transition.exec_cons, stepped]
                exact run
              refine ⟨n + 1, Nat.succ_le_succ inside, ?_, ?_, ?_⟩
              · dsimp only
                rw [received, Option.bind_some, same, List.take_succ_cons, List.map_cons,
                  Transition.exec_cons, stepped, Option.bind_some]
              · intro k early
                cases k with
                | zero => exact ⟨c, a, rfl, rfl, by rw [waiting]⟩
                | succ k => exact later (before k (Nat.lt_of_succ_lt_succ early))
              · intro short
                obtain ⟨k, rfl, reaches⟩ := last (Nat.lt_of_succ_lt_succ short)
                exact ⟨k + 1, rfl, later reaches⟩

theorem step_aligned {stream : Bytes} {events : List Event} {c next : Incoming}
    {passed : List (Bytes × Answers)} {rest : Bytes} {last : List (Bytes × Bool)} {event : Event}
    (aligned : Aligned stream events c passed rest last) (taken : c.step event = some next) :
    ∃ passed rest last, Aligned stream (events ++ [event]) next passed rest last := by
  obtain ⟨next', taken', outcome⟩ := step_outcome c event
  obtain rfl : next' = next := Option.some.inj (taken'.symm.trans taken)
  have order := aligned.order.trans (List.sublist_append_left events [event])
  rcases outcome with ⟨a, rfl, connected, outcome⟩ | ⟨wire, consumed, handled, calls, connected⟩
  · obtain ⟨rfl, rfl⟩ := aligned.boundary connected
    have front : ∀ more, c.wire = more ++ next'.wire → next'.consumed = c.consumed ++ more →
        next'.consumed ++ next'.wire = stream := by
      intro more split grown
      rw [grown, List.append_assoc, ← split, aligned.stream]
    have before : c.consumed = (passed.map Prod.fst).flatten := by
      rw [aligned.consumed, List.append_nil]
    have log : c.handled = passed.map fun entry => (entry.1, true) := by
      rw [aligned.handled, List.append_nil]
    cases outcome with
    | accepted packet ok one still =>
        refine ⟨passed ++ [(packet, a)], [], [], front packet one.wire one.consumed, ?_, ?_, ?_,
          ?_, ⟨Nat.zero_le _, nofun⟩, fun _ => ?_, fun _ => ⟨rfl, rfl⟩⟩
        · intro entry member
          rcases List.mem_append.mp member with old | new
          · exact aligned.accepted entry old
          · rw [List.mem_singleton.mp new]
            exact ⟨ok, one.returned⟩
        · rw [List.map_append]
          exact aligned.order.append (List.Sublist.refl _)
        · rw [one.consumed, before, List.map_append, List.append_nil]
          exact List.flatten_concat.symm
        · rw [one.handled, log, List.map_append, List.append_nil]
          rfl
        · rw [one.calls, aligned.calls connected, List.filterMap_append]
          cases made : callOf (packet, a.settings) <;> simp [made]
    | refused packet framed one closed =>
        refine ⟨passed, packet, [(packet, false)], front packet one.wire one.consumed,
          aligned.accepted, order, by rw [one.consumed, before], by rw [one.handled, log],
          ⟨le_rfl, ?_⟩, ?_, ?_⟩
        · intro entry member
          rw [List.mem_singleton.mp member]
        · rw [closed]
          nofun
        · rw [closed]
          nofun
    | dropped lost wire consumed handled calls closed =>
        refine ⟨passed, lost, [], front lost wire consumed, aligned.accepted, order,
          by rw [consumed, before], by rw [handled, log, List.append_nil],
          ⟨Nat.zero_le _, nofun⟩, ?_, ?_⟩
        · rw [closed]
          nofun
        · rw [closed]
          nofun
  · exact ⟨passed, rest, last, by rw [wire, consumed, aligned.stream], aligned.accepted, order,
      consumed.trans aligned.consumed, handled.trans aligned.handled, aligned.refused,
      fun open_ => calls.trans (aligned.calls (connected open_)),
      fun open_ => aligned.boundary (connected open_)⟩

theorem exec_aligned {stream : Bytes} (events : List Event) {past : List Event} {c : Incoming}
    {passed : List (Bytes × Answers)} {rest : Bytes} {last : List (Bytes × Bool)}
    (aligned : Aligned stream past c passed rest last) :
    ∃ next, Transition.exec step c events = some next ∧
      ∃ passed rest last, Aligned stream (past ++ events) next passed rest last := by
  induction events generalizing past c passed rest last with
  | nil => exact ⟨c, rfl, passed, rest, last, by rwa [List.append_nil]⟩
  | cons event events ih =>
      obtain ⟨between, taken, _⟩ := step_outcome c event
      obtain ⟨passed, rest, last, aligned⟩ := step_aligned aligned taken
      obtain ⟨next, run, aligned⟩ := ih aligned
      refine ⟨next, ?_, ?_⟩
      · rw [Transition.exec_cons, taken]
        exact run
      · rw [List.append_cons]
        exact aligned

/-- A closed connection stays closed and hands no further packet to `handle_packet`. -/
theorem exec_closed (events : List Event) {c : Incoming} (closed : c.transport.connected = false) :
    ∃ next, Transition.exec step c events = some next ∧ next.handled = c.handled ∧
      next.calls = c.calls ∧ next.consumed = c.consumed ∧ next.transport.connected = false := by
  let I (d : Incoming) : Prop := d.handled = c.handled ∧ d.calls = c.calls ∧
    d.consumed = c.consumed ∧ d.transport.connected = false
  have keep : ∀ d event, I d → ∃ next, step d event = some next ∧ I next := by
    rintro d event ⟨logged, made, taken, closed⟩
    obtain ⟨next, stepped, ⟨_, _, connected, _⟩ | ⟨_, consumed, handled, calls, connected⟩⟩ :=
      step_outcome d event
    · rw [closed] at connected
      cases connected
    · refine ⟨next, stepped, handled.trans logged, calls.trans made, consumed.trans taken, ?_⟩
      exact Bool.eq_false_iff.mpr fun open_ => Bool.eq_false_iff.mp closed (connected open_)
  exact Transition.exec_total keep ⟨rfl, rfl, rfl, closed⟩ events

theorem awaits_ready {c : Incoming} {a : Answers} (connected : c.transport.connected = true)
    (running : a.stopRequested = false) (readable : a.poll = .ok true) :
    c.awaits a = (c, true) := by
  have valid := Transport.socket_ne_none connected
  simp only [awaits, running, connected, readable, Transport.pollReadable, if_neg valid,
    Bool.false_eq_true, not_true_eq_false, or_self, if_false]

theorem iteration_outcome {c : Incoming} {a : Answers} (connected : c.transport.connected = true)
    (running : a.stopRequested = false) (readable : a.poll = .ok true) :
    ∃ next, c.step (.iteration a) = some next ∧ Outcome a c next := by
  simp only [step, awaits_ready connected running readable]
  exact receivePacket_outcome connected a

/-- On any stream, under any schedule and over any number of calls, each of which iterates up to
the first time it does not find the connection readable: no access leaves its span; between two
iterations of an open connection the consumed bytes are whole accepted packets, each passed in an
iteration of its own to `handle_packet`, with its own payload, which has made its call and has
returned `true`; an iteration that finds the connection readable leaves it open only for such a
packet; and a closed connection handles nothing. -/
theorem incoming_packets_aligned (transport : Transport) (stream : Bytes) (events : List Event) :
    ∃ c, Transition.exec step (start transport stream) events = some c ∧
      (∀ answers, ∃ n ≤ answers.length,
        c.processIncomingPackets answers =
          Transition.exec step c ((answers.take n).map .iteration) ∧
        (∀ k, k + 1 < n → c.Reaches answers k true) ∧
        (n < answers.length → ∃ k, n = k + 1 ∧ c.Reaches answers k false)) ∧
      c.consumed ++ c.wire = stream ∧
      (c.transport.connected = true → ∃ passed : List (Bytes × Answers),
        (passed.map fun entry => Event.iteration entry.2).Sublist events ∧
        c.consumed = (passed.map Prod.fst).flatten ∧
        c.handled = passed.map (fun entry => (entry.1, true)) ∧
        c.calls = passed.filterMap (fun entry => callOf (entry.1, entry.2.settings)) ∧
        ∀ entry ∈ passed, Accepted entry.1 ∧ returned entry.2 entry.1 = some true ∧
          parsePacket entry.1 = some (some (viewOf entry.1)) ∧
          (viewOf entry.1).payload = entry.1.drop 24) ∧
      (∀ a : Answers, c.transport.connected = true → a.stopRequested = false → a.poll = .ok true →
        ∃ next, c.step (.iteration a) = some next ∧ Outcome a c next) ∧
      (c.transport.connected = false → ∀ later, ∃ next, Transition.exec step c later = some next ∧
        next.handled = c.handled ∧ next.calls = c.calls ∧ next.consumed = c.consumed ∧
        next.transport.connected = false) := by
  have fresh : Aligned stream [] (start transport stream) [] [] [] :=
    ⟨rfl, nofun, List.Sublist.refl _, rfl, rfl, ⟨Nat.zero_le _, nofun⟩, fun _ => rfl,
      fun _ => ⟨rfl, rfl⟩⟩
  obtain ⟨c, run, passed, rest, last, aligned⟩ := exec_aligned events fresh
  refine ⟨c, run, c.processIncomingPackets_exec, aligned.stream, ?_,
    fun a connected running readable => iteration_outcome connected running readable,
    fun closed later => exec_closed later closed⟩
  intro connected
  obtain ⟨rfl, rfl⟩ := aligned.boundary connected
  refine ⟨passed, aligned.order, by rw [aligned.consumed, List.append_nil],
    by rw [aligned.handled, List.append_nil], aligned.calls connected, ?_⟩
  intro entry member
  obtain ⟨accepted, returned⟩ := aligned.accepted entry member
  exact ⟨accepted, returned, accepted.view⟩

end Incoming

end Screenscrab.Session
