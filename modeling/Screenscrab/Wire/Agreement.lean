import Screenscrab.Wire.Codec
import Screenscrab.Wire.Packet

/-! The bytes `make_packet` writes are those of the Dart packet with the same fields. -/
namespace Screenscrab
open Protocol Dart
open LittleEndian (word word_lt)

/-- The timestamps that a `DateTime` can hold. -/
def OnTime (timestampUtcUs : UInt64) : Prop := timestampUtcUs.toNat ≤ maxMicroseconds

instance (timestampUtcUs : UInt64) : Decidable (OnTime timestampUtcUs) :=
  inferInstanceAs (Decidable (timestampUtcUs.toNat ≤ maxMicroseconds))

def dateTime (timestampUtcUs : UInt64) : DateTime :=
  if onTime : timestampUtcUs.toNat ≤ maxMicroseconds then ⟨timestampUtcUs.toNat, onTime⟩
  else ⟨0, Nat.zero_le _⟩

/-- The packet a Dart client receives for a packet of the host. -/
def received (type : MessageType) (payload : Bytes) (timestampUtcUs : UInt64) : WirePacket :=
  { type, payload, timestampUtc := dateTime timestampUtcUs }

theorem received_onWire (type : MessageType) {payload : Bytes} (small : payload.length < 2 ^ 32)
    (timestampUtcUs : UInt64) : (received type payload timestampUtcUs).OnWire := by
  have flags : (0 : Int) ≤ 0 ∧ (0 : Int) < 2 ^ 32 := by decide
  exact ⟨small, flags⟩

/-- The packet that a Dart program builds of the same values. -/
def sent (type : MessageType) (flags : UInt32) (payload : Bytes) (timestampUtcUs : UInt64) :
    WirePacket :=
  { received type payload timestampUtcUs with flags := flags.toNat }

theorem sent_onWire (type : MessageType) (flags : UInt32) {payload : Bytes}
    (small : payload.length < 2 ^ 32) (timestampUtcUs : UInt64) :
    (sent type flags payload timestampUtcUs).OnWire := by
  have bound := flags.toNat_lt
  refine ⟨small, Int.natCast_nonneg _, ?_⟩
  simp only [sent]
  omega

theorem dateTime_word {timestampUtcUs : UInt64} (onTime : OnTime timestampUtcUs) :
    ((dateTime timestampUtcUs).microsecondsSinceEpoch % 256 ^ 8).toNat = timestampUtcUs.toNat := by
  have bound := timestampUtcUs.toNat_lt
  unfold OnTime at onTime
  simp only [dateTime, dif_pos onTime]
  omega

theorem makePacket_sent (type : MessageType) (flags : UInt32) (payload : Bytes)
    {timestampUtcUs : UInt64} (onTime : OnTime timestampUtcUs) :
    makePacket type flags payload timestampUtcUs =
      (sent type flags payload timestampUtcUs).encode := by
  have kind : type.value < 16 := type.value_lt
  have bound := flags.toNat_lt
  have typeWord : ((type.value : Int) % 256 ^ 2).toNat = type.value := by omega
  have flagsWord : ((flags.toNat : Int) % 256 ^ 4).toNat = flags.toNat := by omega
  have sizeWord : ((payload.length : Int) % 256 ^ 4).toNat = payload.length % 256 ^ 4 := by omega
  rw [makePacket_eq]
  simp only [WirePacket.encode, WirePacket.header_eq, sent, received, typeWord, flagsWord, sizeWord,
    LittleEndian.encode_mod, dateTime_word onTime]
  rfl

theorem makePacket_encode (type : MessageType) (payload : Bytes)
    {timestampUtcUs : UInt64} (onTime : OnTime timestampUtcUs) :
    makePacket type 0 payload timestampUtcUs = (received type payload timestampUtcUs).encode :=
  makePacket_sent type 0 payload onTime

/-- The signed and unsigned readings of the timestamp word agree where it is no negative time. -/
theorem ofNat_signed64 {n : Nat} {timestampUtcUs : UInt64} (onTime : OnTime timestampUtcUs)
    (bound : n < 2 ^ 64)
    (read : signed64 n = (dateTime timestampUtcUs).microsecondsSinceEpoch) :
    UInt64.ofNat n = timestampUtcUs := by
  unfold OnTime at onTime
  simp only [dateTime, dif_pos onTime] at read
  unfold signed64 at read
  apply UInt64.toNat_inj.mp
  rw [UInt64.toNat_ofNat', Nat.mod_eq_of_lt bound]
  split at read <;> omega

theorem viewOf_encode {p : WirePacket} (fits : p.OnWire) (rest : Bytes) :
    (viewOf (p.encode ++ rest)).type = p.type ∧
      (viewOf (p.encode ++ rest)).payload = p.payload := by
  have words := WirePacket.encode_words fits rest
  unfold viewOf
  rw [words.type, words.size]
  exact ⟨MessageType.ofValue_value p.type, WirePacket.encode_payload p rest⟩

/-- A packet of the size that the host's receive loop allows. -/
theorem framed_encode {p : WirePacket} (fits : p.OnWire) (small : p.payload.length ≤ 1024 * 1024) :
    Framed p.encode := by
  have words := WirePacket.encode_words fits []
  rw [List.append_nil] at words
  exact ⟨words.magic, words.version, by rw [words.size]; exact small,
    by rw [words.size, WirePacket.encode_length]⟩

theorem viewOf_sent {type : MessageType} {flags : UInt32} {payload : Bytes}
    {timestampUtcUs : UInt64} (small : payload.length < 2 ^ 32) (onTime : OnTime timestampUtcUs)
    (rest : Bytes) :
    viewOf ((sent type flags payload timestampUtcUs).encode ++ rest) =
      { type, flags, timestampUtcUs, payload } := by
  have words := WirePacket.encode_words (sent_onWire type flags small timestampUtcUs) rest
  have same := viewOf_encode (sent_onWire type flags small timestampUtcUs) rest
  have flagsWord : word ((sent type flags payload timestampUtcUs).encode ++ rest) 8 4 =
      flags.toNat := Int.natCast_inj.mp words.flags
  have timeWord := ofNat_signed64 onTime (word_lt _ 16 8) words.timestamp
  simp only [viewOf] at same ⊢
  rw [same.1, same.2, flagsWord, timeWord, UInt32.ofNat_toNat]
  rfl

/-- `parse_packet` reads what either side wrote, whatever follows it. -/
theorem parsePacket_sent {type : MessageType} {flags : UInt32} {payload : Bytes}
    {timestampUtcUs : UInt64} (small : payload.length < 2 ^ 32 - 24)
    (onTime : OnTime timestampUtcUs) (rest : Bytes) :
    parsePacket ((sent type flags payload timestampUtcUs).encode ++ rest) =
      some (some { type, flags, timestampUtcUs, payload }) := by
  have fits : payload.length < 2 ^ 32 := by omega
  have words := WirePacket.encode_words (sent_onWire type flags fits timestampUtcUs) rest
  have kind := type.value_lt
  have size : word ((sent type flags payload timestampUtcUs).encode ++ rest) 12 4 =
      payload.length := words.size
  have known : word ((sent type flags payload timestampUtcUs).encode ++ rest) 6 2 = type.value :=
    words.type
  rw [parsePacket_announced words.magic words.version (by omega)
    (by rw [size, List.length_append, WirePacket.encode_length]; exact Nat.le_add_right _ _),
    if_pos (by rw [known]; exact Nat.le_of_lt_succ kind), viewOf_sent fits onTime]

/-- The six words of a header, written one after another, are its bytes. -/
theorem encode_header {bytes : Bytes} (size : 24 ≤ bytes.length) :
    LittleEndian.encode 4 (word bytes 0 4) ++ LittleEndian.encode 2 (word bytes 4 2) ++
      LittleEndian.encode 2 (word bytes 6 2) ++ LittleEndian.encode 4 (word bytes 8 4) ++
      LittleEndian.encode 4 (word bytes 12 4) ++ LittleEndian.encode 8 (word bytes 16 8) =
      bytes.take 24 := by
  have start := LittleEndian.take_encode_word bytes (show 0 + 4 ≤ bytes.length by omega)
  rw [List.take_zero, List.nil_append] at start
  rw [start, LittleEndian.take_encode_word bytes (by omega),
    LittleEndian.take_encode_word bytes (by omega), LittleEndian.take_encode_word bytes (by omega),
    LittleEndian.take_encode_word bytes (by omega), LittleEndian.take_encode_word bytes (by omega)]

theorem makePacket_viewOf {bytes : Bytes} (whole : Whole bytes) :
    makePacket (viewOf bytes).type (viewOf bytes).flags (viewOf bytes).payload
      (viewOf bytes).timestampUtcUs = bytes.take (24 + word bytes 12 4) := by
  have size := whole.size
  have kind : (MessageType.ofValue (word bytes 6 2)).value = word bytes 6 2 :=
    (MessageType.value_of_values (MessageType.values_ofValue whole.type)).symm
  have time : (UInt64.ofNat (word bytes 16 8)).toNat = word bytes 16 8 :=
    UInt64.toNat_ofNat'.trans (Nat.mod_eq_of_lt (word_lt bytes 16 8))
  have length : ((bytes.drop 24).take (word bytes 12 4)).length = word bytes 12 4 := by
    rw [List.length_take, List.length_drop]
    omega
  rw [makePacket_eq]
  simp only [viewOf, kind, time, length, word_toU32]
  rw [← whole.magic, ← whole.version, encode_header (by omega), List.take_add]

theorem WirePacket.encode_of_words {p : WirePacket} {bytes : Bytes} (words : p.Words bytes)
    (size : 24 + word bytes 12 4 ≤ bytes.length)
    (payload : p.payload = (bytes.drop 24).take (word bytes 12 4)) :
    p.encode = bytes.take (24 + word bytes 12 4) := by
  have kind := p.type.value_lt
  have typeWord : ((p.type.value : Int) % 256 ^ 2).toNat = word bytes 6 2 := by
    rw [words.type]
    exact Nat.mod_eq_of_lt (Nat.lt_trans kind (by decide))
  have flagsWord : (p.flags % 256 ^ 4).toNat = word bytes 8 4 := by
    have bound := word_lt bytes 8 4
    rw [← words.flags]
    omega
  have sizeWord : ((p.payload.length : Int) % 256 ^ 4).toNat = word bytes 12 4 := by
    have bound := word_lt bytes 12 4
    rw [← words.size]
    omega
  have timeWord : (p.timestampUtc.microsecondsSinceEpoch % 256 ^ 8).toNat = word bytes 16 8 := by
    have bound := word_lt bytes 16 8
    rw [← words.timestamp]
    unfold signed64
    split <;> omega
  have magic : ((wireMagic : Int) % 256 ^ 4).toNat = word bytes 0 4 := words.magic.symm
  have version : ((wireVersion : Int) % 256 ^ 2).toNat = word bytes 4 2 := words.version.symm
  rw [WirePacket.encode, WirePacket.header_eq, magic, version, typeWord, flagsWord, sizeWord,
    timeWord, payload, encode_header (by omega), List.take_add]

/-- Both encoders write the same bytes, from which both decoders read the fields back; and what
both decoders accept is what either encoder writes for it, so no two packets share an encoding. -/
theorem packet_codecs_agree :
    (∀ (type : MessageType) (flags : UInt32) (payload : Bytes) (timestampUtcUs : UInt64)
        (rest : Bytes), payload.length < 2 ^ 32 - 24 → OnTime timestampUtcUs →
      let packet := sent type flags payload timestampUtcUs
      packet.timestampUtc.microsecondsSinceEpoch = timestampUtcUs.toNat ∧
      makePacket type flags payload timestampUtcUs = packet.encode ∧
      parsePacket (packet.encode ++ rest) =
        some (some { type, flags, timestampUtcUs, payload }) ∧
      WirePacket.decode (packet.encode ++ rest) = .ok packet) ∧
    (∀ (bytes : Bytes) (view : WirePacketView) (packet : WirePacket),
      word bytes 12 4 < 2 ^ 32 - 24 → parsePacket bytes = some (some view) →
      WirePacket.decode bytes = .ok packet →
      makePacket view.type view.flags view.payload view.timestampUtcUs =
        bytes.take (24 + word bytes 12 4) ∧
      packet.encode = bytes.take (24 + word bytes 12 4)) ∧
    (∀ packet other : WirePacket, packet.OnWire → other.OnWire → packet.encode = other.encode →
      packet = other) := by
  refine ⟨?_, ?_, ?_⟩
  · intro type flags payload timestampUtcUs rest small onTime
    have fits : payload.length < 2 ^ 32 := by omega
    refine ⟨?_, makePacket_sent type flags payload onTime, parsePacket_sent small onTime rest,
      WirePacket.decode_encode (sent_onWire type flags fits timestampUtcUs) rest⟩
    unfold OnTime at onTime
    simp only [sent, received, dateTime, dif_pos onTime]
  · intro bytes view packet fits parsed decoded
    obtain ⟨whole, rfl⟩ := whole_of_parsePacket fits parsed
    obtain ⟨words, size, payload⟩ := WirePacket.decode_words decoded
    exact ⟨makePacket_viewOf whole, WirePacket.encode_of_words words size payload⟩
  · intro packet other fits fits' same
    have decoded := WirePacket.decode_encode fits []
    rw [same, WirePacket.decode_encode fits' []] at decoded
    exact (Except.ok.inj decoded).symm

/-- A pong whose header carries a flag, with the first bytes of the next packet behind it. -/
theorem packet_codecs_agree_pong :
    makePacket .pong 2 (makePong 7) 1000 = (sent .pong 2 (makePong 7) 1000).encode ∧
    makePacket .pong 2 (makePong 7) 1000 =
      (makePacket .pong 2 (makePong 7) 1000 ++ [0x42, 0x52]).take 32 := by
  obtain ⟨written, accepted, _⟩ := packet_codecs_agree
  obtain ⟨_, same, parsed, decoded⟩ :=
    written .pong 2 (makePong 7) 1000 [0x42, 0x52] (by decide) (by decide)
  rw [← same] at parsed decoded
  exact ⟨same, (accepted _ _ _ (by decide) parsed decoded).1⟩

end Screenscrab
