import Screenscrab.Wire.Protocol
import Screenscrab.Library.LittleEndian
import Mathlib.Tactic.Push

/-! The Dart side of the wire format, `WirePacket` of protocol.dart. An `int` of Dart is
a signed 64-bit integer, and `ByteData` stores its low bytes at a fixed offset. -/
namespace Screenscrab.Dart
open LittleEndian (word word_append)

/-- `ByteData.setUint16`, `setUint32` and `setUint64`, in little-endian order. -/
def setUint (data : Bytes) (offset width : Nat) (value : Int) : Bytes :=
  data.take offset ++ LittleEndian.encode width (value % 256 ^ width).toNat ++
    data.drop (offset + width)

/-- `ByteData.getUint16` and `getUint32`; `none` is the `RangeError`. -/
def getUint (data : Bytes) (offset width : Nat) : Option Nat :=
  if offset + width ≤ data.length then some (word data offset width) else none

/-- `getUint64` gives the word as a signed `int`. -/
def signed64 (n : Nat) : Int := if n < 2 ^ 63 then n else n - 2 ^ 64

theorem setUint_fill (front : Bytes) (width rest : Nat) (value : Int) {offset room : Nat}
    (place : front.length = offset) (enough : room = width + rest) :
    setUint (front ++ List.replicate room 0) offset width value =
      front ++ LittleEndian.encode width (value % 256 ^ width).toNat ++ List.replicate rest 0 := by
  rw [setUint, ← place, List.take_left, List.drop_append, List.drop_eq_nil_of_le (by omega),
    List.drop_replicate, List.nil_append, Nat.add_sub_cancel_left, enough, Nat.add_sub_cancel_left]

theorem getUint_fields (front : List (Nat × Nat)) {width n : Nat} (small : n < 256 ^ width)
    (rest : List (Nat × Nat)) {offset : Nat} (place : LittleEndian.extent front = offset) :
    getUint (LittleEndian.fields (front ++ (width, n) :: rest)) offset width = some n := by
  have inside := LittleEndian.field_inside front width n rest [] place
  have at_ := LittleEndian.word_fields front width n rest [] place
  rw [List.append_nil] at inside at_
  rw [getUint, if_pos inside, at_, Nat.mod_eq_of_lt small]

/-- Writes of consecutive fields from an offset on. -/
def setFields (data : Bytes) (offset : Nat) : List (Nat × Int) → Bytes
  | [] => data
  | (width, value) :: rest => setFields (setUint data offset width value) (offset + width) rest

/-- The fields as they are stored, each reduced to its width. -/
def stored (layout : List (Nat × Int)) : List (Nat × Nat) :=
  layout.map fun field => (field.1, (field.2 % 256 ^ field.1).toNat)

theorem setFields_fill (front : Bytes) (layout : List (Nat × Int)) (rest : Nat) {offset room : Nat}
    (place : front.length = offset) (enough : room = LittleEndian.extent (stored layout) + rest) :
    setFields (front ++ List.replicate room 0) offset layout =
      front ++ LittleEndian.fields (stored layout) ++ List.replicate rest 0 := by
  induction layout generalizing front offset room with
  | nil =>
      have same : room = rest := enough.trans (Nat.zero_add rest)
      simp only [setFields, stored, List.map_nil, LittleEndian.fields, List.append_nil, same]
  | cons field layout ih =>
      obtain ⟨width, value⟩ := field
      have more : room = width + (LittleEndian.extent (stored layout) + rest) := by
        rw [enough, ← Nat.add_assoc]
        rfl
      rw [setFields, setUint_fill front width _ value place more,
        ih _ (by rw [List.length_append, LittleEndian.encode_length, place]) rfl]
      simp only [stored, List.map_cons, LittleEndian.fields, List.append_assoc]

/-- A buffer of zeros that the fields fill. -/
theorem setFields_zeros (size : Nat) (layout : List (Nat × Int))
    (full : size = LittleEndian.extent (stored layout)) :
    setFields (List.replicate size 0) 0 layout = LittleEndian.fields (stored layout) :=
  (setFields_fill [] layout 0 List.length_nil full).trans (List.append_nil _)

def maxMicroseconds : Nat := 8640000000000000000

/-- A `DateTime`, which only exists within its range. -/
structure DateTime where
  microsecondsSinceEpoch : Int
  inRange : microsecondsSinceEpoch.natAbs ≤ maxMicroseconds
  deriving DecidableEq

/-- `DateTime.fromMicrosecondsSinceEpoch`; `none` is the error it throws. -/
def DateTime.fromMicroseconds (value : Int) : Option DateTime :=
  if inRange : value.natAbs ≤ maxMicroseconds then some ⟨value, inRange⟩ else none

@[simp] theorem DateTime.fromMicroseconds_self (t : DateTime) :
    DateTime.fromMicroseconds t.microsecondsSinceEpoch = some t := dif_pos t.inRange

/-- What `totalLength` and `decode` throw. -/
inductive WireError where
  | tooSmall
  | magicMismatch
  | versionMismatch
  | typeInvalid
  | truncated
  | timestampRange
  deriving DecidableEq, Repr

/-- The text of a `FormatException`; the range error is never shown by the client. -/
def WireError.text : WireError → String
  | tooSmall => "FormatException: wire packet too small"
  | magicMismatch => "FormatException: wire magic mismatch"
  | versionMismatch => "FormatException: wire version mismatch"
  | typeInvalid => "FormatException: wire packet type invalid"
  | truncated => "FormatException: wire payload truncated"
  | timestampRange => "RangeError"

structure WirePacket where
  type : MessageType
  payload : Bytes
  timestampUtc : DateTime
  flags : Int := 0
  deriving DecidableEq

namespace WirePacket

def header (p : WirePacket) : Bytes :=
  let header := List.replicate 24 0
  let header := setUint header 0 4 wireMagic
  let header := setUint header 4 2 wireVersion
  let header := setUint header 6 2 p.type.value
  let header := setUint header 8 4 p.flags
  let header := setUint header 12 4 p.payload.length
  setUint header 16 8 p.timestampUtc.microsecondsSinceEpoch

/-- The fields of the header, with the values that are written. -/
def headerLayout (p : WirePacket) : List (Nat × Int) :=
  [(4, wireMagic), (2, wireVersion), (2, p.type.value), (4, p.flags), (4, p.payload.length),
    (8, p.timestampUtc.microsecondsSinceEpoch)]

def encode (p : WirePacket) : Bytes := p.header ++ p.payload

def totalLength (bytes : Bytes) : Except WireError Nat :=
  if bytes.length < 24 then .error .tooSmall
  else if word bytes 0 4 ≠ wireMagic then .error .magicMismatch
  else if word bytes 4 2 ≠ wireVersion then .error .versionMismatch
  else .ok (24 + word bytes 12 4)

def decode (bytes : Bytes) : Except WireError WirePacket :=
  if bytes.length < 24 then .error .tooSmall
  else if word bytes 0 4 ≠ wireMagic then .error .magicMismatch
  else if word bytes 4 2 ≠ wireVersion then .error .versionMismatch
  else
    match MessageType.values[word bytes 6 2]? with
    | none => .error .typeInvalid
    | some type =>
      let payloadLength := word bytes 12 4
      if bytes.length < 24 + payloadLength then .error .truncated
      else
        match DateTime.fromMicroseconds (signed64 (word bytes 16 8)) with
        | none => .error .timestampRange
        | some timestampUtc =>
          .ok { type, payload := (bytes.drop 24).take payloadLength, timestampUtc,
                flags := word bytes 8 4 }

/-- A packet whose flags and payload length fit their 32-bit header words. -/
structure OnWire (p : WirePacket) : Prop where
  payload : p.payload.length < 2 ^ 32
  flags : 0 ≤ p.flags ∧ p.flags < 2 ^ 32

/-- The six writes fill the header from left to right. -/
theorem header_fields (p : WirePacket) :
    p.header = LittleEndian.fields (stored p.headerLayout) :=
  setFields_zeros 24 p.headerLayout rfl

theorem header_eq (p : WirePacket) :
    p.header =
      LittleEndian.encode 4 ((wireMagic : Int) % 256 ^ 4).toNat ++
      LittleEndian.encode 2 ((wireVersion : Int) % 256 ^ 2).toNat ++
      LittleEndian.encode 2 ((p.type.value : Int) % 256 ^ 2).toNat ++
      LittleEndian.encode 4 (p.flags % 256 ^ 4).toNat ++
      LittleEndian.encode 4 ((p.payload.length : Int) % 256 ^ 4).toNat ++
      LittleEndian.encode 8 (p.timestampUtc.microsecondsSinceEpoch % 256 ^ 8).toNat := by
  simp only [header_fields, headerLayout, stored, List.map_cons, List.map_nil,
    LittleEndian.fields, List.append_nil, List.append_assoc]

@[simp] theorem header_length (p : WirePacket) : p.header.length = 24 := by
  rw [header_fields, LittleEndian.fields_length]
  rfl

@[simp] theorem encode_length (p : WirePacket) : p.encode.length = 24 + p.payload.length := by
  rw [encode, List.length_append, header_length]

/-- The words of an encoded packet, whatever follows it. -/
structure Words (p : WirePacket) (bytes : Bytes) : Prop where
  magic : word bytes 0 4 = wireMagic
  version : word bytes 4 2 = wireVersion
  type : word bytes 6 2 = p.type.value
  flags : word bytes 8 4 = p.flags
  size : word bytes 12 4 = p.payload.length
  timestamp : signed64 (word bytes 16 8) = p.timestampUtc.microsecondsSinceEpoch

theorem signed64_word (t : DateTime) :
    signed64 ((t.microsecondsSinceEpoch % 256 ^ 8).toNat % 256 ^ 8) =
      t.microsecondsSinceEpoch := by
  have range := t.inRange
  unfold maxMicroseconds at range
  unfold signed64
  split <;> omega

theorem header_words {p : WirePacket} (fits : p.OnWire) : Words p p.header := by
  have size := fits.payload
  obtain ⟨positive, small⟩ := fits.flags
  have kind : p.type.value < 16 := p.type.value_lt
  let front := stored p.headerLayout
  have header : p.header = LittleEndian.fields front ++ [] := by
    rw [List.append_nil, header_fields]
  rw [header]
  constructor
  · exact LittleEndian.word_fields [] 4 _ _ [] rfl
  · exact LittleEndian.word_fields (front.take 1) 2 _ _ [] rfl
  · have stored_ : ((p.type.value : Int) % 256 ^ 2).toNat % 256 ^ 2 = p.type.value := by omega
    exact (LittleEndian.word_fields (front.take 2) 2 _ _ [] rfl).trans stored_
  · have stored_ : (p.flags % 256 ^ 4).toNat % 256 ^ 4 = p.flags.toNat := by omega
    have at_ : word (LittleEndian.fields front ++ []) 8 4 = p.flags.toNat :=
      (LittleEndian.word_fields (front.take 3) 4 _ _ [] rfl).trans stored_
    rw [at_, Int.toNat_of_nonneg positive]
  · have stored_ : ((p.payload.length : Int) % 256 ^ 4).toNat % 256 ^ 4 = p.payload.length := by
      omega
    exact (LittleEndian.word_fields (front.take 4) 4 _ _ [] rfl).trans stored_
  · have at_ : word (LittleEndian.fields front ++ []) 16 8 =
        (p.timestampUtc.microsecondsSinceEpoch % 256 ^ 8).toNat % 256 ^ 8 :=
      LittleEndian.word_fields (front.take 5) 8 _ [] [] rfl
    rw [at_, signed64_word]

theorem Words.append {p : WirePacket} {bytes : Bytes} (words : Words p bytes)
    (size : 24 ≤ bytes.length) (rest : Bytes) : Words p (bytes ++ rest) := by
  constructor
  · rw [word_append bytes rest (by omega), words.magic]
  · rw [word_append bytes rest (by omega), words.version]
  · rw [word_append bytes rest (by omega), words.type]
  · rw [word_append bytes rest (by omega), words.flags]
  · rw [word_append bytes rest (by omega), words.size]
  · rw [word_append bytes rest (by omega), words.timestamp]

theorem OnWire.unflagged {p : WirePacket} (small : p.payload.length < 2 ^ 32)
    (flags : p.flags = 0) : p.OnWire := ⟨small, by rw [flags]; decide⟩

theorem encode_words {p : WirePacket} (fits : p.OnWire) (rest : Bytes) :
    Words p (p.encode ++ rest) := by
  rw [encode, List.append_assoc]
  exact (header_words fits).append p.header_length.ge (p.payload ++ rest)

theorem encode_payload (p : WirePacket) (rest : Bytes) :
    ((p.encode ++ rest).drop 24).take p.payload.length = p.payload := by
  rw [encode, List.append_assoc, ← p.header_length, List.drop_left, List.take_left]

/-- A packet on the wire is decoded as it was, and its bytes announce its own length. -/
theorem decode_encode {p : WirePacket} (fits : p.OnWire) (rest : Bytes) :
    decode (p.encode ++ rest) = .ok p := by
  have words := encode_words fits rest
  have body := p.encode_payload rest
  simp only [decode, words.magic, words.version, words.type, words.flags, words.size,
    words.timestamp, MessageType.values_value, DateTime.fromMicroseconds_self, body,
    List.length_append, encode_length, ne_eq, not_true_eq_false, if_false]
  rw [if_neg (by omega), if_neg (by omega)]

/-- The words of accepted bytes are the fields of the packet, and the payload follows them. -/
theorem decode_words {p : WirePacket} {bytes : Bytes} (decoded : decode bytes = .ok p) :
    Words p bytes ∧ 24 + word bytes 12 4 ≤ bytes.length ∧
      p.payload = (bytes.drop 24).take (word bytes 12 4) := by
  unfold decode at decoded
  split at decoded
  · cases decoded
  split at decoded
  · cases decoded
  next magic =>
  split at decoded
  · cases decoded
  next version =>
  split at decoded
  · cases decoded
  next type known =>
  dsimp only at decoded
  split at decoded
  · cases decoded
  next whole =>
  split at decoded
  · cases decoded
  next timestampUtc inRange =>
  cases decoded
  have size : ((bytes.drop 24).take (word bytes 12 4)).length = word bytes 12 4 := by
    rw [List.length_take, List.length_drop]
    omega
  refine ⟨⟨not_not.mp magic, not_not.mp version, ?_, rfl, size.symm, ?_⟩, Nat.not_lt.mp whole, rfl⟩
  · exact MessageType.value_of_values known
  · unfold DateTime.fromMicroseconds at inRange
    split at inRange <;> cases inRange
    rfl

theorem totalLength_encode {p : WirePacket} (fits : p.OnWire) (rest : Bytes) :
    totalLength (p.encode ++ rest) = .ok p.encode.length := by
  have words := encode_words fits rest
  simp only [totalLength, words.magic, words.version, words.size, List.length_append,
    encode_length, ne_eq, not_true_eq_false, if_false]
  rw [if_neg (by omega)]

/-- A front of a packet that holds the header announces the whole packet. -/
theorem totalLength_prefix {p : WirePacket} (fits : p.OnWire) {front rest : Bytes}
    (split : front ++ rest = p.encode) (header : 24 ≤ front.length) :
    totalLength front = .ok p.encode.length := by
  have words := encode_words fits []
  rw [List.append_nil, ← split] at words
  have magic := words.magic
  have version := words.version
  have size := words.size
  rw [word_append front rest (by omega)] at magic version size
  simp only [totalLength, magic, version, size, encode_length, ne_eq, not_true_eq_false, if_false]
  rw [if_neg (by omega)]

end WirePacket
end Screenscrab.Dart
