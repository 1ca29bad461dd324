import Screenscrab.Wire.Protocol
import Screenscrab.Library.LittleEndian

/-! The C++ side of the wire format, wire_codec.h. Every access to a span is
checked: `none` stands for an access outside it, which is undefined in C++. -/
namespace Screenscrab.Protocol
open LittleEndian (encode decode word word_lt)

def appendU16 (out : Bytes) (value : UInt16) : Bytes :=
  out ++ [(value &&& 0xFF).toUInt8, ((value >>> 8) &&& 0xFF).toUInt8]

def appendU32 (out : Bytes) (value : UInt32) : Bytes :=
  appendU16 (appendU16 out (value &&& 0xFFFF).toUInt16) ((value >>> 16) &&& 0xFFFF).toUInt16

def appendU64 (out : Bytes) (value : UInt64) : Bytes :=
  appendU32 (appendU32 out (value &&& 0xFFFFFFFF).toUInt32)
    ((value >>> 32) &&& 0xFFFFFFFF).toUInt32

/-- `make_packet`. The size of the payload is cast to 32 bits in the header. -/
def makePacket (type : MessageType) (flags : UInt32) (payload : Bytes)
    (timestampUtcUs : UInt64) : Bytes :=
  let out := appendU32 [] (UInt32.ofNat wireMagic)
  let out := appendU16 out (UInt16.ofNat wireVersion)
  let out := appendU16 out (UInt16.ofNat type.value)
  let out := appendU32 out flags
  let out := appendU32 out (UInt32.ofNat payload.length)
  let out := appendU64 out timestampUtcUs
  out ++ payload

def makeHello (apiVersion protocolVersion capabilityFlags : UInt32) : Bytes :=
  appendU32 (appendU32 (appendU32 [] apiVersion) protocolVersion) capabilityFlags

def makeCapabilities (hostCapabilities clientCapabilities : UInt32) : Bytes :=
  appendU32 (appendU32 [] hostCapabilities) clientCapabilities

def makeFrameMetadata (monitorIndex width height strideBytes : UInt32) (frameId : UInt64) : Bytes :=
  let payload := appendU32 [] monitorIndex
  let payload := appendU32 payload width
  let payload := appendU32 payload height
  let payload := appendU32 payload strideBytes
  appendU64 payload frameId

def makePing (nonce : UInt64) : Bytes := appendU64 [] nonce

def makePong (nonce : UInt64) : Bytes := appendU64 [] nonce

/-- `append_bytes`. -/
def appendBytes (out text : Bytes) : Bytes := out ++ text

def makeInputMouse (x y wheelDelta : Int32) (buttons flags : UInt32) : Bytes :=
  let payload := appendU32 [] 0
  let payload := appendU32 payload x.toUInt32
  let payload := appendU32 payload y.toUInt32
  let payload := appendU32 payload wheelDelta.toUInt32
  let payload := appendU32 payload buttons
  appendU32 payload flags

def makeInputKey (virtualKey scanCode flags : UInt32) : Bytes :=
  let payload := appendU32 [] 1
  let payload := appendU32 payload virtualKey
  let payload := appendU32 payload scanCode
  appendU32 payload flags

def makeClipboard (text : Bytes) : Bytes := appendBytes (appendU32 [] 1) text

def makeDisconnect (reasonCode : UInt32) (reason : Bytes) : Bytes :=
  appendBytes (appendU32 (appendU32 [] reasonCode) (UInt32.ofNat reason.length)) reason

def readU16 (bytes : Bytes) (offset : Nat) : Option UInt16 := do
  let b0 ← bytes[offset]?
  let b1 ← bytes[offset + 1]?
  return b0.toUInt16 ||| (b1.toUInt16 <<< 8)

def readU32 (bytes : Bytes) (offset : Nat) : Option UInt32 := do
  let b0 ← bytes[offset]?
  let b1 ← bytes[offset + 1]?
  let b2 ← bytes[offset + 2]?
  let b3 ← bytes[offset + 3]?
  return b0.toUInt32 ||| (b1.toUInt32 <<< 8) ||| (b2.toUInt32 <<< 16) ||| (b3.toUInt32 <<< 24)

def readU64 (bytes : Bytes) (offset : Nat) : Option UInt64 := do
  let lo ← readU32 bytes offset
  let hi ← readU32 bytes (offset + 4)
  return lo.toUInt64 ||| (hi.toUInt64 <<< 32)

/-- `std::span::subspan`, whose range must lie inside the span. -/
def subspan (bytes : Bytes) (offset count : Nat) : Option Bytes :=
  if offset + count ≤ bytes.length then some ((bytes.drop offset).take count) else none

structure WirePacketView where
  type : MessageType
  flags : UInt32
  timestampUtcUs : UInt64
  payload : Bytes
  deriving DecidableEq, Repr

/-- `parse_packet`: the inner `none` is its `false`. The announced end of the
packet is computed in 32-bit arithmetic. -/
def parsePacket (bytes : Bytes) : Option (Option WirePacketView) :=
  if bytes.length < 24 then some none
  else do
    let magic ← readU32 bytes 0
    let version ← readU16 bytes 4
    if magic.toNat ≠ wireMagic ∨ version.toNat ≠ wireVersion then return none
    let typeValue ← readU16 bytes 6
    if typeValue.toNat > MessageType.error.value then return none
    let payloadSize ← readU32 bytes 12
    if bytes.length < (24 + payloadSize).toNat then return none
    let type ← MessageType.values[typeValue.toNat]?
    let flags ← readU32 bytes 8
    let timestampUtcUs ← readU64 bytes 16
    let payload ← subspan bytes 24 payloadSize.toNat
    return some { type, flags, timestampUtcUs, payload }

@[simp] theorem word_toU16 (bytes : Bytes) (offset : Nat) :
    (UInt16.ofNat (word bytes offset 2)).toNat = word bytes offset 2 :=
  (UInt16.toNat_ofNat').trans (Nat.mod_eq_of_lt (word_lt bytes offset 2))

@[simp] theorem word_toU32 (bytes : Bytes) (offset : Nat) :
    (UInt32.ofNat (word bytes offset 4)).toNat = word bytes offset 4 :=
  (UInt32.toNat_ofNat').trans (Nat.mod_eq_of_lt (word_lt bytes offset 4))

theorem appendU16_eq (out : Bytes) (value : UInt16) :
    appendU16 out value = out ++ encode 2 value.toNat := by
  have low : (value &&& 0xFF).toUInt8 = UInt8.ofNat value.toNat := by
    apply UInt8.toNat_inj.mp
    simp [Nat.and_two_pow_sub_one_eq_mod _ 8]
  have high : ((value >>> 8) &&& 0xFF).toUInt8 = UInt8.ofNat (value.toNat / 256) := by
    apply UInt8.toNat_inj.mp
    simp [Nat.and_two_pow_sub_one_eq_mod _ 8, Nat.shiftRight_eq_div_pow]
  rw [appendU16, low, high]
  rfl

theorem appendU32_eq (out : Bytes) (value : UInt32) :
    appendU32 out value = out ++ encode 4 value.toNat := by
  have low : (value &&& 0xFFFF).toUInt16.toNat = value.toNat % 256 ^ 2 := by
    simp [Nat.and_two_pow_sub_one_eq_mod _ 16]
  have high : ((value >>> 16) &&& 0xFFFF).toUInt16.toNat = value.toNat / 256 ^ 2 % 256 ^ 2 := by
    simp [Nat.and_two_pow_sub_one_eq_mod _ 16, Nat.shiftRight_eq_div_pow]
  rw [appendU32, appendU16_eq, appendU16_eq, low, high, LittleEndian.encode_mod,
    LittleEndian.encode_mod, List.append_assoc, ← LittleEndian.encode_append]

theorem appendU64_eq (out : Bytes) (value : UInt64) :
    appendU64 out value = out ++ encode 8 value.toNat := by
  have low : (value &&& 0xFFFFFFFF).toUInt32.toNat = value.toNat % 256 ^ 4 := by
    simp [Nat.and_two_pow_sub_one_eq_mod _ 32]
  have high : ((value >>> 32) &&& 0xFFFFFFFF).toUInt32.toNat =
      value.toNat / 256 ^ 4 % 256 ^ 4 := by
    simp [Nat.and_two_pow_sub_one_eq_mod _ 32, Nat.shiftRight_eq_div_pow]
  rw [appendU64, appendU32_eq, appendU32_eq, low, high, LittleEndian.encode_mod,
    LittleEndian.encode_mod, List.append_assoc, ← LittleEndian.encode_append]

theorem appendU32_fields (layout : List (Nat × Nat)) (value : UInt32) :
    appendU32 (LittleEndian.fields layout) value =
      LittleEndian.fields (layout ++ [(4, value.toNat)]) := by
  rw [appendU32_eq, LittleEndian.fields_append, LittleEndian.fields, LittleEndian.fields,
    List.append_nil]

theorem appendU64_fields (layout : List (Nat × Nat)) (value : UInt64) :
    appendU64 (LittleEndian.fields layout) value =
      LittleEndian.fields (layout ++ [(8, value.toNat)]) := by
  rw [appendU64_eq, LittleEndian.fields_append, LittleEndian.fields, LittleEndian.fields,
    List.append_nil]

theorem or_shift {low : Nat} (high shift : Nat) (small : low < 2 ^ shift) :
    low ||| high <<< shift = low + 2 ^ shift * high := by
  rw [Nat.or_comm, ← Nat.shiftLeft_add_eq_or_of_lt small, Nat.shiftLeft_eq]
  ring

theorem readU16_eq {bytes : Bytes} {offset : Nat} (inside : offset + 2 ≤ bytes.length) :
    readU16 bytes offset = some (UInt16.ofNat (word bytes offset 2)) := by
  have at0 : bytes[offset]? = (bytes.drop offset)[0]? := by simp
  have at1 : bytes[offset + 1]? = (bytes.drop offset)[1]? := by simp
  have size : 2 ≤ (bytes.drop offset).length := by simp only [List.length_drop]; omega
  unfold readU16 word
  rw [at0, at1]
  match bytes.drop offset, size with
  | b0 :: b1 :: rest, _ =>
      have l0 := b0.toNat_lt
      have l1 := b1.toNat_lt
      have fits : b1.toNat <<< 8 < 2 ^ 16 := by rw [Nat.shiftLeft_eq]; omega
      refine congrArg some (UInt16.toNat_inj.mp ?_)
      simp only [UInt16.toNat_or, UInt16.toNat_shiftLeft, UInt8.toNat_toUInt16,
        UInt16.toNat_ofNat', List.take_succ_cons, List.take_zero, decode]
      rw [show UInt16.toNat 8 % 16 = 8 from rfl, Nat.mod_eq_of_lt fits, or_shift _ _ l0]
      omega

theorem readU32_eq {bytes : Bytes} {offset : Nat} (inside : offset + 4 ≤ bytes.length) :
    readU32 bytes offset = some (UInt32.ofNat (word bytes offset 4)) := by
  have at0 : bytes[offset]? = (bytes.drop offset)[0]? := by simp
  have at1 : bytes[offset + 1]? = (bytes.drop offset)[1]? := by simp
  have at2 : bytes[offset + 2]? = (bytes.drop offset)[2]? := by simp
  have at3 : bytes[offset + 3]? = (bytes.drop offset)[3]? := by simp
  have size : 4 ≤ (bytes.drop offset).length := by simp only [List.length_drop]; omega
  unfold readU32 word
  rw [at0, at1, at2, at3]
  match bytes.drop offset, size with
  | b0 :: b1 :: b2 :: b3 :: rest, _ =>
      have l0 := b0.toNat_lt
      have l1 := b1.toNat_lt
      have l2 := b2.toNat_lt
      have l3 := b3.toNat_lt
      have fits1 : b1.toNat <<< 8 < 2 ^ 32 := by rw [Nat.shiftLeft_eq]; omega
      have fits2 : b2.toNat <<< 16 < 2 ^ 32 := by rw [Nat.shiftLeft_eq]; omega
      have fits3 : b3.toNat <<< 24 < 2 ^ 32 := by rw [Nat.shiftLeft_eq]; omega
      refine congrArg some (UInt32.toNat_inj.mp ?_)
      simp only [UInt32.toNat_or, UInt32.toNat_shiftLeft, UInt8.toNat_toUInt32,
        UInt32.toNat_ofNat', List.take_succ_cons, List.take_zero, decode]
      rw [show UInt32.toNat 8 % 32 = 8 from rfl, show UInt32.toNat 16 % 32 = 16 from rfl,
        show UInt32.toNat 24 % 32 = 24 from rfl, Nat.mod_eq_of_lt fits1, Nat.mod_eq_of_lt fits2,
        Nat.mod_eq_of_lt fits3, or_shift _ _ l0, or_shift _ 16 (by omega), or_shift _ 24 (by omega)]
      omega

theorem readU64_eq {bytes : Bytes} {offset : Nat} (inside : offset + 8 ≤ bytes.length) :
    readU64 bytes offset = some (UInt64.ofNat (word bytes offset 8)) := by
  have halves : word bytes offset 8 =
      word bytes offset 4 + 2 ^ 32 * word bytes (offset + 4) 4 := by
    have size : ((bytes.drop offset).take 4).length = 4 := by
      simp only [List.length_take, List.length_drop]; omega
    have split : (bytes.drop offset).take 8 =
        (bytes.drop offset).take 4 ++ (bytes.drop (offset + 4)).take 4 := by
      rw [← List.drop_drop, show 8 = 4 + 4 from rfl, List.take_add]
    unfold word
    rw [split, LittleEndian.decode_append, size, show 256 ^ 4 = 2 ^ 32 from rfl]
  have lo : word bytes offset 4 < 2 ^ 32 := word_lt bytes offset 4
  have hi : word bytes (offset + 4) 4 < 2 ^ 32 := word_lt bytes (offset + 4) 4
  have fits : word bytes (offset + 4) 4 <<< 32 < 2 ^ 64 := by rw [Nat.shiftLeft_eq]; omega
  unfold readU64
  rw [readU32_eq (by omega), readU32_eq (by omega)]
  refine congrArg some (UInt64.toNat_inj.mp ?_)
  simp only [UInt64.toNat_or, UInt64.toNat_shiftLeft, UInt32.toNat_toUInt64, UInt64.toNat_ofNat',
    word_toU32]
  rw [show UInt64.toNat 32 % 64 = 32 from rfl, Nat.mod_eq_of_lt fits, or_shift _ _ lo, ← halves]
  exact (Nat.mod_eq_of_lt (word_lt bytes offset 8)).symm

theorem readU32_fields (front : List (Nat × Nat)) (value : UInt32) (rest : List (Nat × Nat))
    (tail : Bytes) {offset : Nat} (place : LittleEndian.extent front = offset) :
    readU32 (LittleEndian.fields (front ++ (4, value.toNat) :: rest) ++ tail) offset =
      some value := by
  have inside := LittleEndian.field_inside front 4 value.toNat rest tail place
  have bound : value.toNat < 256 ^ 4 := value.toNat_lt
  rw [readU32_eq inside, LittleEndian.word_fields front 4 value.toNat rest tail place,
    Nat.mod_eq_of_lt bound, UInt32.ofNat_toNat]

theorem readU64_fields (front : List (Nat × Nat)) (value : UInt64) (rest : List (Nat × Nat))
    (tail : Bytes) {offset : Nat} (place : LittleEndian.extent front = offset) :
    readU64 (LittleEndian.fields (front ++ (8, value.toNat) :: rest) ++ tail) offset =
      some value := by
  have inside := LittleEndian.field_inside front 8 value.toNat rest tail place
  have bound : value.toNat < 256 ^ 8 := value.toNat_lt
  rw [readU64_eq inside, LittleEndian.word_fields front 8 value.toNat rest tail place,
    Nat.mod_eq_of_lt bound, UInt64.ofNat_toNat]

/-- The view `parse_packet` forms from a header it accepts. -/
def viewOf (bytes : Bytes) : WirePacketView where
  type := MessageType.ofValue (word bytes 6 2)
  flags := UInt32.ofNat (word bytes 8 4)
  timestampUtcUs := UInt64.ofNat (word bytes 16 8)
  payload := (bytes.drop 24).take (word bytes 12 4)

/-- A header that `parse_packet` accepts, whatever it announces. -/
def Header (bytes : Bytes) : Prop :=
  24 ≤ bytes.length ∧ word bytes 0 4 = wireMagic ∧ word bytes 4 2 = wireVersion ∧
    word bytes 6 2 ≤ MessageType.error.value

instance : DecidablePred Header := fun bytes =>
  inferInstanceAs (Decidable (24 ≤ bytes.length ∧ word bytes 0 4 = wireMagic ∧
    word bytes 4 2 = wireVersion ∧ word bytes 6 2 ≤ MessageType.error.value))

/-- Behind an accepted header only the announced size, reduced to 32 bits, is checked. -/
theorem parsePacket_eq (bytes : Bytes) :
    parsePacket bytes =
      if Header bytes then
        if bytes.length < (24 + word bytes 12 4) % 2 ^ 32 then some none
        else if 24 + word bytes 12 4 ≤ bytes.length then some (some (viewOf bytes)) else none
      else some none := by
  have end32 : ((24 : UInt32) + UInt32.ofNat (word bytes 12 4)).toNat =
      (24 + word bytes 12 4) % 2 ^ 32 := by
    rw [UInt32.toNat_add, word_toU32, show UInt32.toNat 24 = 24 from rfl]
  unfold parsePacket
  by_cases short : bytes.length < 24
  · rw [if_pos short, if_neg fun header => absurd header.1 (Nat.not_le.mpr short)]
  rw [if_neg short, readU32_eq (by omega), readU16_eq (by omega), readU16_eq (by omega),
    readU32_eq (by omega), readU32_eq (by omega), readU64_eq (by omega)]
  simp only [Option.bind_eq_bind, Option.bind_some, word_toU32, word_toU16, end32,
    Option.pure_def]
  by_cases other : word bytes 0 4 ≠ wireMagic ∨ word bytes 4 2 ≠ wireVersion
  · rw [if_pos other, if_neg fun header => other.elim (· header.2.1) (· header.2.2.1)]
  by_cases unknown : word bytes 6 2 > MessageType.error.value
  · rw [if_neg other, if_pos unknown,
      if_neg fun header => absurd header.2.2.2 (Nat.not_le.mpr unknown)]
  push Not at other
  have known : word bytes 6 2 ≤ MessageType.error.value := Nat.not_lt.mp unknown
  have header : Header bytes := ⟨Nat.not_lt.mp short, other.1, other.2, known⟩
  rw [if_neg fun differs => differs.elim (· other.1) (· other.2), if_neg unknown, if_pos header,
    MessageType.values_ofValue known]
  simp only [Option.bind_some, subspan]
  by_cases inside : 24 + word bytes 12 4 ≤ bytes.length
  · rw [if_pos inside, if_pos inside]
    rfl
  · rw [if_neg inside, if_neg inside]
    rfl

theorem parsePacket_announced {bytes : Bytes} (magic : word bytes 0 4 = wireMagic)
    (version : word bytes 4 2 = wireVersion) (fits : word bytes 12 4 < 2 ^ 32 - 24)
    (size : 24 + word bytes 12 4 ≤ bytes.length) :
    parsePacket bytes =
      some (if word bytes 6 2 ≤ MessageType.error.value then some (viewOf bytes) else none) := by
  have long : ¬ bytes.length < (24 + word bytes 12 4) % 2 ^ 32 := by omega
  rw [parsePacket_eq]
  by_cases known : word bytes 6 2 ≤ MessageType.error.value
  · rw [if_pos ⟨by omega, magic, version, known⟩, if_neg long, if_pos size, if_pos known]
  · rw [if_neg fun header => known header.2.2.2, if_neg known]

/-- What the front of accepted bytes is like; any bytes may follow the packet. -/
structure Whole (bytes : Bytes) : Prop where
  magic : word bytes 0 4 = wireMagic
  version : word bytes 4 2 = wireVersion
  type : word bytes 6 2 ≤ MessageType.error.value
  size : 24 + word bytes 12 4 ≤ bytes.length

theorem whole_of_parsePacket {bytes : Bytes} {view : WirePacketView}
    (fits : word bytes 12 4 < 2 ^ 32 - 24) (parsed : parsePacket bytes = some (some view)) :
    Whole bytes ∧ view = viewOf bytes := by
  rw [parsePacket_eq] at parsed
  by_cases header : Header bytes
  · rw [if_pos header] at parsed
    by_cases short : bytes.length < (24 + word bytes 12 4) % 2 ^ 32
    · rw [if_pos short] at parsed
      cases parsed
    · have size : 24 + word bytes 12 4 ≤ bytes.length := by omega
      rw [if_neg short, if_pos size] at parsed
      obtain ⟨_, magic, version, type⟩ := header
      exact ⟨⟨magic, version, type, size⟩, (Option.some.inj (Option.some.inj parsed)).symm⟩
  · rw [if_neg header] at parsed
    cases parsed

/-- `parse_packet` accepts exactly the bytes that hold a packet, and the payload it returns is
the announced part of them. -/
def ParsesWhole (bytes : Bytes) : Prop :=
  ∃ result, parsePacket bytes = some result ∧ (result.isSome ↔ Whole bytes) ∧
    ∀ view, result = some view → ∃ rest, bytes = bytes.take 24 ++ view.payload ++ rest ∧
      view.payload.length = word bytes 12 4

/-- The end of the announced payload is beyond the input, and not below 2^32. -/
def Wraps (bytes : Bytes) : Prop :=
  2 ^ 32 ≤ 24 + word bytes 12 4 ∧ bytes.length < 24 + word bytes 12 4

instance : DecidablePred Wraps := fun bytes => inferInstanceAs
  (Decidable (2 ^ 32 ≤ 24 + word bytes 12 4 ∧ bytes.length < 24 + word bytes 12 4))

theorem viewOf_payload {bytes : Bytes} (size : 24 + word bytes 12 4 ≤ bytes.length) :
    bytes = bytes.take 24 ++ (viewOf bytes).payload ++ bytes.drop (24 + word bytes 12 4) ∧
      (viewOf bytes).payload.length = word bytes 12 4 := by
  constructor
  · rw [List.append_assoc, viewOf, ← List.drop_drop, List.take_append_drop,
      List.take_append_drop]
  · rw [viewOf, List.length_take, List.length_drop]
    omega

theorem parsesWhole_iff (bytes : Bytes) : ParsesWhole bytes ↔ ¬ (Header bytes ∧ Wraps bytes) := by
  have wholeHeader : Whole bytes → Header bytes := fun whole =>
    ⟨by have size := whole.size; omega, whole.magic, whole.version, whole.type⟩
  have parsed := parsePacket_eq bytes
  have announced : word bytes 12 4 < 2 ^ 32 := word_lt bytes 12 4
  by_cases header : Header bytes
  · have long := header.1
    rw [if_pos header] at parsed
    by_cases short : bytes.length < (24 + word bytes 12 4) % 2 ^ 32
    · -- reducing the end to 32 bits only makes it smaller
      have missing : ¬ Whole bytes := fun whole => by have size := whole.size; omega
      have below : ¬ Wraps bytes := by unfold Wraps; omega
      rw [if_pos short] at parsed
      refine iff_of_true ⟨none, parsed, iff_of_false Bool.false_ne_true missing, ?_⟩
        fun both => below both.2
      intro view accepted
      cases accepted
    · by_cases size : 24 + word bytes 12 4 ≤ bytes.length
      · have below : ¬ Wraps bytes := by unfold Wraps; omega
        rw [if_neg short, if_pos size] at parsed
        obtain ⟨_, magic, version, type⟩ := header
        refine iff_of_true ⟨some (viewOf bytes), parsed,
          iff_of_true rfl ⟨magic, version, type, size⟩, ?_⟩ fun both => below both.2
        intro view accepted
        cases accepted
        exact ⟨_, viewOf_payload size⟩
      · have wraps : Wraps bytes := by unfold Wraps; omega
        rw [if_neg short, if_neg size] at parsed
        refine iff_of_false ?_ (not_not.mpr ⟨header, wraps⟩)
        rintro ⟨result, found, _⟩
        rw [parsed] at found
        cases found
  · rw [if_neg header] at parsed
    refine iff_of_true ⟨none, parsed, iff_of_false Bool.false_ne_true (header ∘ wholeHeader), ?_⟩
      fun both => header both.1
    intro view accepted
    cases accepted

/-- A bare header that announces 2^32 − 1 bytes is taken for a packet. -/
theorem endless_header_parsed :
    let bytes := makePacket .ping 0 [] 0
    let endless := bytes.take 12 ++ [255, 255, 255, 255] ++ bytes.drop 16
    endless.length = 24 ∧ ¬ ParsesWhole endless := by
  intro bytes endless
  have outside : parsePacket endless = none := by decide
  refine ⟨by decide, ?_⟩
  rintro ⟨result, parsed, _⟩
  rw [outside] at parsed
  cases parsed

theorem makePacket_eq (type : MessageType) (flags : UInt32) (payload : Bytes)
    (timestampUtcUs : UInt64) :
    makePacket type flags payload timestampUtcUs =
      encode 4 wireMagic ++ encode 2 wireVersion ++ encode 2 type.value ++
        encode 4 flags.toNat ++ encode 4 payload.length ++ encode 8 timestampUtcUs.toNat ++
        payload := by
  have kind : type.value < 16 := type.value_lt
  have typeWord : (UInt16.ofNat type.value).toNat = type.value := by
    rw [UInt16.toNat_ofNat']
    omega
  have sizeWord : encode 4 (UInt32.ofNat payload.length).toNat = encode 4 payload.length := by
    rw [UInt32.toNat_ofNat', show 2 ^ 32 = 256 ^ 4 from rfl, LittleEndian.encode_mod]
  simp only [makePacket, appendU16_eq, appendU32_eq, appendU64_eq, List.nil_append, typeWord,
    sizeWord]
  rfl

/-- A whole packet, no byte more: what the receive loop assembles for `handle_packet`. -/
structure Framed (bytes : Bytes) : Prop where
  magic : word bytes 0 4 = wireMagic
  version : word bytes 4 2 = wireVersion
  small : word bytes 12 4 ≤ 1024 * 1024
  size : bytes.length = 24 + word bytes 12 4

theorem parsePacket_framed {bytes : Bytes} (framed : Framed bytes) :
    parsePacket bytes =
      some (if word bytes 6 2 ≤ MessageType.error.value then some (viewOf bytes) else none) := by
  have small := framed.small
  exact parsePacket_announced framed.magic framed.version (by omega) framed.size.ge

end Screenscrab.Protocol
