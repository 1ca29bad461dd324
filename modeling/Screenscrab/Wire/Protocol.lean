/-! Names shared by both ends of the wire: the message types and the header
constants of protocol.h and protocol.dart. -/
namespace Screenscrab

/-- The contents of a `std::string`, a byte span, a Go string or a `Uint8List`. -/
abbrev Bytes := List UInt8

/-- The bytes of an ASCII literal of the source. -/
def ascii (text : String) : Bytes := text.toList.map fun c => UInt8.ofNat c.toNat

/-- `MessageType`, declared in the same order in both languages. -/
inductive MessageType where
  | hello
  | capabilities
  | frameMetadata
  | sessionStart
  | sessionStop
  | videoFrame
  | audioFrame
  | inputEvent
  | clipboardSync
  | fileOffer
  | fileChunk
  | deviceList
  | ping
  | pong
  | disconnect
  | error
  deriving DecidableEq, Repr

namespace MessageType

/-- `MessageType.values` of the Dart enumeration; its positions are the values
that protocol.h writes out for the C++ one. -/
def values : List MessageType :=
  [hello, capabilities, frameMetadata, sessionStart, sessionStop, videoFrame, audioFrame,
    inputEvent, clipboardSync, fileOffer, fileChunk, deviceList, ping, pong, disconnect, error]

def value : MessageType → Nat
  | hello => 0
  | capabilities => 1
  | frameMetadata => 2
  | sessionStart => 3
  | sessionStop => 4
  | videoFrame => 5
  | audioFrame => 6
  | inputEvent => 7
  | clipboardSync => 8
  | fileOffer => 9
  | fileChunk => 10
  | deviceList => 11
  | ping => 12
  | pong => 13
  | disconnect => 14
  | error => 15

@[simp] theorem values_value (t : MessageType) : values[t.value]? = some t := by
  cases t <;> rfl

theorem value_of_values {n : Nat} {t : MessageType} (known : values[n]? = some t) :
    n = t.value := by
  have every : ∀ i (bound : i < values.length), i = values[i].value := by decide
  obtain ⟨bound, rfl⟩ := List.getElem?_eq_some_iff.mp known
  exact every n bound

theorem value_lt (t : MessageType) : t.value < values.length := by
  cases t <;> decide

/-- The enumerator of a value; the callers have compared it with `kError` before. -/
def ofValue (n : Nat) : MessageType := values.getD n error

theorem values_ofValue {n : Nat} (known : n ≤ error.value) : values[n]? = some (ofValue n) := by
  have bound : n < values.length := Nat.lt_succ_of_le known
  simp only [ofValue, List.getD_eq_getElem?_getD, List.getElem?_eq_getElem bound, Option.getD_some]

@[simp] theorem ofValue_value (t : MessageType) : ofValue t.value = t := by
  cases t <;> rfl

end MessageType

/-- `kWireMagic` and `wireMagic`: the letters SCRB. -/
def wireMagic : Nat := 0x53435242

/-- `kWireVersion` and `wireVersion`. -/
def wireVersion : Nat := 1

end Screenscrab
