import Screenscrab.Session.Outgoing

/-! From the mapped texture of a captured screen to the frame that is sent: what is behind `Map` in
`CaptureBackend::capture`, and `RawFrameEncoder::encode`. -/
namespace Screenscrab.Session

/-- The staging texture as `Map` gives it, with its description: `rowPitch` bytes a row, of which
the first four for each pixel are its colour. -/
structure MappedTexture where
  width : UInt32
  height : UInt32
  rowPitch : UInt32
  data : Bytes
  whole : data.length = rowPitch.toNat * height.toNat

structure CaptureFrame where
  width : UInt32
  height : UInt32
  strideBytes : UInt32
  timestampUtcUs : UInt64
  monitorIndex : UInt32
  rgba : Bytes

/-- `std::copy_n` between two places of two arrays; `none` is an access outside one of them. -/
def copyN (source : Bytes) (first count : Nat) (target : Bytes) (place : Nat) : Option Bytes :=
  if first + count ≤ source.length ∧ place + count ≤ target.length then
    some (target.take place ++ (source.drop first).take count ++ target.drop (place + count))
  else none

/-- The body of the row loop; the offset of a row is computed in 32 bits. -/
def copyRow (texture : MappedTexture) (rgba : Bytes) (row : Nat) : Option Bytes :=
  let offset := (texture.rowPitch * UInt32.ofNat row).toNat
  copyN texture.data offset texture.rowPitch.toNat rgba offset

/-- `capture`, when the duplication has given a frame and its texture has been mapped. -/
def capture (texture : MappedTexture) (timestampUtcUs : UInt64) (monitorIndex : UInt32) :
    Option CaptureFrame := do
  let rgba := List.replicate (texture.rowPitch.toNat * texture.height.toNat) 0
  let rgba ← (List.range texture.height.toNat).foldlM (copyRow texture) rgba
  return { width := texture.width, height := texture.height, strideBytes := texture.rowPitch,
           timestampUtcUs, monitorIndex, rgba }

/-- `RawFrameEncoder::encode`, which always succeeds. -/
def rawEncode (frame : CaptureFrame) : EncodedFrame where
  timestampUtcUs := frame.timestampUtcUs
  width := frame.width
  height := frame.height
  strideBytes := frame.strideBytes
  monitorIndex := frame.monitorIndex
  payload := frame.rgba

/-- A target that holds the first `n` bytes of the source and is zero behind them. -/
def Copied (source : Bytes) (n : Nat) (target : Bytes) : Prop :=
  target = source.take n ++ List.replicate (source.length - n) 0

theorem copyN_next {source target : Bytes} {n count : Nat} (inside : n + count ≤ source.length)
    (copied : Copied source n target) :
    ∃ target', copyN source n count target n = some target' ∧
      Copied source (n + count) target' := by
  have front : (source.take n).length = n := List.length_take_of_le (by omega)
  have size : target.length = source.length := by
    rw [copied, List.length_append, front, List.length_replicate]
    omega
  refine ⟨_, if_pos ⟨inside, by omega⟩, ?_⟩
  have kept : target.take n = source.take n := by
    rw [copied, List.take_append_of_le_length front.ge, List.take_of_length_le front.le]
  have zeros : target.drop (n + count) =
      List.replicate (source.length - (n + count)) 0 := by
    rw [copied, ← List.drop_drop, List.drop_append_of_le_length front.ge,
      List.drop_of_length_le front.le, List.nil_append, List.drop_replicate, Nat.sub_sub]
  rw [Copied, kept, zeros, List.take_add]

/-- Where an unsigned 32-bit offset of a row does not wrap. -/
theorem row_offset (pitch : UInt32) {row height : Nat} (inside : row ≤ height)
    (small : pitch.toNat * height < 2 ^ 31) (rows : height < 2 ^ 32) :
    (pitch * UInt32.ofNat row).toNat = pitch.toNat * row := by
  have bound : pitch.toNat * row ≤ pitch.toNat * height := Nat.mul_le_mul_left _ inside
  have exact_ : row % 2 ^ 32 = row := Nat.mod_eq_of_lt (by omega)
  rw [UInt32.toNat_mul, UInt32.toNat_ofNat', exact_, Nat.mod_eq_of_lt (by omega)]

theorem copyRows (texture : MappedTexture)
    (small : texture.rowPitch.toNat * texture.height.toNat < 2 ^ 31) (rows : Nat)
    (inside : rows ≤ texture.height.toNat) :
    ∃ rgba, (List.range rows).foldlM (copyRow texture)
        (List.replicate (texture.rowPitch.toNat * texture.height.toNat) 0) = some rgba ∧
      Copied texture.data (texture.rowPitch.toNat * rows) rgba := by
  induction rows with
  | zero =>
      refine ⟨_, rfl, ?_⟩
      rw [Copied, Nat.mul_zero, List.take_zero, List.nil_append, Nat.sub_zero, texture.whole]
  | succ rows ih =>
      obtain ⟨rgba, same, copied⟩ := ih (by omega)
      have height : texture.height.toNat < 2 ^ 32 := texture.height.toNat_lt
      have offset := row_offset texture.rowPitch (by omega : rows ≤ _) small height
      have room : texture.rowPitch.toNat * rows + texture.rowPitch.toNat ≤ texture.data.length := by
        rw [texture.whole, ← Nat.mul_succ]
        exact Nat.mul_le_mul_left _ inside
      obtain ⟨rgba', next, copied'⟩ := copyN_next room copied
      refine ⟨rgba', ?_, copied'⟩
      rw [List.range_succ, List.foldlM_append, same]
      have here : copyRow texture rgba rows = some rgba' := by
        unfold copyRow
        rw [offset]
        exact next
      exact congrArg (· >>= pure) here

/-- A capture copies the texture as it is, row padding included. -/
theorem capture_eq (texture : MappedTexture)
    (small : texture.rowPitch.toNat * texture.height.toNat < 2 ^ 31) (timestampUtcUs : UInt64)
    (monitorIndex : UInt32) :
    capture texture timestampUtcUs monitorIndex =
      some { width := texture.width, height := texture.height, strideBytes := texture.rowPitch,
             timestampUtcUs, monitorIndex, rgba := texture.data } := by
  obtain ⟨rgba, same, copied⟩ := copyRows texture small texture.height.toNat le_rfl
  have all : rgba = texture.data := by
    rw [copied, ← texture.whole, List.take_length, Nat.sub_self]
    exact List.append_nil _
  unfold capture
  dsimp only
  rw [same, all]
  rfl

end Screenscrab.Session
