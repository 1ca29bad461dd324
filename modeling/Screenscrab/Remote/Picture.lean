import Screenscrab.Session.Capture
import Screenscrab.Client.Display
import Screenscrab.Client.Frames

/-! A captured image on its way to the screen of the client: the row copy, the raw encoder, the
metadata and the pixel loop. -/
namespace Screenscrab.Remote
open Session Protocol Client Client.Display

/-- The image that a client with enough memory shows of a texture, with the geometry it has been
sent. `none` is a capture that fails, metadata that is not understood or a frame too large for an
array. -/
def shown (codec : Int → Boxed) (texture : MappedTexture) (timestampUtcUs : UInt64)
    (monitorIndex : UInt32) : Option (Except Throwable Rendering) := do
  let frame ← capture texture timestampUtcUs monitorIndex
  let encoded := rawEncode frame
  let metadata ← RemoteFrameMetadata.fromBytes (makeFrameMetadata encoded.monitorIndex
    encoded.width encoded.height encoded.strideBytes encoded.timestampUtcUs)
  if small : encoded.payload.length < 2 ^ 31 then
    some (invokeRenderFrame codec .unlimited ⟨encoded.payload, small⟩ metadata.width
      metadata.height metadata.strideBytes)
  else none

/-- The word of a colour, of which the bytes are stored from blue to alpha. -/
def colour (bytes : Bytes) (offset : Nat) : Nat :=
  (bytes.getD (offset + 3) 0).toNat * 2 ^ 24 + (bytes.getD (offset + 2) 0).toNat * 2 ^ 16 +
    (bytes.getD (offset + 1) 0).toNat * 2 ^ 8 + (bytes.getD offset 0).toNat

/-- A texture with pixels, with whole pixels in each row, and of a size that an `Int` can hold. -/
structure Capturable (texture : MappedTexture) : Prop where
  width : 0 < texture.width.toNat
  height : 0 < texture.height.toNat
  pitch : 4 * texture.width.toNat ≤ texture.rowPitch.toNat
  bytes : texture.rowPitch.toNat * texture.height.toNat < 2 ^ 31
  count : texture.width.toNat * texture.height.toNat < 2 ^ 31

/-- Two textures that differ at most in the padding of their rows. -/
structure SameColours (a b : MappedTexture) : Prop where
  width : a.width = b.width
  height : a.height = b.height
  rowPitch : a.rowPitch = b.rowPitch
  bytes : ∀ x y k, x < a.width.toNat → y < a.height.toNat → k < 4 →
    a.data.getD (y * a.rowPitch.toNat + 4 * x + k) 0 =
      b.data.getD (y * a.rowPitch.toNat + 4 * x + k) 0

theorem imagePixels_get (bytes : Bytes) {w s x y j : Nat} (column : x < w) (row : y < j) :
    (imagePixels bytes w s j)[y * w + x]? = some (argb bytes (y * s + 4 * x)) := by
  induction j with
  | zero => exact absurd row (Nat.not_lt_zero y)
  | succ j ih =>
      rw [imagePixels_succ]
      by_cases earlier : y < j
      · have inside : y * w + x < (imagePixels bytes w s j).length := by
          have next : (y + 1) * w ≤ j * w := Nat.mul_le_mul_right w earlier
          rw [Nat.add_one_mul] at next
          rw [imagePixels_length]
          omega
        rw [List.getElem?_append_left inside, ih earlier]
      · obtain rfl : y = j := by omega
        rw [List.getElem?_append_right (by rw [imagePixels_length]; omega), imagePixels_length,
          Nat.add_sub_cancel_left, rowPixels, List.getElem?_map, List.getElem?_range column]
        rfl

theorem argb_congr {a b : Bytes} {offset : Nat}
    (same : ∀ k, k < 4 → a.getD (offset + k) 0 = b.getD (offset + k) 0) :
    argb a offset = argb b offset := by
  have first := same 0 (by omega)
  rw [Nat.add_zero] at first
  rw [argb, argb, first, same 1 (by omega), same 2 (by omega), same 3 (by omega)]

theorem imagePixels_congr {a b : MappedTexture} (same : SameColours a b) :
    imagePixels a.data a.width.toNat a.rowPitch.toNat a.height.toNat =
      imagePixels b.data b.width.toNat b.rowPitch.toNat b.height.toNat := by
  rw [← same.width, ← same.height, ← same.rowPitch, imagePixels, imagePixels, List.flatMap_def,
    List.flatMap_def]
  have rows : ∀ y ∈ List.range a.height.toNat,
      rowPixels a.data (y * a.rowPitch.toNat) a.width.toNat =
        rowPixels b.data (y * a.rowPitch.toNat) a.width.toNat := by
    intro y row
    refine List.map_congr_left fun x column => ?_
    exact argb_congr fun k few =>
      same.bytes x y k (List.mem_range.mp column) (List.mem_range.mp row) few
  exact congrArg List.flatten (List.map_congr_left rows)

/-- What is shown is the image that the pixel loop makes of the bytes of the texture. -/
theorem shown_eq {codec : Int → Boxed} (documented : Documented codec) {texture : MappedTexture}
    (capturable : Capturable texture) (timestampUtcUs : UInt64) (monitorIndex : UInt32) :
    ∃ pixels : Display.Array Int32,
      pixels.values = imagePixels texture.data texture.width.toNat texture.rowPitch.toNat
        texture.height.toNat ∧
      shown codec texture timestampUtcUs monitorIndex =
        some (.ok ⟨true, some ⟨Int32.ofNat texture.width.toNat, Int32.ofNat texture.height.toNat,
          pixels⟩⟩) := by
  obtain ⟨width, height, pitch, bytes, count⟩ := capturable
  have smallW : texture.width.toNat < 2 ^ 31 :=
    lt_of_le_of_lt (Nat.le_mul_of_pos_right _ height) count
  have smallH : texture.height.toNat < 2 ^ 31 :=
    lt_of_le_of_lt (Nat.le_mul_of_pos_left _ width) count
  have smallS : texture.rowPitch.toNat < 2 ^ 31 :=
    lt_of_le_of_lt (Nat.le_mul_of_pos_right _ height) bytes
  have small : texture.data.length < 2 ^ 31 := texture.whole.trans_lt bytes
  let frameBytes : Display.Array UInt8 := ⟨texture.data, small⟩
  have whole : ¬ (frameBytes.values.length : Int) <
      ((texture.rowPitch.toNat * texture.height.toNat : Nat) : Int).bmod (2 ^ 32) := by
    rw [bmod_small (by omega) (by omega), ← texture.whole]
    exact lt_irrefl _
  have last : (texture.height.toNat - 1) * texture.rowPitch.toNat + 4 * texture.width.toNat ≤
      frameBytes.values.length := by
    have rows : texture.rowPitch.toNat * texture.height.toNat =
        (texture.height.toNat - 1) * texture.rowPitch.toNat + texture.rowPitch.toNat := by
      rw [← Nat.add_one_mul, Nat.sub_add_cancel height, Nat.mul_comm]
    change _ ≤ texture.data.length
    rw [texture.whole, rows]
    omega
  obtain ⟨pixels, drawn, values⟩ := renderFrame_draws .unlimited frameBytes ⟨width, smallW⟩
    ⟨height, smallH⟩ ⟨by omega, smallS⟩ whole count last rfl rfl
  refine ⟨pixels, values, ?_⟩
  have rendered := invokeRenderFrame_small documented .unlimited frameBytes smallW smallH smallS
  unfold shown
  rw [capture_eq texture bytes]
  simp only [Option.bind_eq_bind, Option.bind_some, rawEncode, fromBytes_makeFrameMetadata]
  exact (dif_pos small).trans (congrArg some (rendered.trans drawn))

/-- Every pixel of a captured image is shown with its colour, and nothing else of the texture
shows. -/
theorem captured_pixels_shown {codec : Int → Boxed} (documented : Documented codec)
    {texture : MappedTexture} (capturable : Capturable texture) (timestampUtcUs : UInt64)
    (monitorIndex : UInt32) :
    ∃ bitmap, shown codec texture timestampUtcUs monitorIndex = some (.ok ⟨true, some bitmap⟩) ∧
      (∀ x y, x < texture.width.toNat → y < texture.height.toNat →
        ∃ pixel, bitmap.pixel x y = some pixel ∧
          pixel.toUInt32.toNat = colour texture.data (y * texture.rowPitch.toNat + 4 * x)) ∧
      ∀ other, SameColours texture other →
        shown codec other timestampUtcUs monitorIndex =
          shown codec texture timestampUtcUs monitorIndex := by
  obtain ⟨pixels, values, same⟩ := shown_eq documented capturable timestampUtcUs monitorIndex
  have smallW : texture.width.toNat < 2 ^ 31 :=
    lt_of_le_of_lt (Nat.le_mul_of_pos_right _ capturable.height) capturable.count
  refine ⟨_, same, ?_, ?_⟩
  · intro x y column row
    refine ⟨argb texture.data (y * texture.rowPitch.toNat + 4 * x), ?_, argb_toNat _ _⟩
    rw [Bitmap.pixel, toInt_small smallW, Int.toNat_natCast, values]
    exact imagePixels_get texture.data column row
  · intro other agree
    have capturable' : Capturable other := by
      obtain ⟨width, height, pitch, bytes, count⟩ := capturable
      rw [agree.width] at width pitch count
      rw [agree.height] at height bytes count
      rw [agree.rowPitch] at pitch bytes
      exact ⟨width, height, pitch, bytes, count⟩
    obtain ⟨pixels', values', same'⟩ := shown_eq documented capturable' timestampUtcUs monitorIndex
    have equal : pixels' = pixels := by
      have listed := (values'.trans (imagePixels_congr agree).symm).trans values.symm
      cases pixels
      cases pixels'
      congr
    rw [same, same', equal, agree.width, agree.height]

/-- Three rows of two pixels with four bytes of padding each, which may hold anything. -/
theorem captured_pixels_shown_padded :
    let image (padding : UInt8) : Bytes :=
      [1, 2, 3, 255, 4, 5, 6, 255, padding, padding, padding, padding,
        7, 8, 9, 255, 10, 11, 12, 255, padding, padding, padding, padding,
        13, 14, 15, 255, 16, 17, 18, 128, padding, padding, padding, padding]
    let texture : MappedTexture := ⟨2, 3, 12, image 0, by decide⟩
    let other : MappedTexture := ⟨2, 3, 12, image 99, by decide⟩
    ∃ bitmap, shown standardCodec texture 5 0 = some (.ok ⟨true, some bitmap⟩) ∧
      shown standardCodec other 5 0 = some (.ok ⟨true, some bitmap⟩) ∧
      (∃ pixel, bitmap.pixel 0 1 = some pixel ∧ pixel.toUInt32.toNat = 0xFF090807) ∧
      ∃ pixel, bitmap.pixel 1 2 = some pixel ∧ pixel.toUInt32.toNat = 0x80121110 := by
  intro image texture other
  have capturable : Capturable texture :=
    ⟨by decide, by decide, by decide, by decide, by decide⟩
  have same : SameColours texture other := by
    have bytes : ∀ x < 2, ∀ y < 3, ∀ k < 4, (image 0).getD (y * 12 + 4 * x + k) 0 =
        (image 99).getD (y * 12 + 4 * x + k) 0 := by decide
    exact ⟨rfl, rfl, rfl, fun x y k column row few => bytes x column y row k few⟩
  obtain ⟨bitmap, drawn, pixels, padded⟩ :=
    captured_pixels_shown standardCodec_documented capturable 5 0
  obtain ⟨first, drawn₁, colour₁⟩ := pixels 0 1 (by decide) (by decide)
  obtain ⟨last, drawn₂, colour₂⟩ := pixels 1 2 (by decide) (by decide)
  have colours : colour (image 0) 12 = 0xFF090807 ∧ colour (image 0) 28 = 0x80121110 := by
    decide +kernel
  exact ⟨bitmap, drawn, (padded other same).trans drawn, ⟨first, drawn₁, colour₁.trans colours.1⟩,
    ⟨last, drawn₂, colour₂.trans colours.2⟩⟩

end Screenscrab.Remote
