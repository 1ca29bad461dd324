import Screenscrab.Wire.Codec
import Screenscrab.Client.Session
import Mathlib.Tactic.Ring

/-! The Android side of a frame: the `renderFrame` channel of MainActivity.kt and
`RemoteDisplayController.renderFrame`. An access outside an array throws, as on the JVM, and
`Int` is 32 bits wide. -/
namespace Screenscrab.Client.Display

inductive Throwable where
  | arrayIndexOutOfBounds
  | negativeArraySize
  | classCast
  | outOfMemory
  | illegalArgument
  deriving DecidableEq, Repr

/-- What `IntArray(size)` and `Bitmap.createBitmap(width, height, ..)` throw where there is not
enough memory for them; `none` is an allocation that succeeds. -/
structure Memory where
  intArray : Int → Option Throwable
  createBitmap : Int → Int → Option Throwable

def Memory.unlimited : Memory := ⟨fun _ => none, fun _ _ => none⟩

/-- An array of the JVM, whose size is an `Int`. -/
structure Array (α : Type) where
  values : List α
  small : values.length < 2 ^ 31

namespace Array
variable {α : Type}

def size (a : Array α) : Int32 := Int32.ofNat a.values.length

def get (a : Array α) (index : Int32) : Except Throwable α :=
  if index < 0 then .error .arrayIndexOutOfBounds
  else
    match a.values[index.toInt.toNat]? with
    | none => .error .arrayIndexOutOfBounds
    | some value => .ok value

def set (a : Array α) (index : Int32) (value : α) : Except Throwable (Array α) :=
  if 0 ≤ index ∧ index.toInt.toNat < a.values.length then
    .ok ⟨a.values.set index.toInt.toNat value, by rw [List.length_set]; exact a.small⟩
  else .error .arrayIndexOutOfBounds

/-- An array of one value, of any size that is not negative. -/
def filled (size : Int32) (value : α) : Except Throwable (Array α) :=
  if size < 0 then .error .negativeArraySize
  else .ok ⟨List.replicate size.toInt.toNat value, by
    have small := size.toInt_lt
    rw [List.length_replicate]
    omega⟩

end Array

def throws : Option Throwable → Except Throwable Unit
  | none => .ok ()
  | some error => .error error

/-- `IntArray(size)`. -/
def intArray (memory : Memory) (size : Int32) : Except Throwable (Array Int32) := do
  let pixels ← Array.filled size 0
  throws (memory.intArray size.toInt)
  return pixels

/-- `frameBytes[i].toInt() and 0xFF`; a `Byte` is signed. -/
def unsigned (byte : UInt8) : Int32 := byte.toInt8.toInt32 &&& 0xFF

/-- The arguments of `bitmap.setPixels(pixels, 0, width, 0, 0, width, height)`, with the size of
the bitmap. -/
structure Bitmap where
  width : Int32
  height : Int32
  pixels : Array Int32

/-- The colour given to the pixel (x, y): rows follow each other at a distance of `width`. -/
def Bitmap.pixel (bitmap : Bitmap) (x y : Nat) : Option Int32 :=
  bitmap.pixels.values[y * bitmap.width.toInt.toNat + x]?

/-- What `renderFrame` returns, and the bitmap it posts to the image view. -/
structure Rendering where
  returned : Bool
  posted : Option Bitmap

/-- The body of the loop over the columns, with `pixels` and `rowOffset`. -/
def column (frameBytes : Array UInt8) (width y : Int32) (state : Array Int32 × Int32) (x : Nat) :
    Except Throwable (Array Int32 × Int32) := do
  let (pixels, rowOffset) := state
  let b := unsigned (← frameBytes.get rowOffset)
  let g := unsigned (← frameBytes.get (rowOffset + 1))
  let r := unsigned (← frameBytes.get (rowOffset + 2))
  let a := unsigned (← frameBytes.get (rowOffset + 3))
  let pixels ← pixels.set (y * width + Int32.ofNat x) (a <<< 24 ||| r <<< 16 ||| g <<< 8 ||| b)
  return (pixels, rowOffset + 4)

/-- The body of the loop over the rows, with `pixels` and `sourceOffset`. -/
def row (frameBytes : Array UInt8) (width strideBytes : Int32) (state : Array Int32 × Int32)
    (y : Nat) : Except Throwable (Array Int32 × Int32) := do
  let (pixels, sourceOffset) := state
  let (pixels, _) ← (List.range width.toInt.toNat).foldlM
    (column frameBytes width (Int32.ofNat y)) (pixels, sourceOffset)
  return (pixels, sourceOffset + strideBytes)

def renderFrame (memory : Memory) (frameBytes : Array UInt8) (width height strideBytes : Int32) :
    Except Throwable Rendering :=
  if width ≤ 0 ∨ height ≤ 0 ∨ strideBytes ≤ 0 then .ok ⟨false, none⟩
  else
    let expectedBytes := strideBytes * height
    if frameBytes.size < expectedBytes then .ok ⟨false, none⟩
    else do
      let pixels ← intArray memory (width * height)
      let (pixels, _) ← (List.range height.toInt.toNat).foldlM (row frameBytes width strideBytes)
        (pixels, 0)
      throws (memory.createBitmap width.toInt height.toInt)
      return ⟨true, some ⟨width, height, pixels⟩⟩

theorem toInt_small {n : Nat} (small : n < 2 ^ 31) : (Int32.ofNat n).toInt = n :=
  Int32.toInt_ofNat_of_lt small

theorem ofNat_toInt {i : Int32} (positive : 0 ≤ i.toInt) : Int32.ofNat i.toInt.toNat = i := by
  apply Int32.toInt.inj
  have bound := i.toInt_lt
  rw [toInt_small (by omega)]
  omega

theorem bmod_small {i : Int} (lower : -2 ^ 31 ≤ i) (upper : i < 2 ^ 31) : i.bmod (2 ^ 32) = i := by
  rw [Int.bmod_def]
  omega

/-- Offsets that stay below the size of an array do not wrap. -/
theorem toInt_add_small {o : Int32} {k : Nat} (lower : 0 ≤ o.toInt) (upper : o.toInt + k < 2 ^ 31) :
    (o + Int32.ofNat k).toInt = o.toInt + k := by
  rw [Int32.toInt_add, toInt_small (by omega), bmod_small (by omega) upper]

theorem index_small {w j x : Nat} (positive : 0 < w) (bound : j * w + x < 2 ^ 31) :
    (Int32.ofNat j * Int32.ofNat w + Int32.ofNat x).toInt = (j * w + x : Nat) := by
  have rows : j ≤ j * w := Nat.le_mul_of_pos_right j positive
  by_cases first : j = 0
  · subst first
    have zero : Int32.ofNat 0 * Int32.ofNat w = 0 := Int32.zero_mul
    rw [zero, Int32.zero_add, toInt_small (by omega), Nat.zero_mul, Nat.zero_add]
  · have columns : w ≤ j * w := Nat.le_mul_of_pos_left w (Nat.pos_of_ne_zero first)
    have product : (Int32.ofNat j * Int32.ofNat w).toInt = (j * w : Nat) := by
      rw [Int32.toInt_mul, toInt_small (by omega), toInt_small (by omega), ← Int.natCast_mul,
        bmod_small (by omega) (by omega)]
    rw [Int32.toInt_add, product, toInt_small (by omega), bmod_small (by omega) (by omega)]
    omega

namespace Array
variable {α : Type}

theorem get_ok {a : Array α} {index : Int32} (default : α) (lower : 0 ≤ index.toInt)
    (upper : index.toInt < a.values.length) :
    a.get index = .ok (a.values.getD index.toInt.toNat default) := by
  have inside : index.toInt.toNat < a.values.length := by omega
  have notNegative : ¬ index < 0 := by
    rw [Int32.lt_iff_toInt_lt, Int32.toInt_zero]
    omega
  rw [get, if_neg notNegative, List.getD_eq_getElem?_getD, List.getElem?_eq_getElem inside]
  rfl

theorem get_inside {a : Array α} {index : Int32} {value : α} (read : a.get index = .ok value) :
    0 ≤ index.toInt ∧ index.toInt < a.values.length := by
  unfold get at read
  split at read
  · cases read
  next notNegative =>
  rw [Int32.lt_iff_toInt_lt, Int32.toInt_zero] at notNegative
  split at read
  · cases read
  next found =>
  have inside := (List.getElem?_eq_some_iff.mp found).1
  omega

/-- Writing where an array that is filled from the left ends. -/
theorem set_next {a : Array α} {index : Int32} {front : List α} {old : α} {room : Nat} (value : α)
    (values : a.values = front ++ List.replicate room old) (next : index.toInt = front.length)
    (more : 0 < room) :
    ∃ b, a.set index value = .ok b ∧
      b.values = front ++ [value] ++ List.replicate (room - 1) old := by
  have place : index.toInt.toNat = front.length := by omega
  have size : a.values.length = front.length + room := by
    rw [values, List.length_append, List.length_replicate]
  have inside : 0 ≤ index ∧ index.toInt.toNat < a.values.length := by
    rw [Int32.le_iff_toInt_le, Int32.toInt_zero]
    omega
  refine ⟨_, if_pos inside, ?_⟩
  change a.values.set index.toInt.toNat value = _
  obtain ⟨rest, rfl⟩ := Nat.exists_eq_add_of_lt more
  rw [values, place, List.set_append_right _ _ le_rfl, Nat.sub_self, Nat.zero_add,
    Nat.add_sub_cancel, List.replicate_succ, List.set_cons_zero, List.append_assoc]
  rfl

theorem set_inside {a b : Array α} {index : Int32} {value : α}
    (written : a.set index value = .ok b) : index.toInt.toNat < a.values.length := by
  unfold set at written
  split at written
  · next inside => exact inside.2
  · cases written

end Array

/-- The four bytes of a pixel as `renderFrame` combines them. -/
def argb (bytes : Bytes) (offset : Nat) : Int32 :=
  unsigned (bytes.getD (offset + 3) 0) <<< 24 ||| unsigned (bytes.getD (offset + 2) 0) <<< 16 |||
    unsigned (bytes.getD (offset + 1) 0) <<< 8 ||| unsigned (bytes.getD offset 0)

theorem unsigned_eq (byte : UInt8) : (unsigned byte).toUInt32 = byte.toUInt32 := by
  have every : ∀ n : Fin 256, (unsigned (UInt8.ofNat n)).toUInt32 = (UInt8.ofNat n).toUInt32 := by
    decide +kernel
  have here := every ⟨byte.toNat, byte.toNat_lt⟩
  rwa [UInt8.ofNat_toNat] at here

/-- The word of a pixel has the alpha byte on top and the blue byte at the bottom. -/
theorem argb_toNat (bytes : Bytes) (offset : Nat) :
    (argb bytes offset).toUInt32.toNat =
      (bytes.getD (offset + 3) 0).toNat * 2 ^ 24 + (bytes.getD (offset + 2) 0).toNat * 2 ^ 16 +
        (bytes.getD (offset + 1) 0).toNat * 2 ^ 8 + (bytes.getD offset 0).toNat := by
  unfold argb
  generalize bytes.getD (offset + 3) 0 = a
  generalize bytes.getD (offset + 2) 0 = r
  generalize bytes.getD (offset + 1) 0 = g
  generalize bytes.getD offset 0 = b
  have la := a.toNat_lt
  have lr := r.toNat_lt
  have lg := g.toNat_lt
  have lb := b.toNat_lt
  have fitsA : a.toNat <<< 24 < 2 ^ 32 := by rw [Nat.shiftLeft_eq]; omega
  have fitsR : r.toNat <<< 16 < 2 ^ 32 := by rw [Nat.shiftLeft_eq]; omega
  have fitsG : g.toNat <<< 8 < 2 ^ 32 := by rw [Nat.shiftLeft_eq]; omega
  have word : (unsigned a <<< 24 ||| unsigned r <<< 16 ||| unsigned g <<< 8 |||
      unsigned b).toUInt32 =
        a.toUInt32 <<< 24 ||| r.toUInt32 <<< 16 ||| g.toUInt32 <<< 8 ||| b.toUInt32 := by
    rw [← unsigned_eq a, ← unsigned_eq r, ← unsigned_eq g, ← unsigned_eq b]
    rfl
  have order (A R G B : Nat) : A ||| R ||| G ||| B = B ||| G ||| R ||| A := by ac_rfl
  rw [word]
  simp only [UInt32.toNat_or, UInt32.toNat_shiftLeft, UInt8.toNat_toUInt32]
  rw [show UInt32.toNat 24 % 32 = 24 from rfl, show UInt32.toNat 16 % 32 = 16 from rfl,
    show UInt32.toNat 8 % 32 = 8 from rfl, Nat.mod_eq_of_lt fitsA, Nat.mod_eq_of_lt fitsR,
    Nat.mod_eq_of_lt fitsG, order, Protocol.or_shift _ 8 lb, Protocol.or_shift _ 16 (by omega),
    Protocol.or_shift _ 24 (by omega)]
  ring

/-- An array of `size` pixels, those of `done` first and then the ones still to be set. -/
def Filling (size : Nat) (done : List Int32) (pixels : Array Int32) : Prop :=
  done.length ≤ size ∧ pixels.values = done ++ List.replicate (size - done.length) 0

theorem bind_ok {α β : Type} {x : Except Throwable α} {f : α → Except Throwable β} {r : β}
    (ok : x >>= f = .ok r) : ∃ a, x = .ok a ∧ f a = .ok r := by
  cases x with
  | error e => cases ok
  | ok a => exact ⟨a, rfl, ok⟩

theorem next_offset (frameBytes : Array UInt8) {o : Int32} (k : Nat) (lower : 0 ≤ o.toInt)
    (upper : o.toInt + k ≤ frameBytes.values.length) :
    (o + Int32.ofNat k).toInt = o.toInt + k := by
  have length := frameBytes.small
  exact toInt_add_small lower (by omega)

section
variable (frameBytes : Array UInt8) (o : Int32) {w j x size : Nat} {done : List Int32}
  {pixels : Array Int32}

/-- A turn of the column loop that reads inside the frame and sets the next pixel. -/
theorem column_ok (positive : 0 < w) (small : size < 2 ^ 31) (filling : Filling size done pixels)
    (place : done.length = j * w + x) (lower : 0 ≤ o.toInt)
    (upper : o.toInt + 4 ≤ frameBytes.values.length) (more : done.length < size) :
    ∃ pixels' o', column frameBytes (Int32.ofNat w) (Int32.ofNat j) (pixels, o) x =
        .ok (pixels', o') ∧ o'.toInt = o.toInt + 4 ∧
      Filling size (done ++ [argb frameBytes.values o.toInt.toNat]) pixels' := by
  obtain ⟨room, values⟩ := filling
  have index : (Int32.ofNat j * Int32.ofNat w + Int32.ofNat x).toInt = done.length := by
    rw [index_small positive (by omega), place]
  have read (k : Nat) (few : k ≤ 3) :
      frameBytes.get (o + Int32.ofNat k) =
        .ok (frameBytes.values.getD (o.toInt.toNat + k) 0) := by
    have here : (o + Int32.ofNat k).toInt = o.toInt + k := next_offset frameBytes k lower (by omega)
    rw [Array.get_ok 0 (by omega) (by omega), here]
    congr 2
    omega
  have b := read 0 (by omega)
  rw [show o + Int32.ofNat 0 = o from Int32.add_zero o] at b
  obtain ⟨pixels', written, filled⟩ :=
    Array.set_next (argb frameBytes.values o.toInt.toNat) values index (by omega)
  refine ⟨pixels', o + 4, ?_, next_offset frameBytes 4 lower upper, ?_, ?_⟩
  · change (do
      let b ← frameBytes.get o
      let g ← frameBytes.get (o + Int32.ofNat 1)
      let r ← frameBytes.get (o + Int32.ofNat 2)
      let a ← frameBytes.get (o + Int32.ofNat 3)
      let pixels ← pixels.set (Int32.ofNat j * Int32.ofNat w + Int32.ofNat x)
        (unsigned a <<< 24 ||| unsigned r <<< 16 ||| unsigned g <<< 8 ||| unsigned b)
      return (pixels, o + 4)) = _
    rw [b, read 1 (by omega), read 2 (by omega), read 3 (by omega)]
    exact congrArg (fun written => written >>= fun pixels => .ok (pixels, o + 4)) written
  · rw [List.length_append, List.length_singleton]
    omega
  · rw [filled, List.length_append, List.length_singleton, Nat.sub_sub]

/-- A turn of the column loop that does not throw has read inside the frame. -/
theorem column_inside (positive : 0 < w) (small : size < 2 ^ 31)
    (filling : Filling size done pixels) (place : done.length = j * w + x)
    {state : Array Int32 × Int32}
    (ok : column frameBytes (Int32.ofNat w) (Int32.ofNat j) (pixels, o) x = .ok state) :
    0 ≤ o.toInt ∧ o.toInt + 4 ≤ frameBytes.values.length ∧ done.length < size := by
  obtain ⟨room, values⟩ := filling
  have index : (Int32.ofNat j * Int32.ofNat w + Int32.ofNat x).toInt = done.length := by
    rw [index_small positive (by omega), place]
  have full : pixels.values.length = size := by
    rw [values, List.length_append, List.length_replicate]
    omega
  obtain ⟨b, readB, ok⟩ := bind_ok ok
  obtain ⟨lower, upper⟩ := Array.get_inside readB
  obtain ⟨g, readG, ok⟩ := bind_ok ok
  obtain ⟨_, upperG⟩ := Array.get_inside readG
  rw [show o + 1 = o + Int32.ofNat 1 from rfl, next_offset frameBytes 1 lower (by omega)] at upperG
  obtain ⟨r, readR, ok⟩ := bind_ok ok
  obtain ⟨_, upperR⟩ := Array.get_inside readR
  rw [show o + 2 = o + Int32.ofNat 2 from rfl, next_offset frameBytes 2 lower (by omega)] at upperR
  obtain ⟨a, readA, ok⟩ := bind_ok ok
  obtain ⟨_, upperA⟩ := Array.get_inside readA
  rw [show o + 3 = o + Int32.ofNat 3 from rfl, next_offset frameBytes 3 lower (by omega)] at upperA
  obtain ⟨written, set, ok⟩ := bind_ok ok
  have inside := Array.set_inside set
  exact ⟨lower, by omega, by omega⟩

end

/-- The first `k` pixels of a row that begins at `start`. -/
def rowPixels (bytes : Bytes) (start k : Nat) : List Int32 :=
  (List.range k).map fun x => argb bytes (start + 4 * x)

@[simp] theorem rowPixels_length (bytes : Bytes) (start k : Nat) :
    (rowPixels bytes start k).length = k := by
  rw [rowPixels, List.length_map, List.length_range]

theorem rowPixels_succ (bytes : Bytes) (start k : Nat) :
    rowPixels bytes start (k + 1) = rowPixels bytes start k ++ [argb bytes (start + 4 * k)] := by
  simp only [rowPixels, List.range_succ, List.map_append, List.map_cons, List.map_nil]

/-- `k` pixels from offset `o` on lie inside `length` bytes and find room behind `before` pixels. -/
def RowFits (length size : Nat) (o : Int) (before k : Nat) : Prop :=
  k = 0 ∨ (0 ≤ o ∧ o + 4 * k ≤ length ∧ before + k ≤ size)

theorem RowFits.of_succ {length size before k : Nat} {o : Int}
    (fits : RowFits length size o before (k + 1)) : RowFits length size o before k := by
  unfold RowFits at fits ⊢
  omega

section
variable (frameBytes : Array UInt8) (o : Int32) {w j size : Nat} {done : List Int32}
  {pixels : Array Int32}

theorem columns_ok (positive : 0 < w) (small : size < 2 ^ 31) (filling : Filling size done pixels)
    (place : done.length = j * w) (k : Nat)
    (fits : RowFits frameBytes.values.length size o.toInt done.length k) :
    ∃ pixels' o', (List.range k).foldlM (column frameBytes (Int32.ofNat w) (Int32.ofNat j))
        (pixels, o) = .ok (pixels', o') ∧ o'.toInt = o.toInt + 4 * k ∧
      Filling size (done ++ rowPixels frameBytes.values o.toInt.toNat k) pixels' := by
  induction k with
  | zero =>
      refine ⟨pixels, o, rfl, (Int.add_zero _).symm, ?_⟩
      rw [show rowPixels frameBytes.values o.toInt.toNat 0 = [] from rfl, List.append_nil]
      exact filling
  | succ k ih =>
      obtain ⟨pixels', o', same, offset, filled⟩ := ih fits.of_succ
      obtain ⟨lower, upper, room⟩ := fits.resolve_left (Nat.succ_ne_zero k)
      have place' : (done ++ rowPixels frameBytes.values o.toInt.toNat k).length = j * w + k := by
        rw [List.length_append, rowPixels_length, place]
      obtain ⟨pixels'', o'', next, offset', filled'⟩ :=
        column_ok frameBytes o' positive small filled place' (by omega) (by omega) (by omega)
      refine ⟨pixels'', o'', ?_, by omega, ?_⟩
      · rw [List.range_succ, List.foldlM_append, same]
        exact congrArg (· >>= pure) next
      · have start : o'.toInt.toNat = o.toInt.toNat + 4 * k := by omega
        rw [start, List.append_assoc] at filled'
        rw [rowPixels_succ]
        exact filled'

theorem columns_inside (positive : 0 < w) (small : size < 2 ^ 31)
    (filling : Filling size done pixels) (place : done.length = j * w) (k : Nat)
    {state : Array Int32 × Int32}
    (ok : (List.range k).foldlM (column frameBytes (Int32.ofNat w) (Int32.ofNat j)) (pixels, o) =
      .ok state) : RowFits frameBytes.values.length size o.toInt done.length k := by
  induction k generalizing state with
  | zero => exact .inl rfl
  | succ k ih =>
      rw [List.range_succ, List.foldlM_append] at ok
      obtain ⟨middle, first, last⟩ := bind_ok ok
      have fits := ih first
      obtain ⟨pixels', o', same, offset, filled⟩ :=
        columns_ok frameBytes o positive small filling place k fits
      obtain rfl : middle = (pixels', o') := Except.ok.inj (first.symm.trans same)
      obtain ⟨state', taken, _⟩ := bind_ok last
      have place' : (done ++ rowPixels frameBytes.values o.toInt.toNat k).length = j * w + k := by
        rw [List.length_append, rowPixels_length, place]
      obtain ⟨lower, upper, room⟩ := column_inside frameBytes o' positive small filled place' taken
      unfold RowFits at fits ⊢
      omega

end

/-- The pixels of the first `j` rows. -/
def imagePixels (bytes : Bytes) (w s j : Nat) : List Int32 :=
  (List.range j).flatMap fun y => rowPixels bytes (y * s) w

theorem imagePixels_succ (bytes : Bytes) (w s j : Nat) :
    imagePixels bytes w s (j + 1) = imagePixels bytes w s j ++ rowPixels bytes (j * s) w := by
  simp only [imagePixels, List.range_succ, List.flatMap_append, List.flatMap_cons,
    List.flatMap_nil, List.append_nil]

@[simp] theorem imagePixels_length (bytes : Bytes) (w s j : Nat) :
    (imagePixels bytes w s j).length = j * w := by
  induction j with
  | zero => exact (Nat.zero_mul w).symm
  | succ j ih => rw [imagePixels_succ, List.length_append, ih, rowPixels_length, Nat.succ_mul]

/-- The last of `j` rows lies inside `length` bytes, and all of them find room. -/
def RowsFit (length size w s j : Nat) : Prop :=
  j = 0 ∨ ((j - 1) * s + 4 * w ≤ length ∧ j * w ≤ size)

theorem toInt_wrapped {n : Nat} (small : n < 2 ^ 32) :
    (Int32.ofNat n).toInt = if n < 2 ^ 31 then (n : Int) else n - 2 ^ 32 := by
  by_cases low : n < 2 ^ 31
  · rw [if_pos low, toInt_small low]
  · rw [if_neg low, Int32.toInt_ofNat', show Int32.size = 2 ^ 32 from rfl, Int.bmod_def]
    omega

/-- Where the next row would begin, one row after rows that lie inside. -/
theorem RowsFit.next_lt {length size w s j : Nat} (fits : RowsFit length size w s j)
    (small : length < 2 ^ 31) (stride : s < 2 ^ 31) : j * s < 2 ^ 32 := by
  rcases fits with rfl | ⟨inside, _⟩
  · omega
  · cases j with
    | zero => omega
    | succ j =>
        rw [Nat.add_sub_cancel] at inside
        rw [Nat.add_one_mul]
        omega

theorem RowsFit.of_succ {length size w s j : Nat} (fits : RowsFit length size w s (j + 1)) :
    RowsFit length size w s j := by
  obtain ⟨inside, room⟩ := fits.resolve_left (Nat.succ_ne_zero j)
  rw [Nat.add_sub_cancel] at inside
  rw [Nat.add_one_mul] at room
  have earlier : (j - 1) * s ≤ j * s := Nat.mul_le_mul_right s (Nat.sub_le j 1)
  exact .inr ⟨by omega, by omega⟩

theorem rowsFit_succ {length size w s j : Nat} (fits : RowsFit length size w s j) (positive : 0 < w)
    (small : length < 2 ^ 31) (stride : s < 2 ^ 31) :
    RowsFit length size w s (j + 1) ↔
      RowFits length size (Int32.ofNat (j * s)).toInt (j * w) w := by
  have next := fits.next_lt small stride
  unfold RowsFit RowFits
  rw [toInt_wrapped next, Nat.add_sub_cancel, Nat.add_one_mul j w]
  split <;> omega

section
variable (frameBytes : Array UInt8) {w s size : Nat} {pixels : Array Int32}

theorem row_eq (s j : Nat) (pixels : Array Int32) (width : w < 2 ^ 31) (o : Int32) :
    row frameBytes (Int32.ofNat w) (Int32.ofNat s) (pixels, o) j =
      (List.range w).foldlM (column frameBytes (Int32.ofNat w) (Int32.ofNat j)) (pixels, o) >>=
        fun state => .ok (state.1, o + Int32.ofNat s) := by
  unfold row
  rw [toInt_small width, Int.toNat_natCast]
  rfl

theorem rows_ok (positive : 0 < w) (width : w < 2 ^ 31) (stride : s < 2 ^ 31)
    (small : size < 2 ^ 31) (filling : Filling size [] pixels) (j : Nat)
    (fits : RowsFit frameBytes.values.length size w s j) :
    ∃ pixels', (List.range j).foldlM (row frameBytes (Int32.ofNat w) (Int32.ofNat s)) (pixels, 0) =
        .ok (pixels', Int32.ofNat (j * s)) ∧
      Filling size (imagePixels frameBytes.values w s j) pixels' := by
  induction j with
  | zero =>
      refine ⟨pixels, ?_, filling⟩
      rw [Nat.zero_mul]
      rfl
  | succ j ih =>
      obtain ⟨pixels', same, filled⟩ := ih fits.of_succ
      have place : (imagePixels frameBytes.values w s j).length = j * w := imagePixels_length ..
      have inside := (rowsFit_succ fits.of_succ positive frameBytes.small stride).mp fits
      have start : (Int32.ofNat (j * s)).toInt.toNat = j * s := by
        have next := fits.of_succ.next_lt frameBytes.small stride
        obtain ⟨lower, _⟩ := inside.resolve_left positive.ne'
        rw [toInt_wrapped next] at lower ⊢
        split at lower <;> omega
      rw [← place] at inside
      obtain ⟨pixels'', o', taken, _, filled'⟩ :=
        columns_ok frameBytes (Int32.ofNat (j * s)) positive small filled place w inside
      refine ⟨pixels'', ?_, ?_⟩
      · rw [List.range_succ, List.foldlM_append, same, Nat.add_one_mul, Int32.ofNat_add]
        have here := row_eq frameBytes s j pixels' width (Int32.ofNat (j * s))
        rw [taken] at here
        exact congrArg (· >>= pure) here
      · rw [start] at filled'
        rw [imagePixels_succ]
        exact filled'

theorem rows_inside (positive : 0 < w) (width : w < 2 ^ 31) (stride : s < 2 ^ 31)
    (small : size < 2 ^ 31) (filling : Filling size [] pixels) (j : Nat)
    {state : Array Int32 × Int32}
    (ok : (List.range j).foldlM (row frameBytes (Int32.ofNat w) (Int32.ofNat s)) (pixels, 0) =
      .ok state) : RowsFit frameBytes.values.length size w s j := by
  induction j generalizing state with
  | zero => exact .inl rfl
  | succ j ih =>
      rw [List.range_succ, List.foldlM_append] at ok
      obtain ⟨middle, first, last⟩ := bind_ok ok
      have fits := ih first
      obtain ⟨pixels', same, filled⟩ :=
        rows_ok frameBytes positive width stride small filling j fits
      obtain rfl := Except.ok.inj (first.symm.trans same)
      have place : (imagePixels frameBytes.values w s j).length = j * w := imagePixels_length ..
      obtain ⟨state', taken, _⟩ := bind_ok last
      rw [row_eq frameBytes s j pixels' width] at taken
      obtain ⟨columns, read, _⟩ := bind_ok taken
      have inside := columns_inside frameBytes _ positive small filled place w read
      rw [rowsFit_succ fits positive frameBytes.small stride, ← place]
      exact inside

end

theorem throws_ok {thrown : Option Throwable} {result : Unit} (ok : throws thrown = .ok result) :
    thrown = none := by
  cases thrown with
  | none => rfl
  | some error => cases ok

theorem intArray_ok {memory : Memory} {size : Int32} (positive : 0 ≤ size.toInt)
    (room : memory.intArray size.toInt = none) :
    ∃ a, intArray memory size = .ok a ∧ a.values = List.replicate size.toInt.toNat 0 := by
  have notNegative : ¬ size < 0 := by
    rw [Int32.lt_iff_toInt_lt, Int32.toInt_zero]
    omega
  unfold intArray
  rw [room, Array.filled, if_neg notNegative]
  exact ⟨_, rfl, rfl⟩

theorem intArray_inside {memory : Memory} {size : Int32} {a : Array Int32}
    (ok : intArray memory size = .ok a) :
    0 ≤ size.toInt ∧ memory.intArray size.toInt = none ∧
      a.values = List.replicate size.toInt.toNat 0 := by
  obtain ⟨pixels, filled, ok⟩ := bind_ok ok
  obtain ⟨_, room, ok⟩ := bind_ok ok
  cases ok
  unfold Array.filled at filled
  split at filled
  · cases filled
  next notNegative =>
  rw [Int32.lt_iff_toInt_lt, Int32.toInt_zero] at notNegative
  cases filled
  exact ⟨by omega, throws_ok room, rfl⟩

/-- The size of the pixel array is the number of pixels, where an `Int` can count them. -/
theorem count_toInt {w h : Nat} (width : w < 2 ^ 31) (height : h < 2 ^ 31) :
    (Int32.ofNat w * Int32.ofNat h).toInt = ((w * h : Nat) : Int).bmod (2 ^ 32) := by
  rw [Int32.toInt_mul, toInt_small width, toInt_small height, Int.natCast_mul]

section
variable (memory : Memory) (frameBytes : Array UInt8) {w h s : Nat}

theorem renderFrame_checked (width : 0 < w ∧ w < 2 ^ 31) (height : 0 < h ∧ h < 2 ^ 31)
    (stride : 0 < s ∧ s < 2 ^ 31) :
    renderFrame memory frameBytes (Int32.ofNat w) (Int32.ofNat h) (Int32.ofNat s) =
      if (frameBytes.values.length : Int) < ((s * h : Nat) : Int).bmod (2 ^ 32) then
        .ok ⟨false, none⟩
      else
        intArray memory (Int32.ofNat w * Int32.ofNat h) >>= fun pixels =>
          (List.range h).foldlM (row frameBytes (Int32.ofNat w) (Int32.ofNat s)) (pixels, 0) >>=
            fun state => throws (memory.createBitmap w h) >>=
              fun _ => .ok ⟨true, some ⟨Int32.ofNat w, Int32.ofNat h, state.1⟩⟩ := by
  have accepted : ¬ (Int32.ofNat w ≤ 0 ∨ Int32.ofNat h ≤ 0 ∨ Int32.ofNat s ≤ 0) := by
    simp only [Int32.le_iff_toInt_le, toInt_small width.2, toInt_small height.2,
      toInt_small stride.2, Int32.toInt_zero]
    omega
  have compare : frameBytes.size < Int32.ofNat s * Int32.ofNat h ↔
      (frameBytes.values.length : Int) < ((s * h : Nat) : Int).bmod (2 ^ 32) := by
    rw [Int32.lt_iff_toInt_lt, count_toInt stride.2 height.2, Array.size,
      toInt_small frameBytes.small]
  unfold renderFrame
  rw [if_neg accepted]
  simp only [compare, toInt_small width.2, toInt_small height.2, Int.toNat_natCast]
  rfl

/-- A frame that is drawn: pixel after pixel, row after row. -/
theorem renderFrame_draws (width : 0 < w ∧ w < 2 ^ 31) (height : 0 < h ∧ h < 2 ^ 31)
    (stride : 0 < s ∧ s < 2 ^ 31)
    (whole : ¬ (frameBytes.values.length : Int) < ((s * h : Nat) : Int).bmod (2 ^ 32))
    (count : w * h < 2 ^ 31) (last : (h - 1) * s + 4 * w ≤ frameBytes.values.length)
    (room : memory.intArray (w * h : Nat) = none) (room' : memory.createBitmap w h = none) :
    ∃ pixels, renderFrame memory frameBytes (Int32.ofNat w) (Int32.ofNat h) (Int32.ofNat s) =
        .ok ⟨true, some ⟨Int32.ofNat w, Int32.ofNat h, pixels⟩⟩ ∧
      pixels.values = imagePixels frameBytes.values w s h := by
  have size : (Int32.ofNat w * Int32.ofNat h).toInt = (w * h : Nat) := by
    rw [count_toInt width.2 height.2, bmod_small (by omega) (by omega)]
  rw [← size] at room
  obtain ⟨blank, allocated, values⟩ := intArray_ok (by omega) room
  have filling : Filling (w * h) [] blank := by
    refine ⟨Nat.zero_le _, ?_⟩
    rw [values, size]
    rfl
  have fits : RowsFit frameBytes.values.length (w * h) w s h :=
    .inr ⟨last, (Nat.mul_comm h w).le⟩
  obtain ⟨pixels, drawn, _, filled⟩ :=
    rows_ok frameBytes width.1 width.2 stride.2 count filling h fits
  refine ⟨pixels, ?_, ?_⟩
  · rw [renderFrame_checked memory frameBytes width height stride, if_neg whole, allocated, room']
    exact congrArg (· >>= fun state : Array Int32 × Int32 =>
      Except.ok (⟨true, some ⟨Int32.ofNat w, Int32.ofNat h, state.1⟩⟩ : Rendering)) drawn
  · rw [filled, imagePixels_length, Nat.mul_comm h w, Nat.sub_self]
    exact List.append_nil _

/-- A frame that is drawn without an exception has been read inside the array, and there was memory
for the pixels and the bitmap. -/
theorem renderFrame_inside (width : 0 < w ∧ w < 2 ^ 31) (height : 0 < h ∧ h < 2 ^ 31)
    (stride : 0 < s ∧ s < 2 ^ 31)
    (whole : ¬ (frameBytes.values.length : Int) < ((s * h : Nat) : Int).bmod (2 ^ 32))
    {rendering : Rendering}
    (ok : renderFrame memory frameBytes (Int32.ofNat w) (Int32.ofNat h) (Int32.ofNat s) =
      .ok rendering) :
    w * h < 2 ^ 31 ∧ (h - 1) * s + 4 * w ≤ frameBytes.values.length ∧
      memory.intArray (w * h : Nat) = none ∧ memory.createBitmap w h = none := by
  rw [renderFrame_checked memory frameBytes width height stride, if_neg whole] at ok
  obtain ⟨blank, allocated, ok⟩ := bind_ok ok
  obtain ⟨state, drawn, ok⟩ := bind_ok ok
  obtain ⟨_, created, _⟩ := bind_ok ok
  obtain ⟨positive, taken, values⟩ := intArray_inside allocated
  have small : (Int32.ofNat w * Int32.ofNat h).toInt.toNat < 2 ^ 31 := by
    have bound := (Int32.ofNat w * Int32.ofNat h).toInt_lt
    omega
  have fits := rows_inside frameBytes width.1 width.2 stride.2 small
    ⟨Nat.zero_le _, values⟩ h drawn
  obtain ⟨last, room⟩ := fits.resolve_left height.1.ne'
  -- the array has room for all pixels only if their number has not wrapped
  have count : w * h < 2 ^ 31 := by
    rw [count_toInt width.2 height.2, Int.bmod_def, Nat.mul_comm h w] at room
    rw [count_toInt width.2 height.2, Int.bmod_def] at positive small
    split at room <;> omega
  rw [count_toInt width.2 height.2, bmod_small (by omega) (by omega)] at taken
  exact ⟨count, last, taken, throws_ok created⟩

end

/-- The announced geometry is refused; or the last row of it ends inside the frame, an `Int` can
count the pixels, and there is memory for them and for the bitmap. -/
def Safe (memory : Memory) (length : Nat) (width height stride : Int) : Prop :=
  ¬ (0 < width ∧ 0 < height ∧ 0 < stride) ∨ length < (stride * height).bmod (2 ^ 32) ∨
    (width * height < 2 ^ 31 ∧ (height - 1) * stride + 4 * width ≤ length ∧
      memory.intArray (width * height) = none ∧ memory.createBitmap width height = none)

instance (memory : Memory) (length : Nat) (width height stride : Int) :
    Decidable (Safe memory length width height stride) :=
  inferInstanceAs (Decidable (¬ (0 < width ∧ 0 < height ∧ 0 < stride) ∨
    length < (stride * height).bmod (2 ^ 32) ∨
    (width * height < 2 ^ 31 ∧ (height - 1) * stride + 4 * width ≤ length ∧
      memory.intArray (width * height) = none ∧ memory.createBitmap width height = none)))

theorem positive_ofNat {i : Int32} (positive : 0 < i.toInt) :
    ∃ n : Nat, i = Int32.ofNat n ∧ 0 < n ∧ n < 2 ^ 31 := by
  have bound := i.toInt_lt
  exact ⟨i.toInt.toNat, (ofNat_toInt (by omega)).symm, by omega, by omega⟩

/-- Every access of `renderFrame` is inside its array, no array has a negative size, and no
allocation fails, exactly for these geometries. -/
theorem renderFrame_safe (memory : Memory) (frameBytes : Array UInt8)
    (width height strideBytes : Int32) :
    (∃ rendering, renderFrame memory frameBytes width height strideBytes = .ok rendering) ↔
      Safe memory frameBytes.values.length width.toInt height.toInt strideBytes.toInt := by
  by_cases positive : 0 < width.toInt ∧ 0 < height.toInt ∧ 0 < strideBytes.toInt
  · obtain ⟨w, rfl, width⟩ := positive_ofNat positive.1
    obtain ⟨h, rfl, height⟩ := positive_ofNat positive.2.1
    obtain ⟨s, rfl, stride⟩ := positive_ofNat positive.2.2
    have geometry : Safe memory frameBytes.values.length (Int32.ofNat w).toInt
        (Int32.ofNat h).toInt (Int32.ofNat s).toInt ↔
          (frameBytes.values.length : Int) < ((s * h : Nat) : Int).bmod (2 ^ 32) ∨
            (w * h < 2 ^ 31 ∧ (h - 1) * s + 4 * w ≤ frameBytes.values.length ∧
              memory.intArray (w * h : Nat) = none ∧ memory.createBitmap w h = none) := by
      obtain ⟨rows, rfl⟩ : ∃ rows, h = rows + 1 := ⟨h - 1, by omega⟩
      rw [Safe, or_iff_right (not_not.mpr positive), toInt_small width.2, toInt_small height.2,
        toInt_small stride.2, Nat.add_sub_cancel]
      push_cast
      rw [Int.add_sub_cancel]
      norm_cast
    rw [geometry]
    by_cases short : (frameBytes.values.length : Int) < ((s * h : Nat) : Int).bmod (2 ^ 32)
    · refine iff_of_true ⟨⟨false, none⟩, ?_⟩ (.inl short)
      rw [renderFrame_checked memory frameBytes width height stride, if_pos short]
    · rw [or_iff_right short]
      constructor
      · rintro ⟨rendering, ok⟩
        exact renderFrame_inside memory frameBytes width height stride short ok
      · rintro ⟨count, last, room, room'⟩
        obtain ⟨pixels, drawn, _⟩ :=
          renderFrame_draws memory frameBytes width height stride short count last room room'
        exact ⟨_, drawn⟩
  · have refused : width ≤ 0 ∨ height ≤ 0 ∨ strideBytes ≤ 0 := by
      simp only [Int32.le_iff_toInt_le, Int32.toInt_zero]
      omega
    exact iff_of_true ⟨_, if_pos refused⟩ (.inl positive)

/-- What the message codec of Flutter makes of an `int` of Dart. -/
inductive Boxed where
  | integer (value : Int32)
  | long (value : Int64)
  deriving DecidableEq

/-- An `int` that fits 32 bits arrives as an `Integer`, any other one as a `Long`. -/
structure Documented (codec : Int → Boxed) : Prop where
  integer : ∀ n, -2 ^ 31 ≤ n → n < 2 ^ 31 → codec n = .integer (Int32.ofInt n)
  long : ∀ n, ¬ (-2 ^ 31 ≤ n ∧ n < 2 ^ 31) → ∃ value, codec n = .long value

/-- `call.argument<Int>(name) ?: 0`. -/
def intArgument : Option Boxed → Except Throwable Int32
  | none => .ok 0
  | some (.integer value) => .ok value
  | some (.long _) => .error .classCast

/-- `renderFrame` of android_bridge.dart, up to the result of the handler of the channel. -/
def invokeRenderFrame (codec : Int → Boxed) (memory : Memory) (frameBytes : Array UInt8)
    (width height strideBytes : Nat) : Except Throwable Rendering := do
  let width ← intArgument (some (codec width))
  let height ← intArgument (some (codec height))
  let strideBytes ← intArgument (some (codec strideBytes))
  renderFrame memory frameBytes width height strideBytes

theorem intArgument_small {codec : Int → Boxed} (documented : Documented codec) {n : Nat}
    (small : n < 2 ^ 31) : intArgument (some (codec n)) = .ok (Int32.ofNat n) := by
  rw [documented.integer n (by omega) (by omega)]
  rfl

theorem intArgument_large {codec : Int → Boxed} (documented : Documented codec) {n : Nat}
    (large : ¬ n < 2 ^ 31) : intArgument (some (codec n)) = .error .classCast := by
  obtain ⟨value, boxed⟩ := documented.long n (by omega)
  rw [boxed]
  rfl

theorem invokeRenderFrame_small {codec : Int → Boxed} (documented : Documented codec)
    (memory : Memory) (frameBytes : Array UInt8) {width height strideBytes : Nat}
    (smallW : width < 2 ^ 31) (smallH : height < 2 ^ 31) (smallS : strideBytes < 2 ^ 31) :
    invokeRenderFrame codec memory frameBytes width height strideBytes =
      renderFrame memory frameBytes (Int32.ofNat width) (Int32.ofNat height)
        (Int32.ofNat strideBytes) := by
  unfold invokeRenderFrame
  rw [intArgument_small documented smallW, intArgument_small documented smallH,
    intArgument_small documented smallS]
  rfl

theorem invokeRenderFrame_small_of_ok {codec : Int → Boxed} (documented : Documented codec)
    {memory : Memory} {frameBytes : Array UInt8} {width height strideBytes : Nat}
    {rendering : Rendering}
    (ok : invokeRenderFrame codec memory frameBytes width height strideBytes = .ok rendering) :
    width < 2 ^ 31 ∧ height < 2 ^ 31 ∧ strideBytes < 2 ^ 31 := by
  have small {n : Nat} {value : Int32} (read : intArgument (some (codec n)) = .ok value) :
      n < 2 ^ 31 := by
    by_contra large
    rw [intArgument_large documented large] at read
    cases read
  obtain ⟨_, readW, ok⟩ := bind_ok ok
  obtain ⟨_, readH, ok⟩ := bind_ok ok
  obtain ⟨_, readS, _⟩ := bind_ok ok
  exact ⟨small readW, small readH, small readS⟩

/-- Which frames and geometries are rendered without an exception, whatever there is memory for:
those that `renderFrame` is called with, and those that a host announces. -/
theorem rendered_safely_iff {codec : Int → Boxed} (documented : Documented codec)
    (memory : Memory) (frameBytes : Array UInt8) :
    (∀ width height strideBytes : Int32,
      (∃ rendering, renderFrame memory frameBytes width height strideBytes = .ok rendering) ↔
        Safe memory frameBytes.values.length width.toInt height.toInt strideBytes.toInt) ∧
    ∀ width height strideBytes : UInt32,
      (∃ rendering, invokeRenderFrame codec memory frameBytes width.toNat height.toNat
        strideBytes.toNat = .ok rendering) ↔
        (width.toNat < 2 ^ 31 ∧ height.toNat < 2 ^ 31 ∧ strideBytes.toNat < 2 ^ 31) ∧
          Safe memory frameBytes.values.length width.toNat height.toNat strideBytes.toNat := by
  refine ⟨renderFrame_safe memory frameBytes, ?_⟩
  intro width height strideBytes
  by_cases small : width.toNat < 2 ^ 31 ∧ height.toNat < 2 ^ 31 ∧ strideBytes.toNat < 2 ^ 31
  · rw [invokeRenderFrame_small documented memory frameBytes small.1 small.2.1 small.2.2,
      renderFrame_safe, toInt_small small.1, toInt_small small.2.1, toInt_small small.2.2]
    exact (and_iff_right small).symm
  · refine iff_of_false ?_ fun both => small both.1
    rintro ⟨rendering, ok⟩
    exact small (invokeRenderFrame_small_of_ok documented ok)

/-- The codec itself, in so far as an `int` of Dart can hold the value. -/
def standardCodec (n : Int) : Boxed :=
  if -2 ^ 31 ≤ n ∧ n < 2 ^ 31 then .integer (Int32.ofInt n) else .long (Int64.ofInt n)

theorem standardCodec_documented : Documented standardCodec where
  integer _ lower upper := if_pos ⟨lower, upper⟩
  long _ outside := ⟨_, if_neg outside⟩

/-- A process that has 256 MiB for arrays and bitmaps, four bytes a pixel. -/
def smallMemory : Memory where
  intArray size := if 4 * size ≤ 2 ^ 28 then none else some .outOfMemory
  createBitmap width height := if 4 * (width * height) ≤ 2 ^ 28 then none else some .outOfMemory

/-- One pixel is drawn; 2^30 pixels in rows of one byte are more than there is memory for. -/
theorem rendered_safely_iff_pixel :
    let frameBytes : Array UInt8 := ⟨[1, 2, 3, 255], by decide⟩
    (∃ rendering, renderFrame smallMemory frameBytes 1 1 4 = .ok rendering) ∧
    (∃ rendering, invokeRenderFrame standardCodec smallMemory frameBytes 1 1 4 = .ok rendering) ∧
    let wide : Array UInt8 := ⟨List.replicate 131072 0, by rw [List.length_replicate]; decide⟩
    ¬ ∃ rendering, renderFrame smallMemory wide 16384 65536 1 = .ok rendering := by
  intro frameBytes
  obtain ⟨called, announced⟩ := rendered_safely_iff standardCodec_documented smallMemory frameBytes
  refine ⟨(called 1 1 4).mpr (by decide), (announced 1 1 4).mpr (by decide), ?_⟩
  intro wide rendered
  have safe := ((rendered_safely_iff standardCodec_documented smallMemory wide).1 16384 65536 1).mp
    rendered
  have length : wide.values.length = 131072 := List.length_replicate
  rw [length] at safe
  exact absurd safe (by decide)

/-- Two pixels in a row of one byte: the size is accepted, and the second byte is missing, however
much memory there is. -/
theorem narrow_stride_throws :
    let frameBytes : Array UInt8 := ⟨[7], by decide⟩
    ¬ ∃ rendering, renderFrame .unlimited frameBytes 2 1 1 = .ok rendering := by
  intro frameBytes rendered
  exact absurd ((renderFrame_safe .unlimited frameBytes 2 1 1).mp rendered) (by decide)

end Screenscrab.Client.Display
