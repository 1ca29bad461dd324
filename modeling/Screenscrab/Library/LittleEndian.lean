import Mathlib.Data.Nat.ModEq
import Mathlib.Tactic.Ring

/-! Little-endian byte strings of natural numbers. A word of `width` bytes keeps
its value modulo `256 ^ width`, and every string of that length is such a word. -/
namespace LittleEndian

def encode : Nat → Nat → List UInt8
  | 0, _ => []
  | width + 1, n => UInt8.ofNat n :: encode width (n / 256)

def decode : List UInt8 → Nat
  | [] => 0
  | b :: bs => b.toNat + 256 * decode bs

@[simp] theorem encode_length (width n : Nat) : (encode width n).length = width := by
  induction width generalizing n with
  | zero => rfl
  | succ width ih => simp only [encode, List.length_cons, ih]

theorem decode_lt (bs : List UInt8) : decode bs < 256 ^ bs.length := by
  induction bs with
  | nil => exact Nat.one_pos
  | cons b bs ih =>
      have byte : b.toNat < 256 := b.toNat_lt
      simp only [decode, List.length_cons, pow_succ]
      omega

theorem decode_encode (width n : Nat) : decode (encode width n) = n % 256 ^ width := by
  induction width generalizing n with
  | zero => simp only [encode, decode, pow_zero, Nat.mod_one]
  | succ width ih =>
      have byte : (UInt8.ofNat n).toNat = n % 256 := by simp
      rw [encode, decode, ih, byte, pow_succ, Nat.mul_comm (256 ^ width) 256, Nat.mod_mul]

theorem encode_decode (bs : List UInt8) : encode bs.length (decode bs) = bs := by
  induction bs with
  | nil => rfl
  | cons b bs ih =>
      have byte : b.toNat < 256 := b.toNat_lt
      have low : UInt8.ofNat (b.toNat + 256 * decode bs) = b := by
        apply UInt8.toNat_inj.mp
        simp only [UInt8.toNat_ofNat']
        omega
      have high : (b.toNat + 256 * decode bs) / 256 = decode bs := by omega
      simp only [List.length_cons, encode, decode, low, high, ih]

theorem encode_mod (width n : Nat) : encode width (n % 256 ^ width) = encode width n := by
  have same := encode_decode (encode width n)
  rwa [encode_length, decode_encode] at same

theorem encode_append (v w n : Nat) :
    encode (v + w) n = encode v n ++ encode w (n / 256 ^ v) := by
  induction v generalizing n with
  | zero => simp only [Nat.zero_add, encode, pow_zero, Nat.div_one, List.nil_append]
  | succ v ih =>
      rw [Nat.succ_add, encode, ih, encode, Nat.div_div_eq_div_mul, pow_succ, Nat.mul_comm 256]
      rfl

theorem decode_append (as bs : List UInt8) :
    decode (as ++ bs) = decode as + 256 ^ as.length * decode bs := by
  induction as with
  | nil => simp only [List.nil_append, decode, List.length_nil, pow_zero, Nat.one_mul, Nat.zero_add]
  | cons a as ih =>
      simp only [List.cons_append, decode, ih, List.length_cons, pow_succ]
      ring

/-- The value of the word of `width` bytes at an offset. -/
def word (bytes : List UInt8) (offset width : Nat) : Nat := decode ((bytes.drop offset).take width)

theorem word_lt (bytes : List UInt8) (offset width : Nat) : word bytes offset width < 256 ^ width :=
  lt_of_lt_of_le (decode_lt _) (Nat.pow_le_pow_right (by decide) (List.length_take_le _ _))

/-- A word lies in the bytes it is read from, whatever follows them. -/
theorem word_append (bytes rest : List UInt8) {offset width : Nat}
    (inside : offset + width ≤ bytes.length) :
    word (bytes ++ rest) offset width = word bytes offset width := by
  unfold word
  rw [List.drop_append_of_le_length (by omega), List.take_append_of_le_length]
  simp only [List.length_drop]
  omega

/-- Reading back the word a string ends with. -/
theorem word_encode_last (before : List UInt8) (width n : Nat) {offset : Nat}
    (place : before.length = offset) :
    word (before ++ encode width n) offset width = n % 256 ^ width := by
  rw [word, ← place, List.drop_left, List.take_of_length_le (by simp), decode_encode]

/-- Writing back the word that follows a front extends the front by it. -/
theorem take_encode_word (bytes : List UInt8) {offset width : Nat}
    (inside : offset + width ≤ bytes.length) :
    bytes.take offset ++ encode width (word bytes offset width) = bytes.take (offset + width) := by
  have size : ((bytes.drop offset).take width).length = width := by
    rw [List.length_take, List.length_drop]
    omega
  have same := encode_decode ((bytes.drop offset).take width)
  rw [size] at same
  rw [word, same, List.take_add]

/-- A record of fields of fixed widths, written without gaps. -/
def fields : List (Nat × Nat) → List UInt8
  | [] => []
  | (width, n) :: rest => encode width n ++ fields rest

/-- The offset behind some fields. -/
def extent (layout : List (Nat × Nat)) : Nat := (layout.map Prod.fst).sum

@[simp] theorem fields_length (layout : List (Nat × Nat)) :
    (fields layout).length = extent layout := by
  induction layout with
  | nil => rfl
  | cons field rest ih =>
      simp only [fields, List.length_append, encode_length, ih, extent, List.map_cons,
        List.sum_cons]

theorem fields_append (front rest : List (Nat × Nat)) :
    fields (front ++ rest) = fields front ++ fields rest := by
  induction front with
  | nil => rfl
  | cons field front ih => simp only [List.cons_append, fields, ih, List.append_assoc]

/-- Each field is read back at its offset, whatever follows the record. -/
theorem word_fields (front : List (Nat × Nat)) (width n : Nat) (rest : List (Nat × Nat))
    (tail : List UInt8) {offset : Nat} (place : extent front = offset) :
    word (fields (front ++ (width, n) :: rest) ++ tail) offset width = n % 256 ^ width := by
  rw [fields_append, fields, List.append_assoc, List.append_assoc, ← List.append_assoc,
    word_append _ _ (by rw [List.length_append, fields_length, encode_length, place]),
    word_encode_last _ _ _ ((fields_length front).trans place)]

theorem field_inside (front : List (Nat × Nat)) (width n : Nat) (rest : List (Nat × Nat))
    (tail : List UInt8) {offset : Nat} (place : extent front = offset) :
    offset + width ≤ (fields (front ++ (width, n) :: rest) ++ tail).length := by
  rw [fields_append, fields]
  simp only [List.length_append, fields_length, encode_length, place]
  omega

end LittleEndian
