import Mathlib.Data.List.TakeWhile
import Screenscrab.Library.Utf8

/-! UTF-16 text whose surrogates need not be paired, and what is left of it in UTF-8. -/
namespace Utf8

/-- The code units with a replacement for each surrogate that has no partner. -/
def mend : List Nat → List Nat
  | [] => []
  | [unit] => [alone unit]
  | unit :: next :: rest =>
    if isHigh unit ∧ isLow next then unit :: next :: mend rest
    else alone unit :: mend (next :: rest)

theorem alone_scalar {unit : Nat} (small : unit < 0x10000) : Scalar (alone unit) := by
  unfold alone
  split
  · exact .inr ⟨by decide, by decide⟩
  · next plain =>
      unfold isHigh isLow at plain
      unfold Scalar
      omega

theorem alone_self {unit : Nat} (plain : ¬ (isHigh unit ∨ isLow unit)) : alone unit = unit :=
  if_neg plain

theorem alone_plain (unit : Nat) : ¬ (isHigh (alone unit) ∨ isLow (alone unit)) := by
  unfold alone
  split
  · decide
  · assumption

theorem utf16_alone {unit : Nat} (small : unit < 0x10000) : utf16 (alone unit) = [alone unit] := by
  refine if_pos ?_
  unfold alone
  split
  · decide
  · exact small

/-- The units of the rune of a pair are the pair. -/
theorem utf16_pair {high low : Nat} (isPair : isHigh high ∧ isLow low) :
    utf16 (0x10000 + (high - 0xD800) * 1024 + (low - 0xDC00)) = [high, low] := by
  unfold isHigh isLow at isPair
  have first : 0xD800 + (0x10000 + (high - 0xD800) * 1024 + (low - 0xDC00) - 0x10000) / 1024 =
      high := by omega
  have second : 0xDC00 + (0x10000 + (high - 0xD800) * 1024 + (low - 0xDC00) - 0x10000) % 1024 =
      low := by omega
  rw [utf16, if_neg (by omega), first, second]

theorem pair_scalar {high low : Nat} (isPair : isHigh high ∧ isLow low) :
    Scalar (0x10000 + (high - 0xD800) * 1024 + (low - 0xDC00)) := by
  unfold isHigh isLow at isPair
  unfold Scalar
  omega

section bytes
variable {n : Nat}

theorem run_last_byte {low high : UInt8} {rune : Nat} (between : low.toNat ≤ n ∧ n ≤ high.toNat) :
    run (.inside 0 low high rune) [UInt8.ofNat n] =
      some (.start, utf16 (rune * 64 + n % 64)) := by
  have small : (UInt8.ofNat n).toNat = n := by
    have := high.toNat_lt
    exact UInt8.toNat_ofNat_of_lt' (by simp only [UInt8.size]; omega)
  have inside : low ≤ UInt8.ofNat n ∧ UInt8.ofNat n ≤ high := by
    rw [UInt8.le_iff_toNat_le, UInt8.le_iff_toNat_le, small]
    exact between
  rw [run, step, if_pos inside, small]
  simp only [Option.bind_eq_bind, Option.bind_some, run, Option.pure_def, List.append_nil]

theorem run_byte {more : Nat} {low high : UInt8} {rune : Nat}
    (between : low.toNat ≤ n ∧ n ≤ high.toNat) (rest : List UInt8) :
    run (.inside (more + 1) low high rune) (UInt8.ofNat n :: rest) =
      run (.inside more 0x80 0xBF (rune * 64 + n % 64)) rest := by
  have small : (UInt8.ofNat n).toNat = n := by
    have := high.toNat_lt
    exact UInt8.toNat_ofNat_of_lt' (by simp only [UInt8.size]; omega)
  have inside : low ≤ UInt8.ofNat n ∧ UInt8.ofNat n ≤ high := by
    rw [UInt8.le_iff_toNat_le, UInt8.le_iff_toNat_le, small]
    exact between
  rw [run, step, if_pos inside, small]
  exact Option.bind_fun_some _

theorem run_first {b : UInt8} {s : State} (high : ¬ b < 0x80) (begins : first b = some s)
    (rest : List UInt8) : run .start (b :: rest) = run s rest := by
  rw [run, step, if_neg high, begins]
  exact Option.bind_fun_some _

end bytes

/-- The bytes of a rune are read back as its code units. -/
theorem run_encodeRune {rune : Nat} (scalar : Scalar rune) :
    run .start (encodeRune rune) = some (.start, utf16 rune) := by
  unfold Scalar at scalar
  unfold encodeRune
  split
  · next ascii =>
      have same : (UInt8.ofNat rune).toNat = rune :=
        UInt8.toNat_ofNat_of_lt' (by simp only [UInt8.size]; omega)
      have low : ∀ b ∈ [UInt8.ofNat rune], b < 0x80 := by
        refine List.forall_mem_singleton.mpr (UInt8.lt_iff_toNat_lt.mpr ?_)
        rw [same]
        exact ascii
      rw [run_ascii low, utf16, if_pos (by omega), List.map_singleton, same]
  split
  · next large two =>
      have same : (UInt8.ofNat (0xC0 + rune / 64)).toNat = 0xC0 + rune / 64 :=
        UInt8.toNat_ofNat_of_lt' (by simp only [UInt8.size]; omega)
      have begins : first (UInt8.ofNat (0xC0 + rune / 64)) =
          some (.inside 0 0x80 0xBF ((0xC0 + rune / 64) % 32)) := by
        simp only [first, UInt8.le_iff_toNat_le, same, UInt8.reduceToNat]
        rw [if_pos (by omega)]
      have high : ¬ UInt8.ofNat (0xC0 + rune / 64) < 0x80 := by
        simp only [UInt8.lt_iff_toNat_lt, same, UInt8.reduceToNat]
        omega
      have whole : (0xC0 + rune / 64) % 32 * 64 + (0x80 + rune % 64) % 64 = rune := by omega
      rw [run_first high begins, run_last_byte (by simp only [UInt8.reduceToNat]; omega), whole]
  split
  · next large three =>
      have same : (UInt8.ofNat (0xE0 + rune / 4096)).toNat = 0xE0 + rune / 4096 :=
        UInt8.toNat_ofNat_of_lt' (by simp only [UInt8.size]; omega)
      have begins : first (UInt8.ofNat (0xE0 + rune / 4096)) =
          some (.inside 1 (if rune / 4096 = 0 then 0xA0 else 0x80)
            (if rune / 4096 = 13 then 0x9F else 0xBF) ((0xE0 + rune / 4096) % 16)) := by
        simp only [first, UInt8.le_iff_toNat_le, ← UInt8.toNat_inj, same, UInt8.reduceToNat]
        rw [if_neg (by omega), if_pos (by omega)]
        congr 2
        · exact if_congr (by omega) rfl rfl
        · exact if_congr (by omega) rfl rfl
      have high : ¬ UInt8.ofNat (0xE0 + rune / 4096) < 0x80 := by
        simp only [UInt8.lt_iff_toNat_lt, same, UInt8.reduceToNat]
        omega
      have second : (if rune / 4096 = 0 then 0xA0 else 0x80 : UInt8).toNat ≤
            0x80 + rune / 64 % 64 ∧
          0x80 + rune / 64 % 64 ≤ (if rune / 4096 = 13 then 0x9F else 0xBF : UInt8).toNat := by
        constructor
        · split <;> simp only [UInt8.reduceToNat] <;> omega
        · split <;> simp only [UInt8.reduceToNat] <;> omega
      have whole : ((0xE0 + rune / 4096) % 16 * 64 + (0x80 + rune / 64 % 64) % 64) * 64 +
          (0x80 + rune % 64) % 64 = rune := by omega
      rw [run_first high begins, run_byte second,
        run_last_byte (by simp only [UInt8.reduceToNat]; omega), whole]
  · next large =>
      have same : (UInt8.ofNat (0xF0 + rune / 262144)).toNat = 0xF0 + rune / 262144 :=
        UInt8.toNat_ofNat_of_lt' (by simp only [UInt8.size]; omega)
      have begins : first (UInt8.ofNat (0xF0 + rune / 262144)) =
          some (.inside 2 (if rune / 262144 = 0 then 0x90 else 0x80)
            (if rune / 262144 = 4 then 0x8F else 0xBF) ((0xF0 + rune / 262144) % 8)) := by
        simp only [first, UInt8.le_iff_toNat_le, ← UInt8.toNat_inj, same, UInt8.reduceToNat]
        rw [if_neg (by omega), if_neg (by omega), if_pos (by omega)]
        congr 2
        · exact if_congr (by omega) rfl rfl
        · exact if_congr (by omega) rfl rfl
      have high : ¬ UInt8.ofNat (0xF0 + rune / 262144) < 0x80 := by
        simp only [UInt8.lt_iff_toNat_lt, same, UInt8.reduceToNat]
        omega
      have second : (if rune / 262144 = 0 then 0x90 else 0x80 : UInt8).toNat ≤
            0x80 + rune / 4096 % 64 ∧
          0x80 + rune / 4096 % 64 ≤ (if rune / 262144 = 4 then 0x8F else 0xBF : UInt8).toNat := by
        constructor
        · split <;> simp only [UInt8.reduceToNat] <;> omega
        · split <;> simp only [UInt8.reduceToNat] <;> omega
      have third : UInt8.toNat 0x80 ≤ 0x80 + rune / 64 % 64 ∧
          0x80 + rune / 64 % 64 ≤ UInt8.toNat 0xBF := by
        simp only [UInt8.reduceToNat]
        omega
      have whole : (((0xF0 + rune / 262144) % 8 * 64 + (0x80 + rune / 4096 % 64) % 64) * 64 +
          (0x80 + rune / 64 % 64) % 64) * 64 + (0x80 + rune % 64) % 64 = rune := by omega
      rw [run_first high begins, run_byte second, run_byte third,
        run_last_byte (by simp only [UInt8.reduceToNat]; omega), whole]

theorem run_encodeRune_append {rune : Nat} (scalar : Scalar rune) (rest : List UInt8) :
    run .start (encodeRune rune ++ rest) =
      (run .start rest).map fun p => (p.1, utf16 rune ++ p.2) := by
  rw [run_append, run_encodeRune scalar]
  rfl

/-- What is encoded is decoded to the text with its surrogates mended. -/
theorem run_encode {units : List Nat} (small : ∀ unit ∈ units, unit < 0x10000) :
    run .start (encode units) = some (.start, mend units) := by
  induction units using encode.induct with
  | case1 => rfl
  | case2 unit =>
      have here := small unit List.mem_cons_self
      rw [encode, run_encodeRune (alone_scalar here), utf16_alone here]
      rfl
  | case3 unit next rest isPair ih =>
      have later := ih (List.forall_mem_cons.mp (List.forall_mem_cons.mp small).2).2
      rw [encode, if_pos isPair, run_encodeRune_append (pair_scalar isPair), later, mend,
        if_pos isPair, utf16_pair isPair]
      rfl
  | case4 unit next rest apart ih =>
      obtain ⟨here, others⟩ := List.forall_mem_cons.mp small
      have later := ih others
      rw [encode, if_neg apart, run_encodeRune_append (alone_scalar here), later, mend,
        if_neg apart, utf16_alone here]
      rfl

/-- UTF-8 has lost which surrogates were alone. -/
theorem decode_encode {units : List Nat} (small : ∀ unit ∈ units, unit < 0x10000) :
    decode (encode units) = some (mend units) := by
  rw [decode, run_encode small]
  rfl

theorem mend_length (units : List Nat) : (mend units).length = units.length := by
  induction units using mend.induct with
  | case1 => rfl
  | case2 unit => rfl
  | case3 unit next rest isPair ih =>
      rw [mend, if_pos isPair, List.length_cons, List.length_cons, ih]
      rfl
  | case4 unit next rest apart ih =>
      rw [mend, if_neg apart, List.length_cons, ih]
      rfl

theorem alone_lt {unit : Nat} (small : unit < 0x10000) : alone unit < 0x10000 := by
  unfold alone
  split
  · decide
  · exact small

theorem alone_eq_zero (unit : Nat) : alone unit = 0 ↔ unit = 0 := by
  unfold alone isHigh isLow
  split <;> omega

theorem mend_lt {units : List Nat} (small : ∀ unit ∈ units, unit < 0x10000) :
    ∀ unit ∈ mend units, unit < 0x10000 := by
  induction units using mend.induct with
  | case1 => exact small
  | case2 unit =>
      exact List.forall_mem_singleton.mpr (alone_lt (small unit List.mem_cons_self))
  | case3 unit next rest isPair ih =>
      obtain ⟨here, others⟩ := List.forall_mem_cons.mp small
      obtain ⟨second, later⟩ := List.forall_mem_cons.mp others
      rw [mend, if_pos isPair]
      exact List.forall_mem_cons.mpr ⟨here, List.forall_mem_cons.mpr ⟨second, ih later⟩⟩
  | case4 unit next rest apart ih =>
      obtain ⟨here, others⟩ := List.forall_mem_cons.mp small
      rw [mend, if_neg apart]
      exact List.forall_mem_cons.mpr ⟨alone_lt here, ih others⟩

theorem zero_mem_mend (units : List Nat) : 0 ∈ mend units ↔ 0 ∈ units := by
  induction units using mend.induct with
  | case1 => rfl
  | case2 unit =>
      simp only [mend, List.mem_singleton]
      exact eq_comm.trans ((alone_eq_zero unit).trans eq_comm)
  | case3 unit next rest isPair ih =>
      rw [mend, if_pos isPair]
      simp only [List.mem_cons, ih]
  | case4 unit next rest apart ih =>
      rw [mend, if_neg apart, List.mem_cons, ih, List.mem_cons (l := next :: rest)]
      exact or_congr_left (eq_comm.trans ((alone_eq_zero unit).trans eq_comm))

/-- Mending is what UTF-8 does, so it loses nothing more. -/
theorem encode_mend (units : List Nat) : encode (mend units) = encode units := by
  induction units using encode.induct with
  | case1 => rfl
  | case2 unit =>
      rw [mend, encode, encode, alone_self (alone_plain unit)]
  | case3 unit next rest isPair ih =>
      rw [mend, if_pos isPair, encode, if_pos isPair, ih, encode, if_pos isPair]
  | case4 unit next rest apart ih =>
      rw [mend, if_neg apart, encode_cons (alone_plain unit), ih, encode, if_neg apart]

theorem mend_mend {units : List Nat} (small : ∀ unit ∈ units, unit < 0x10000) :
    mend (mend units) = mend units := by
  have again := decode_encode (mend_lt small)
  rw [encode_mend, decode_encode small] at again
  exact (Option.some.inj again).symm

theorem zero_notMem_encodeRune {rune : Nat} (scalar : Scalar rune) (positive : rune ≠ 0) :
    0 ∉ encodeRune rune := by
  have nonzero {n : Nat} (low : 0 < n) (high : n < 256) : (0 : UInt8) ≠ UInt8.ofNat n := by
    intro same
    have value := congrArg UInt8.toNat same
    rw [UInt8.toNat_ofNat_of_lt' high] at value
    exact absurd value (Nat.ne_of_lt low)
  unfold Scalar at scalar
  unfold encodeRune
  split
  · simp only [List.mem_singleton]
    exact nonzero (by omega) (by omega)
  split
  · simp only [List.mem_cons, List.not_mem_nil, or_false, not_or]
    exact ⟨nonzero (by omega) (by omega), nonzero (by omega) (by omega)⟩
  split
  · simp only [List.mem_cons, List.not_mem_nil, or_false, not_or]
    exact ⟨nonzero (by omega) (by omega), nonzero (by omega) (by omega),
      nonzero (by omega) (by omega)⟩
  · simp only [List.mem_cons, List.not_mem_nil, or_false, not_or]
    exact ⟨nonzero (by omega) (by omega), nonzero (by omega) (by omega),
      nonzero (by omega) (by omega), nonzero (by omega) (by omega)⟩

/-- The bytes before the first NUL are those of the units before the first NUL. -/
theorem takeWhile_encode {units : List Nat} (small : ∀ unit ∈ units, unit < 0x10000) :
    (encode units).takeWhile (· ≠ 0) = encode (units.takeWhile (· ≠ 0)) := by
  have passes {rune : Nat} (scalar : Scalar rune) (positive : rune ≠ 0) :
      ∀ b ∈ encodeRune rune, decide (b ≠ 0) = true := by
    intro b member
    apply decide_eq_true
    rintro rfl
    exact zero_notMem_encodeRune scalar positive member
  have kept {unit : Nat} (nonzero : unit ≠ 0) (rest : List Nat) :
      (unit :: rest).takeWhile (· ≠ 0) = unit :: rest.takeWhile (· ≠ 0) :=
    List.takeWhile_cons_of_pos (decide_eq_true nonzero)
  induction units using encode.induct with
  | case1 => rfl
  | case2 unit =>
      by_cases zero : unit = 0
      · rw [zero]
        rfl
      have first := passes (alone_scalar (small unit List.mem_cons_self))
        (mt (alone_eq_zero unit).mp zero)
      rw [encode, List.takeWhile_eq_self_iff.mpr first, kept zero]
      rfl
  | case3 unit next rest isPair ih =>
      obtain ⟨here, others⟩ := List.forall_mem_cons.mp small
      obtain ⟨second, later⟩ := List.forall_mem_cons.mp others
      have bounds := isPair
      unfold isHigh isLow at bounds
      rw [encode, if_pos isPair,
        List.takeWhile_append_of_pos (passes (pair_scalar isPair) (by omega)), ih later,
        kept (by omega), kept (by omega), encode, if_pos isPair]
  | case4 unit next rest apart ih =>
      obtain ⟨here, others⟩ := List.forall_mem_cons.mp small
      by_cases zero : unit = 0
      · rw [zero, encode_cons (by decide)]
        rfl
      have first := passes (alone_scalar here) (mt (alone_eq_zero unit).mp zero)
      rw [encode, if_neg apart, List.takeWhile_append_of_pos first, ih others, kept zero]
      by_cases last : next = 0
      · rw [last, List.takeWhile_cons_of_neg (by decide), encode, encode, List.append_nil]
      · rw [kept last, encode, if_neg apart]

end Utf8
