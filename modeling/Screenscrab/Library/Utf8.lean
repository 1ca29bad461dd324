import Mathlib.Algebra.Group.Nat.Defs

/-! UTF-8 text as a machine that reads a byte at a time and writes UTF-16 code units. -/
namespace Utf8

/-- Between runes, or inside one: after the next byte, which has bounds, `more` others follow. -/
inductive State where
  | start
  | inside (more : Nat) (low high : UInt8) (rune : Nat)
  deriving DecidableEq, Repr

/-- The code units of a rune. -/
def utf16 (rune : Nat) : List Nat :=
  if rune < 0x10000 then [rune]
  else [0xD800 + (rune - 0x10000) / 1024, 0xDC00 + (rune - 0x10000) % 1024]

/-- The state after the first byte of a rune that is not ASCII. -/
def first (b : UInt8) : Option State :=
  if 0xC2 ≤ b ∧ b ≤ 0xDF then some (.inside 0 0x80 0xBF (b.toNat % 32))
  else if 0xE0 ≤ b ∧ b ≤ 0xEF then
    some (.inside 1 (if b = 0xE0 then 0xA0 else 0x80) (if b = 0xED then 0x9F else 0xBF)
      (b.toNat % 16))
  else if 0xF0 ≤ b ∧ b ≤ 0xF4 then
    some (.inside 2 (if b = 0xF0 then 0x90 else 0x80) (if b = 0xF4 then 0x8F else 0xBF)
      (b.toNat % 8))
  else none

def step : State → UInt8 → Option (State × List Nat)
  | .start, b => if b < 0x80 then some (.start, [b.toNat]) else (first b).map (·, [])
  | .inside more low high rune, b =>
    if low ≤ b ∧ b ≤ high then
      let rune := rune * 64 + b.toNat % 64
      match more with
      | 0 => some (.start, utf16 rune)
      | more + 1 => some (.inside more 0x80 0xBF rune, [])
    else none

def run : State → List UInt8 → Option (State × List Nat)
  | s, [] => some (s, [])
  | s, b :: text => do
    let (s, units) ← step s b
    let (s, more) ← run s text
    return (s, units ++ more)

def finish : State × List Nat → Option (List Nat)
  | (.start, units) => some units
  | _ => none

/-- The code units of a whole text. -/
def decode (text : List UInt8) : Option (List Nat) := (run .start text).bind finish

/-- What the bounds of a state keep: a byte inside a rune is not ASCII. -/
def State.High : State → Prop
  | .start => True
  | .inside _ low _ _ => 0x80 ≤ low

theorem first_high {b : UInt8} {s : State} (begins : first b = some s) : s.High := by
  unfold first at begins
  split at begins
  · obtain rfl := Option.some.inj begins
    exact UInt8.le_refl _
  split at begins
  · obtain rfl := Option.some.inj begins
    simp only [State.High]
    split <;> decide
  split at begins
  · obtain rfl := Option.some.inj begins
    simp only [State.High]
    split <;> decide
  · cases begins

theorem step_high {s t : State} {b : UInt8} {units : List Nat} (high : s.High)
    (taken : step s b = some (t, units)) : t.High := by
  cases s with
  | start =>
      rw [step] at taken
      split at taken
      · cases taken
        trivial
      · obtain ⟨next, begins, pair⟩ := Option.map_eq_some_iff.mp taken
        cases pair
        exact first_high begins
  | inside more low high rune =>
      rw [step] at taken
      split at taken
      · cases more <;> cases taken
        · trivial
        · exact UInt8.le_refl _
      · cases taken

theorem run_append (s : State) (front rest : List UInt8) :
    run s (front ++ rest) = (run s front).bind fun p =>
      (run p.1 rest).map fun q => (q.1, p.2 ++ q.2) := by
  induction front generalizing s with
  | nil => simp [run]
  | cons b front ih =>
      simp only [List.cons_append, run, Option.bind_eq_bind, Option.pure_def]
      cases step s b with
      | none => rfl
      | some p =>
          simp only [Option.bind_some, ih, Option.bind_assoc, Option.bind_map]
          congr 1
          funext q
          cases run q.1 rest <;> simp

theorem run_high {s t : State} {text : List UInt8} {units : List Nat} (high : s.High)
    (taken : run s text = some (t, units)) : t.High := by
  induction text generalizing s units with
  | nil =>
      cases taken
      exact high
  | cons b text ih =>
      simp only [run, Option.bind_eq_bind, Option.pure_def, Option.bind_eq_some_iff] at taken
      obtain ⟨p, first, q, later, pair⟩ := taken
      cases pair
      exact ih (step_high high first) later

/-- No rune goes on over an ASCII byte. -/
theorem step_ascii {s t : State} {b : UInt8} {units : List Nat} (high : s.High) (low : b < 0x80)
    (taken : step s b = some (t, units)) : s = .start := by
  cases s with
  | start => rfl
  | inside more bound top rune =>
      rw [step] at taken
      split at taken
      next between =>
        exact absurd low (UInt8.not_lt.mpr (UInt8.le_trans high between.1))
      next => cases taken

/-- A text that goes on with an ASCII byte is decoded in two parts. -/
theorem decode_append {b : UInt8} (low : b < 0x80) (front rest : List UInt8) :
    decode (front ++ b :: rest) =
      (decode front).bind fun units => (decode (b :: rest)).map (units ++ ·) := by
  unfold decode
  rw [run_append]
  cases ran : run .start front with
  | none => rfl
  | some p =>
      obtain ⟨s, units⟩ := p
      have high : s.High := run_high (show State.start.High from trivial) ran
      by_cases between : s = .start
      · subst between
        simp only [Option.bind_some, finish]
        cases run .start (b :: rest) with
        | none => rfl
        | some q =>
            obtain ⟨t, more⟩ := q
            cases t <;> rfl
      · have stuck : step s b = none := by
          cases taken : step s b with
          | none => rfl
          | some p => exact absurd (step_ascii high low taken) between
        have unfinished : finish (s, units) = none := by
          cases s with
          | start => exact absurd rfl between
          | inside => rfl
        simp [run, stuck, unfinished]

theorem run_ascii {text : List UInt8} (low : ∀ b ∈ text, b < 0x80) :
    run .start text = some (.start, text.map UInt8.toNat) := by
  induction text with
  | nil => rfl
  | cons b text ih =>
      obtain ⟨here, low⟩ := List.forall_mem_cons.mp low
      simp [run, step, here, ih low]

theorem decode_ascii {text : List UInt8} (low : ∀ b ∈ text, b < 0x80) :
    decode text = some (text.map UInt8.toNat) := by
  rw [decode, run_ascii low]
  rfl

theorem decode_ascii_append {front : List UInt8} (low : ∀ b ∈ front, b < 0x80)
    (rest : List UInt8) :
    decode (front ++ rest) = (decode rest).map (front.map UInt8.toNat ++ ·) := by
  unfold decode
  rw [run_append, run_ascii low, Option.bind_some]
  cases run .start rest with
  | none => rfl
  | some q =>
      obtain ⟨t, units⟩ := q
      cases t <;> rfl

/-- The bytes of a rune. -/
def encodeRune (rune : Nat) : List UInt8 :=
  if rune < 0x80 then [UInt8.ofNat rune]
  else if rune < 0x800 then [UInt8.ofNat (0xC0 + rune / 64), UInt8.ofNat (0x80 + rune % 64)]
  else if rune < 0x10000 then
    [UInt8.ofNat (0xE0 + rune / 4096), UInt8.ofNat (0x80 + rune / 64 % 64),
      UInt8.ofNat (0x80 + rune % 64)]
  else
    [UInt8.ofNat (0xF0 + rune / 262144), UInt8.ofNat (0x80 + rune / 4096 % 64),
      UInt8.ofNat (0x80 + rune / 64 % 64), UInt8.ofNat (0x80 + rune % 64)]

def isHigh (unit : Nat) : Prop := 0xD800 ≤ unit ∧ unit < 0xDC00

def isLow (unit : Nat) : Prop := 0xDC00 ≤ unit ∧ unit < 0xE000

instance (unit : Nat) : Decidable (isHigh unit) := inferInstanceAs (Decidable (_ ∧ _))

instance (unit : Nat) : Decidable (isLow unit) := inferInstanceAs (Decidable (_ ∧ _))

/-- The rune of a code unit that is no part of a pair; a surrogate is replaced. -/
def alone (unit : Nat) : Nat := if isHigh unit ∨ isLow unit then 0xFFFD else unit

/-- The bytes of code units, in which high and low surrogates need not be paired. -/
def encode : List Nat → List UInt8
  | [] => []
  | [unit] => encodeRune (alone unit)
  | unit :: next :: rest =>
    if isHigh unit ∧ isLow next then
      encodeRune (0x10000 + (unit - 0xD800) * 1024 + (next - 0xDC00)) ++ encode rest
    else encodeRune (alone unit) ++ encode (next :: rest)

/-- The runes that UTF-8 has bytes for. -/
def Scalar (rune : Nat) : Prop := rune < 0xD800 ∨ (0xE000 ≤ rune ∧ rune < 0x110000)

theorem encode_cons {unit : Nat} (plain : ¬ (isHigh unit ∨ isLow unit)) (rest : List Nat) :
    encode (unit :: rest) = encodeRune unit ++ encode rest := by
  cases rest with
  | nil => simp only [encode, alone, if_neg plain, List.append_nil]
  | cons next rest =>
      rw [encode, if_neg (fun pair => plain (.inl pair.1)), alone, if_neg plain]

theorem encode_utf16 {rune : Nat} (scalar : Scalar rune) (rest : List Nat) :
    encode (utf16 rune ++ rest) = encodeRune rune ++ encode rest := by
  unfold Scalar at scalar
  unfold utf16
  split
  · next small =>
      refine encode_cons ?_ rest
      unfold isHigh isLow
      omega
  · next large =>
      have pair : isHigh (0xD800 + (rune - 0x10000) / 1024) ∧
          isLow (0xDC00 + (rune - 0x10000) % 1024) := by
        unfold isHigh isLow
        omega
      have same : 0x10000 + (0xD800 + (rune - 0x10000) / 1024 - 0xD800) * 1024 +
          (0xDC00 + (rune - 0x10000) % 1024 - 0xDC00) = rune := by omega
      simp only [List.cons_append, List.nil_append, encode, if_pos pair, same]

/-- The byte a text inside a rune goes on with. -/
theorem run_inside {more : Nat} {low high : UInt8} {rune : Nat} {text : List UInt8}
    {units : List Nat}
    (taken : run (.inside (more + 1) low high rune) text = some (.start, units)) :
    ∃ b rest, text = b :: rest ∧ low ≤ b ∧ b ≤ high ∧
      run (.inside more 0x80 0xBF (rune * 64 + b.toNat % 64)) rest = some (.start, units) := by
  cases text with
  | nil => cases taken
  | cons b rest =>
      simp only [run, Option.bind_eq_bind, Option.pure_def, Option.bind_eq_some_iff] at taken
      obtain ⟨p, here, ⟨s, units'⟩, later, pair⟩ := taken
      cases pair
      rw [step] at here
      split at here
      · next between =>
          cases here
          exact ⟨b, rest, rfl, between.1, between.2, later⟩
      · cases here

/-- The last byte of a rune. -/
theorem run_last {low high : UInt8} {rune : Nat} {text : List UInt8} {units : List Nat}
    (taken : run (.inside 0 low high rune) text = some (.start, units)) :
    ∃ b rest later, text = b :: rest ∧ low ≤ b ∧ b ≤ high ∧
      units = utf16 (rune * 64 + b.toNat % 64) ++ later ∧
      run .start rest = some (.start, later) := by
  cases text with
  | nil => cases taken
  | cons b rest =>
      simp only [run, Option.bind_eq_bind, Option.pure_def, Option.bind_eq_some_iff] at taken
      obtain ⟨p, here, ⟨s, units'⟩, later, pair⟩ := taken
      cases pair
      rw [step] at here
      split at here
      · next between =>
          cases here
          exact ⟨b, rest, units', rfl, between.1, between.2, rfl, later⟩
      · cases here

/-- A text that is decoded is empty or begins with the bytes of a rune. -/
theorem run_rune {b : UInt8} {text : List UInt8} {units : List Nat}
    (taken : run .start (b :: text) = some (.start, units)) :
    ∃ rune rest later, Scalar rune ∧ b :: text = encodeRune rune ++ rest ∧
      units = utf16 rune ++ later ∧ run .start rest = some (.start, later) := by
  have byte := b.toNat_lt
  simp only [run, Option.bind_eq_bind, Option.pure_def, Option.bind_eq_some_iff] at taken
  obtain ⟨⟨s, here⟩, begins, ⟨t, later⟩, ran, pair⟩ := taken
  cases pair
  rw [step] at begins
  split at begins
  · next ascii =>
      have low : b.toNat < 0x80 := UInt8.lt_iff_toNat_lt.mp ascii
      cases begins
      refine ⟨b.toNat, text, later, .inl (by omega), ?_, ?_, ran⟩
      · rw [encodeRune, if_pos low, UInt8.ofNat_toNat]
        rfl
      · rw [utf16, if_pos (by omega)]
  obtain ⟨state, begins, pair⟩ := Option.map_eq_some_iff.mp begins
  cases pair
  rw [first] at begins
  simp only [UInt8.le_iff_toNat_le] at begins
  split at begins
  · next two =>
      cases begins
      obtain ⟨c, rest, later', rfl, low, high, rfl, after⟩ := run_last ran
      simp only [UInt8.le_iff_toNat_le, UInt8.reduceToNat] at two low high
      generalize same : b.toNat % 32 * 64 + c.toNat % 64 = rune
      have head : 0xC0 + rune / 64 = b.toNat := by omega
      have tail : 0x80 + rune % 64 = c.toNat := by omega
      refine ⟨rune, rest, later', .inl (by omega), ?_, rfl, after⟩
      rw [encodeRune, if_neg (by omega), if_pos (by omega), head, tail]
      simp only [UInt8.ofNat_toNat, List.cons_append, List.nil_append]
  split at begins
  · next three =>
      cases begins
      obtain ⟨c, rest, rfl, low, high, ran⟩ := run_inside ran
      obtain ⟨d, rest, later', rfl, low', high', rfl, after⟩ := run_last ran
      simp only [UInt8.le_iff_toNat_le, UInt8.reduceToNat] at three low' high'
      have second : 0x80 ≤ c.toNat ∧ c.toNat ≤ 0xBF ∧ (b.toNat = 0xE0 → 0xA0 ≤ c.toNat) ∧
          (b.toNat = 0xED → c.toNat ≤ 0x9F) := by
        rw [UInt8.le_iff_toNat_le] at low high
        simp only [← UInt8.toNat_inj, UInt8.reduceToNat] at low high
        split at low <;> split at high <;> simp only [UInt8.reduceToNat] at low high <;> omega
      generalize same : (b.toNat % 16 * 64 + c.toNat % 64) * 64 + d.toNat % 64 = rune
      have head : 0xE0 + rune / 4096 = b.toNat := by omega
      have middle : 0x80 + rune / 64 % 64 = c.toNat := by omega
      have tail : 0x80 + rune % 64 = d.toNat := by omega
      refine ⟨rune, rest, later', by unfold Scalar; omega, ?_, rfl, after⟩
      rw [encodeRune, if_neg (by omega), if_neg (by omega), if_pos (by omega), head, middle, tail]
      simp only [UInt8.ofNat_toNat, List.cons_append, List.nil_append]
  split at begins
  · next four =>
      cases begins
      obtain ⟨c, rest, rfl, low, high, ran⟩ := run_inside ran
      obtain ⟨d, rest, rfl, low', high', ran⟩ := run_inside ran
      obtain ⟨e, rest, later', rfl, low'', high'', rfl, after⟩ := run_last ran
      simp only [UInt8.le_iff_toNat_le, UInt8.reduceToNat] at four low' high' low'' high''
      have second : 0x80 ≤ c.toNat ∧ c.toNat ≤ 0xBF ∧ (b.toNat = 0xF0 → 0x90 ≤ c.toNat) ∧
          (b.toNat = 0xF4 → c.toNat ≤ 0x8F) := by
        rw [UInt8.le_iff_toNat_le] at low high
        simp only [← UInt8.toNat_inj, UInt8.reduceToNat] at low high
        split at low <;> split at high <;> simp only [UInt8.reduceToNat] at low high <;> omega
      generalize same :
        ((b.toNat % 8 * 64 + c.toNat % 64) * 64 + d.toNat % 64) * 64 + e.toNat % 64 = rune
      have head : 0xF0 + rune / 262144 = b.toNat := by omega
      have middle : 0x80 + rune / 4096 % 64 = c.toNat := by omega
      have middle' : 0x80 + rune / 64 % 64 = d.toNat := by omega
      have tail : 0x80 + rune % 64 = e.toNat := by omega
      refine ⟨rune, rest, later', by unfold Scalar; omega, ?_, rfl, after⟩
      rw [encodeRune, if_neg (by omega), if_neg (by omega), if_neg (by omega), head, middle,
        middle', tail]
      simp only [UInt8.ofNat_toNat, List.cons_append, List.nil_append]
  · cases begins

theorem encodeRune_pos (rune : Nat) : 0 < (encodeRune rune).length := by
  unfold encodeRune
  split
  · simp
  split
  · simp
  split <;> simp

theorem run_of_decode {text : List UInt8} {units : List Nat} (decoded : decode text = some units) :
    run .start text = some (.start, units) := by
  obtain ⟨⟨s, found⟩, ran, finished⟩ := Option.bind_eq_some_iff.mp decoded
  cases s with
  | start =>
      cases finished
      exact ran
  | inside => cases finished

/-- Encoding gives back the text that was decoded. -/
theorem encode_decode {text : List UInt8} {units : List Nat}
    (decoded : decode text = some units) : encode units = text := by
  have ran := run_of_decode decoded
  clear decoded
  induction size : text.length using Nat.strongRecOn generalizing text units with
  | ind n ih =>
      cases text with
      | nil =>
          cases ran
          rfl
      | cons b text =>
          obtain ⟨rune, rest, later, scalar, split, rfl, after⟩ := run_rune ran
          have shorter : rest.length < n := by
            have bytes := encodeRune_pos rune
            rw [← size, split, List.length_append]
            omega
          rw [encode_utf16 scalar, ih rest.length shorter after rfl, split]

/-- Texts that are decoded can be put together. -/
theorem decode_concat {front rest : List UInt8} {units more : List Nat}
    (first : decode front = some units) (second : decode rest = some more) :
    decode (front ++ rest) = some (units ++ more) := by
  rw [decode, run_append, run_of_decode first, Option.bind_some, run_of_decode second]
  rfl

/-- What the bounds of a state keep of its rune: it will not be ASCII. -/
def State.Wide : State → Prop
  | .start => True
  | .inside more low high rune =>
    0x80 ≤ low.toNat ∧ high.toNat ≤ 0xBF ∧ 0x80 ≤ (rune * 64 + low.toNat % 64) * 64 ^ more

theorem first_wide {b : UInt8} {s : State} (begins : first b = some s) : s.Wide := by
  rw [first] at begins
  simp only [UInt8.le_iff_toNat_le, ← UInt8.toNat_inj, UInt8.reduceToNat] at begins
  split at begins
  · obtain rfl := Option.some.inj begins
    simp only [State.Wide, UInt8.reduceToNat]
    omega
  split at begins
  · obtain rfl := Option.some.inj begins
    simp only [State.Wide]
    split <;> split <;> simp only [UInt8.reduceToNat] <;> omega
  split at begins
  · obtain rfl := Option.some.inj begins
    simp only [State.Wide]
    split <;> split <;> simp only [UInt8.reduceToNat] <;> omega
  · cases begins

theorem utf16_high {rune : Nat} (high : 0x80 ≤ rune) : ∀ unit ∈ utf16 rune, 0x80 ≤ unit := by
  unfold utf16
  split
  · exact List.forall_mem_singleton.mpr high
  · intro unit member
    simp only [List.mem_cons, List.not_mem_nil, or_false] at member
    omega

/-- An ASCII byte is decoded to itself, and the other bytes to no ASCII character. -/
theorem step_wide {s t : State} {b : UInt8} {units : List Nat} (wide : s.Wide)
    (taken : step s b = some (t, units)) :
    t.Wide ∧ (s = .start ∧ b < 0x80 ∧ t = .start ∧ units = [b.toNat] ∨
      ¬ b < 0x80 ∧ ∀ unit ∈ units, 0x80 ≤ unit) := by
  cases s with
  | start =>
      rw [step] at taken
      split at taken
      · next low =>
          cases taken
          exact ⟨trivial, .inl ⟨rfl, low, rfl, rfl⟩⟩
      · next high =>
          obtain ⟨next, begins, pair⟩ := Option.map_eq_some_iff.mp taken
          cases pair
          exact ⟨first_wide begins, .inr ⟨high, nofun⟩⟩
  | inside more low high rune =>
      obtain ⟨above, below, large⟩ := wide
      rw [step] at taken
      split at taken
      · next between =>
          have bounds := between
          rw [UInt8.le_iff_toNat_le, UInt8.le_iff_toNat_le] at bounds
          have notLow : ¬ b < 0x80 := by
            rw [UInt8.lt_iff_toNat_lt]
            simp only [UInt8.reduceToNat]
            omega
          have grown : 0x80 ≤ (rune * 64 + b.toNat % 64) * 64 ^ more := by
            refine Nat.le_trans large (Nat.mul_le_mul_right _ ?_)
            omega
          cases more with
          | zero =>
              cases taken
              exact ⟨trivial, .inr ⟨notLow, utf16_high (by simpa using grown)⟩⟩
          | succ more =>
              cases taken
              refine ⟨⟨Nat.le_refl _, Nat.le_refl _, ?_⟩, .inr ⟨notLow, nofun⟩⟩
              rw [Nat.pow_succ, Nat.mul_comm (64 ^ more), ← Nat.mul_assoc] at grown
              exact grown
      · cases taken

section replace
-- what is put for each ASCII byte
variable (put : UInt8 → List UInt8)

def replace (text : List UInt8) : List UInt8 :=
  text.flatMap fun b => if b < 0x80 then put b else [b]

/-- What is put for a code unit. -/
def putUnit (unit : Nat) : List Nat :=
  if unit < 0x80 then (put (UInt8.ofNat unit)).map UInt8.toNat else [unit]

variable {put}

theorem putUnit_high {units : List Nat} (high : ∀ unit ∈ units, 0x80 ≤ unit) :
    units.flatMap (putUnit put) = units := by
  induction units with
  | nil => rfl
  | cons unit units ih =>
      obtain ⟨here, high⟩ := List.forall_mem_cons.mp high
      rw [List.flatMap_cons, ih high, putUnit, if_neg (Nat.not_lt.mpr here)]
      rfl

theorem run_replace (low : ∀ b < 0x80, ∀ c ∈ put b, c < 0x80) {s t : State} (wide : s.Wide)
    {text : List UInt8} {units : List Nat} (taken : run s text = some (t, units)) :
    run s (replace put text) = some (t, units.flatMap (putUnit put)) := by
  induction text generalizing s units with
  | nil =>
      cases taken
      rfl
  | cons b text ih =>
      simp only [run, Option.bind_eq_bind, Option.pure_def, Option.bind_eq_some_iff] at taken
      obtain ⟨⟨u, here⟩, first, ⟨t', later⟩, ran, pair⟩ := taken
      cases pair
      obtain ⟨wide', ascii | ⟨high, above⟩⟩ := step_wide wide first
      · obtain ⟨rfl, ascii, rfl, rfl⟩ := ascii
        have small : b.toNat < 0x80 := UInt8.lt_iff_toNat_lt.mp ascii
        have whole : replace put (b :: text) = put b ++ replace put text := by
          rw [replace, List.flatMap_cons, if_pos ascii]
          rfl
        rw [whole, run_append, run_ascii (low b ascii), Option.bind_some, ih wide' ran,
          List.flatMap_append, List.flatMap_singleton, putUnit, if_pos small, UInt8.ofNat_toNat]
        rfl
      · have whole : replace put (b :: text) = b :: replace put text := by
          rw [replace, List.flatMap_cons, if_neg high]
          rfl
        rw [whole, List.flatMap_append, putUnit_high above]
        simp only [run, first, ih wide' ran, Option.bind_eq_bind, Option.bind_some, Option.pure_def]

/-- Replacing ASCII bytes in a text replaces the characters it is decoded to. -/
theorem decode_replace (low : ∀ b < 0x80, ∀ c ∈ put b, c < 0x80) {text : List UInt8}
    {units : List Nat} (decoded : decode text = some units) :
    decode (replace put text) = some (units.flatMap (putUnit put)) := by
  rw [decode, run_replace low (show State.start.Wide from trivial) (run_of_decode decoded)]
  rfl

end replace

end Utf8
