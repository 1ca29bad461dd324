import Mathlib.Data.Nat.Digits.Lemmas
import Mathlib.Tactic.IntervalCases

/-! The decimal text of a natural number, as the bytes of its digits. -/
namespace Decimal

def digit (d : Nat) : UInt8 := UInt8.ofNat (48 + d)

def decimal (n : Nat) : List UInt8 :=
  if n = 0 then [digit 0] else ((Nat.digits 10 n).map digit).reverse

def IsDigit (c : UInt8) : Prop := 48 ≤ c ∧ c ≤ 57

instance (c : UInt8) : Decidable (IsDigit c) := inferInstanceAs (Decidable (_ ∧ _))

/-- The number that the codes of decimal digits write. -/
def value (digits : List Nat) : Nat := digits.foldl (fun n c => n * 10 + (c - 48)) 0

theorem digit_isDigit {d : Nat} (small : d < 10) : IsDigit (digit d) := by
  interval_cases d <;> decide

theorem decimal_isDigit (n : Nat) : ∀ c ∈ decimal n, IsDigit c := by
  intro c member
  unfold decimal at member
  split at member
  · rw [List.mem_singleton.mp member]
    exact digit_isDigit (by decide)
  · obtain ⟨d, digits, rfl⟩ := List.mem_map.mp (List.mem_reverse.mp member)
    exact digit_isDigit (Nat.digits_lt_base (by decide) digits)

theorem notMem_decimal {c : UInt8} (other : ¬ IsDigit c) (n : Nat) : c ∉ decimal n :=
  fun member => other (decimal_isDigit n c member)

theorem digit_toNat {d : Nat} (small : d < 10) : (digit d).toNat = 48 + d := by
  interval_cases d <;> rfl

theorem decimal_pos {n : Nat} (positive : n ≠ 0) :
    decimal n = ((Nat.digits 10 n).map digit).reverse := if_neg positive

/-- Written digits give back the number. -/
theorem value_decimal (n : Nat) : value ((decimal n).map UInt8.toNat) = n := by
  by_cases zero : n = 0
  · subst zero
    rfl
  · have all : ∀ d ∈ Nat.digits 10 n, d < 10 := fun d => Nat.digits_lt_base (by decide)
    have folded (ds : List Nat) (small : ∀ d ∈ ds, d < 10) :
        value (((ds.map digit).reverse).map UInt8.toNat) = Nat.ofDigits 10 ds := by
      induction ds with
      | nil => rfl
      | cons d ds ih =>
          obtain ⟨here, small⟩ := List.forall_mem_cons.mp small
          have rest := ih small
          simp only [value, List.map_reverse, List.map_map] at rest ⊢
          rw [List.map_cons, List.reverse_cons, List.foldl_append, rest, Nat.ofDigits_cons]
          simp only [Function.comp_apply, digit_toNat here, List.foldl_cons, List.foldl_nil]
          omega
    rw [decimal_pos zero, folded _ all, Nat.ofDigits_digits]

/-- No number but zero is written with a zero in front. -/
theorem decimal_first {n : Nat} (positive : n ≠ 0) :
    ∃ c rest, decimal n = c :: rest ∧ c ≠ 48 := by
  have nonempty : Nat.digits 10 n ≠ [] := Nat.digits_ne_nil_iff_ne_zero.mpr positive
  have last := Nat.getLast_digit_ne_zero 10 positive
  have small : ∀ d ∈ Nat.digits 10 n, d < 10 := fun d => Nat.digits_lt_base (by decide)
  obtain ⟨front, top, split⟩ := (List.eq_nil_or_concat' (Nat.digits 10 n)).resolve_left nonempty
  rw [decimal_pos positive]
  simp only [split, List.getLast_concat] at last small ⊢
  refine ⟨digit top, (front.map digit).reverse, by simp, fun same => last ?_⟩
  have code := congrArg UInt8.toNat same
  rw [digit_toNat (small top (by simp))] at code
  exact Nat.add_left_cancel code

end Decimal
