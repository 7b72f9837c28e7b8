import EmbeddedPython.Text.Numeral
import Mathlib.Data.List.Induction
import Mathlib.Tactic.Ring

/-!
# Rows of decimal digits

The value of digits in front of digits is the front, moved by as many places as the
rest is long, and the rest (`Numeral.valueOf_join`).  Where the front is the form of a
number other than zero, the whole is the form of its value (`Numeral.decimal_join`).
The length of a form tells between which powers of ten its number is
(`Numeral.lt_pow_length` and `Numeral.pow_le_of_lt_length`).
-/

namespace EmbeddedPython.Numeral

theorem decimal_of_lt {n : Nat} (h : n < 10) : decimal n = [digit n] := by
  rw [decimal, if_pos h]

theorem decimal_of_le {n : Nat} (h : 10 ≤ n) :
    decimal n = decimal (n / 10) ++ [digit (n % 10)] := by
  rw [decimal, if_neg (by omega)]

theorem digitValue_lt {c : Char} (h : isDigit c = true) : digitValue c < 10 := by
  simp only [isDigit, Bool.and_eq_true, decide_eq_true_eq] at h
  have most : c.toNat ≤ 0x39 := h.2
  unfold digitValue
  omega

theorem digit_digitValue {c : Char} (h : isDigit c = true) : digit (digitValue c) = c := by
  have small : digitValue c < 10 := digitValue_lt h
  simp only [isDigit, Bool.and_eq_true, decide_eq_true_eq] at h
  have least : 0x30 ≤ c.toNat := h.1
  have whole : 0x30 + digitValue c = c.toNat := by
    unfold digitValue
    omega
  rw [digit, if_pos small, whole, Char.ofNat_toNat]

theorem valueOf_join (front rest : List Char) :
    valueOf (front ++ rest) = valueOf front * 10 ^ rest.length + valueOf rest := by
  induction rest using List.reverseRecOn with
  | nil => simp [valueOf]
  | append_singleton rest c ih =>
    rw [← List.append_assoc, valueOf_append, ih, valueOf_append, List.length_append,
      List.length_singleton, pow_succ]
    ring

theorem valueOf_lt {digits : List Char} (h : ∀ c ∈ digits, isDigit c = true) :
    valueOf digits < 10 ^ digits.length := by
  induction digits using List.reverseRecOn with
  | nil => simp [valueOf]
  | append_singleton digits c ih =>
    have last : digitValue c < 10 := digitValue_lt (h c (by simp))
    have front : valueOf digits < 10 ^ digits.length :=
      ih fun d mem => h d (List.mem_append_left _ mem)
    rw [valueOf_append, List.length_append, List.length_singleton, pow_succ]
    omega

/-- No digit is a sign. -/
theorem dropPlus_of_digits {digits : List Char} (h : ∀ c ∈ digits, isDigit c = true) :
    dropPlus digits = digits := by
  unfold dropPlus
  split
  · have plus : isDigit '+' = true := h '+' List.mem_cons_self
    exact absurd plus (by decide)
  · rfl

/-- Digits are a number of 32 bits if their value is one. -/
theorem word32?_of_digits {digits : List Char} (nonempty : digits ≠ [])
    (h : ∀ c ∈ digits, isDigit c = true) :
    word32? digits =
      if valueOf digits < UInt32.size then some (UInt32.ofNat (valueOf digits)) else none := by
  have value : value? digits = some (valueOf digits) := by
    rw [value?, List.isEmpty_eq_false_iff.2 nonempty, List.all_eq_true.2 h]
    rfl
  rw [word32?, bounded?, dropPlus_of_digits h, value]
  dsimp only
  split <;> rfl

/-! ## Lengths -/

theorem length_decimal_pos (n : Nat) : 0 < (decimal n).length :=
  List.length_pos_iff.2 (decimal_ne_nil n)

theorem lt_pow_length (n : Nat) : n < 10 ^ (decimal n).length := by
  have small := valueOf_lt (isDigit_of_mem_decimal n)
  rwa [valueOf_decimal] at small

/-- No shorter row of digits has the same value. -/
theorem pow_le_of_lt_length {n k : Nat} (positive : 0 < k) (h : k < (decimal n).length) :
    10 ^ k ≤ n := by
  induction k generalizing n with
  | zero => omega
  | succ k ih =>
    have more : 10 ≤ n := by
      by_contra small
      rw [decimal_of_lt (by omega), List.length_singleton] at h
      omega
    rw [decimal_of_le more, List.length_append, List.length_singleton] at h
    have tenth : 10 ^ k ≤ n / 10 := by
      cases k with
      | zero =>
        rw [pow_zero]
        omega
      | succ k => exact ih (by omega) (by omega)
    rw [pow_succ]
    omega

/-! ## Forms in front of forms -/

/-- The form of a number, other than zero, in front of another form is the form of the
two run together. -/
theorem decimal_join {a : Nat} (positive : 0 < a) (b : Nat) :
    decimal (a * 10 ^ (decimal b).length + b) = decimal a ++ decimal b := by
  fun_induction decimal b with
  | case1 b small =>
    rw [List.length_singleton, pow_one, decimal_of_le (by omega)]
    congr 2
    · omega
    · congr 1
      omega
  | case2 b large ih =>
    rw [List.length_append, List.length_singleton]
    generalize (decimal (b / 10)).length = k at ih ⊢
    have tens : a * 10 ^ (k + 1) = 10 * (a * 10 ^ k) := by ring
    have front : (10 * (a * 10 ^ k) + b) / 10 = a * 10 ^ k + b / 10 := by omega
    have last : (10 * (a * 10 ^ k) + b) % 10 = b % 10 := by omega
    rw [tens, decimal_of_le (by omega), front, last, ih, List.append_assoc]

end EmbeddedPython.Numeral
