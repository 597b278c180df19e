import Mathlib.Data.List.Induction
import Mathlib.Tactic.Ring
import SearchShell.Number.FloatText

/-!
# Decimal digits

The digits of a number read as the number.  Digits that follow others move them up by powers of
ten, so digits stand for a number below the power of ten that their count gives, and no number
below that power needs more.
-/

set_option autoImplicit false

namespace SearchShell

namespace Text

/-! ## Reading digits -/

theorem decimalValue_append (front back : List Nat) :
    decimalValue (front ++ back) = decimalValue front * 10 ^ back.length + decimalValue back := by
  induction back using List.reverseRecOn with
  | nil => simp [decimalValue]
  | append_singleton back d ih =>
      have last (digits : List Nat) :
          decimalValue (digits ++ [d]) = 10 * decimalValue digits + d := by
        simp [decimalValue]
      rw [← List.append_assoc, last, last, ih, List.length_append, List.length_singleton, pow_succ]
      ring

theorem decimalValue_lt {digits : List Nat} (each : ∀ d ∈ digits, d < 10) :
    decimalValue digits < 10 ^ digits.length := by
  induction digits using List.reverseRecOn with
  | nil => decide
  | append_singleton front d ih =>
      have small := ih fun e member => each e (by simp [member])
      have digit := each d (by simp)
      have last : decimalValue [d] = d := by simp [decimalValue]
      rw [decimalValue_append, last, List.length_append, pow_add, List.length_singleton, pow_one]
      omega

theorem asciiNumber_append (front back : Text) :
    asciiNumber (front ++ back) = asciiNumber front * 10 ^ back.length + asciiNumber back := by
  rw [asciiNumber, List.map_append, decimalValue_append, List.length_map]
  rfl

@[simp] theorem length_zeros (count : Nat) : (zeros count).length = count :=
  List.length_replicate

@[simp] theorem asciiNumber_zeros (count : Nat) : (zeros count).asciiNumber = 0 := by
  induction count with
  | zero => rfl
  | succ count ih =>
      rw [zeros, List.replicate_succ', asciiNumber_append, ← zeros, ih, Nat.zero_mul]
      rfl

theorem isAsciiDigit_of_mem_zeros {count : Nat} {c : CodePoint} (member : c ∈ zeros count) :
    c.isAsciiDigit = true := by
  rw [List.eq_of_mem_replicate member]
  decide

theorem asciiNumber_lt {s : Text} (digits : ∀ c ∈ s, c.isAsciiDigit = true) :
    s.asciiNumber < 10 ^ s.length := by
  have each : ∀ d ∈ s.map CodePoint.asciiDigitValue, d < 10 := by
    refine List.forall_mem_map.mpr fun c member => ?_
    have digit := digits c member
    simp only [CodePoint.isAsciiDigit, Bool.and_eq_true, decide_eq_true_eq] at digit
    rw [CodePoint.asciiDigitValue]
    omega
  rw [← List.length_map CodePoint.asciiDigitValue]
  exact decimalValue_lt each

/-! ## Written numbers -/

@[simp] theorem asciiNumber_ofNat (n : Nat) : (ofNat n).asciiNumber = n := by
  have values : ((Nat.toDigits 10 n).map CodePoint.ofChar).map CodePoint.asciiDigitValue =
      (Nat.toDigits 10 n).map fun c => c.toNat - '0'.toNat := by
    simp [CodePoint.asciiDigitValue, CodePoint.ofChar, Function.comp_def]
  rw [asciiNumber, ofNat, values, decimalValue, List.foldl_map, ← Nat.ofDigitChars_eq_foldl,
    Nat.ofDigitChars_ten_toDigits]

theorem isAsciiDigit_of_mem_ofNat {n : Nat} {c : CodePoint} (member : c ∈ ofNat n) :
    c.isAsciiDigit = true := by
  obtain ⟨digit, isDigit, rfl⟩ := List.mem_map.mp member
  have decimal := Nat.isDigit_of_mem_toDigits (by decide) (by decide) isDigit
  simp only [Char.isDigit, Bool.and_eq_true, decide_eq_true_eq, ge_iff_le, UInt32.le_iff_toNat_le]
    at decimal
  rw [CodePoint.isAsciiDigit, Bool.and_eq_true]
  exact ⟨decide_eq_true decimal.1, decide_eq_true decimal.2⟩

theorem ofNat_ne_nil (n : Nat) : ofNat n ≠ [] := by
  simp [ofNat]

theorem length_ofNat_le_iff {n k : Nat} (positive : 0 < k) :
    (ofNat n).length ≤ k ↔ n < 10 ^ k := by
  rw [ofNat, List.length_map, Nat.length_toDigits_le_iff (by decide) positive]

theorem ofNat_mul_ten {n : Nat} (positive : n ≠ 0) : ofNat (n * 10) = ofNat n ++ zeros 1 := by
  rw [ofNat, Nat.toDigits_of_base_le (by decide) (by omega), Nat.mul_div_cancel n (by decide),
    Nat.mul_mod_left, List.map_append]
  rfl

/-- Zeros follow the digits of a number that is multiplied by a power of ten. -/
theorem ofNat_mul_pow {n : Nat} (positive : n ≠ 0) (k : Nat) :
    ofNat (n * 10 ^ k) = ofNat n ++ zeros k := by
  induction k with
  | zero => simp [zeros]
  | succ k ih =>
      have nonzero : n * 10 ^ k ≠ 0 := Nat.mul_ne_zero positive (by simp)
      rw [pow_succ, ← Nat.mul_assoc, ofNat_mul_ten nonzero, ih, List.append_assoc, zeros, zeros,
        List.replicate_append_replicate]
      rfl

/-- No number but zero is written with a leading zero. -/
theorem head?_ofNat_ne_zero {n : Nat} (positive : n ≠ 0) :
    (ofNat n).head? ≠ some (CodePoint.ofChar '0') := by
  induction n using Nat.strongRecOn with
  | ind n ih =>
      rw [ofNat, Nat.toDigits_eq_if (by decide)]
      split
      next single => simpa using positive
      next more =>
        have front := ih (n / 10) (by omega) (by omega)
        obtain ⟨c, rest, digits⟩ := List.exists_cons_of_ne_nil (ofNat_ne_nil (n / 10))
        rw [digits] at front
        rw [List.map_append, ← ofNat, digits]
        exact front

end Text

end SearchShell
