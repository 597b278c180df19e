import Mathlib.Tactic.Positivity
import SearchShell.Proofs.Number.Digits

/-!
# Decimals that read back

Rounding depends on the ratio alone, so a decimal reads as the same double however many zeros
its digits end with.  The exact decimal of a double reads as the double, and so does the
shortest one.
-/

set_option autoImplicit false

namespace SearchShell

/-! ## Rounding a ratio -/

theorem divideHalfEven_mul_right (n d : Nat) {k : Nat} (positive : 0 < k) :
    divideHalfEven (n * k) (d * k) = divideHalfEven n d := by
  have below : 2 * (n % d * k) < d * k ↔ 2 * (n % d) < d := by
    rw [← Nat.mul_assoc]
    exact Nat.mul_lt_mul_right positive
  have above : d * k < 2 * (n % d * k) ↔ d < 2 * (n % d) := by
    rw [← Nat.mul_assoc]
    exact Nat.mul_lt_mul_right positive
  simp only [divideHalfEven, Nat.mul_div_mul_right n d positive, Nat.mul_mod_mul_right, below,
    above]

theorem divideHalfEven_mul_self (n : Nat) {d : Nat} (positive : 0 < d) :
    divideHalfEven (n * d) d = n := by
  simp [divideHalfEven, Nat.mul_div_cancel n positive, positive]

namespace Binary64

theorem nearestRank_mul_right (n d : Nat) {k : Nat} (positive : 0 < k) :
    nearestRank (n * k) (d * k) = nearestRank n d := by
  have units : n * k * unitsPerOne = n * unitsPerOne * k := Nat.mul_right_comm n k unitsPerOne
  simp only [nearestRank, units, Nat.mul_div_mul_right _ d positive, Nat.mul_right_comm d k,
    divideHalfEven_mul_right _ _ positive]

theorem ofRatio_mul_right (negative : Bool) (n d : Nat) {k : Nat} (positive : 0 < k) :
    ofRatio negative (n * k) (d * k) = ofRatio negative n d := by
  rw [ofRatio, nearestRank_mul_right n d positive, ofRatio]

/-! ## The magnitude of a rank -/

/-- A rank is the run of its magnitude and the place in the run.  The first run that is not made
of the smallest steps has number one. -/
theorem units_of_run {rank run place : Nat} (short : place < runLength)
    (split : rank = (run + 1) * runLength + place) :
    units rank = (runLength + place) * 2 ^ run := by
  have positive : 0 < runLength := by omega
  have isRun : rank / runLength = run + 1 := by
    rw [split, Nat.mul_comm, Nat.mul_add_div positive, Nat.div_eq_of_lt short, Nat.add_zero]
  have isPlace : rank % runLength = place := by
    rw [split, Nat.mul_comm, Nat.mul_add_mod, Nat.mod_eq_of_lt short]
  rw [units, isRun, isPlace, if_neg (Nat.succ_ne_zero run), Nat.add_sub_cancel]
  rfl

theorem units_of_lt {rank : Nat} (small : rank < runLength) : units rank = rank := by
  rw [units, Nat.div_eq_of_lt small, if_pos rfl]

theorem exists_run {rank : Nat} (large : runLength ≤ rank) :
    ∃ run place, place < runLength ∧ rank = (run + 1) * runLength + place := by
  have positive : 0 < runLength := by decide
  have atLeastOne : 0 < rank / runLength := Nat.div_pos large positive
  refine ⟨rank / runLength - 1, rank % runLength, Nat.mod_lt _ positive, ?_⟩
  rw [Nat.sub_add_cancel atLeastOne, Nat.mul_comm]
  exact (Nat.div_add_mod rank runLength).symm

theorem log2_mul_two_pow {m run : Nat} (atLeast : runLength ≤ m) (below : m < 2 * runLength) :
    (m * 2 ^ run).log2 = 52 + run := by
  have power : runLength = 2 ^ 52 := rfl
  rw [power] at atLeast below
  have positive : m * 2 ^ run ≠ 0 := by
    have : 0 < m := by omega
    positivity
  rw [Nat.log2_eq_iff positive]
  constructor
  · rw [pow_add]
    exact Nat.mul_le_mul_right _ atLeast
  · rw [show 52 + run + 1 = 53 + run by omega, pow_add]
    exact (Nat.mul_lt_mul_right (by positivity)).mpr (by omega)

/-- A ratio that is a magnitude of the format has the rank of the magnitude. -/
theorem nearestRank_of_units {n d rank : Nat} (positive : 0 < d)
    (exact : n * unitsPerOne = units rank * d) : nearestRank n d = rank := by
  unfold nearestRank
  rw [exact, Nat.mul_div_cancel _ positive]
  -- In the first run a rank is its own number of units; after it, the run gives the scale.
  by_cases small : rank < runLength
  · have shift : rank.log2 - 52 = 0 := by
      by_cases zero : rank = 0
      · simp [zero]
      · have bound : rank.log2 < 53 := (Nat.log2_lt zero).mpr (Nat.lt_of_lt_of_le small (by decide))
        omega
    rw [units_of_lt small, shift]
    simp [divideHalfEven_mul_self _ positive]
  · obtain ⟨run, place, short, split⟩ := exists_run (Nat.le_of_not_lt small)
    have shift : ((runLength + place) * 2 ^ run).log2 - 52 = run := by
      rw [log2_mul_two_pow (by omega) (by omega)]
      omega
    have quotient : divideHalfEven ((runLength + place) * 2 ^ run * d) (d * 2 ^ run) =
        runLength + place := by
      rw [Nat.mul_assoc, Nat.mul_comm (2 ^ run) d]
      exact divideHalfEven_mul_self _ (by positivity)
    rw [units_of_run short split, shift]
    simp only [Nat.pow_eq]
    rw [quotient, split]
    ring

/-! ## Reading a decimal -/

/-- A decimal reads as the double nearest to its ratio, unless its digits alone tell that it is
beyond all doubles. -/
theorem ofDecimal_eq (negative : Bool) (n : Nat) {exponent : Int} {up down : Nat}
    (split : exponent = up - down) :
    ofDecimal negative n exponent =
      if n = 0 ∨ (Text.ofNat n).length + exponent < -exponentBound then ofRank negative 0
      else if exponentBound < (Text.ofNat n).length + exponent then infinite negative
      else ofRatio negative (n * 10 ^ up) (10 ^ down) := by
  have digits : (Nat.toDigits 10 n).length = (Text.ofNat n).length := by
    rw [Text.ofNat, List.length_map]
  cases exponent with
  | ofNat e =>
      have isUp : up = e + down := by
        rw [Int.ofNat_eq_natCast] at split
        omega
      have ratio : ofRatio negative (n * Nat.pow 10 e) 1 =
          ofRatio negative (n * 10 ^ up) (10 ^ down) := by
        have scaled := ofRatio_mul_right negative (n * 10 ^ e) 1 (k := 10 ^ down) (by positivity)
        rw [isUp, pow_add, ← Nat.mul_assoc]
        simpa using scaled.symm
      simp only [ofDecimal, digits, Bool.or_eq_true, decide_eq_true_eq, gt_iff_lt, ratio]
  | negSucc e =>
      have isDown : down = e + 1 + up := by omega
      have ratio : ofRatio negative n (Nat.pow 10 (e + 1)) =
          ofRatio negative (n * 10 ^ up) (10 ^ down) := by
        have scaled := ofRatio_mul_right negative n (10 ^ (e + 1)) (k := 10 ^ up) (by positivity)
        rw [isDown, pow_add]
        exact scaled.symm
      simp only [ofDecimal, digits, Bool.or_eq_true, decide_eq_true_eq, gt_iff_lt, ratio]

/-- Zeros at the end of the digits make up for a smaller exponent. -/
theorem ofDecimal_mul_pow (negative : Bool) (n k : Nat) (exponent : Int) :
    ofDecimal negative (n * 10 ^ k) (exponent - k) = ofDecimal negative n exponent := by
  by_cases zero : n = 0
  · simp [zero, ofDecimal]
  obtain ⟨up, down, split⟩ : ∃ up down : Nat, exponent = up - down :=
    ⟨exponent.toNat, (-exponent).toNat, by omega⟩
  have shifted : exponent - k = up - (down + k : Nat) := by omega
  have length : ((Text.ofNat (n * 10 ^ k)).length : Int) + (exponent - k) =
      (Text.ofNat n).length + exponent := by
    rw [Text.ofNat_mul_pow zero, List.length_append, Text.length_zeros]
    omega
  have ratio : ofRatio negative (n * 10 ^ k * 10 ^ up) (10 ^ (down + k)) =
      ofRatio negative (n * 10 ^ up) (10 ^ down) := by
    rw [Nat.mul_right_comm, pow_add]
    exact ofRatio_mul_right negative _ _ (by positivity)
  rw [ofDecimal_eq negative _ shifted, ofDecimal_eq negative _ split, length, ratio]
  simp [zero]

/-- The sign of what a decimal reads as is that of the decimal. -/
theorem ofDecimal_negative {n : Nat} {exponent : Int} {rank : Fin finiteMagnitudes}
    (unsigned : ofDecimal false n exponent = finite false rank) (negative : Bool) :
    ofDecimal negative n exponent = finite negative rank := by
  have signed {r : Nat} (isRank : ofRank false r = finite false rank) :
      ofRank negative r = finite negative rank := by
    unfold ofRank at isRank ⊢
    split at isRank
    next inRange =>
      rw [dif_pos inRange]
      injection isRank with _ same
      rw [same]
    next => cases isRank
  obtain ⟨up, down, split⟩ : ∃ up down : Nat, exponent = up - down :=
    ⟨exponent.toNat, (-exponent).toNat, by omega⟩
  rw [ofDecimal_eq _ _ split] at unsigned ⊢
  split at unsigned
  next => rw [if_pos ‹_›, signed unsigned]
  next =>
    rw [if_neg ‹_›]
    split at unsigned
    next => cases unsigned
    next =>
      rw [if_neg ‹_›]
      exact signed unsigned

/-! ## The shortest decimal -/

theorem units_pos {rank : Nat} (positive : rank ≠ 0) : 0 < units rank := by
  by_cases small : rank < runLength
  · rw [units_of_lt small]
    omega
  · obtain ⟨run, place, short, split⟩ := exists_run (Nat.le_of_not_lt small)
    have : 0 < runLength + place := by omega
    rw [units_of_run short split]
    positivity

theorem units_lt {rank : Nat} (inRange : rank < finiteMagnitudes) : units rank < 2 ^ 2098 := by
  by_cases small : rank < runLength
  · rw [units_of_lt small]
    exact Nat.lt_of_lt_of_le small (by decide +kernel)
  · obtain ⟨run, place, short, split⟩ := exists_run (Nat.le_of_not_lt small)
    have run_le : run ≤ 2045 := by
      rw [finiteMagnitudes] at inRange
      have : (run + 1) * runLength < 2047 * runLength := by omega
      have := Nat.lt_of_mul_lt_mul_right this
      omega
    have power : 2 * runLength = 2 ^ 53 := by decide
    have inRun : (runLength + place) * 2 ^ run < 2 ^ (53 + run) := by
      rw [pow_add]
      exact (Nat.mul_lt_mul_right (by positivity)).mpr (by omega)
    rw [units_of_run short split]
    refine Nat.lt_of_lt_of_le inRun ?_
    gcongr
    · decide
    · omega

/-- A magnitude with all its digits reads back. -/
theorem exactDecimal_reads_back {rank : Nat} (positive : rank ≠ 0)
    (inRange : rank < finiteMagnitudes) :
    (exactDecimal rank).toBinary64 false = ofRank false rank := by
  have some := units_pos positive
  have few := units_lt inRange
  have atLeast : 10 ^ 750 ≤ Nat.pow 5 1074 := by decide +kernel
  have atMost : 2 ^ 2098 * Nat.pow 5 1074 < 10 ^ 1384 := by decide +kernel
  have tens : Nat.pow 5 1074 * unitsPerOne = 10 ^ 1074 := by decide +kernel
  rw [Decimal.toBinary64, exactDecimal]
  -- Of the power of five, only its size matters and that it completes a power of ten.
  generalize Nat.pow 5 1074 = fives at atLeast atMost tens ⊢
  have length_gt : 750 < (Text.ofNat (units rank * fives)).length := by
    rw [← Nat.not_le, Text.length_ofNat_le_iff (by decide), Nat.not_lt]
    exact Nat.le_trans atLeast (Nat.le_mul_of_pos_left fives some)
  have length_le : (Text.ofNat (units rank * fives)).length ≤ 1384 := by
    rw [Text.length_ofNat_le_iff (by decide)]
    exact Nat.lt_of_le_of_lt (Nat.mul_le_mul_right fives (Nat.le_of_lt few)) atMost
  have nonzero : units rank * fives ≠ 0 :=
    Nat.mul_ne_zero (Nat.ne_of_gt some)
      (Nat.ne_of_gt (Nat.lt_of_lt_of_le (Nat.pow_pos (by decide)) atLeast))
  have exact : units rank * fives * 10 ^ 0 * unitsPerOne = units rank * 10 ^ 1074 := by
    rw [pow_zero, Nat.mul_one, Nat.mul_assoc, tens]
  have split : (-1074 : Int) = (0 : Nat) - (1074 : Nat) := rfl
  have notSmall : ¬(units rank * fives = 0 ∨
      ((Text.ofNat (units rank * fives)).length : Int) + -1074 < -exponentBound) := by
    rw [exponentBound]
    omega
  have notLarge :
      ¬exponentBound < ((Text.ofNat (units rank * fives)).length : Int) + -1074 := by
    rw [exponentBound]
    omega
  rw [ofDecimal_eq false _ split, if_neg notSmall, if_neg notLarge, ofRatio,
    nearestRank_of_units (by positivity) exact]

theorem neighbourOnGrid?_reads_back {rank n d digits : Nat} {exponent : Int} {x : Decimal}
    (found : neighbourOnGrid? rank n d digits exponent = some x) :
    x.toBinary64 false = ofRank false rank := by
  have accepted {y : Decimal}
      (isSome : (if y.toBinary64 false = ofRank false rank then some y else none) = some x) :
      x.toBinary64 false = ofRank false rank := by
    split at isSome
    next reads =>
      cases isSome
      exact reads
    next => cases isSome
  unfold neighbourOnGrid? at found
  split at found
  simp only at found
  split at found
  next first second =>
    split at found
    next => exact accepted (first.trans found)
    next => exact accepted (second.trans found)
  next first _ => exact accepted (first.trans found)
  next => exact accepted found

/-- The shortest decimal of a double reads as the double. -/
theorem shortest_reads_back (negative : Bool) (rank : Fin finiteMagnitudes) :
    (shortest rank).toBinary64 negative = finite negative rank := by
  have inRange : ofRank false rank = finite false rank := by
    rw [ofRank, dif_pos rank.isLt]
  apply ofDecimal_negative
  rw [← inRange]
  by_cases zero : rank.val = 0
  · rw [shortest, if_pos zero, zero]
    rfl
  · rw [shortest, if_neg zero]
    cases found : (List.range 17).findSome? fun k =>
        neighbour? rank (units rank) unitsPerOne (k + 1) with
    | none => exact exactDecimal_reads_back zero rank.isLt
    | some x =>
        obtain ⟨k, -, neighbour⟩ := List.exists_of_findSome?_eq_some found
        exact neighbourOnGrid?_reads_back neighbour

end Binary64

end SearchShell
