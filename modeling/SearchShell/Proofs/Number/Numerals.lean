import SearchShell.Json.Reader
import SearchShell.Proofs.Number.Nearest

/-!
# Written numbers are read back

An integer is its digits, and a double is digits around a point or before an exponent.  The reader
takes such a text apart where it was put together, as long as what follows goes on with none of
these, and the number that it finds is the one that was written.
-/

set_option autoImplicit false

namespace SearchShell

namespace JsonReader

/-! ## Runs of digits -/

def EndsDigits (rest : Text) : Prop := ∀ c ∈ rest.head?, c.isAsciiDigit = false

/-- A number ends here: what comes next is no digit, no point and no mark of an exponent. -/
structure EndsNumber (rest : Text) : Prop where
  digits : EndsDigits rest
  point : rest.head? ≠ some (CodePoint.ofChar '.')
  mark : ∀ c ∈ rest.head?, c.toAsciiLower ≠ CodePoint.ofChar 'e'

structure IsWhole (whole : Text) : Prop where
  digits : ∀ c ∈ whole, c.isAsciiDigit = true
  nonempty : whole ≠ []
  plain : whole.head? = some (CodePoint.ofChar '0') → whole = [CodePoint.ofChar '0']

theorem IsWhole.head? {whole : Text} (isWhole : IsWhole whole) (tail : Text) :
    ∃ c ∈ (whole ++ tail).head?, c.isAsciiDigit = true := by
  obtain ⟨c, more, rfl⟩ := List.exists_cons_of_ne_nil isWhole.nonempty
  exact ⟨c, rfl, isWhole.digits c List.mem_cons_self⟩

theorem takeWhile_digits {digits rest : Text} (all : ∀ c ∈ digits, c.isAsciiDigit = true)
    (ends : EndsDigits rest) : (digits ++ rest).takeWhile CodePoint.isAsciiDigit = digits := by
  rw [List.takeWhile_append_of_pos all]
  cases rest with
  | nil => simp
  | cons c rest => simp [ends c rfl]

theorem dropWhile_digits {digits rest : Text} (all : ∀ c ∈ digits, c.isAsciiDigit = true)
    (ends : EndsDigits rest) : (digits ++ rest).dropWhile CodePoint.isAsciiDigit = rest := by
  rw [List.dropWhile_append_of_pos all]
  cases rest with
  | nil => rfl
  | cons c rest => simp [ends c rfl]

theorem splitWhole_append {whole rest : Text} (isWhole : IsWhole whole) (ends : EndsDigits rest) :
    splitWhole (whole ++ rest) = (whole, rest) := by
  obtain ⟨c, more, rfl⟩ := List.exists_cons_of_ne_nil isWhole.nonempty
  by_cases zero : c = CodePoint.ofChar '0'
  · have lone := isWhole.plain (by rw [zero]; rfl)
    rw [lone]
    rfl
  · rw [List.cons_append, splitWhole, if_neg zero, ← List.cons_append,
      takeWhile_digits isWhole.digits ends, dropWhile_digits isWhole.digits ends]

theorem splitFraction?_point {fraction rest : Text}
    (digits : ∀ c ∈ fraction, c.isAsciiDigit = true) (nonempty : fraction ≠ [])
    (ends : EndsDigits rest) :
    splitFraction? (CodePoint.ofChar '.' :: (fraction ++ rest)) = some (fraction, rest) := by
  obtain ⟨c, more, rfl⟩ := List.exists_cons_of_ne_nil nonempty
  have digit : c.isAsciiDigit = true := digits c (by simp)
  have others : ∀ d ∈ more, d.isAsciiDigit = true := fun d member => digits d (by simp [member])
  simp [splitFraction?, digit, takeWhile_digits others ends, dropWhile_digits others ends]

theorem splitFraction?_none {rest : Text} (none : rest.head? ≠ some (CodePoint.ofChar '.')) :
    splitFraction? rest = .none := by
  match rest with
  | [] => rfl
  | [c] => rfl
  | point :: digit :: rest =>
      have other : point ≠ CodePoint.ofChar '.' := fun same => none (by rw [same]; rfl)
      simp [splitFraction?, other]

theorem splitExponent?_none {rest : Text}
    (none : ∀ c ∈ rest.head?, c.toAsciiLower ≠ CodePoint.ofChar 'e') :
    splitExponent? rest = .none := by
  match rest with
  | [] => rfl
  | c :: rest => simp [splitExponent?, none c rfl]

theorem splitExponent?_exponent (width : Nat) (e : Int) {rest : Text} (ends : EndsDigits rest) :
    splitExponent? (Text.exponent width e ++ rest) = some (e, rest) := by
  obtain ⟨run, isRun⟩ : ∃ run,
      run = Text.zeros (width - (Text.ofNat e.natAbs).length) ++ Text.ofNat e.natAbs := ⟨_, rfl⟩
  have digits : ∀ c ∈ run, c.isAsciiDigit = true := by
    intro c member
    rw [isRun] at member
    rcases List.mem_append.mp member with zero | digit
    · exact Text.isAsciiDigit_of_mem_zeros zero
    · exact Text.isAsciiDigit_of_mem_ofNat digit
  have value : run.asciiNumber = e.natAbs := by
    rw [isRun, Text.asciiNumber_append, Text.asciiNumber_zeros, Text.asciiNumber_ofNat]
    omega
  have nonempty : run.isEmpty = false := by
    rw [isRun, List.isEmpty_eq_false_iff]
    exact List.append_ne_nil_of_right_ne_nil _ (Text.ofNat_ne_nil _)
  have written : Text.exponent width e =
      CodePoint.ofChar 'e' :: CodePoint.ofChar (if e < 0 then '-' else '+') :: run := by
    rw [Text.exponent, List.append_assoc, ← isRun]
    split <;> rfl
  have isSplit : Text.splitSign (CodePoint.ofChar (if e < 0 then '-' else '+') :: (run ++ rest)) =
      (decide (e < 0), run ++ rest) := by
    split
    next negative => simp [Text.splitSign, negative]
    next positive => simp [Text.splitSign, positive]
  have isInt : signedInt (decide (e < 0)) e.natAbs = e := by
    unfold signedInt
    split
    next negative => have := of_decide_eq_true negative; omega
    next positive => have := of_decide_eq_false (Bool.eq_false_iff.mpr positive); omega
  have isMark : (CodePoint.ofChar 'e').toAsciiLower = CodePoint.ofChar 'e' := by decide
  rw [written, List.cons_append, List.cons_append, splitExponent?, if_pos isMark, isSplit]
  simp [takeWhile_digits digits ends, dropWhile_digits digits ends, nonempty, value, isInt]

/-! ## Numbers -/

/-- What stands after the digits before the point tells an integer from a double. -/
theorem readNumber_signed (negative : Bool) {whole tail : Text} (isWhole : IsWhole whole)
    (ends : EndsDigits tail) :
    readNumber (Text.signed negative (whole ++ tail)) =
      let fraction := splitFraction? tail
      let afterFraction := (fraction.map Prod.snd).getD tail
      let exponent := splitExponent? afterFraction
      let rest := (exponent.map Prod.snd).getD afterFraction
      if fraction.isNone && exponent.isNone then
        if whole.length > digitLimit then .error (.tooLong whole.length)
        else .ok (.integer (signedInt negative whole.asciiNumber), rest)
      else
        .ok (.float ((FloatLiteral.mk whole ((fraction.map Prod.fst).getD [])
          ((exponent.map Prod.fst).getD 0)).value negative), rest) := by
  obtain ⟨first, others, parts⟩ := List.exists_cons_of_ne_nil isWhole.nonempty
  have noSign : first ≠ CodePoint.ofChar '-' := by
    rintro rfl
    have digit := isWhole.digits (CodePoint.ofChar '-') (by simp [parts])
    cases digit
  have split := splitWhole_append isWhole ends
  have nonempty : whole.isEmpty = false := List.isEmpty_eq_false_iff.mpr isWhole.nonempty
  have unsigned : first :: (others ++ tail) = whole ++ tail := by rw [parts, List.cons_append]
  cases negative with
  | true =>
      simp only [Text.signed, if_true, readNumber, split, nonempty, Bool.false_eq_true, if_false]
      cases splitFraction? tail with
      | none =>
          simp only [Option.map_none, Option.getD_none]
          cases splitExponent? tail <;> rfl
      | some fraction =>
          simp only [Option.map_some, Option.getD_some]
          cases splitExponent? fraction.2 <;> rfl
  | false =>
      simp only [Text.signed, Bool.false_eq_true, if_false, ← unsigned, readNumber, if_neg noSign]
      simp only [unsigned, split, nonempty, Bool.false_eq_true, if_false]
      cases splitFraction? tail with
      | none =>
          simp only [Option.map_none, Option.getD_none]
          cases splitExponent? tail <;> rfl
      | some fraction =>
          simp only [Option.map_some, Option.getD_some]
          cases splitExponent? fraction.2 <;> rfl

theorem readNumber_integer (negative : Bool) {whole rest : Text} (isWhole : IsWhole whole)
    (short : whole.length ≤ digitLimit) (ends : EndsNumber rest) :
    readNumber (Text.signed negative (whole ++ rest)) =
      .ok (.integer (signedInt negative whole.asciiNumber), rest) := by
  rw [readNumber_signed negative isWhole ends.digits, splitFraction?_none ends.point]
  simp [splitExponent?_none ends.mark, Nat.not_lt.mpr short]

theorem readNumber_point (negative : Bool) {whole fraction rest : Text} (isWhole : IsWhole whole)
    (digits : ∀ c ∈ fraction, c.isAsciiDigit = true) (nonempty : fraction ≠ [])
    (ends : EndsNumber rest) :
    readNumber (Text.signed negative (whole ++ CodePoint.ofChar '.' :: (fraction ++ rest))) =
      .ok (.float ((FloatLiteral.mk whole fraction 0).value negative), rest) := by
  have stops : EndsDigits (CodePoint.ofChar '.' :: (fraction ++ rest)) := by
    intro c isHead
    cases isHead
    decide
  rw [readNumber_signed negative isWhole stops,
    splitFraction?_point digits nonempty ends.digits]
  simp [splitExponent?_none ends.mark]

/-- A number with an exponent may have a fraction or none. -/
theorem readNumber_exponent (negative : Bool) {whole fraction rest : Text} (width : Nat) (e : Int)
    (isWhole : IsWhole whole) (digits : ∀ c ∈ fraction, c.isAsciiDigit = true)
    (ends : EndsDigits rest) :
    readNumber (Text.signed negative (whole ++
        ((if fraction.isEmpty then [] else text "." ++ fraction) ++
          (Text.exponent width e ++ rest)))) =
      .ok (.float ((FloatLiteral.mk whole fraction e).value negative), rest) := by
  obtain ⟨after, written⟩ : ∃ after, Text.exponent width e ++ rest =
      CodePoint.ofChar 'e' :: after := by
    unfold Text.exponent
    split <;> exact ⟨_, rfl⟩
  have isExponent := splitExponent?_exponent width e ends
  rw [written] at isExponent ⊢
  have mark : EndsDigits (CodePoint.ofChar 'e' :: after) := by
    intro c isHead
    cases isHead
    decide
  by_cases none : fraction = []
  · have noPoint : (CodePoint.ofChar 'e' :: after).head? ≠ some (CodePoint.ofChar '.') := by
      simp
    rw [none, List.isEmpty_nil, if_pos rfl, List.nil_append,
      readNumber_signed negative isWhole mark, splitFraction?_none noPoint]
    simp [isExponent]
  · have point : EndsDigits
        (CodePoint.ofChar '.' :: (fraction ++ CodePoint.ofChar 'e' :: after)) := by
      intro c isHead
      cases isHead
      decide
    rw [if_neg (by simpa using none), List.append_assoc]
    change readNumber (Text.signed negative (whole ++
      CodePoint.ofChar '.' :: (fraction ++ CodePoint.ofChar 'e' :: after))) = _
    rw [readNumber_signed negative isWhole point, splitFraction?_point digits none mark]
    simp [isExponent]

/-! ## Integers -/

theorem isWhole_zero : IsWhole (text "0") where
  digits := by decide
  nonempty := by decide
  plain := fun _ => rfl

theorem isWhole_of_head {whole : Text} (digits : ∀ c ∈ whole, c.isAsciiDigit = true)
    (nonempty : whole ≠ []) (head : whole.head? ≠ some (CodePoint.ofChar '0')) :
    IsWhole whole where
  digits := digits
  nonempty := nonempty
  plain := fun zero => absurd zero head

theorem isWhole_ofNat (n : Nat) : IsWhole (Text.ofNat n) := by
  by_cases zero : n = 0
  · rw [zero]
    exact isWhole_zero
  · exact isWhole_of_head (fun _ member => Text.isAsciiDigit_of_mem_ofNat member)
      (Text.ofNat_ne_nil n) (Text.head?_ofNat_ne_zero zero)

theorem signed_append (negative : Bool) (front back : Text) :
    Text.signed negative front ++ back = Text.signed negative (front ++ back) := by
  cases negative <;> rfl

theorem ofInt_eq (n : Int) : Text.ofInt n = Text.signed (n < 0) (Text.ofNat n.natAbs) := by
  cases n with
  | ofNat m =>
      have positive : ¬Int.ofNat m < 0 := Int.not_lt.mpr (Int.natCast_nonneg m)
      rw [Text.ofInt, decide_eq_false positive]
      rfl
  | negSucc m =>
      have negative : Int.negSucc m < 0 := Int.negSucc_lt_zero m
      simp [Text.ofInt, Text.signed, negative]

def IsShort (n : Int) : Prop := n.natAbs < 10 ^ digitLimit

theorem readNumber_ofInt {n : Int} (short : IsShort n) {rest : Text} (ends : EndsNumber rest) :
    readNumber (Text.ofInt n ++ rest) = .ok (.integer n, rest) := by
  have fits : (Text.ofNat n.natAbs).length ≤ digitLimit :=
    (Text.length_ofNat_le_iff (by decide)).mpr short
  have isInt : signedInt (decide (n < 0)) n.natAbs = n := by
    unfold signedInt
    split
    next negative => have := of_decide_eq_true negative; omega
    next positive => have := of_decide_eq_false (Bool.eq_false_iff.mpr positive); omega
  rw [ofInt_eq, signed_append, readNumber_integer _ (isWhole_ofNat _) fits ends,
    Text.asciiNumber_ofNat, isInt]

/-! ## Doubles -/

/-- The digits before and after a point, together with an exponent, spell a decimal, perhaps with
more zeros. -/
structure Spells (n : Nat) (exponent : Int) (literal : FloatLiteral) : Prop where
  isWhole : IsWhole literal.whole
  digits : ∀ c ∈ literal.fraction, c.isAsciiDigit = true
  scale : ∃ zeros : Nat, (literal.whole ++ literal.fraction).asciiNumber = n * 10 ^ zeros ∧
    literal.exponent - literal.fraction.length = exponent - zeros

theorem value_of_spells {n : Nat} {exponent : Int} {literal : FloatLiteral}
    (spells : Spells n exponent literal) (negative : Bool) :
    literal.value negative = Binary64.ofDecimal negative n exponent := by
  obtain ⟨zeros, number, scale⟩ := spells.scale
  rw [FloatLiteral.value, number, scale, Binary64.ofDecimal_mul_pow]

/-- The point stands before the digits, with or without zeros between them. -/
theorem spells_below_one (n zeros : Nat) :
    Spells n (-(zeros : Int) - (Text.ofNat n).length)
      ⟨text "0", Text.zeros zeros ++ Text.ofNat n, 0⟩ where
  isWhole := isWhole_zero
  digits := by
    intro c member
    rcases List.mem_append.mp member with zero | digit
    · exact Text.isAsciiDigit_of_mem_zeros zero
    · exact Text.isAsciiDigit_of_mem_ofNat digit
  scale := by
    refine ⟨0, ?_, ?_⟩
    · have zero : (text "0").asciiNumber = 0 := by decide
      simp only [Text.asciiNumber_append, Text.asciiNumber_zeros, Text.asciiNumber_ofNat, zero]
      omega
    · simp only [List.length_append, Text.length_zeros]
      omega

/-- The point stands among the digits. -/
theorem spells_between {n before : Nat} (positive : n ≠ 0) (some : before ≠ 0)
    (within : before < (Text.ofNat n).length) :
    Spells n (before - (Text.ofNat n).length)
      ⟨(Text.ofNat n).take before, (Text.ofNat n).drop before, 0⟩ where
  isWhole := by
    refine isWhole_of_head
      (fun c member => Text.isAsciiDigit_of_mem_ofNat (List.mem_of_mem_take member)) ?_ ?_
    · simp [Text.ofNat_ne_nil, some]
    · rw [List.head?_take, if_neg some]
      exact Text.head?_ofNat_ne_zero positive
  digits := fun c member => Text.isAsciiDigit_of_mem_ofNat (List.mem_of_mem_drop member)
  scale := by
    refine ⟨0, ?_, ?_⟩
    · simp
    · simp only [List.length_drop]
      omega

/-- The point stands behind the digits, with or without zeros between them. -/
theorem spells_above {n zeros : Nat} (plain : n ≠ 0 ∨ zeros = 0) :
    Spells n zeros ⟨Text.ofNat n ++ Text.zeros zeros, Text.zeros 1, 0⟩ where
  isWhole := by
    by_cases positive : n = 0
    · have none := plain.resolve_left (not_not.mpr positive)
      rw [positive, none]
      exact isWhole_zero
    · rw [← Text.ofNat_mul_pow positive]
      exact isWhole_ofNat _
  digits := fun c member => Text.isAsciiDigit_of_mem_zeros member
  scale := by
    refine ⟨zeros + 1, ?_, ?_⟩
    · simp only [Text.asciiNumber_append, Text.asciiNumber_zeros, Text.asciiNumber_ofNat,
        Text.length_zeros, pow_succ]
      ring
    · simp only [Text.length_zeros]
      omega

/-- A positional text is digits on both sides of a point. -/
theorem exists_positional {n : Nat} {point : Int} (plain : n ≠ 0 ∨ point = 1) :
    ∃ whole fraction : Text, Text.positional (Text.ofNat n) point =
        whole ++ CodePoint.ofChar '.' :: fraction ∧ fraction ≠ [] ∧
      Spells n (point - (Text.ofNat n).length) ⟨whole, fraction, 0⟩ := by
  -- The point stands before the digits, right at their beginning, or behind some of them.
  match point with
  | .negSucc missing =>
      refine ⟨text "0", Text.zeros (missing + 1) ++ Text.ofNat n, ?_, ?_, ?_⟩
      · rw [Text.positional, List.append_assoc]
        rfl
      · exact List.append_ne_nil_of_right_ne_nil _ (Text.ofNat_ne_nil n)
      · exact spells_below_one n (missing + 1)
  | .ofNat 0 =>
      refine ⟨text "0", Text.zeros 0 ++ Text.ofNat n, rfl, ?_, ?_⟩
      · exact List.append_ne_nil_of_right_ne_nil _ (Text.ofNat_ne_nil n)
      · exact spells_below_one n 0
  | .ofNat (before + 1) =>
      rw [Int.ofNat_eq_natCast] at plain ⊢
      by_cases within : before + 1 < (Text.ofNat n).length
      · have positive : n ≠ 0 := by
          rintro rfl
          have : (Text.ofNat 0).length = 1 := rfl
          omega
        have some : (Text.ofNat n).drop (before + 1) ≠ [] := by
          simpa using within
        refine ⟨(Text.ofNat n).take (before + 1), (Text.ofNat n).drop (before + 1), ?_, some,
          spells_between positive (Nat.succ_ne_zero before) within⟩
        have noZeros : before + 1 - (Text.ofNat n).length = 0 := by omega
        simp [Text.positional, noZeros, Text.zeros, within, text]
      · have all := List.take_of_length_le (Nat.le_of_not_lt within)
        have none := List.drop_of_length_le (Nat.le_of_not_lt within)
        have isZeros : ((before + 1 : Nat) : Int) - (Text.ofNat n).length =
            (before + 1 - (Text.ofNat n).length : Nat) := by omega
        refine ⟨Text.ofNat n ++ Text.zeros (before + 1 - (Text.ofNat n).length), Text.zeros 1,
          ?_, by decide, ?_⟩
        · simp [Text.positional, all, none, text]
        · rw [isZeros]
          refine spells_above ?_
          rcases plain with positive | one
          · exact Or.inl positive
          · have : 0 < (Text.ofNat n).length := List.length_pos_of_ne_nil (Text.ofNat_ne_nil n)
            exact Or.inr (by omega)

/-- One digit stands before the point when there is an exponent. -/
theorem spells_exponent {n : Nat} (positive : n ≠ 0) (leading : Int) :
    Spells n (leading - (Text.ofNat n).length + 1)
      ⟨(Text.ofNat n).take 1, (Text.ofNat n).drop 1, leading⟩ where
  isWhole := by
    refine isWhole_of_head
      (fun c member => Text.isAsciiDigit_of_mem_ofNat (List.mem_of_mem_take member)) ?_ ?_
    · simp [Text.ofNat_ne_nil]
    · rw [List.head?_take, if_neg (by decide)]
      exact Text.head?_ofNat_ne_zero positive
  digits := fun c member => Text.isAsciiDigit_of_mem_ofNat (List.mem_of_mem_drop member)
  scale := by
    have : 0 < (Text.ofNat n).length := List.length_pos_of_ne_nil (Text.ofNat_ne_nil n)
    refine ⟨0, ?_, ?_⟩
    · rw [List.take_append_drop, Text.asciiNumber_ofNat, pow_zero, Nat.mul_one]
    · simp only [List.length_drop]
      omega

/-- A written decimal is digits on both sides of a point, or digits before an exponent. -/
theorem ofDecimal_cases {x : Decimal} (plain : x.significand ≠ 0 ∨ x.exponent = 0) :
    (∃ whole fraction : Text, Text.ofDecimal FloatStyle.json x =
        whole ++ CodePoint.ofChar '.' :: fraction ∧ fraction ≠ [] ∧
      Spells x.significand x.exponent ⟨whole, fraction, 0⟩) ∨
    ∃ (whole fraction : Text) (leading : Int), Text.ofDecimal FloatStyle.json x =
        whole ++ ((if fraction.isEmpty then [] else text "." ++ fraction) ++
          Text.exponent FloatStyle.json.exponentWidth leading) ∧
      Spells x.significand x.exponent ⟨whole, fraction, leading⟩ := by
  rw [Text.ofDecimal]
  simp only
  split
  next inRange =>
    have point : x.significand ≠ 0 ∨
        x.exponent + (Text.ofNat x.significand).length - 1 + 1 = 1 := by
      by_cases positive : x.significand = 0
      · have single : (Text.ofNat 0).length = 1 := rfl
        rw [positive, single, plain.resolve_left (not_not.mpr positive)]
        exact Or.inr rfl
      · exact Or.inl positive
    obtain ⟨whole, fraction, written, nonempty, spells⟩ := exists_positional point
    rw [show x.exponent + (Text.ofNat x.significand).length - 1 + 1 -
      (Text.ofNat x.significand).length = x.exponent by omega] at spells
    exact Or.inl ⟨whole, fraction, written, nonempty, spells⟩
  next outOfRange =>
    have positive : x.significand ≠ 0 := by
      intro zero
      apply outOfRange
      rw [zero, plain.resolve_left (not_not.mpr zero)]
      decide
    have spells := spells_exponent positive (x.exponent + (Text.ofNat x.significand).length - 1)
    rw [show x.exponent + (Text.ofNat x.significand).length - 1 -
      (Text.ofNat x.significand).length + 1 = x.exponent by omega] at spells
    rw [List.append_assoc]
    exact Or.inr ⟨_, _, _, rfl, spells⟩

/-- A written decimal begins with the digits before a point and is read back. -/
theorem exists_whole_ofDecimal {x : Decimal} (plain : x.significand ≠ 0 ∨ x.exponent = 0)
    {rest : Text} (ends : EndsNumber rest) :
    ∃ whole tail, Text.ofDecimal FloatStyle.json x ++ rest = whole ++ tail ∧ IsWhole whole ∧
      ∀ negative, readNumber (Text.signed negative (whole ++ tail)) =
        .ok (.float (x.toBinary64 negative), rest) := by
  have value {literal : FloatLiteral} (spells : Spells x.significand x.exponent literal)
      (negative : Bool) : literal.value negative = x.toBinary64 negative :=
    value_of_spells spells negative
  rcases ofDecimal_cases plain with ⟨whole, fraction, written, nonempty, spells⟩ |
    ⟨whole, fraction, leading, written, spells⟩
  · rw [written, List.append_assoc, List.cons_append]
    refine ⟨whole, _, rfl, spells.isWhole, ?_⟩
    intro negative
    rw [readNumber_point negative spells.isWhole spells.digits nonempty ends, value spells]
  · rw [written, List.append_assoc, List.append_assoc]
    refine ⟨whole, _, rfl, spells.isWhole, ?_⟩
    intro negative
    rw [readNumber_exponent negative _ _ spells.isWhole spells.digits ends.digits, value spells]

/-- The shortest decimal of a double other than zero has a digit other than zero. -/
theorem shortest_plain (rank : Fin finiteMagnitudes) :
    (Binary64.shortest rank).significand ≠ 0 ∨ (Binary64.shortest rank).exponent = 0 := by
  by_cases zero : rank.val = 0
  · rw [zero]
    exact Or.inr rfl
  · refine Or.inl fun none => zero ?_
    have reads := Binary64.shortest_reads_back false rank
    rw [Decimal.toBinary64, none] at reads
    have isZero := congrArg Binary64.isZero reads
    simpa [Binary64.ofDecimal, Binary64.ofRank, Binary64.isZero, finiteMagnitudes, runLength]
      using isZero

end JsonReader

end SearchShell
