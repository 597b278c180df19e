import SearchShell.Json.Printer
import SearchShell.Proofs.Number.Numerals
import SearchShell.Proofs.Text.Pieces

/-!
# Written scalars are read back

Words, numbers and strings.  What comes after a value in a collection, a blank, a comma or a
closing bracket, is no part of it.
-/

set_option autoImplicit false

namespace SearchShell

namespace JsonReader

theorem eq_of_isSpace {c : CodePoint} (blank : isSpace c = true) :
    c = CodePoint.ofChar ' ' ∨ c = CodePoint.ofChar '\t' ∨ c = CodePoint.ofChar '\n' ∨
      c = CodePoint.ofChar '\r' := by
  simp only [isSpace, Bool.or_eq_true, decide_eq_true_eq] at blank
  rcases blank with ((space | tab) | newline) | carriageReturn
  · exact Or.inl (CodePoint.ext space)
  · exact Or.inr (Or.inl (CodePoint.ext tab))
  · exact Or.inr (Or.inr (Or.inl (CodePoint.ext newline)))
  · exact Or.inr (Or.inr (Or.inr (CodePoint.ext carriageReturn)))

def EndsValue (rest : Text) : Prop :=
  ∀ c ∈ rest.head?, isSpace c = true ∨ c = CodePoint.ofChar ',' ∨ c = CodePoint.ofChar ']' ∨
    c = CodePoint.ofChar '}'

theorem EndsValue.endsNumber {rest : Text} (ends : EndsValue rest) : EndsNumber rest := by
  have each : ∀ c ∈ rest.head?, c.isAsciiDigit = false ∧ c ≠ CodePoint.ofChar '.' ∧
      c.toAsciiLower ≠ CodePoint.ofChar 'e' := by
    intro c isHead
    rcases ends c isHead with blank | rfl | rfl | rfl
    · rcases eq_of_isSpace blank with rfl | rfl | rfl | rfl
      all_goals decide
    all_goals decide
  exact ⟨fun c isHead => (each c isHead).1, fun isPoint => (each _ isPoint).2.1 rfl,
    fun c isHead => (each c isHead).2.2⟩

/-! ## Words and numbers -/

theorem readScalar_word {word : Text} {value : Json} (member : (word, value) ∈ words)
    (rest : Text) : readScalar (word ++ rest) = .ok (value, rest) := by
  simp only [words, List.mem_cons, Prod.mk.injEq, List.not_mem_nil, or_false] at member
  rcases member with ⟨rfl, rfl⟩ | ⟨rfl, rfl⟩ | ⟨rfl, rfl⟩ | ⟨rfl, rfl⟩ | ⟨rfl, rfl⟩ | ⟨rfl, rfl⟩
  all_goals rfl

/-- No word has a digit at its beginning, nor behind a sign there. -/
theorem readScalar_digit (negative : Bool) {s : Text}
    (digit : ∃ c ∈ s.head?, c.isAsciiDigit = true) :
    readScalar (Text.signed negative s) = readNumber (Text.signed negative s) := by
  have letters : ∀ word ∈ words, 2 ≤ word.1.length ∧
      ∀ c ∈ word.1.take 2, c.isAsciiDigit = false := by
    intro word member
    simp only [words, List.mem_cons, List.not_mem_nil, or_false] at member
    rcases member with rfl | rfl | rfl | rfl | rfl | rfl
    all_goals decide
  obtain ⟨c, isHead, isDigit⟩ := digit
  have early : c ∈ (Text.signed negative s).take 2 := by
    cases s with
    | nil => cases isHead
    | cons first others =>
        cases isHead
        cases negative with
        | true => simp [Text.signed]
        | false => simp [Text.signed]
  have noWord : words.find? (fun word => word.1.isPrefixOf (Text.signed negative s)) = none := by
    rw [List.find?_eq_none]
    intro word member isPrefix
    obtain ⟨long, noDigit⟩ := letters word member
    obtain ⟨tail, whole⟩ := List.isPrefixOf_iff_prefix.mp isPrefix
    rw [← whole, List.take_append_of_le_length long] at early
    rw [noDigit c early] at isDigit
    cases isDigit
  rw [readScalar, noWord]

theorem readScalar_ofInt {n : Int} (short : IsShort n) {rest : Text} (ends : EndsValue rest) :
    readScalar (Text.ofInt n ++ rest) = .ok (.integer n, rest) := by
  rw [← readNumber_ofInt short ends.endsNumber, ofInt_eq, signed_append]
  exact readScalar_digit _ ((isWhole_ofNat _).head? rest)

theorem readScalar_ofBinary64 (x : Binary64) {rest : Text} (ends : EndsValue rest) :
    readScalar (Text.ofBinary64 FloatStyle.json x ++ rest) = .ok (.float x, rest) := by
  cases x with
  | nan => exact readScalar_word (by simp [words, Text.ofBinary64, FloatStyle.json]) rest
  | infinite negative =>
      cases negative with
      | true => exact readScalar_word (by simp [words, Text.ofBinary64, FloatStyle.json]; rfl) rest
      | false => exact readScalar_word (by simp [words, Text.ofBinary64, FloatStyle.json]; rfl) rest
  | finite negative rank =>
      obtain ⟨whole, tail, written, isWhole, reads⟩ :=
        exists_whole_ofDecimal (shortest_plain rank) ends.endsNumber
      rw [Text.ofBinary64, signed_append, written, readScalar_digit _ (isWhole.head? tail), reads,
        Binary64.shortest_reads_back]

/-! ## Strings -/

theorem hexNumber?_hexDigits : ∀ n : Fin 0x20,
    Text.hexNumber? (Text.hexDigits 4 n) = some n.val := by
  decide

/-- Escapes by number are for control characters only. -/
theorem readUnit_numberEscape (opening : Nat) {c : CodePoint} (control : c.val < 0x20) {rest : Text}
    (more : rest ≠ []) :
    readUnit opening (CodePoint.ofChar '\\')
        (CodePoint.ofChar 'u' :: (Text.hexDigits 4 c.val ++ rest)) =
      .ok (⟨c, true⟩, rest) := by
  obtain ⟨next, others, rfl⟩ := List.exists_cons_of_ne_nil more
  have isPoint : (Text.hexNumber? (Text.hexDigits 4 c.val)).bind CodePoint.ofNat? = some c := by
    rw [hexNumber?_hexDigits ⟨c.val, control⟩, Option.bind_some, CodePoint.ofNat?, dif_pos c.val_lt]
  obtain ⟨w, x, y, z, four⟩ : ∃ w x y z, Text.hexDigits 4 c.val = [w, x, y, z] :=
    ⟨_, _, _, _, rfl⟩
  rw [four] at isPoint ⊢
  have isEscape : readNumberEscape ([w, x, y, z] ++ next :: others) =
      .ok (⟨c, true⟩, next :: others) := by
    simp only [List.cons_append, List.nil_append, readNumberEscape, isPoint]
  rw [← isEscape]
  rfl

/-- What a code point is written as is read as one unit, and not by number when it is half of a
pair. -/
theorem exists_readUnit (opening : Nat) (c : CodePoint) {rest : Text} (more : rest ≠ []) :
    ∃ first tail byNumber, Json.stringPoint false c = first :: tail ∧
      first ≠ CodePoint.ofChar '"' ∧ (byNumber = true → c.isHighSurrogate = false) ∧
      readUnit opening first (tail ++ rest) = .ok (⟨c, byNumber⟩, rest) := by
  have letter {second : CodePoint}
      (written : Json.stringPoint false c = [CodePoint.ofChar '\\', second])
      (reads : readEscape opening (second :: rest) = .ok (⟨c, false⟩, rest)) :
      ∃ first tail byNumber, Json.stringPoint false c = first :: tail ∧
        first ≠ CodePoint.ofChar '"' ∧ (byNumber = true → c.isHighSurrogate = false) ∧
        readUnit opening first (tail ++ rest) = .ok (⟨c, byNumber⟩, rest) :=
    ⟨_, _, false, written, by decide, nofun, reads⟩
  by_cases quote : c = CodePoint.ofChar '"'
  · subst quote
    exact letter rfl rfl
  by_cases backslash : c = CodePoint.ofChar '\\'
  · subst backslash
    exact letter rfl rfl
  -- Five control characters are escaped by a letter, the others by their number.
  by_cases control : c.val < 0x20
  · by_cases short : c.val = 0x0A ∨ c.val = 0x0D ∨ c.val = 0x09 ∨ c.val = 0x08 ∨ c.val = 0x0C
    · rcases short with newline | carriageReturn | tab | backspace | formFeed
      · obtain rfl : c = CodePoint.ofChar '\n' := CodePoint.ext newline
        exact letter rfl rfl
      · obtain rfl : c = CodePoint.ofChar '\r' := CodePoint.ext carriageReturn
        exact letter rfl rfl
      · obtain rfl : c = CodePoint.ofChar '\t' := CodePoint.ext tab
        exact letter rfl rfl
      · obtain rfl : c = CodePoint.ofChar (Char.ofNat 0x08) := CodePoint.ext backspace
        exact letter rfl rfl
      · obtain rfl : c = CodePoint.ofChar (Char.ofNat 0x0C) := CodePoint.ext formFeed
        exact letter rfl rfl
    · have written : Json.stringPoint false c = CodePoint.ofChar '\\' :: CodePoint.ofChar 'u' ::
          Text.hexDigits 4 c.val := by
        have small : c.val < 0x10000 := Nat.lt_trans control (by decide)
        simp only [not_or] at short
        simp [Json.stringPoint, quote, backslash, short, control, Json.numberEscape, small,
          Json.unitEscape, text]
      have noPair : c.isHighSurrogate = false := by
        simp only [CodePoint.isHighSurrogate, Bool.and_eq_false_iff, decide_eq_false_iff_not]
        omega
      exact ⟨_, _, true, written, by decide, fun _ => noPair,
        readUnit_numberEscape opening control more⟩
  · have written : Json.stringPoint false c = [c] := by
      have none : ∀ n < 0x20, c.val ≠ n := fun n small same => control (same ▸ small)
      simp [Json.stringPoint, quote, backslash, control, none]
    exact ⟨c, [], false, written, quote, nofun, by simp [readUnit, control, backslash]⟩

theorem joinPairs_eq {units : List StringUnit}
    (plain : ∀ unit ∈ units, unit.byNumber = true → unit.point.isHighSurrogate = false) :
    joinPairs units = units.map StringUnit.point := by
  induction units with
  | nil => rfl
  | cons first others ih =>
      have joined := ih fun unit member => plain unit (List.mem_cons_of_mem _ member)
      cases others with
      | nil => rfl
      | cons second others =>
          have single : (first.byNumber && second.byNumber && first.point.isHighSurrogate &&
              second.point.isLowSurrogate) = false := by
            cases byNumber : first.byNumber with
            | false => rfl
            | true => simp [plain first List.mem_cons_self byNumber]
          rw [joinPairs, single, if_neg Bool.false_ne_true, joined]
          rfl

/-- Every code point of a written string is one unit before its closing quote. -/
theorem exists_readUnits (opening : Nat) (rest : Text) : ∀ (s : Text) (fuel : Nat),
    s.length < fuel → ∃ units, readUnits opening fuel
        (s.flatMap (Json.stringPoint false) ++ CodePoint.ofChar '"' :: rest) = .ok (units, rest) ∧
      units.map StringUnit.point = s ∧
      ∀ unit ∈ units, unit.byNumber = true → unit.point.isHighSurrogate = false := by
  intro s
  induction s with
  | nil =>
      intro fuel enough
      obtain ⟨fuel, rfl⟩ := Nat.exists_eq_succ_of_ne_zero (Nat.ne_of_gt enough)
      exact ⟨[], rfl, rfl, nofun⟩
  | cons c s ih =>
      intro fuel enough
      obtain ⟨fuel, rfl⟩ := Nat.exists_eq_succ_of_ne_zero (Nat.ne_zero_of_lt enough)
      obtain ⟨units, others, points, plain⟩ := ih fuel (Nat.lt_of_succ_lt_succ enough)
      have more : s.flatMap (Json.stringPoint false) ++ CodePoint.ofChar '"' :: rest ≠ [] :=
        List.append_ne_nil_of_right_ne_nil _ (List.cons_ne_nil _ _)
      obtain ⟨first, tail, byNumber, written, noQuote, noPair, reads⟩ :=
        exists_readUnit opening c more
      refine ⟨⟨c, byNumber⟩ :: units, ?_, ?_, ?_⟩
      · rw [List.flatMap_cons, written, List.append_assoc, List.cons_append, readUnits,
          if_neg noQuote, reads]
        simp only [bind, Except.bind, others]
      · rw [List.map_cons, points]
      · intro unit member
        rcases List.mem_cons.mp member with rfl | later
        · exact noPair
        · exact plain unit later

theorem stringPoint_ne_nil (c : CodePoint) : Json.stringPoint false c ≠ [] := by
  obtain ⟨first, tail, _, written, -⟩ :=
    exists_readUnit 0 c (List.cons_ne_nil (CodePoint.ofChar '"') [])
  rw [written]
  exact List.cons_ne_nil _ _

theorem readString_written (s rest : Text) :
    readString (s.flatMap (Json.stringPoint false) ++ CodePoint.ofChar '"' :: rest) =
      .ok (s, rest) := by
  have enough : s.length <
      (s.flatMap (Json.stringPoint false) ++ CodePoint.ofChar '"' :: rest).length := by
    have := Text.length_le_flatMap stringPoint_ne_nil s
    rw [List.length_append, List.length_cons]
    omega
  obtain ⟨units, reads, points, plain⟩ := exists_readUnits _ rest s _ enough
  rw [readString, reads]
  simp only [bind, Except.bind, joinPairs_eq plain, points]

end JsonReader

end SearchShell
