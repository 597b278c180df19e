import SearchShell.Number.FloatText
import SearchShell.Proofs.Text.Pieces
import SearchShell.Proofs.Text.Spelling

/-!
# Texts without surrogates

A text can be spelled in octets exactly when no surrogate is in it.  No number has one in its text.
-/

set_option autoImplicit false

namespace SearchShell

namespace Text

def IsProper (s : Text) : Prop := ∀ c ∈ s, c.isSurrogate = false

theorem isProper_iff_encode (s : Text) : IsProper s ↔ ∃ octets, Utf8.encode s = .ok octets := by
  simp [Utf8.encode_eq_ok_iff, IsProper]

theorem isProper_nil : IsProper [] := by simp [IsProper]

@[simp] theorem isProper_cons_iff (c : CodePoint) (s : Text) :
    IsProper (c :: s) ↔ c.isSurrogate = false ∧ IsProper s :=
  List.forall_mem_cons

@[simp] theorem isProper_append_iff (s t : Text) : IsProper (s ++ t) ↔ IsProper s ∧ IsProper t :=
  List.forall_mem_append

theorem IsProper.mono {s t : Text} (proper : IsProper t) (inside : s ⊆ t) : IsProper s :=
  fun c member => proper c (inside member)

theorem isProper_flatMap {α : Type} {items : List α} {write : α → Text}
    (each : ∀ item ∈ items, IsProper (write item)) : IsProper (items.flatMap write) := by
  intro c member
  obtain ⟨item, isItem, inItem⟩ := List.mem_flatMap.mp member
  exact each item isItem c inItem

theorem isProper_joined_iff {separator : Text} (proper : IsProper separator) (parts : List Text) :
    IsProper (joined separator parts) ↔ ∀ part ∈ parts, IsProper part := by
  induction parts with
  | nil => simp [joined, isProper_nil]
  | cons part rest ih =>
      rw [List.forall_mem_cons]
      by_cases alone : rest = []
      · simp [alone, joined]
      · rw [← ih, joined, List.intercalate_cons_of_ne_nil alone]
        simp only [isProper_append_iff, proper, and_true]
        rfl

/-! ## Characters -/

@[simp] theorem isSurrogate_ofChar (c : Char) : (CodePoint.ofChar c).isSurrogate = false := by
  have valid : c.toNat < 0xD800 ∨ 0xDFFF < c.toNat ∧ c.toNat < 0x110000 := c.valid
  have val : (CodePoint.ofChar c).val = c.toNat := rfl
  simp only [CodePoint.isSurrogate, val, Bool.and_eq_false_iff, decide_eq_false_iff_not]
  omega

theorem isProper_map_ofChar (cs : List Char) : IsProper (cs.map CodePoint.ofChar) := by
  intro c member
  obtain ⟨char, -, rfl⟩ := List.mem_map.mp member
  exact isSurrogate_ofChar char

@[simp] theorem isProper_text (s : String) : IsProper (text s) := isProper_map_ofChar s.toList

/-! ## Numbers -/

@[simp] theorem isProper_ofNat (n : Nat) : IsProper (ofNat n) := isProper_map_ofChar _

theorem isProper_ofInt (n : Int) : IsProper (ofInt n) := by
  cases n with
  | ofNat n => exact isProper_ofNat n
  | negSucc n => simp [ofInt]

@[simp] theorem isProper_zeros (count : Nat) : IsProper (zeros count) := by
  intro c member
  rw [(List.mem_replicate.mp member).2]
  exact isSurrogate_ofChar _

theorem isProper_positional {digits : Text} (proper : IsProper digits) (point : Int) :
    IsProper (positional digits point) := by
  unfold positional
  split
  next before =>
    split
    · simp [proper]
    · have whole : IsProper (digits.take before) := proper.mono (List.take_subset _ _)
      have fraction : IsProper (digits.drop before) := proper.mono (List.drop_subset _ _)
      simp only [isProper_append_iff, isProper_text, isProper_zeros, and_true]
      refine ⟨whole, ?_⟩
      split
      · exact isProper_zeros 1
      · exact fraction
  next missing => simp [proper]

theorem isProper_exponent (width : Nat) (e : Int) : IsProper (exponent width e) := by
  unfold exponent
  split
  · simp
  · simp

theorem isProper_ofDecimal (style : FloatStyle) (x : Decimal) : IsProper (ofDecimal style x) := by
  have digits := isProper_ofNat x.significand
  unfold ofDecimal
  simp only
  split
  · exact isProper_positional digits _
  · have first : IsProper ((ofNat x.significand).take 1) := digits.mono (List.take_subset _ _)
    have fraction : IsProper ((ofNat x.significand).drop 1) := digits.mono (List.drop_subset _ _)
    have power := isProper_exponent style.exponentWidth
      (x.exponent + (ofNat x.significand).length - 1)
    simp only [isProper_append_iff]
    refine ⟨⟨first, ?_⟩, power⟩
    split
    · exact isProper_nil
    · exact (isProper_append_iff _ _).mpr ⟨isProper_text ".", fraction⟩

theorem isProper_ofBinary64 {style : FloatStyle} (nan : IsProper style.nan)
    (infinity : IsProper style.infinity) (x : Binary64) : IsProper (ofBinary64 style x) := by
  have signedProper {s : Text} (proper : IsProper s) (negative : Bool) :
      IsProper (signed negative s) := by
    cases negative with
    | false => exact proper
    | true => simp [signed, proper]
  cases x with
  | nan => exact nan
  | infinite negative => exact signedProper infinity negative
  | finite negative rank => exact signedProper (isProper_ofDecimal style _) negative

end Text

end SearchShell
