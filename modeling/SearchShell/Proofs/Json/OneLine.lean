import SearchShell.Proofs.Json.Strict

/-!
# Values on one line

A value that is written without lines of its own holds no control character, whatever its strings
hold.  The same is true of every number.
-/

set_option autoImplicit false

namespace SearchShell

/-! ## Visible texts -/

namespace Text

def IsVisible (s : Text) : Prop := ∀ c ∈ s, 0x20 ≤ c.val

instance (s : Text) : Decidable s.IsVisible := inferInstanceAs (Decidable (∀ c ∈ s, 0x20 ≤ c.val))

theorem isVisible_nil : IsVisible [] := List.forall_mem_nil _

@[simp] theorem isVisible_cons_iff (c : CodePoint) (s : Text) :
    IsVisible (c :: s) ↔ 0x20 ≤ c.val ∧ IsVisible s :=
  List.forall_mem_cons

@[simp] theorem isVisible_append_iff (s t : Text) :
    IsVisible (s ++ t) ↔ IsVisible s ∧ IsVisible t :=
  List.forall_mem_append

theorem isVisible_digits {s : Text} (digits : ∀ c ∈ s, c.isAsciiDigit = true) : s.IsVisible := by
  intro c member
  have isDigit := digits c member
  simp only [CodePoint.isAsciiDigit, Bool.and_eq_true, decide_eq_true_eq] at isDigit
  omega

end Text

/-! ## Numbers and strings -/

namespace JsonGrammar

theorem IsFraction.isVisible {s : Text} (isFraction : IsFraction s) : s.IsVisible := by
  cases isFraction with
  | none => exact Text.isVisible_nil
  | digits nonempty each =>
      rw [Text.isVisible_cons_iff]
      exact ⟨by decide, Text.isVisible_digits each⟩

theorem IsExponent.isVisible {s : Text} (isExponent : IsExponent s) : s.IsVisible := by
  have marks : ∀ mark ∈ exponentMarks, 0x20 ≤ mark.val := by decide
  have signs : ∀ sign ∈ exponentSigns, sign.IsVisible := by decide
  cases isExponent with
  | none => exact Text.isVisible_nil
  | digits isMark isSign nonempty each =>
      rw [Text.isVisible_cons_iff, Text.isVisible_append_iff]
      exact ⟨marks _ isMark, signs _ isSign, Text.isVisible_digits each⟩

theorem IsNumber.isVisible {s : Text} (isNumber : IsNumber s) : s.IsVisible := by
  cases isNumber with
  | intro negative isWhole isFraction isExponent =>
      have whole := Text.isVisible_digits isWhole.digits
      cases negative with
      | false => simp [Text.signed, whole, isFraction.isVisible, isExponent.isVisible]
      | true =>
          simp only [Text.signed, if_true, Text.isVisible_cons_iff, Text.isVisible_append_iff]
          exact ⟨by decide, whole, isFraction.isVisible, isExponent.isVisible⟩

theorem IsCharacter.isVisible {s : Text} (isCharacter : IsCharacter s) : s.IsVisible := by
  have letters : ∀ letter ∈ escapeLetters, 0x20 ≤ letter.val := by decide
  cases isCharacter with
  | plain visible noQuote noBackslash => simpa [Text.isVisible_nil] using visible
  | escape isLetter =>
      simp only [Text.isVisible_cons_iff]
      exact ⟨by decide, letters _ isLetter, Text.isVisible_nil⟩
  | byNumber four each =>
      simp only [Text.isVisible_cons_iff]
      refine ⟨by decide, by decide, ?_⟩
      intro c member
      have isDigit := each c member
      -- Every hexadecimal digit stands behind the space.
      by_contra control
      simp only [CodePoint.hexValue?, Bool.and_eq_true, decide_eq_true_eq] at isDigit
      rw [if_neg (by omega), if_neg (by omega), if_neg (by omega)] at isDigit
      cases isDigit

theorem IsString.isVisible {s : Text} (isString : IsString s) : s.IsVisible := by
  cases isString with
  | intro each =>
      rw [Text.isVisible_cons_iff, Text.isVisible_append_iff]
      refine ⟨by decide, ?_, by decide⟩
      intro c member
      obtain ⟨character, isPart, inside⟩ := List.mem_flatten.mp member
      exact (each character isPart).isVisible c inside

end JsonGrammar

theorem Text.isVisible_ofInt (n : Int) : (ofInt n).IsVisible :=
  (JsonGrammar.isNumber_ofInt n).isVisible

theorem Text.isVisible_json (x : Binary64) : (ofBinary64 FloatStyle.json x).IsVisible := by
  by_cases finite : x.isFinite = true
  · exact (JsonGrammar.isNumber_ofBinary64 finite).isVisible
  · cases x with
    | nan => decide
    | infinite negative => cases negative <;> decide
    | finite negative rank => exact absurd rfl finite

/-- Both styles differ only in the words for numbers that are not finite. -/
theorem Text.isVisible_plain (x : Binary64) : (ofBinary64 FloatStyle.plain x).IsVisible := by
  cases x with
  | nan => decide
  | infinite negative => cases negative <;> decide
  | finite negative rank => exact isVisible_json (.finite negative rank)

/-! ## Values -/

namespace Json

theorem isVisible_enclosed (level : Nat) {opening closing : CodePoint} (opens : 0x20 ≤ opening.val)
    (closes : 0x20 ≤ closing.val) {parts : List Text} (each : ∀ part ∈ parts, part.IsVisible) :
    (Style.compact.enclosed level opening closing parts).IsVisible := by
  have comma : Text.IsVisible (text ",") := by decide
  have joined : (Text.joined (text ",") parts).IsVisible :=
    JsonGrammar.holds_joined Text.isVisible_nil
      (fun front back => (Text.isVisible_append_iff _ _).mpr ⟨front, back⟩) comma each
  have noLines (level : Nat) : Style.compact.lineStart level = [] := rfl
  have mark : Style.compact.itemMark = text "," := rfl
  unfold Style.enclosed
  split
  · simp [opens, closes, Text.isVisible_nil]
  · simp [noLines, mark, opens, closes, joined, Text.isVisible_nil]

theorem isVisible_write (v : Json) : ∀ level : Nat, (write .compact level v).IsVisible := by
  have null : (text "null").IsVisible := by decide
  have words : (text "true").IsVisible ∧ (text "false").IsVisible := by decide
  induction v using byParts with
  | null => exact fun _ => null
  | bool b =>
      intro level
      cases b with
      | true => exact words.1
      | false => exact words.2
  | integer n => exact fun _ => Text.isVisible_ofInt n
  | float x => exact fun _ => Text.isVisible_json x
  | string s => exact fun _ => (JsonGrammar.isString_stringText s).isVisible
  | array items ih =>
      intro level
      rw [write, JsonReader.writeItems_eq_map]
      apply isVisible_enclosed level (by decide) (by decide)
      intro part member
      obtain ⟨item, isItem, rfl⟩ := List.mem_map.mp member
      exact ih item isItem (level + 1)
  | object members ih =>
      intro level
      rw [write, JsonReader.writeMembers_eq_map rfl]
      apply isVisible_enclosed level (by decide) (by decide)
      intro part isPart
      obtain ⟨member, isMember, rfl⟩ := List.mem_map.mp isPart
      have name := (JsonGrammar.isString_stringText member.1).isVisible
      have mark : Style.compact.nameMark.IsVisible := by decide
      simp [JsonReader.memberText, name, mark, ih member isMember (level + 1)]

end Json

end SearchShell
