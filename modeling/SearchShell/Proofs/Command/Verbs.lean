import SearchShell.Command.Basic

/-!
# Words for verbs

A word names a verb when its lower-case form is the verb's word.  Only the capital letters
of ASCII become letters of such a word: the one other capital whose lower-case letter is in
ASCII, the kelvin sign, becomes a letter that no verb has.
-/

set_option autoImplicit false

namespace SearchShell

namespace CodePoint

def IsVerbLetter (c : CodePoint) : Prop := c.isAsciiLower = true ∧ c ≠ CodePoint.ofChar 'k'

instance (c : CodePoint) : Decidable c.IsVerbLetter :=
  inferInstanceAs (Decidable (c.isAsciiLower = true ∧ c ≠ CodePoint.ofChar 'k'))

theorem IsVerbLetter.val_lt {c : CodePoint} (letter : c.IsVerbLetter) : c.val < 0x80 := by
  have lower := letter.1
  simp only [isAsciiLower, Bool.and_eq_true, decide_eq_true_eq] at lower
  omega

theorem toAsciiLower_of_not_ascii {c : CodePoint} (large : 0x80 ≤ c.val) :
    c.toAsciiLower = c := by
  simp only [toAsciiLower]
  split
  · omega
  · rfl

theorem toLower_of_ascii {c : CodePoint} (small : c.val < 0x80) : c.toLower = c.toAsciiLower := by
  have table : ∀ n : Fin 0x80, toLower ⟨n.val, Nat.lt_trans n.isLt (by decide)⟩ =
      toAsciiLower ⟨n.val, Nat.lt_trans n.isLt (by decide)⟩ := by
    decide +kernel
  exact table ⟨c.val, small⟩

/-- The lower-case letters of capitals beyond ASCII lie beyond ASCII too, but for one. -/
theorem capitalRuns_bound : ∀ run ∈ capitalRuns,
    run.2.1 < 0x80 ∨ 0x80 ≤ run.2.2.2 ∨ run.1 = run.2.1 ∧ run.2.2.2 = 0x6B := by
  decide +kernel

theorem not_isVerbLetter_toLower {c : CodePoint} (large : 0x80 ≤ c.val) :
    ¬c.toLower.IsVerbLetter := by
  intro letter
  have small := letter.val_lt
  have notK : c.toLower.val ≠ 0x6B := fun isK => letter.2 (CodePoint.ext isK)
  unfold toLower at small notK
  split at small
  next first last step lower found =>
    simp only [found] at notK
    have member := List.mem_of_find?_eq_some found
    have inRun := List.find?_some found
    simp only [Bool.and_eq_true, decide_eq_true_eq] at inRun
    have bound := capitalRuns_bound _ member
    simp only at bound
    unfold ofNat? at small notK
    split at small
    next inRange =>
      simp only [inRange, dif_pos, Option.getD_some] at small notK
      omega
    next => exact absurd small (by simpa using large)
  next => exact absurd small (by simpa using large)

/-- A code point becomes a letter of a verb only in the way of ASCII. -/
theorem toLower_eq_letter_iff (c letter : CodePoint) (isLetter : letter.IsVerbLetter) :
    c.toLower = letter ↔ c.toAsciiLower = letter := by
  by_cases small : c.val < 0x80
  · rw [toLower_of_ascii small]
  · have large : 0x80 ≤ c.val := by omega
    constructor
    · rintro rfl
      exact absurd isLetter (not_isVerbLetter_toLower large)
    · intro same
      rw [toAsciiLower_of_not_ascii large] at same
      subst same
      exact absurd isLetter.val_lt small

end CodePoint

namespace Text

theorem toLowerAfter_ne_nil (before : Text) (c : CodePoint) (rest : Text) :
    toLowerAfter before (c :: rest) ≠ [] := by
  intro none
  rw [toLowerAfter, List.append_eq_nil_iff] at none
  have front := none.1
  split at front
  · cases front
  · split at front
    · exact absurd front (by decide)
    · cases front

section Words

variable {word : Text} (letters : ∀ c ∈ word, c.IsVerbLetter)

include letters

theorem toAsciiLower_cons_ne {c : CodePoint} (notLetter : ¬c.toAsciiLower.IsVerbLetter)
    (rest : Text) : toAsciiLower (c :: rest) ≠ word := by
  intro same
  exact notLetter (letters _ (by simp [← same, toAsciiLower]))

/-- The sigma has two lower-case forms, neither of which is a letter of a verb. -/
theorem toLowerAfter_sigma_ne (before rest : Text) :
    toLowerAfter before (CodePoint.ofChar 'Σ' :: rest) ≠ word := by
  intro same
  rw [toLowerAfter, if_pos rfl, List.singleton_append] at same
  have isLetter := letters _ (by rw [← same]; exact List.mem_cons_self)
  split at isLetter
  · exact absurd isLetter (by decide)
  · exact absurd isLetter (by decide)

/-- The capital i with a dot becomes two code points, the second of which is the dot. -/
theorem toLowerAfter_dotted_ne (before rest : Text) :
    toLowerAfter before (CodePoint.ofChar 'İ' :: rest) ≠ word := by
  intro same
  rw [toLowerAfter, if_neg (by decide), if_pos rfl] at same
  have isLetter : (CodePoint.ofChar '\u0307').IsVerbLetter :=
    letters _ (by rw [← same]; simp [text])
  exact absurd isLetter (by decide)

end Words

theorem toLowerAfter_eq_iff : ∀ (s before word : Text), (∀ c ∈ word, c.IsVerbLetter) →
    (toLowerAfter before s = word ↔ s.toAsciiLower = word) := by
  intro s
  induction s with
  | nil => intro before word _; rfl
  | cons c rest ih =>
      intro before word letters
      by_cases sigma : c = CodePoint.ofChar 'Σ'
      · subst sigma
        exact iff_of_false (toLowerAfter_sigma_ne letters before rest)
          (toAsciiLower_cons_ne letters (by decide) rest)
      by_cases dotted : c = CodePoint.ofChar 'İ'
      · subst dotted
        exact iff_of_false (toLowerAfter_dotted_ne letters before rest)
          (toAsciiLower_cons_ne letters (by decide) rest)
      have shape : toAsciiLower (c :: rest) = c.toAsciiLower :: toAsciiLower rest := rfl
      cases word with
      | nil => exact iff_of_false (toLowerAfter_ne_nil before c rest) (by simp [shape])
      | cons first others =>
          have isLetter := letters first (by simp)
          have othersAre : ∀ d ∈ others, d.IsVerbLetter := fun d member =>
            letters d (by simp [member])
          rw [toLowerAfter, if_neg sigma, if_neg dotted, List.singleton_append, shape,
            List.cons.injEq, List.cons.injEq, CodePoint.toLower_eq_letter_iff c first isLetter,
            ih (c :: before) others othersAre]

end Text

namespace Verb

theorem word_letters (verb : Verb) : ∀ c ∈ verb.word, c.IsVerbLetter := by
  cases verb <;> decide

/-- A word names a verb when it is the verb's word up to the case of ASCII letters, whatever
other code points words can hold. -/
theorem ofWord?_eq (raw : Text) :
    ofWord? raw = all.find? fun verb => verb.word = raw.toAsciiLower := by
  unfold ofWord?
  congr 1
  funext verb
  have same := Text.toLowerAfter_eq_iff raw [] verb.word verb.word_letters
  rw [decide_eq_decide]
  exact ⟨fun named => (same.mp named.symm).symm, fun named => (same.mpr named.symm).symm⟩

end Verb

end SearchShell
