import Mathlib.Data.List.TakeWhile
import SearchShell.Command.Basic
import SearchShell.Proofs.Text.Pieces

/-!
# Words

The words of a text are its maximal runs of code points that are no blanks.  Taking
leading words one after the other gives them in order, and what is left after some of
them holds the others.
-/

set_option autoImplicit false

namespace SearchShell

namespace Text

def words (s : Text) : List Text :=
  (s.splitOnP CodePoint.isBlank).filter fun word => !word.isEmpty

/-- What follows the first words, without blanks at either end. -/
def afterWords : Nat → Text → Text
  | 0, s => s.trim
  | n + 1, s => afterWords n s.trim.afterWord

def IsLed (s : Text) : Prop := ∀ c ∈ s.head?, c.isBlank = false

/-! ## Blanks around words -/

@[simp] theorem words_nil : words [] = [] := rfl

theorem word_unbroken {s word : Text} (member : word ∈ words s) :
    ∀ c ∈ word, c.isBlank = false :=
  fun _ inside => (mem_of_mem_splitOnP (List.mem_filter.mp member).1 inside).2

theorem words_cons_of_blank {c : CodePoint} (blank : c.isBlank = true) (rest : Text) :
    words (c :: rest) = words rest := by
  simp [words, List.splitOnP_cons_eq_if_modifyHead, blank]

theorem words_dropWhile (s : Text) : words (s.dropWhile CodePoint.isBlank) = words s := by
  induction s with
  | nil => rfl
  | cons c rest ih =>
      by_cases blank : c.isBlank = true
      · rw [List.dropWhile_cons_of_pos blank, words_cons_of_blank blank, ih]
      · rw [List.dropWhile_cons_of_neg blank]

theorem words_of_unbroken {word : Text} (nonempty : word ≠ [])
    (unbroken : ∀ c ∈ word, c.isBlank = false) : words word = [word] := by
  simp [words, List.splitOnP_eq_singleton unbroken, nonempty]

theorem words_append_cons {word : Text} (nonempty : word ≠ [])
    (unbroken : ∀ c ∈ word, c.isBlank = false) {c : CodePoint} (blank : c.isBlank = true)
    (rest : Text) : words (word ++ c :: rest) = word :: words rest := by
  rw [words, List.splitOnP_append_cons_of_forall_mem unbroken c blank]
  simp [words, nonempty]

theorem words_append_blanks (s : Text) : ∀ blanks : Text,
    (∀ c ∈ blanks, c.isBlank = true) → words (s ++ blanks) = words s := by
  intro blanks
  cases blanks with
  | nil => intro _; rw [List.append_nil]
  | cons c rest =>
      intro allBlank
      have none : words rest = [] := by
        rw [← words_dropWhile, List.dropWhile_eq_nil_iff.mpr, words_nil]
        exact fun d member => allBlank d (by simp [member])
      rw [words, List.splitOnP_append_cons s rest (allBlank c (by simp)), List.filter_append]
      simpa [words] using none

theorem dropTrailing_append (drop : CodePoint → Bool) (s : Text) :
    ∃ dropped, (∀ c ∈ dropped, drop c = true) ∧ s = dropTrailing drop s ++ dropped := by
  refine ⟨(s.reverse.takeWhile drop).reverse, ?_, ?_⟩
  · intro c member
    exact List.mem_takeWhile_imp (List.mem_reverse.mp member)
  · rw [dropTrailing, ← List.reverse_append, List.takeWhile_append_dropWhile,
      List.reverse_reverse]

theorem words_trim (s : Text) : words s.trim = words s := by
  obtain ⟨dropped, blank, split⟩ :=
    dropTrailing_append CodePoint.isBlank (s.dropWhile CodePoint.isBlank)
  rw [← words_dropWhile s, split, words_append_blanks _ dropped blank]
  rfl

/-! ## Trimmed texts -/

structure IsTight (s : Text) : Prop where
  led : IsLed s
  closed : IsLed s.reverse

instance (s : Text) : Decidable (IsLed s) :=
  inferInstanceAs (Decidable (∀ c ∈ s.head?, c.isBlank = false))

instance (s : Text) : Decidable (IsTight s) :=
  decidable_of_iff (IsLed s ∧ IsLed s.reverse)
    ⟨fun ⟨led, closed⟩ => ⟨led, closed⟩, fun ⟨led, closed⟩ => ⟨led, closed⟩⟩

theorem isLed_dropWhile (s : Text) : IsLed (s.dropWhile CodePoint.isBlank) := by
  intro c head
  have stopped := List.head?_dropWhile_not CodePoint.isBlank s
  rw [head] at stopped
  simpa using stopped

theorem dropWhile_of_led {s : Text} (led : IsLed s) : s.dropWhile CodePoint.isBlank = s := by
  cases s with
  | nil => rfl
  | cons c rest => exact List.dropWhile_cons_of_neg (by simp [led c rfl])

theorem isTight_trim (s : Text) : IsTight s.trim := by
  constructor
  · intro c head
    obtain ⟨dropped, -, split⟩ :=
      dropTrailing_append CodePoint.isBlank (s.dropWhile CodePoint.isBlank)
    apply isLed_dropWhile s c
    rw [split, List.head?_append, show dropTrailing CodePoint.isBlank _ = s.trim from rfl, head]
    rfl
  · rw [trim, trimBy, dropTrailing, List.reverse_reverse]
    exact isLed_dropWhile _

theorem trim_of_tight {s : Text} (tight : IsTight s) : s.trim = s := by
  rw [trim, trimBy, dropWhile_of_led tight.led, dropTrailing, dropWhile_of_led tight.closed,
    List.reverse_reverse]

theorem isTight_of_unbroken {s : Text} (unbroken : ∀ c ∈ s, c.isBlank = false) : IsTight s := by
  constructor
  · intro c head
    exact unbroken c (List.mem_of_head? head)
  · intro c head
    exact unbroken c (List.mem_reverse.mp (List.mem_of_head? head))

/-- What ends a text that ends with no blank ends with none either. -/
theorem closed_of_suffix {s t : Text} (suffix : t <:+ s) (closed : IsLed s.reverse) :
    IsLed t.reverse := by
  intro c head
  obtain ⟨front, rfl⟩ := suffix
  apply closed c
  rw [List.reverse_append, List.head?_append, head]
  rfl

theorem isTight_afterWord {s : Text} (tight : IsTight s) : IsTight s.afterWord := by
  have suffix : s.afterWord <:+ s :=
    (List.dropWhile_suffix CodePoint.isBlank).trans (List.dropWhile_suffix _)
  exact ⟨isLed_dropWhile _, closed_of_suffix suffix tight.closed⟩

/-! ## The leading word -/

theorem firstWord_unbroken (s : Text) : ∀ c ∈ s.firstWord, c.isBlank = false := by
  intro c member
  simpa using List.mem_takeWhile_imp member

theorem firstWord_ne_nil {s : Text} (nonempty : s ≠ []) (led : IsLed s) : s.firstWord ≠ [] := by
  obtain ⟨c, rest, rfl⟩ := List.exists_cons_of_ne_nil nonempty
  simp [firstWord, led c rfl]

theorem words_of_led {s : Text} (nonempty : s ≠ []) (led : IsLed s) :
    words s = s.firstWord :: words s.afterWord := by
  have named := firstWord_ne_nil nonempty led
  have split : s.firstWord ++ s.dropWhile (fun c => !c.isBlank) = s :=
    List.takeWhile_append_dropWhile
  rw [afterWord, words_dropWhile]
  cases rest : s.dropWhile (fun c => !c.isBlank) with
  | nil =>
      rw [rest, List.append_nil] at split
      rw [words_nil, split]
      exact words_of_unbroken nonempty (split ▸ firstWord_unbroken s)
  | cons c later =>
      have blank : c.isBlank = true := by
        have := List.head?_dropWhile_not (fun c : CodePoint => !c.isBlank) s
        rw [rest] at this
        simpa using this
      rw [rest] at split
      have broken := words_append_cons named (firstWord_unbroken s) blank later
      rw [split] at broken
      rw [words_cons_of_blank blank, broken]

theorem words_eq_nil_of_led {s : Text} (led : IsLed s) : words s = [] ↔ s = [] := by
  constructor
  · intro none
    by_contra nonempty
    rw [words_of_led nonempty led] at none
    cases none
  · rintro rfl
    rfl

/-- The leading word is the first of all words, or empty when there are none. -/
theorem firstWord_eq_head {s : Text} (led : IsLed s) : s.firstWord = (words s).head?.getD [] := by
  by_cases nonempty : s = []
  · subst nonempty
    rfl
  · rw [words_of_led nonempty led]
    rfl

theorem words_afterWord {s : Text} (led : IsLed s) : words s.afterWord = (words s).tail := by
  by_cases nonempty : s = []
  · subst nonempty
    rfl
  · rw [words_of_led nonempty led]
    rfl

theorem words_afterWords : ∀ (n : Nat) (s : Text), words (afterWords n s) = (words s).drop n := by
  intro n
  induction n with
  | zero => intro s; exact words_trim s
  | succ n ih =>
      intro s
      rw [afterWords, ih, words_afterWord (isTight_trim s).led, words_trim, List.drop_tail]

theorem isTight_afterWords : ∀ (n : Nat) (s : Text), IsTight (afterWords n s) := by
  intro n
  induction n with
  | zero => intro s; exact isTight_trim s
  | succ n ih => intro s; exact ih s.trim.afterWord

theorem afterWords_one {s : Text} (tight : IsTight s) : s.afterWords 1 = s.afterWord := by
  rw [afterWords, afterWords, trim_of_tight tight, trim_of_tight (isTight_afterWord tight)]

theorem word_ne_nil {s word : Text} (member : word ∈ words s) : word ≠ [] := by
  simpa using (List.mem_filter.mp member).2

end Text

end SearchShell
