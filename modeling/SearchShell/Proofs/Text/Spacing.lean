import SearchShell.Proofs.Text.Words

/-!
# Blanks between words

How many blanks stand before, between and after words, and which, makes no difference.  A text is
spaced out from some words and a rest exactly when these are its first words and the rest is what
follows them, without blanks at either end.
-/

set_option autoImplicit false

namespace SearchShell

namespace Text

def IsGap (s : Text) : Prop := ∀ c ∈ s, c.isBlank = true

instance (s : Text) : Decidable (IsGap s) :=
  inferInstanceAs (Decidable (∀ c ∈ s, c.isBlank = true))

/-- The text is empty or begins with a blank, so that a word before it ends there. -/
def IsParted (s : Text) : Prop := ∀ c ∈ s.head?, c.isBlank = true

theorem IsGap.append {first second : Text} (isGap : IsGap first) (alsoGap : IsGap second) :
    IsGap (first ++ second) := by
  intro c member
  rcases List.mem_append.mp member with inFirst | inSecond
  · exact isGap c inFirst
  · exact alsoGap c inSecond

theorem IsGap.isParted {s : Text} (isGap : IsGap s) : IsParted s :=
  fun c isHead => isGap c (List.mem_of_mem_head? isHead)

theorem isGap_space : IsGap [CodePoint.ofChar ' '] := by
  intro c member
  rw [List.mem_singleton.mp member]
  decide

theorem isParted_space (s : Text) : IsParted (CodePoint.ofChar ' ' :: s) := by
  intro c isHead
  cases isHead
  decide

/-- A text that begins with a blank, or else is empty, and also begins with none is empty. -/
theorem eq_nil_of_parted_of_led {s : Text} (parted : IsParted s) (led : IsLed s) : s = [] := by
  cases s with
  | nil => rfl
  | cons c rest =>
      have blank := parted c rfl
      rw [led c rfl] at blank
      cases blank

/-! ## Trimming -/

theorem trim_trim (s : Text) : s.trim.trim = s.trim := trim_of_tight (isTight_trim s)

theorem dropTrailing_append_of_closed {word : Text} {drop : CodePoint → Bool}
    (closed : ∀ c ∈ word.reverse.head?, drop c = false) (rest : Text) :
    dropTrailing drop (word ++ rest) = word ++ dropTrailing drop rest := by
  have kept : word.reverse.dropWhile drop = word.reverse := by
    cases reversed : word.reverse with
    | nil => rfl
    | cons c others =>
        rw [reversed] at closed
        exact List.dropWhile_cons_of_neg (by simp [closed c rfl])
  rw [dropTrailing, List.reverse_append, List.dropWhile_append]
  split
  next none =>
    rw [kept, List.reverse_reverse, dropTrailing, List.isEmpty_iff.mp none, List.reverse_nil,
      List.append_nil]
  next => rw [List.reverse_append, List.reverse_reverse, dropTrailing]

/-- What is dropped at one end does not depend on what is dropped at the other. -/
theorem dropWhile_dropTrailing (drop : CodePoint → Bool) (s : Text) :
    (dropTrailing drop s).dropWhile drop = dropTrailing drop (s.dropWhile drop) := by
  have split : s.takeWhile drop ++ s.dropWhile drop = s := List.takeWhile_append_dropWhile
  have led : ∀ c ∈ s.takeWhile drop, drop c = true := fun c => List.mem_takeWhile_imp
  -- Either nothing is kept, or a code point is that neither end drops.
  cases kept : s.dropWhile drop with
  | nil =>
      have all : ∀ c ∈ s.reverse, drop c = true := fun c member =>
        List.dropWhile_eq_nil_iff.mp kept c (List.mem_reverse.mp member)
      have none : dropTrailing drop s = [] := by
        rw [dropTrailing, List.dropWhile_eq_nil_iff.mpr all, List.reverse_nil]
      rw [none]
      rfl
  | cons first rest =>
      have stops : drop first = false := by
        have head := List.head?_dropWhile_not drop s
        rw [kept] at head
        simpa using head
      have whole : dropTrailing drop s = s.takeWhile drop ++ first :: dropTrailing drop rest := by
        have closed : ∀ c ∈ (s.takeWhile drop ++ [first]).reverse.head?, drop c = false := by
          simpa using stops
        have front := dropTrailing_append_of_closed closed rest
        rw [List.append_assoc, List.singleton_append, ← kept, split] at front
        rw [front, List.append_assoc, List.singleton_append]
      have core : dropTrailing drop (first :: rest) = first :: dropTrailing drop rest :=
        @dropTrailing_append_of_closed [first] drop (by simpa using stops) rest
      rw [whole, core, dropWhile_append_cons led stops]

theorem trim_gap_append {gap : Text} (isGap : IsGap gap) (s : Text) :
    (gap ++ s).trim = s.trim := by
  rw [trim, trimBy, List.dropWhile_append_of_pos isGap]
  rfl

theorem trim_append_gap {gap : Text} (isGap : IsGap gap) (s : Text) :
    (s ++ gap).trim = s.trim := by
  have blank : ∀ c ∈ gap.reverse, c.isBlank = true :=
    fun c member => isGap c (List.mem_reverse.mp member)
  have dropped : dropTrailing CodePoint.isBlank (s ++ gap) = dropTrailing CodePoint.isBlank s := by
    rw [dropTrailing, List.reverse_append, List.dropWhile_append_of_pos blank, dropTrailing]
  rw [trim, trimBy, ← dropWhile_dropTrailing, dropped, dropWhile_dropTrailing]
  rfl

/-! ## Words between blanks -/

theorem words_gap_append {gap : Text} (isGap : IsGap gap) (s : Text) :
    words (gap ++ s) = words s := by
  rw [← words_trim, trim_gap_append isGap, words_trim]

theorem afterWords_trim (n : Nat) (s : Text) : s.trim.afterWords n = s.afterWords n := by
  cases n with
  | zero => exact trim_trim s
  | succ n => simp only [afterWords, trim_trim]

theorem afterWords_gap_append {gap : Text} (isGap : IsGap gap) (n : Nat) (s : Text) :
    (gap ++ s).afterWords n = s.afterWords n := by
  rw [← afterWords_trim, trim_gap_append isGap, afterWords_trim]

section Word

variable {word later : Text} (nonempty : word ≠ []) (unbroken : ∀ c ∈ word, c.isBlank = false)

include nonempty unbroken

theorem isLed_append : IsLed (word ++ later) := by
  obtain ⟨first, others, rfl⟩ := List.exists_cons_of_ne_nil nonempty
  intro c isHead
  cases isHead
  exact unbroken first List.mem_cons_self

theorem words_append_of_parted (parted : IsParted later) :
    words (word ++ later) = word :: words later := by
  cases later with
  | nil => rw [List.append_nil, words_of_unbroken nonempty unbroken, words_nil]
  | cons c rest =>
      rw [words_append_cons nonempty unbroken (parted c rfl), words_cons_of_blank (parted c rfl)]

theorem afterWord_trim_append (parted : IsParted later) :
    (word ++ later).trim.afterWord = later.trim := by
  have inWord : ∀ c ∈ word, (!c.isBlank) = true := by
    intro c member
    rw [unbroken c member]
    rfl
  have closed := (isTight_of_unbroken unbroken).closed
  rw [trim, trimBy, dropWhile_of_led (isLed_append nonempty unbroken),
    dropTrailing_append_of_closed closed, afterWord, List.dropWhile_append_of_pos inWord, trim,
    trimBy, ← dropWhile_dropTrailing]
  congr 1
  obtain ⟨dropped, -, split⟩ := dropTrailing_append CodePoint.isBlank later
  -- What is left of the later text begins with the same blank, unless nothing is left.
  cases left : dropTrailing CodePoint.isBlank later with
  | nil => rfl
  | cons c others =>
      rw [left, List.cons_append] at split
      exact List.dropWhile_cons_of_neg (by simp [parted c (by rw [split]; rfl)])

theorem afterWords_append_of_parted (parted : IsParted later) (n : Nat) :
    (word ++ later).afterWords (n + 1) = later.afterWords n := by
  rw [afterWords, afterWord_trim_append nonempty unbroken parted, afterWords_trim]

theorem afterWords_append_cons (n : Nat) (rest : Text) :
    (word ++ CodePoint.ofChar ' ' :: rest).afterWords (n + 1) = rest.afterWords n := by
  rw [afterWords_append_of_parted nonempty unbroken (isParted_space rest)]
  exact afterWords_gap_append isGap_space n rest

end Word

/-! ## Spaced texts -/

/-- Words in order and then a rest, each with the blanks that follow it.  Only after the last of
them can there be none. -/
inductive IsSpread : List Text → Text → Text → Prop
  | rest {rest gap : Text} (tight : IsTight rest) (isGap : IsGap gap) :
      IsSpread [] rest (rest ++ gap)
  | word {word gap later rest : Text} {words : List Text} (nonempty : word ≠ [])
      (unbroken : ∀ c ∈ word, c.isBlank = false) (isGap : IsGap gap)
      (apart : gap = [] → words = [] ∧ rest = []) (others : IsSpread words rest later) :
      IsSpread (word :: words) rest (word ++ (gap ++ later))

/-- Words in order and then a rest, with blanks before, between and after them. -/
inductive IsSpaced (words : List Text) (rest : Text) : Text → Prop
  | intro {gap body : Text} (isGap : IsGap gap) (spread : IsSpread words rest body) :
      IsSpaced words rest (gap ++ body)

theorem IsSpread.isParted {rest s : Text} (spread : IsSpread [] rest s) (none : rest = []) :
    IsParted s := by
  cases spread with
  | rest tight isGap =>
      subst none
      exact isGap.isParted

theorem IsSpread.words_eq {front : List Text} {rest s : Text} (spread : IsSpread front rest s) :
    words s = front ++ words rest ∧ s.afterWords front.length = rest := by
  induction spread with
  | rest tight isGap =>
      refine ⟨words_append_blanks _ _ isGap, ?_⟩
      rw [List.length_nil, afterWords, trim_append_gap isGap, trim_of_tight tight]
  | @word word gap later rest front nonempty unbroken isGap apart others ih =>
      have parted : IsParted (gap ++ later) := by
        by_cases touching : gap = []
        · obtain ⟨rfl, noRest⟩ := apart touching
          rw [touching, List.nil_append]
          exact others.isParted noRest
        · obtain ⟨c, more, rfl⟩ := List.exists_cons_of_ne_nil touching
          intro d isHead
          cases isHead
          exact isGap c List.mem_cons_self
      rw [words_append_of_parted nonempty unbroken parted, List.length_cons,
        afterWords_append_of_parted nonempty unbroken parted, words_gap_append isGap,
        afterWords_gap_append isGap, ih.1, List.cons_append]
      exact ⟨rfl, ih.2⟩

/-- What begins with a blank, or else is empty, is spread from nothing. -/
theorem IsSpread.none_of_parted {front : List Text} {rest s : Text}
    (spread : IsSpread front rest s) (parted : IsParted s) : front = [] ∧ rest = [] := by
  cases spread with
  | word nonempty unbroken isGap apart others =>
      have none := eq_nil_of_parted_of_led parted (isLed_append nonempty unbroken)
      exact absurd (List.append_eq_nil_iff.mp none).1 nonempty
  | @rest _ gap tight isGap =>
      refine ⟨rfl, ?_⟩
      by_contra some
      obtain ⟨first, others, rfl⟩ := List.exists_cons_of_ne_nil some
      have led : IsLed (first :: others ++ gap) := fun c isHead => tight.led c isHead
      cases eq_nil_of_parted_of_led parted led

/-- A text with words is the blanks before the first word, this word and what follows it. -/
theorem exists_leading_word {s word : Text} {others : List Text}
    (found : words s = word :: others) :
    ∃ gap later, IsGap gap ∧ IsParted later ∧ words later = others ∧
      s = gap ++ (word ++ later) := by
  let body : Text := s.dropWhile CodePoint.isBlank
  let later : Text := body.dropWhile fun c => !c.isBlank
  have isFirst : body.firstWord = word := by
    rw [firstWord_eq_head (isLed_dropWhile s), words_dropWhile, found]
    rfl
  have isGap : IsGap (s.takeWhile CodePoint.isBlank) := fun c => List.mem_takeWhile_imp
  have parted : IsParted later := by
    intro c isHead
    have stopped := List.head?_dropWhile_not (fun c : CodePoint => !c.isBlank) body
    rw [show body.dropWhile _ = later from rfl, Option.mem_def.mp isHead] at stopped
    simpa using stopped
  have whole : s = s.takeWhile CodePoint.isBlank ++ (word ++ later) := by
    rw [← isFirst, firstWord, List.takeWhile_append_dropWhile, List.takeWhile_append_dropWhile]
  have nonempty : word ≠ [] := word_ne_nil (s := s) (by rw [found]; exact List.mem_cons_self)
  have unbroken : ∀ c ∈ word, c.isBlank = false := isFirst ▸ firstWord_unbroken body
  refine ⟨_, later, isGap, parted, ?_, whole⟩
  rw [whole, words_gap_append isGap, words_append_of_parted nonempty unbroken parted] at found
  exact (List.cons.inj found).2

theorem isSpaced_afterWords : ∀ {front later : List Text} {s : Text}, words s = front ++ later →
    IsSpaced front (s.afterWords front.length) s := by
  intro front
  induction front with
  | nil =>
      intro later s _
      obtain ⟨dropped, isGap, split⟩ :=
        dropTrailing_append CodePoint.isBlank (s.dropWhile CodePoint.isBlank)
      have whole : s = s.takeWhile CodePoint.isBlank ++ (s.trim ++ dropped) := by
        rw [trim, trimBy, ← split, List.takeWhile_append_dropWhile]
      have spaced : IsSpaced [] s.trim (s.takeWhile CodePoint.isBlank ++ (s.trim ++ dropped)) :=
        .intro (fun c => List.mem_takeWhile_imp) (.rest (isTight_trim s) isGap)
      rwa [← whole] at spaced
  | cons word front ih =>
      intro later s found
      have member : word ∈ words s := by rw [found]; exact List.mem_cons_self
      have nonempty := word_ne_nil member
      have unbroken := word_unbroken member
      obtain ⟨gap, following, isGap, parted, others, rfl⟩ := exists_leading_word found
      rw [List.length_cons, afterWords_gap_append isGap,
        afterWords_append_of_parted nonempty unbroken parted]
      obtain @⟨between, body, alsoGap, spread⟩ := ih others
      refine .intro isGap (.word nonempty unbroken alsoGap ?_ spread)
      rintro rfl
      exact spread.none_of_parted parted

/-- A text is spaced out from its first words and from what follows them. -/
theorem isSpaced_iff (front : List Text) (rest s : Text) :
    IsSpaced front rest s ↔
      (∃ later, words s = front ++ later) ∧ s.afterWords front.length = rest := by
  constructor
  · rintro ⟨isGap, spread⟩
    rw [words_gap_append isGap, afterWords_gap_append isGap]
    exact ⟨⟨words rest, spread.words_eq.1⟩, spread.words_eq.2⟩
  · rintro ⟨⟨later, found⟩, rfl⟩
    exact isSpaced_afterWords found

/-- The words of a text are its maximal runs: it is spaced out from them and nothing else. -/
theorem isSpaced_words (s : Text) : IsSpaced (words s) [] s := by
  rw [isSpaced_iff]
  refine ⟨⟨[], (List.append_nil _).symm⟩, ?_⟩
  have none : words (s.afterWords (words s).length) = [] := by
    rw [words_afterWords, List.drop_length]
  exact (words_eq_nil_of_led (isTight_afterWords _ s).led).mp none

/-- Only blanks are a text without words. -/
theorem words_eq_nil_iff (s : Text) : words s = [] ↔ IsGap s := by
  constructor
  · intro none
    have spaced := isSpaced_words s
    rw [none] at spaced
    obtain ⟨isGap, spread⟩ := spaced
    cases spread with
    | rest tight alsoGap => exact isGap.append alsoGap
  · intro isGap
    rw [← List.append_nil s, words_gap_append isGap, words_nil]

end Text

end SearchShell
