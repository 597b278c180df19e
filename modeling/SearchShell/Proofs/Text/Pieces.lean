import SearchShell.Text.Basic

/-!
# Splitting and joining

What lies between two separators consists of code points of the text and holds no
separator; joining what was split gives the text again, and splitting what was
joined gives the parts.
-/

set_option autoImplicit false

namespace SearchShell

namespace Text

variable {separator : CodePoint}

theorem mem_of_mem_splitOnP {p : CodePoint → Bool} : ∀ {s part : Text} {c : CodePoint},
    part ∈ s.splitOnP p → c ∈ part → c ∈ s ∧ p c = false := by
  intro s
  induction s with
  | nil =>
      intro part c member inside
      rw [List.splitOnP_nil, List.mem_singleton] at member
      subst member
      simp at inside
  | cons first rest ih =>
      intro part c member inside
      rw [List.splitOnP_cons_eq_if_modifyHead] at member
      by_cases isSeparator : p first = true
      · simp only [isSeparator, if_true, List.mem_cons] at member
        rcases member with rfl | later
        · simp at inside
        · obtain ⟨inRest, apart⟩ := ih later inside
          exact ⟨by simp [inRest], apart⟩
      · rw [Bool.not_eq_true] at isSeparator
        simp only [isSeparator, Bool.false_eq_true, if_false] at member
        cases split : rest.splitOnP p with
        | nil => exact absurd split (List.splitOnP_ne_nil p rest)
        | cons head tail =>
            rw [split, List.modifyHead_cons, List.mem_cons] at member
            rcases member with rfl | later
            · rcases List.mem_cons.mp inside with rfl | inHead
              · exact ⟨by simp, isSeparator⟩
              · obtain ⟨inRest, apart⟩ := ih (by simp [split]) inHead
                exact ⟨by simp [inRest], apart⟩
            · obtain ⟨inRest, apart⟩ := ih (by simp [split, later]) inside
              exact ⟨by simp [inRest], apart⟩

theorem mem_of_mem_splitOn {s part : Text} {c : CodePoint} (member : part ∈ s.splitOn separator)
    (inside : c ∈ part) : c ∈ s ∧ c ≠ separator := by
  rw [List.splitOn_eq_splitOnP] at member
  obtain ⟨inText, apart⟩ := mem_of_mem_splitOnP member inside
  exact ⟨inText, by simpa using apart⟩

theorem not_mem_of_mem_splitOn {s part : Text} (member : part ∈ s.splitOn separator) :
    separator ∉ part :=
  fun inside => (mem_of_mem_splitOn member inside).2 rfl

theorem piece_ne_nil {s piece : Text} (member : piece ∈ pieces separator s) : piece ≠ [] := by
  simpa using (List.mem_filter.mp member).2

theorem splitOn_append_of_not_mem {s : Text} (apart : separator ∉ s) (t : Text) :
    (s ++ t).splitOn separator = (t.splitOn separator).modifyHead (s ++ ·) := by
  induction s with
  | nil =>
      cases split : t.splitOn separator with
      | nil => exact absurd split (List.splitOn_ne_nil separator t)
      | cons head tail => simp [split]
  | cons c rest ih =>
      rw [List.mem_cons, not_or] at apart
      rw [List.cons_append, List.splitOn_cons_eq_if_modifyHead,
        beq_eq_false_iff_ne.mpr (Ne.symm apart.1), ih apart.2]
      cases t.splitOn separator with
      | nil => rfl
      | cons head tail => rfl

/-! ## Up to a mark -/

theorem takeWhile_append_cons {p : CodePoint → Bool} {s : Text} {mark : CodePoint}
    (before : ∀ c ∈ s, p c = true) (stop : p mark = false) (rest : Text) :
    (s ++ mark :: rest).takeWhile p = s := by
  rw [List.takeWhile_append_of_pos before, List.takeWhile_cons_of_neg (by simp [stop]),
    List.append_nil]

theorem dropWhile_append_cons {p : CodePoint → Bool} {s : Text} {mark : CodePoint}
    (before : ∀ c ∈ s, p c = true) (stop : p mark = false) (rest : Text) :
    (s ++ mark :: rest).dropWhile p = mark :: rest := by
  rw [List.dropWhile_append_of_pos before, List.dropWhile_cons_of_neg (by simp [stop])]

/-! ## Joining -/

theorem joined_cons_of_ne_nil (part : Text) {parts : List Text} (nonempty : parts ≠ []) :
    joined [separator] (part :: parts) = part ++ separator :: joined [separator] parts := by
  rw [joined, List.intercalate_cons_of_ne_nil nonempty, List.append_assoc]
  rfl

theorem joined_singleton (part : Text) : joined [separator] [part] = part := by
  simp [joined]

theorem joined_append : ∀ (before after : List Text), before ≠ [] → after ≠ [] →
    joined [separator] (before ++ after) =
      joined [separator] before ++ separator :: joined [separator] after := by
  intro before
  induction before with
  | nil => intro after nonempty _; exact absurd rfl nonempty
  | cons part rest ih =>
      intro after _ afterNonempty
      by_cases restNil : rest = []
      · subst restNil
        rw [List.singleton_append, joined_cons_of_ne_nil part afterNonempty, joined_singleton]
      · have appended : rest ++ after ≠ [] := by simp [restNil]
        rw [List.cons_append, joined_cons_of_ne_nil part appended,
          joined_cons_of_ne_nil part restNil, ih after restNil afterNonempty]
        simp

theorem mem_joined : ∀ {parts : List Text} {c : CodePoint},
    c ∈ joined [separator] parts → c = separator ∨ ∃ part ∈ parts, c ∈ part := by
  intro parts
  induction parts with
  | nil => intro c member; simp [joined] at member
  | cons part rest ih =>
      intro c member
      by_cases restNil : rest = []
      · subst restNil
        rw [joined_singleton] at member
        exact Or.inr ⟨part, by simp, member⟩
      · rw [joined_cons_of_ne_nil part restNil, List.mem_append, List.mem_cons] at member
        rcases member with inPart | isSeparator | inRest
        · exact Or.inr ⟨part, by simp, inPart⟩
        · exact Or.inl isSeparator
        · rcases ih inRest with isSeparator | ⟨other, inParts, inOther⟩
          · exact Or.inl isSeparator
          · exact Or.inr ⟨other, by simp [inParts], inOther⟩

theorem joined_splitOn (s : Text) : joined [separator] (s.splitOn separator) = s :=
  List.intercalate_splitOn separator

theorem splitOn_joined {parts : List Text} (nonempty : parts ≠ [])
    (apart : ∀ part ∈ parts, separator ∉ part) :
    (joined [separator] parts).splitOn separator = parts :=
  List.splitOn_intercalate separator apart nonempty

/-! ## Lengths -/

theorem length_splitOn (s : Text) : (s.splitOn separator).length = s.count separator + 1 := by
  induction s with
  | nil => simp
  | cons c rest ih =>
      rw [List.splitOn_cons_eq_if_modifyHead]
      by_cases here : c = separator
      · simp [here, ih]
      · simp [here, ih]

/-- Whatever is written with at least one thing for each item is no shorter. -/
theorem length_le_flatMap {α β : Type} {f : α → List β} (some : ∀ a, f a ≠ []) : ∀ items : List α,
    items.length ≤ (items.flatMap f).length := by
  intro items
  induction items with
  | nil => exact Nat.le_refl 0
  | cons item rest ih =>
      have positive := List.length_pos_iff.mpr (some item)
      rw [List.flatMap_cons, List.length_append, List.length_cons]
      omega

theorem length_le_joined (separator : Text) {part : Text} : ∀ {parts : List Text}, part ∈ parts →
    part.length ≤ (joined separator parts).length := by
  intro parts
  induction parts with
  | nil => intro member; cases member
  | cons first others ih =>
      intro member
      by_cases single : others = []
      · rw [single, List.mem_singleton] at member
        have whole : joined separator [first] = part := by
          rw [member, joined, List.intercalate_singleton]
        exact Nat.le_of_eq (by rw [single, whole])
      · rw [joined, List.intercalate_cons_of_ne_nil single, List.length_append,
          List.length_append, ← joined]
        rcases List.mem_cons.mp member with rfl | later
        · omega
        · have := ih later
          omega

theorem count_le_joined (separator : Text) : ∀ {parts : List Text}, (∀ part ∈ parts, part ≠ []) →
    parts.length ≤ (joined separator parts).length := by
  intro parts
  induction parts with
  | nil => exact fun _ => Nat.zero_le _
  | cons first others ih =>
      intro nonempty
      have some : 0 < first.length :=
        List.length_pos_iff.mpr (nonempty first List.mem_cons_self)
      have more := ih fun part member => nonempty part (List.mem_cons_of_mem _ member)
      by_cases single : others = []
      · rw [single, joined, List.intercalate_singleton]
        exact some
      · rw [joined, List.intercalate_cons_of_ne_nil single, List.length_append,
          List.length_append, ← joined, List.length_cons]
        omega

end Text

end SearchShell
