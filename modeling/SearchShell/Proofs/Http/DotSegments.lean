import SearchShell.Http.Path
import SearchShell.Proofs.Text.Pieces

/-!
# Dot segments

A dot segment never survives, and every one makes a path shorter: it goes itself,
and two dots may take the part before them along.  A path without dot segments
stays as it is.
-/

set_option autoImplicit false

namespace SearchShell

namespace Path

def slash : CodePoint := CodePoint.ofChar '/'

def IsDotSegment (part : Text) : Prop := part = text "." ∨ part = text ".."

instance (part : Text) : Decidable (IsDotSegment part) :=
  inferInstanceAs (Decidable (part = text "." ∨ part = text ".."))

theorem text_slash : text "/" = [slash] := by decide

/-! ## Resolving part by part -/

def resolveAll (kept parts : List Text) : List Text := parts.foldl resolveStep kept

@[simp] theorem resolveAll_nil (kept : List Text) : resolveAll kept [] = kept := rfl

@[simp] theorem resolveAll_cons (kept : List Text) (part : Text) (rest : List Text) :
    resolveAll kept (part :: rest) = resolveAll (resolveStep kept part) rest := rfl

theorem resolveAll_append (kept first second : List Text) :
    resolveAll kept (first ++ second) = resolveAll (resolveAll kept first) second := by
  simp [resolveAll]

theorem resolveStep_of_not_dotSegment (kept : List Text) (part : Text)
    (undotted : ¬IsDotSegment part) : resolveStep kept part = kept ++ [part] := by
  obtain ⟨notOne, notTwo⟩ := not_or.mp undotted
  simp [resolveStep, notOne, notTwo]

theorem length_resolveStep_of_dotSegment (kept : List Text) (part : Text)
    (dotted : IsDotSegment part) : (resolveStep kept part).length ≤ kept.length := by
  have ne : text ".." ≠ text "." := by decide
  rcases dotted with rfl | rfl
  · simp [resolveStep]
  · simp only [resolveStep, ne, if_true, if_false]
    split
    · exact Nat.le_refl _
    · simp

theorem mem_resolveStep {kept : List Text} {part other : Text}
    (member : other ∈ resolveStep kept part) :
    other ∈ kept ∨ other = part ∧ ¬IsDotSegment part := by
  by_cases dotted : IsDotSegment part
  · left
    have ne : text ".." ≠ text "." := by decide
    rcases dotted with rfl | rfl
    · simpa [resolveStep] using member
    · simp only [resolveStep, ne, if_true, if_false] at member
      split at member
      · exact member
      · exact List.mem_of_mem_take (List.dropLast_eq_take ▸ member)
  · rw [resolveStep_of_not_dotSegment kept part dotted, List.mem_append,
      List.mem_singleton] at member
    rcases member with inKept | rfl
    · exact Or.inl inKept
    · exact Or.inr ⟨rfl, dotted⟩

/-- Only parts that are no dot segments are added. -/
theorem mem_resolveAll : ∀ {parts kept : List Text} {other : Text},
    other ∈ resolveAll kept parts → other ∈ kept ∨ other ∈ parts ∧ ¬IsDotSegment other := by
  intro parts
  induction parts with
  | nil => intro kept other member; exact Or.inl member
  | cons part rest ih =>
      intro kept other member
      rcases ih member with inStep | ⟨inRest, undotted⟩
      · rcases mem_resolveStep inStep with inKept | ⟨rfl, undotted⟩
        · exact Or.inl inKept
        · exact Or.inr ⟨by simp, undotted⟩
      · exact Or.inr ⟨by simp [inRest], undotted⟩

theorem resolveAll_of_undotted : ∀ (parts kept : List Text),
    (∀ part ∈ parts, ¬IsDotSegment part) → resolveAll kept parts = kept ++ parts := by
  intro parts
  induction parts with
  | nil => intro kept _; simp
  | cons part rest ih =>
      intro kept undotted
      rw [resolveAll_cons, resolveStep_of_not_dotSegment kept part (undotted part (by simp)),
        ih _ (fun other member => undotted other (by simp [member]))]
      simp

theorem length_resolveStep_le (kept : List Text) (part : Text) :
    (resolveStep kept part).length ≤ kept.length + 1 := by
  by_cases dotted : IsDotSegment part
  · have := length_resolveStep_of_dotSegment kept part dotted
    omega
  · rw [resolveStep_of_not_dotSegment kept part dotted]
    simp

theorem length_resolveAll_le : ∀ (parts kept : List Text),
    (resolveAll kept parts).length ≤ kept.length + parts.length := by
  intro parts
  induction parts with
  | nil => intro kept; simp
  | cons part rest ih =>
      intro kept
      have step := length_resolveStep_le kept part
      have later := ih (resolveStep kept part)
      simp only [resolveAll_cons, List.length_cons]
      omega

/-- A dot segment among the parts shows in the number of those that are kept. -/
theorem length_resolveAll_lt : ∀ (parts kept : List Text),
    (∃ part ∈ parts, IsDotSegment part) →
      (resolveAll kept parts).length < kept.length + parts.length := by
  intro parts
  induction parts with
  | nil => rintro kept ⟨part, member, -⟩; simp at member
  | cons part rest ih =>
      rintro kept ⟨dot, member, dotted⟩
      simp only [resolveAll_cons, List.length_cons]
      rcases List.mem_cons.mp member with rfl | later
      · have step := length_resolveStep_of_dotSegment kept dot dotted
        have after := length_resolveAll_le rest (resolveStep kept dot)
        omega
      · have step := length_resolveStep_le kept part
        have after := ih (resolveStep kept part) ⟨dot, later, dotted⟩
        omega

/-! ## Whole paths -/

theorem resolveDots_eq (path : Text) :
    resolveDots path = Text.joined [slash] (resolveAll [] (path.splitOn slash)) := by
  rw [resolveDots, text_slash]
  rfl

theorem mem_resolveAll_splitOn {path part : Text}
    (member : part ∈ resolveAll [] (path.splitOn slash)) :
    part ∈ path.splitOn slash ∧ ¬IsDotSegment part := by
  rcases mem_resolveAll member with impossible | inPath
  · simp at impossible
  · exact inPath

/-- The parts of a resolved path: those that were kept, or one empty part when none was. -/
theorem splitOn_resolveDots (path : Text) :
    (resolveDots path).splitOn slash =
      if resolveAll [] (path.splitOn slash) = [] then [[]]
      else resolveAll [] (path.splitOn slash) := by
  rw [resolveDots_eq]
  split
  next none => rw [none]; rfl
  next some =>
    apply Text.splitOn_joined some
    intro part member
    exact Text.not_mem_of_mem_splitOn (mem_resolveAll_splitOn member).1

theorem undotted_resolveDots (path : Text) :
    ∀ part ∈ (resolveDots path).splitOn slash, ¬IsDotSegment part := by
  intro part member
  rw [splitOn_resolveDots] at member
  split at member
  · rw [List.mem_singleton] at member
    subst member
    decide
  · exact (mem_resolveAll_splitOn member).2

theorem resolveDots_of_undotted {path : Text}
    (undotted : ∀ part ∈ path.splitOn slash, ¬IsDotSegment part) : resolveDots path = path := by
  rw [resolveDots_eq, resolveAll_of_undotted _ _ undotted, List.nil_append, Text.joined_splitOn]

theorem mem_resolveDots {path : Text} {c : CodePoint} (member : c ∈ resolveDots path) :
    c = slash ∨ c ∈ path := by
  rw [resolveDots_eq] at member
  rcases Text.mem_joined member with isSlash | ⟨part, kept, inPart⟩
  · exact Or.inl isSlash
  · exact Or.inr (Text.mem_of_mem_splitOn (mem_resolveAll_splitOn kept).1 inPart).1

end Path

end SearchShell
