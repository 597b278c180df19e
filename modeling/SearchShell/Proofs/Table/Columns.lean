import Mathlib.Data.List.Lex
import Mathlib.Data.List.Sort
import SearchShell.Table

/-!
# Columns of a table

The columns are the field names of all documents, each once and in the order of their code points.
So they depend only on which names occur, and not on where or how often.
-/

set_option autoImplicit false

namespace SearchShell

/-! ## The order of names -/

namespace Text

/-- At the first difference the smaller code point comes first, and the end of a text before all. -/
def IsBefore : Text → Text → Prop := List.Lex (InvImage (· < ·) CodePoint.val)

instance : Std.Asymm IsBefore :=
  inferInstanceAs (Std.Asymm (List.Lex (InvImage (· < ·) CodePoint.val)))

theorem precedes_iff (s t : Text) : s.precedes t = true ↔ s.IsBefore t := by
  induction s generalizing t with
  | nil =>
      cases t with
      | nil => simp [precedes, IsBefore]
      | cons b t => simp [precedes, IsBefore]
  | cons a s ih =>
      cases t with
      | nil => simp [precedes, IsBefore]
      | cons b t =>
          by_cases same : a = b
          · subst same
            rw [precedes, if_pos rfl, ih, IsBefore, List.lex_cons_iff]
          · rw [precedes, if_neg same, decide_eq_true_eq]
            constructor
            · intro smaller
              exact .rel smaller
            · intro before
              cases before with
              | rel smaller => exact smaller
              | cons later => exact absurd rfl same

theorem IsBefore.trans {s t u : Text} (first : s.IsBefore t) (second : t.IsBefore u) :
    s.IsBefore u :=
  List.lex_trans (fun smaller => Nat.lt_trans smaller) first second

theorem isBefore_of_not_precedes {s t : Text} (different : s ≠ t) (after : ¬s.precedes t = true) :
    t.IsBefore s := by
  have injective : Function.Injective CodePoint.val := fun _ _ => CodePoint.ext
  have : Std.Trichotomous (InvImage (· < ·) CodePoint.val) := InvImage.trichotomous injective
  rw [precedes_iff] at after
  rcases trichotomous_of (List.Lex (InvImage (· < ·) CodePoint.val)) s t with before | same | before
  · exact absurd before after
  · exact absurd same different
  · exact before

end Text

/-! ## Inserting names -/

theorem mem_insertName {name other : Text} {names : List Text} :
    other ∈ insertName name names ↔ other = name ∨ other ∈ names := by
  induction names with
  | nil => simp [insertName]
  | cons first rest ih =>
      rw [insertName]
      split
      next here =>
        rw [here, List.mem_cons]
        exact ⟨Or.inr, fun known => known.elim Or.inl id⟩
      next =>
        split
        · exact List.mem_cons
        · rw [List.mem_cons, ih, List.mem_cons]
          exact or_left_comm

theorem insertName_ordered (name : Text) {names : List Text}
    (ordered : names.Pairwise Text.IsBefore) :
    (insertName name names).Pairwise Text.IsBefore := by
  induction names with
  | nil => exact List.pairwise_singleton _ _
  | cons first rest ih =>
      obtain ⟨smallest, later⟩ := List.pairwise_cons.mp ordered
      rw [insertName]
      split
      next => exact ordered
      next different =>
        split
        next before =>
          have least := (Text.precedes_iff _ _).mp before
          refine List.pairwise_cons.mpr ⟨?_, ordered⟩
          intro other member
          rcases List.mem_cons.mp member with rfl | behind
          · exact least
          · exact least.trans (smallest other behind)
        next after =>
          refine List.pairwise_cons.mpr ⟨?_, ih later⟩
          intro other member
          rcases mem_insertName.mp member with rfl | behind
          · exact Text.isBefore_of_not_precedes different after
          · exact smallest other behind

/-! ## The header -/

def Occurs (name : Text) (documents : List Members) : Prop :=
  ∃ document ∈ documents, ∃ value, (name, value) ∈ document

structure IsHeader (names : List Text) (documents : List Members) : Prop where
  ordered : names.Pairwise Text.IsBefore
  complete : ∀ name, name ∈ names ↔ Occurs name documents

theorem isHeader_fieldNames (documents : List Members) :
    IsHeader (fieldNames documents) documents := by
  unfold fieldNames
  refine ⟨?_, ?_⟩
  · induction documents.flatMap fun document => document.map Prod.fst with
    | nil => exact .nil
    | cons name names ih => exact insertName_ordered name ih
  · intro name
    have listed : ∀ names : List Text, name ∈ names.foldr insertName [] ↔ name ∈ names := by
      intro names
      induction names with
      | nil => rfl
      | cons first rest ih => rw [List.foldr_cons, mem_insertName, ih, List.mem_cons]
    rw [listed]
    simp [Occurs]

theorem IsHeader.eq_fieldNames {names : List Text} {documents : List Members}
    (header : IsHeader names documents) : names = fieldNames documents := by
  have same := isHeader_fieldNames documents
  exact header.ordered.eq_of_mem_iff same.ordered fun name =>
    (header.complete name).trans (same.complete name).symm

/-- The columns depend only on which names occur. -/
theorem fieldNames_congr {documents others : List Members}
    (same : ∀ name, Occurs name documents ↔ Occurs name others) :
    fieldNames documents = fieldNames others := by
  have header := isHeader_fieldNames documents
  exact IsHeader.eq_fieldNames
    ⟨header.ordered, fun name => (header.complete name).trans (same name)⟩

end SearchShell
