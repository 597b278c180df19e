import SearchShell.Engine.Basic
import SearchShell.Proofs.Entries
import SearchShell.Proofs.Json.Writable
import SearchShell.Proofs.Number.Nearest
import SearchShell.Proofs.Table.Contents

/-!
# Answers that can be shown

An answer that could be read can be shown.  A document lies some collections deep in its answer, so
that it nests less than there is room for; and a total is read from a short integer, from the digits
of a text, which are as few, or from a double.
-/

set_option autoImplicit false

namespace SearchShell

open JsonReader (IsShort)

/-! ## Short integers -/

theorem digitValue?_lt {c : CodePoint} {d : Nat} (isDigit : c.digitValue? = some d) : d < 10 := by
  obtain ⟨start, found, rfl⟩ := Option.map_eq_some_iff.mp isDigit
  have within := List.find?_some found
  simp only [Bool.and_eq_true, decide_eq_true_eq] at within
  omega

theorem isShort_of_readInteger {s : Text} {n : Int} (read : readInteger s = .ok n) :
    IsShort n := by
  unfold readInteger at read
  simp only at read
  split at read
  next => cases read
  next =>
    split at read
    next => cases read
    next few =>
      split at read
      next => cases read
      next =>
        cases read
        rw [IsShort, JsonReader.natAbs_signedInt]
        refine Nat.lt_of_lt_of_le (Text.decimalValue_lt fun d member => ?_)
          (Nat.pow_le_pow_right (by decide) (Nat.not_lt.mp few))
        obtain ⟨c, -, isDigit⟩ := List.mem_filterMap.mp member
        exact digitValue?_lt isDigit

theorem isShort_of_lt {n : Int} (bits : Nat) (few : bits ≤ digitLimit)
    (small : n.natAbs < 2 ^ bits) : IsShort n :=
  calc n.natAbs
    _ < 2 ^ bits := small
    _ ≤ 10 ^ bits := Nat.pow_le_pow_left (by decide) bits
    _ ≤ 10 ^ digitLimit := Nat.pow_le_pow_right (by decide) few

theorem isShort_zero : IsShort 0 := isShort_of_lt 0 (by decide) (by decide)

theorem isShort_truncated (x : Binary64) : IsShort x.truncated := by
  cases x with
  | nan | infinite negative => exact isShort_zero
  | finite negative rank =>
      have whole : Binary64.units rank / Binary64.unitsPerOne < 2 ^ 2098 :=
        Nat.lt_of_le_of_lt (Nat.div_le_self _ _) (Binary64.units_lt rank.isLt)
      apply isShort_of_lt 2098 (by decide)
      cases negative with
      | false => exact whole
      | true =>
          rw [Binary64.truncated, if_pos rfl, Int.natAbs_neg]
          exact whole

namespace Json

variable {depth : Nat} {value : Json} {n : Int}

theorem isShort_of_toInteger (readable : value.IsReadable depth)
    (read : value.toInteger = .ok n) : IsShort n := by
  unfold toInteger at read
  split at read
  next =>
    cases read
    cases readable with
    | integer short => exact short
  next =>
    cases read
    apply isShort_of_lt 1 (by decide)
    split
    · decide
    · decide
  next => cases read
  next => cases read
  next x _ _ =>
    cases read
    exact isShort_truncated x
  next s => exact isShort_of_readInteger ((Outcome.mapError_eq_ok_iff _ _ _).mp read)
  next => cases read

/-! ## Parts of answers -/

section Parts

variable {members : Members} {name : Text}

theorem IsReadable.of_getD {other : Json} (readable : (Json.object members).IsReadable (depth + 1))
    (otherwise : other.IsReadable depth) :
    ((Members.get? name members).getD other).IsReadable depth := by
  cases found : Members.get? name members with
  | none => exact otherwise
  | some value => exact readable.of_get? found

theorem isReadable_object_nil (depth : Nat) : (Json.object []).IsReadable (depth + 1) :=
  .object List.nodup_nil nofun

theorem IsReadable.sourceOf (readable : (Json.object members).IsReadable (depth + 2)) :
    (Hits.sourceOf members).IsReadable (depth + 1) := by
  unfold Hits.sourceOf Members.getOrNull
  dsimp only
  split
  · exact readable.of_getD .null
  · exact isReadable_object_nil depth

theorem IsReadable.of_members (readable : value.IsReadable depth)
    (isObject : value.members = .ok members) : (Json.object members).IsReadable depth := by
  cases value with
  | object others =>
      cases isObject
      exact readable
  | null | bool b | integer n | float x | string s | array items => cases isObject

theorem IsReadable.of_items {items : List Json} (readable : value.IsReadable (depth + 1))
    (listed : value.items = .ok items) : ∀ item ∈ items, item.IsReadable depth := by
  cases value with
  | array items =>
      cases listed
      cases readable with
      | array each => exact each
  | object members =>
      cases listed
      exact List.forall_mem_map.mpr fun member _ => .string member.1
  | string s =>
      cases listed
      exact List.forall_mem_map.mpr fun c _ => .string [c]
  | null | bool b | integer n | float x => cases listed

end Parts

end Json

/-! ## Hits -/

namespace Hits

open Json (IsReadable)

variable {depth : Nat}

theorem isShort_of_totalOf {hits : Members} {total : Int}
    (readable : (Json.object hits).IsReadable (depth + 2)) (read : totalOf hits = .ok total) :
    IsShort total := by
  unfold totalOf at read
  split at read
  next =>
    cases read
    exact isShort_zero
  next wrapped found =>
    exact Json.isShort_of_toInteger ((readable.of_get? found).of_getD (.integer isShort_zero)) read
  next value found =>
    split at read
    next => exact Json.isShort_of_toInteger (readable.of_get? found) read
    next =>
      cases read
      exact isShort_zero

theorem mem_of_documentsOf {sources : List Json} {documents : List Members}
    (read : documentsOf sources = .ok documents) :
    ∀ document ∈ documents, .object document ∈ sources := by
  unfold documentsOf at read
  simp only at read
  split at read
  next =>
    cases read
    intro document member
    obtain ⟨source, isSource, shape⟩ := List.mem_filterMap.mp member
    split at shape
    next =>
      cases shape
      exact isSource
    next => cases shape
  next => cases read

/-- What is read from an answer has a short total, and documents that lie deep in the answer. -/
theorem ofJson_readable {answer : Json} {hits : Hits} (readable : answer.IsReadable (depth + 5))
    (read : ofJson answer = .ok hits) : IsShort hits.total ∧
      ∀ document ∈ hits.documents, (Json.object document).IsReadable (depth + 1) := by
  unfold ofJson at read
  simp only [Outcome.bind_eq_ok_iff] at read
  obtain ⟨fields, isObject, found, isFound, total, hasTotal, items, listed, sources, hasSources,
    documents, hasDocuments, isHits⟩ := read
  cases isHits
  have inFound : (Json.object found).IsReadable (depth + 4) :=
    ((readable.of_members isObject).of_getD (Json.isReadable_object_nil _)).of_members isFound
  have inItems : ∀ item ∈ items, item.IsReadable (depth + 2) :=
    (inFound.of_getD (.array (List.forall_mem_nil _))).of_items listed
  refine ⟨isShort_of_totalOf inFound hasTotal, fun document member => ?_⟩
  obtain ⟨item, isItem, isSource⟩ :=
    Outcome.exists_of_mem_mapM hasSources (mem_of_documentsOf hasDocuments document member)
  obtain ⟨hit, isHit, same⟩ := (Outcome.map_eq_ok_iff _ _ _).mp isSource
  rw [← same]
  exact ((inItems item isItem).of_members isHit).sourceOf

end Hits

/-! ## Showing -/

theorem integerText_eq_ok_iff (n : Int) (s : Text) :
    integerText n = .ok s ↔ IsShort n ∧ Text.ofInt n = s := by
  rw [integerText, Json.render_eq_ok_iff]
  refine and_congr_left fun _ => ⟨fun writable => ?_, .integer (Nat.zero_le 0)⟩
  cases writable with
  | integer _ short => exact short

theorem exists_tableText {depth room : Nat} {documents : List Members} (enough : depth ≤ room)
    (each : ∀ document ∈ documents, (Json.object document).IsReadable (depth + 1)) :
    ∃ table, tableText room documents = .ok table := by
  by_cases empty : documents = []
  · exact ⟨[], by rw [empty]; rfl⟩
  · rw [tableText_eq empty, exists_tableUnder_iff (isHeader_fieldNames documents)]
    exact fun document member => hasWritableFields_of_readable enough (each document member)

theorem exists_documentText_sourceOf {members : Members}
    (readable : (Json.object members).IsReadable JsonReader.nestingLimit) :
    ∃ body, documentText documentRoom (Hits.sourceOf members) = .ok body := by
  have within : (Hits.sourceOf members).IsReadable 991 := readable.sourceOf
  have writable : (Hits.sourceOf members).IsWritable .indented documentRoom :=
    within.isWritable (by decide) (by decide)
  exact (Json.exists_render_iff _ _ _).mpr writable

theorem Hits.exists_tableText {answer : Json} {hits : Hits}
    (readable : answer.IsReadable JsonReader.nestingLimit) (read : ofJson answer = .ok hits) :
    ∃ table, tableText cellRoom hits.documents = .ok table := by
  have within : answer.IsReadable (987 + 5) := readable
  exact SearchShell.exists_tableText (by decide) (ofJson_readable within read).2

theorem Hits.integerText_total {answer : Json} {hits : Hits}
    (readable : answer.IsReadable JsonReader.nestingLimit) (read : ofJson answer = .ok hits) :
    integerText hits.total = .ok (Text.ofInt hits.total) := by
  have within : answer.IsReadable (987 + 5) := readable
  exact (integerText_eq_ok_iff _ _).mpr ⟨(ofJson_readable within read).1, rfl⟩

end SearchShell
