import SearchShell.Proofs.Entries
import SearchShell.Proofs.Json.Writable
import SearchShell.Proofs.Table.Columns

/-!
# What a table shows

A line of the field names and, for each document, a line of what it has under them.  So the order of
the fields in a document does not count, documents in another order give the same lines in that
order, and a document without new names adds its own line.
-/

set_option autoImplicit false

namespace SearchShell

/-! ## Documents with the same fields -/

namespace Members

structure IsReordered (members others : Members) : Prop where
  perm : members.Perm others
  distinct : (members.map Prod.fst).Nodup

theorem IsReordered.get?_eq {members others : Members} (reordered : IsReordered members others)
    (name : Text) : get? name others = get? name members := by
  have distinct : (others.map Prod.fst).Nodup :=
    (reordered.perm.map Prod.fst).nodup_iff.mp reordered.distinct
  rw [get?_eq_entries name distinct, get?_eq_entries name reordered.distinct]
  refine Option.ext fun value => ?_
  rw [← Entries.mem_list_iff, ← Entries.mem_list_iff]
  exact reordered.perm.symm.mem_iff

end Members

open Members (IsReordered)

/-! ## Lines -/

/-- What a document shows under a name: nothing if it has no such field. -/
def shownUnder (room : Nat) (document : Members) (name : Text) : Except WritingFault Text :=
  match Members.get? name document with
  | some value => cellText room value
  | none => .ok []

def documentLine (room : Nat) (names : List Text) (document : Members) :
    Except WritingFault Text :=
  (names.mapM (shownUnder room document)).map tableLine

def tableUnder (room : Nat) (names : List Text) (documents : List Members) :
    Except WritingFault Text :=
  (documents.mapM (documentLine room names)).map fun lines => tableLine names ++ lines.flatten

section Lines

variable {room : Nat}

theorem tableRow_eq (names : List Text) (document : Members) :
    tableRow room names document = names.mapM (shownUnder room document) := by
  refine congrArg (names.mapM ·) (funext fun name => ?_)
  rw [shownUnder, Members.getOrNull]
  cases Members.get? name document with
  | none => rfl
  | some value => rfl

theorem tableText_eq_rows {documents : List Members} (nonempty : documents ≠ []) :
    tableText room documents = (documents.mapM (tableRow room (fieldNames documents))).map
      fun rows => (fieldNames documents :: rows).flatMap tableLine := by
  rw [tableText, if_neg (by simpa using nonempty)]
  dsimp only
  cases documents.mapM (tableRow room (fieldNames documents)) with
  | error fault => rfl
  | ok rows => rfl

theorem tableText_eq {documents : List Members} (nonempty : documents ≠ []) :
    tableText room documents = tableUnder room (fieldNames documents) documents := by
  have lines (names : List Text) :
      documents.mapM (documentLine room names) =
        (documents.mapM (tableRow room names)).map (List.map tableLine) := by
    rw [← Outcome.mapM_map_eq]
    exact congrArg (documents.mapM ·) (funext fun document => by rw [tableRow_eq, documentLine])
  rw [tableText_eq_rows nonempty, tableUnder, lines]
  cases documents.mapM (tableRow room (fieldNames documents)) with
  | error fault => rfl
  | ok rows => simp [Except.map, List.flatMap_def]

/-! ## Cells that can be shown -/

def HasWritableFields (room : Nat) (document : Members) : Prop :=
  ∀ name value, Members.get? name document = some value → value.IsWritable .compact room

/-- A value has a cell exactly when it can be written on one line. -/
theorem exists_cellText_iff (value : Json) :
    (∃ cell, cellText room value = .ok cell) ↔ value.IsWritable .compact room := by
  cases value with
  | null => exact iff_of_true ⟨_, rfl⟩ (.null (Nat.zero_le room))
  | bool b => exact iff_of_true ⟨_, rfl⟩ (.bool b (Nat.zero_le room))
  | float x => exact iff_of_true ⟨_, rfl⟩ (.float x (Nat.zero_le room))
  | string s => exact iff_of_true ⟨_, rfl⟩ (.string s (Nat.zero_le room))
  | integer n =>
      rw [cellText, integerText, Json.exists_render_iff]
      exact ⟨fun | .integer _ short => .integer (Nat.zero_le room) short,
        fun | .integer _ short => .integer (Nat.zero_le 0) short⟩
  | array items => exact Json.exists_render_iff _ _ _
  | object members => exact Json.exists_render_iff _ _ _

/-- What was read can be shown where there is room for as many calls as collections nested in a
field. -/
theorem hasWritableFields_of_readable {depth : Nat} {document : Members} (enough : depth ≤ room)
    (readable : (Json.object document).IsReadable (depth + 1)) :
    HasWritableFields room document := by
  intro name value found
  exact (readable.of_get? found).isWritable enough enough

/-- There is a table exactly when every field of a document has a cell. -/
theorem exists_tableUnder_iff {names : List Text} {documents : List Members}
    (header : IsHeader names documents) :
    (∃ table, tableUnder room names documents = .ok table) ↔
      ∀ document ∈ documents, HasWritableFields room document := by
  have cell (document : Members) (name : Text) :
      (∃ cell, shownUnder room document name = .ok cell) ↔
        ∀ value, Members.get? name document = some value → value.IsWritable .compact room := by
    rw [shownUnder]
    cases Members.get? name document with
    | none => simp
    | some value => simp [exists_cellText_iff]
  have line (document : Members) : (∃ line, documentLine room names document = .ok line) ↔
      ∀ name ∈ names, ∀ value, Members.get? name document = some value →
        value.IsWritable .compact room := by
    simp only [documentLine, Outcome.map_eq_ok_iff, ← cell, ← Outcome.exists_mapM_iff]
    exact ⟨fun ⟨_, cells, shown, _⟩ => ⟨cells, shown⟩, fun ⟨cells, shown⟩ => ⟨_, cells, shown, rfl⟩⟩
  have lines : (∃ table, tableUnder room names documents = .ok table) ↔
      ∀ document ∈ documents, ∃ line, documentLine room names document = .ok line := by
    simp only [tableUnder, Outcome.map_eq_ok_iff, ← Outcome.exists_mapM_iff]
    exact ⟨fun ⟨_, lines, shown, _⟩ => ⟨lines, shown⟩, fun ⟨lines, shown⟩ => ⟨_, lines, shown, rfl⟩⟩
  rw [lines]
  refine forall₂_congr fun document isDocument => (line document).trans ⟨?_, ?_⟩
  · intro each name value found
    have occurs : name ∈ names :=
      (header.complete name).mpr ⟨document, isDocument, value, Members.mem_of_get? found⟩
    exact each name occurs value found
  · exact fun each name _ => each name

end Lines

/-! ## Documents in another order or form -/

theorem IsReordered.documentLine_eq {document other : Members}
    (reordered : IsReordered document other) (room : Nat) (names : List Text) :
    documentLine room names other = documentLine room names document := by
  have shown (name : Text) : shownUnder room other name = shownUnder room document name := by
    rw [shownUnder, reordered.get?_eq, shownUnder]
  rw [documentLine, funext shown, documentLine]

section Reordered

variable {documents others : List Members}

theorem occurs_of_reordered (reordered : List.Forall₂ IsReordered documents others) (name : Text) :
    Occurs name documents ↔ Occurs name others := by
  unfold Occurs
  induction reordered with
  | nil => rfl
  | cons first _ ih => simp only [List.exists_mem_cons_iff, ih, first.perm.mem_iff]

theorem tableUnder_of_reordered (reordered : List.Forall₂ IsReordered documents others)
    (room : Nat) (names : List Text) :
    tableUnder room names others = tableUnder room names documents := by
  have lines :
      others.mapM (documentLine room names) = documents.mapM (documentLine room names) := by
    induction reordered with
    | nil => rfl
    | cons first _ ih =>
        rw [List.mapM_cons, List.mapM_cons, ih, IsReordered.documentLine_eq first]
  rw [tableUnder, tableUnder, lines]

theorem occurs_of_perm (same : documents.Perm others) (name : Text) :
    Occurs name documents ↔ Occurs name others := by
  simp only [Occurs, same.mem_iff]

theorem occurs_append_singleton {document : Members}
    (known : ∀ member ∈ document, Occurs member.1 documents) (name : Text) :
    Occurs name documents ↔ Occurs name (documents ++ [document]) := by
  constructor
  · rintro ⟨other, member, field⟩
    exact ⟨other, List.mem_append_left _ member, field⟩
  · rintro ⟨other, member, value, isMember⟩
    rcases List.mem_append.mp member with before | last
    · exact ⟨other, before, value, isMember⟩
    · rw [List.mem_singleton.mp last] at isMember
      exact known _ isMember

theorem tableUnder_append_singleton (room : Nat) (names : List Text) (document : Members) :
    tableUnder room names (documents ++ [document]) = (do
      let table ← tableUnder room names documents
      let line ← documentLine room names document
      .ok (table ++ line)) := by
  rw [tableUnder, tableUnder, List.mapM_append, List.mapM_cons, List.mapM_nil]
  cases documents.mapM (documentLine room names) with
  | error fault => rfl
  | ok lines =>
      cases documentLine room names document with
      | error fault => rfl
      | ok line => simp [Except.map, bind, Except.bind, pure, Except.pure]

end Reordered

example : tableText cellRoom
    [[(text "b", .integer 2), (text "a", .null)], [], [(text "c", .bool true)]] =
      .ok (text "a\tb\tc\n\t2\t\n\t\t\n\t\ttrue\n") := by
  decide +kernel

end SearchShell
