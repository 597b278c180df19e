import Mathlib.Algebra.BigOperators.Group.List.Basic
import Mathlib.Algebra.Order.BigOperators.Group.List
import SearchShell.Proofs.Json.OneLine
import SearchShell.Proofs.Table.Contents

/-!
# Rows and cells that can be told apart

Cells are written as they are, with tabs and line breaks as the only marks between them.  So a
table falls into its rows and cells exactly when neither mark is in a field name or in a text under
one; no other value has one in its cell.
-/

set_option autoImplicit false

namespace SearchShell

/-! ## Counting marks -/

namespace Text

variable {separator : CodePoint}

/-- What is joined holds what the parts hold, and a separator between any two of them. -/
theorem count_joined (c : CodePoint) (parts : List Text) :
    (joined [separator] parts).count c =
      (parts.map (List.count c)).sum + if separator = c then parts.length - 1 else 0 := by
  induction parts with
  | nil => simp [joined]
  | cons part rest ih =>
      by_cases single : rest = []
      · simp [single, joined_singleton]
      · have positive := List.length_pos_iff.mpr single
        rw [joined_cons_of_ne_nil part single, List.count_append, List.count_cons, ih]
        by_cases isMark : separator = c
        · simp [isMark]
          omega
        · simp [isMark]

abbrev tab : CodePoint := CodePoint.ofChar '\t'

abbrev lineBreak : CodePoint := CodePoint.ofChar '\n'

structure FitsCell (s : Text) : Prop where
  noTab : tab ∉ s
  noBreak : lineBreak ∉ s

theorem IsVisible.fitsCell {s : Text} (visible : s.IsVisible) : s.FitsCell := by
  refine ⟨?_, ?_⟩
  · exact fun member => absurd (visible _ member) (by decide)
  · exact fun member => absurd (visible _ member) (by decide)

end Text

open Text (tab lineBreak)

/-! ## Lines of cells -/

/-- The text falls into as many lines as there are rows, each with a tab between any two of as many
cells as there are columns, and ends behind the last line. -/
def IsGrid (table : Text) (rows columns : Nat) : Prop :=
  ∃ lines : List Text, table.splitOn lineBreak = lines ++ [[]] ∧ lines.length = rows ∧
    ∀ line ∈ lines, line.count tab = columns - 1

section Lines

variable {rows : List (List Text)}

theorem tableLine_append (cells : List Text) (rest : Text) :
    tableLine cells ++ rest = Text.joined [tab] cells ++ lineBreak :: rest := by
  simp [tableLine, text]

theorem count_lineBreak (rows : List (List Text)) :
    (rows.flatMap tableLine).count lineBreak =
      rows.length + (rows.flatten.map (List.count lineBreak)).sum := by
  induction rows with
  | nil => rfl
  | cons cells rest ih =>
      have inside := @Text.count_joined tab lineBreak cells
      rw [if_neg (by decide)] at inside
      rw [List.flatMap_cons, tableLine_append, List.count_append, List.count_cons_self, ih, inside,
        List.flatten_cons, List.map_append, List.sum_append, List.length_cons]
      omega

theorem splitOn_lines (whole : ∀ cell ∈ rows.flatten, lineBreak ∉ cell) :
    (rows.flatMap tableLine).splitOn lineBreak = rows.map (Text.joined [tab]) ++ [[]] := by
  induction rows with
  | nil => simp
  | cons cells rest ih =>
      rw [List.flatten_cons, List.forall_mem_append] at whole
      have apart : lineBreak ∉ Text.joined [tab] cells := by
        intro member
        rcases Text.mem_joined member with isTab | ⟨cell, isCell, inside⟩
        · exact absurd isTab (by decide)
        · exact whole.1 cell isCell inside
      rw [List.flatMap_cons, tableLine_append, List.splitOn_append_cons_self_of_not_mem apart,
        ih whole.2]
      rfl

theorem count_tab_iff (cells : List Text) :
    (Text.joined [tab] cells).count tab = cells.length - 1 ↔ ∀ cell ∈ cells, tab ∉ cell := by
  have count := @Text.count_joined tab tab cells
  rw [if_pos rfl] at count
  have nothing : (cells.map (List.count tab)).sum = 0 ↔ ∀ cell ∈ cells, tab ∉ cell := by
    simp [List.sum_eq_zero_iff, List.count_eq_zero]
  rw [← nothing]
  omega

/-- Rows of one width make a grid exactly when every cell fits. -/
theorem isGrid_iff {columns : Nat} (width : ∀ row ∈ rows, row.length = columns) :
    IsGrid (rows.flatMap tableLine) rows.length columns ↔
      ∀ cell ∈ rows.flatten, cell.FitsCell := by
  constructor
  · rintro ⟨lines, split, count, each⟩
    have total := @Text.length_splitOn lineBreak (rows.flatMap tableLine)
    rw [split, List.length_append, count, count_lineBreak, List.length_singleton] at total
    have nothing : (rows.flatten.map (List.count lineBreak)).sum = 0 := by omega
    have whole : ∀ cell ∈ rows.flatten, lineBreak ∉ cell := by
      intro cell member
      rw [List.sum_eq_zero_iff] at nothing
      exact List.count_eq_zero.mp (nothing _ (List.mem_map_of_mem member))
    -- Now the lines are the joined rows, so that all tabs in them stand between cells.
    rw [splitOn_lines whole] at split
    have sameLines := List.append_cancel_right split
    intro cell member
    obtain ⟨row, isRow, isCell⟩ := List.mem_flatten.mp member
    have between := each _ (sameLines ▸ List.mem_map_of_mem isRow)
    rw [← width row isRow, count_tab_iff] at between
    exact ⟨between cell isCell, whole cell member⟩
  · intro fits
    refine ⟨_, splitOn_lines fun cell member => (fits cell member).noBreak, List.length_map _, ?_⟩
    refine List.forall_mem_map.mpr fun row isRow => ?_
    rw [← width row isRow, count_tab_iff]
    exact fun cell isCell => (fits cell (List.mem_flatten.mpr ⟨row, isRow, isCell⟩)).noTab

/-- Rows whose cells fit are read off the lines. -/
theorem cells_of_lines (nonempty : ∀ row ∈ rows, row ≠ [])
    (fits : ∀ cell ∈ rows.flatten, cell.FitsCell) :
    ((rows.flatMap tableLine).splitOn lineBreak).dropLast.map (List.splitOn tab) = rows := by
  rw [splitOn_lines fun cell member => (fits cell member).noBreak, List.dropLast_concat,
    List.map_map]
  refine (List.map_congr_left fun row isRow => ?_).trans (List.map_id rows)
  exact Text.splitOn_joined (nonempty row isRow) fun cell isCell =>
    (fits cell (List.mem_flatten.mpr ⟨row, isRow, isCell⟩)).noTab

end Lines

/-! ## Cells -/

theorem fitsCell_of_render {room : Nat} {value : Json} {cell : Text}
    (written : value.render .compact room = .ok cell) : cell.FitsCell := by
  obtain ⟨-, rfl⟩ := (Json.render_eq_ok_iff _ _ _ _).mp written
  exact (Json.isVisible_write value 0).fitsCell

theorem cellText_fitsCell_iff {room : Nat} {value : Json} {cell : Text}
    (shown : cellText room value = .ok cell) :
    cell.FitsCell ↔ ∀ s, value = .string s → s.FitsCell := by
  have words : (text "true").IsVisible ∧ (text "false").IsVisible := by decide
  cases value with
  | string s =>
      cases shown
      simp
  | null =>
      cases shown
      simpa using Text.isVisible_nil.fitsCell
  | bool b =>
      cases shown
      cases b with
      | true => simpa using words.1.fitsCell
      | false => simpa using words.2.fitsCell
  | float x =>
      cases shown
      simpa using (Text.isVisible_plain x).fitsCell
  | integer n =>
      rw [cellText, integerText] at shown
      simpa using fitsCell_of_render shown
  | array items => simpa using fitsCell_of_render shown
  | object members => simpa using fitsCell_of_render shown

/-! ## Documents -/

def HasPlainFields (document : Members) : Prop :=
  ∀ name value, Members.get? name document = some value →
    name.FitsCell ∧ ∀ s, value = .string s → s.FitsCell

section Documents

variable {room : Nat} {documents : List Members} {names : List Text} {rows : List (List Text)}

theorem fitsCell_iff_of_shownUnder {document : Members} {name cell : Text}
    (shown : shownUnder room document name = .ok cell) :
    cell.FitsCell ↔ ∀ s, Members.get? name document = some (.string s) → s.FitsCell := by
  unfold shownUnder at shown
  cases found : Members.get? name document with
  | none =>
      rw [found] at shown
      cases shown
      exact ⟨fun _ => nofun, fun _ => Text.isVisible_nil.fitsCell⟩
  | some value =>
      rw [found] at shown
      simp [cellText_fitsCell_iff shown]

def AreRows (room : Nat) (names : List Text) (documents : List Members)
    (rows : List (List Text)) : Prop :=
  documents.mapM (fun document => names.mapM (shownUnder room document)) = .ok rows

theorem tableText_eq_ok_iff (nonempty : documents ≠ []) (table : Text) :
    tableText room documents = .ok table ↔
      ∃ rows, AreRows room (fieldNames documents) documents rows ∧
        (fieldNames documents :: rows).flatMap tableLine = table := by
  rw [tableText_eq_rows nonempty, Outcome.map_eq_ok_iff, funext (tableRow_eq _)]
  rfl

theorem AreRows.length_eq (areRows : AreRows room names documents rows) :
    rows.length = documents.length :=
  ((Outcome.mapM_eq_ok_iff _ _ _).mp areRows).length_eq.symm

theorem AreRows.width (areRows : AreRows room names documents rows) :
    ∀ row ∈ names :: rows, row.length = names.length := by
  refine List.forall_mem_cons.mpr ⟨rfl, ?_⟩
  refine (Outcome.forall_mem_mapM_iff areRows fun document row shown => ?_).mpr fun _ _ => trivial
  exact iff_true_intro ((Outcome.mapM_eq_ok_iff _ _ _).mp shown).length_eq.symm

theorem AreRows.fit_iff (areRows : AreRows room names documents rows)
    (header : IsHeader names documents) :
    (∀ cell ∈ (names :: rows).flatten, cell.FitsCell) ↔
      ∀ document ∈ documents, HasPlainFields document := by
  have cells : (∀ row ∈ rows, ∀ cell ∈ row, cell.FitsCell) ↔ ∀ document ∈ documents,
      ∀ name ∈ names, ∀ s, Members.get? name document = some (.string s) → s.FitsCell :=
    Outcome.forall_mem_mapM_iff areRows fun document row shown =>
      Outcome.forall_mem_mapM_iff shown fun name cell => fitsCell_iff_of_shownUnder
  rw [List.flatten_cons, List.forall_mem_append, List.forall_mem_flatten, cells]
  constructor
  · rintro ⟨namesFit, cellsFit⟩ document isDocument name value found
    have occurs : name ∈ names :=
      (header.complete name).mpr ⟨document, isDocument, value, Members.mem_of_get? found⟩
    refine ⟨namesFit name occurs, ?_⟩
    rintro s rfl
    exact cellsFit document isDocument name occurs s found
  · intro plain
    refine ⟨?_, ?_⟩
    · intro name occurs
      obtain ⟨document, isDocument, value, isMember⟩ := (header.complete name).mp occurs
      obtain ⟨found, isFound⟩ :=
        Option.isSome_iff_exists.mp ((Members.isSome_get?_iff name document).mpr ⟨value, isMember⟩)
      exact (plain document isDocument name found isFound).1
    · intro document isDocument name _ s found
      exact (plain document isDocument name _ found).2 s rfl

end Documents

/-- A table falls into one line for the header and one for each document, with a cell for each field
name, exactly when all fields are plain.  Its cells are then read off its lines. -/
theorem table_is_grid_iff (room : Nat) (first : Members) (rest : List Members) :
    let documents := first :: rest
    ∃ names, IsHeader names documents ∧
      ((∃ table, tableText room documents = .ok table ∧
          IsGrid table (documents.length + 1) names.length) ↔
        ∀ document ∈ documents, HasWritableFields room document ∧ HasPlainFields document) ∧
      ∀ table, tableText room documents = .ok table →
        (IsGrid table (documents.length + 1) names.length ↔
          ∀ document ∈ documents, HasPlainFields document) ∧
        (names ≠ [] → (∀ document ∈ documents, HasPlainFields document) →
          ∃ rows, AreRows room names documents rows ∧
            (table.splitOn lineBreak).dropLast.map (List.splitOn tab) = names :: rows) := by
  intro documents
  have nonempty : documents ≠ [] := List.cons_ne_nil first rest
  have header := isHeader_fieldNames documents
  have isGrid (table : Text) (shown : tableText room documents = .ok table) :
      IsGrid table (documents.length + 1) (fieldNames documents).length ↔
        ∀ document ∈ documents, HasPlainFields document := by
    obtain ⟨rows, areRows, rfl⟩ := (tableText_eq_ok_iff nonempty table).mp shown
    have count : (fieldNames documents :: rows).length = documents.length + 1 :=
      congrArg (· + 1) areRows.length_eq
    rw [← areRows.fit_iff header, ← isGrid_iff areRows.width, count]
  refine ⟨fieldNames documents, header, ?_, fun table shown => ⟨isGrid table shown, ?_⟩⟩
  · rw [forall₂_and, ← exists_tableUnder_iff header, ← tableText_eq nonempty]
    constructor
    · rintro ⟨table, shown, grid⟩
      exact ⟨⟨table, shown⟩, (isGrid table shown).mp grid⟩
    · rintro ⟨⟨table, shown⟩, plain⟩
      exact ⟨table, shown, (isGrid table shown).mpr plain⟩
  · intro named plain
    obtain ⟨rows, areRows, rfl⟩ := (tableText_eq_ok_iff nonempty table).mp shown
    refine ⟨rows, areRows, cells_of_lines ?_ ((areRows.fit_iff header).mpr plain)⟩
    intro row isRow
    have positive := List.length_pos_iff.mpr named
    exact List.length_pos_iff.mp (areRows.width row isRow ▸ positive)

/-- A tab in a text gives its row a cell more than there are columns. -/
theorem tab_adds_cell :
    let documents := [[(text "a", Json.string (text "x\ty"))]]
    IsHeader [text "a"] documents ∧
      ∃ table, tableText cellRoom documents = .ok table ∧ ¬IsGrid table 2 1 := by
  intro documents
  refine ⟨isHeader_fieldNames documents, text "a\nx\ty\n", by decide, ?_⟩
  rintro ⟨lines, split, -, each⟩
  have written : (text "a\nx\ty\n").splitOn lineBreak = [text "a", text "x\ty"] ++ [[]] := by
    decide
  rw [written] at split
  have row := each (text "x\ty") (List.append_cancel_right split ▸ by simp)
  exact absurd row (by decide)

end SearchShell
