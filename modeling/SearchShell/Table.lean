import SearchShell.Json.Printer

/-!
# Tables and documents

Hits are shown as a table: a header with all field names in order, then a line
for each document, the cells separated by tabs.  A single document is shown as
indented JSON.
-/

set_option autoImplicit false

namespace SearchShell

/-- How many calls can be inside one another where a command has its document written, and where
it has a cell written: of the thousand that there is room for, those that are not in progress then
when nothing runs but the command. -/
def documentRoom : Nat := 993

def cellRoom : Nat := 989

def integerText (n : Int) : Except WritingFault Text := (Json.integer n).render .compact 0

def cellText (room : Nat) : Json → Except WritingFault Text
  | .null => .ok []
  | .bool b => .ok (if b then text "true" else text "false")
  | .integer n => integerText n
  | .float x => .ok (Text.ofBinary64 FloatStyle.plain x)
  | .string s => .ok s
  | .array items => (Json.array items).render .compact room
  | .object members => (Json.object members).render .compact room

/-- Inserts a name into a strictly ordered list, unless it is there. -/
def insertName (name : Text) : List Text → List Text
  | [] => [name]
  | first :: rest =>
      if name = first then first :: rest
      else if name.precedes first then name :: first :: rest
      else first :: insertName name rest

/-- All field names of the documents, in strict order of their code points. -/
def fieldNames (documents : List Members) : List Text :=
  (documents.flatMap fun document => document.map Prod.fst).foldr insertName []

def tableLine (cells : List Text) : Text := Text.joined (text "\t") cells ++ text "\n"

def tableRow (room : Nat) (names : List Text) (document : Members) :
    Except WritingFault (List Text) :=
  names.mapM fun name => cellText room (Members.getOrNull name document)

/-- The documents as a table; no table for no documents. -/
def tableText (room : Nat) (documents : List Members) : Except WritingFault Text :=
  if documents.isEmpty then .ok []
  else do
    let names := fieldNames documents
    let rows ← documents.mapM (tableRow room names)
    .ok (tableLine names ++ rows.flatMap tableLine)

def documentText (room : Nat) (document : Json) : Except WritingFault Text :=
  document.render .indented room

end SearchShell
