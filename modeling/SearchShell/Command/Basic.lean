import SearchShell.Fault
import SearchShell.Refusal
import SearchShell.Text.Lower

/-!
# Commands

A command line is a verb, a path and an optional payload, separated by blanks.
The payload keeps its inner blanks and line breaks.
-/

set_option autoImplicit false

namespace SearchShell

inductive Verb where
  | get
  | count
  | search
  | index
  | delete
deriving DecidableEq

namespace Verb

def word : Verb → Text
  | get => text "get"
  | count => text "count"
  | search => text "search"
  | index => text "index"
  | delete => text "delete"

def all : List Verb := [get, count, search, index, delete]

def ofWord? (raw : Text) : Option Verb := all.find? fun verb => verb.word = raw.toLower

def offered : List Verb := [search, get, index, delete, count]

def completions (cursor : Int) : List Text := if cursor = 0 then offered.map word else []

end Verb

structure Command where
  verb : Text
  path : Text
  payload : Option Text
  segments : List Text
deriving DecidableEq

def pathSegments (path : Text) : List Text := Text.pieces '/' path.trim

namespace Command

/-- Takes a line apart.  It must have a verb and a path. -/
def ofLine (line : Text) : Except Refusal Command :=
  let trimmed := line.trim
  let verb := trimmed.firstWord
  let path := trimmed.afterWord.firstWord
  let payload := trimmed.afterWord.afterWord
  if path.isEmpty then .error .missingArguments
  else .ok {
    verb := verb
    path := path
    payload := if payload.isEmpty then none else some payload
    segments := pathSegments path }

end Command

/-! ## What a path addresses

The first three parts of a path are read as container, collection and document.
Where a search may go to several containers or collections, their names are
separated by commas. -/

def listedNames (list : Option Text) : List Text := Text.pieces ',' (list.getD [])

structure Resource where
  container : Option Text
  collection : Option Text
  documentId : Option Text
deriving DecidableEq

namespace Resource

def ofSegments (segments : List Text) : Resource :=
  ⟨segments[0]?, segments[1]?, segments[2]?⟩

def containers (path : Resource) : List Text := listedNames path.container

def collections (path : Resource) : List Text := listedNames path.collection

end Resource

structure DocumentAddress where
  index : Text
  type : Text
  id : Text
deriving DecidableEq

/-- Where a search looks.  An empty list stands for everything. -/
structure SearchScope where
  indices : List Text
  types : List Text
deriving DecidableEq

/-- Where a document is written; without an id the engine picks one. -/
structure WriteTarget where
  index : Text
  type : Text
  id : Option Text
deriving DecidableEq

/-- Nothing but blanks, or nothing at all, names no document. -/
def DocumentAddress.ofSegments (segments : List Text) : Except Refusal DocumentAddress :=
  match segments with
  | [index, type, id] =>
      if index.isBlank || type.isBlank || id.isBlank then .error (.badPath .document)
      else .ok ⟨index, type, id⟩
  | _ => .error (.badPath .document)

def SearchScope.ofSegments (segments : List Text) : Except Refusal SearchScope :=
  let path := Resource.ofSegments segments
  if segments.length > 2 then .error (.badPath .search)
  else .ok ⟨path.containers, path.collections⟩

def WriteTarget.ofSegments (segments : List Text) : Except Refusal WriteTarget :=
  match segments with
  | [index, type] => .ok ⟨index, type, none⟩
  | [index, type, id] => .ok ⟨index, type, some id⟩
  | _ => .error (.badPath .index)

/-! ## Payloads

An index command carries a JSON object.  A search carries a size and possibly a
query, which is a JSON object too; in the request the size goes into the query. -/

/-- Reads an object that nests at most `depth` collections, itself included. -/
def readObjectWithin (depth : Nat) (s : Text) : Except Fault Members :=
  match Json.read depth s with
  | .ok (.object members) => .ok members
  | .ok other => .error (.refused (.invalidJson (.notObject other.kindName)))
  | .error (.malformed defect place) => .error (.refused (.invalidJson (.malformed defect place)))
  | .error fault => .error (.json fault)

def readObject (s : Text) : Except Fault Members := readObjectWithin JsonReader.nestingLimit s

def readDocument (payload : Option Text) : Except Fault Members :=
  match payload with
  | none | some [] => .error (.refused (.invalidJson .missing))
  | some s => readObject s

structure SearchPayload where
  size : Option Int
  body : Option Members

namespace SearchPayload

/-- Nothing given: the engine decides. -/
def unlimited : SearchPayload := ⟨none, none⟩

/-- Reads a size: ASCII digits, but not too many of them. -/
def readSize (raw : Text) : Except Fault Int :=
  if raw.length > digitLimit then .error (.integer (.tooLong raw.length))
  else .ok raw.asciiNumber

/-- Reads a payload.  The form of the size is judged before the query, and its
length after it. -/
def ofPayload (payload : Option Text) : Except Fault SearchPayload :=
  let trimmed := (payload.getD []).trim
  let raw := trimmed.firstWord
  let query := trimmed.afterWord
  if trimmed.isEmpty then .ok unlimited
  else if !raw.isAsciiDigits then .error (.refused (.invalidSize raw))
  else do
    let body ← if query.isEmpty then .ok none else (readObject query).map some
    let size ← readSize raw
    .ok ⟨some size, body⟩

/-- The body of the request: the query, with the size set when there is one. -/
def requestBody (spec : SearchPayload) : Members :=
  let query := spec.body.getD []
  match spec.size with
  | none => query
  | some size => Members.put (text "size") (.integer size) query

/-- The same query for its total only. -/
def forTotal (spec : SearchPayload) : SearchPayload := ⟨some 0, spec.body⟩

end SearchPayload

end SearchShell
