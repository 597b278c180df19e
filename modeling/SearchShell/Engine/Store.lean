import SearchShell.Engine.Basic
import SearchShell.Json.Basic

/-!
# The engine in memory

Documents are kept in groups, one for each index and type, in the order in which
they were first written.  Searches understand three queries: for everything, and
for documents whose fields have given values, by either of two names.
-/

set_option autoImplicit false

namespace SearchShell

abbrev DocumentGroup := Entries Text Members

structure Store where
  /-- The groups by index and type.  A group keeps its place when its last document goes. -/
  groups : Entries (Text × Text) DocumentGroup
  generated : Nat

namespace Store

def empty : Store := ⟨.empty, 0⟩

def groupAt (address : DocumentAddress) (store : Store) : DocumentGroup :=
  (store.groups.get? (address.index, address.type)).getD .empty

def withGroup (address : DocumentAddress) (group : DocumentGroup) (store : Store) : Store :=
  { store with groups := store.groups.put (address.index, address.type) group }

def get? (address : DocumentAddress) (store : Store) : Option Members :=
  (store.groupAt address).get? address.id

def put (address : DocumentAddress) (document : Members) (store : Store) : Store :=
  store.withGroup address ((store.groupAt address).put address.id document)

def erase (address : DocumentAddress) (store : Store) : Store :=
  match store.groups.get? (address.index, address.type) with
  | some group => store.withGroup address (group.erase address.id)
  | none => store

def toList (store : Store) : List (DocumentAddress × Members) :=
  store.groups.list.flatMap fun ((index, type), group) =>
    group.list.map fun (id, document) => (⟨index, type, id⟩, document)

def ofList (documents : List (DocumentAddress × Members)) : Store :=
  documents.foldl (fun store (address, document) => store.put address document) empty

def occursIn (part : Text) : Text → Bool
  | [] => part.isEmpty
  | c :: rest => part.isPrefixOf (c :: rest) || occursIn part rest

/-- Whether a query has a word in it: as a name of an object, as an item of an array, or
as a part of a string. -/
def mentions (query : Json) (word : Text) : Except ShapeFault Bool :=
  match query with
  | .object members => .ok (Members.hasName word members)
  | .array items => .ok (items.any fun item => item.equals (.string word))
  | .string s => .ok (occursIn word s)
  | other => .error (.notContainer other.kindName)

def condition (query : Json) (word : Text) : Except ShapeFault Json :=
  match query with
  | .object members => .ok (Members.getOrNull word members)
  | .array _ => .error .arrayByName
  | .string _ => .error .stringByName
  | other => .error (.notSubscriptable other.kindName)

/-- Every field of the condition has an equal value in the document, where a field that
is not there counts as null. -/
def fieldsEqual (document : Members) (condition : Json) : Except ShapeFault Bool :=
  match condition with
  | .object fields => .ok (fields.all fun (name, value) =>
      (Members.getOrNull name document).equals value)
  | other => .error (.noMethod other.kindName (text "items"))

def answersQuery (query : Json) (document : Members) : Except ShapeFault Bool :=
  if !query.isTruthy then .ok true
  else do
    if ← mentions query (text "match_all") then .ok true
    else if ← mentions query (text "term") then
      fieldsEqual document (← condition query (text "term"))
    else if ← mentions query (text "match") then
      fieldsEqual document (← condition query (text "match"))
    else .ok false

/-- A list of names covers a name; the empty list covers all. -/
def covers (names : List Text) (name : Text) : Bool := names.isEmpty || names.contains name

def inScope (scope : SearchScope) (store : Store) : List Members :=
  (store.groups.list.filter fun ((index, type), _) =>
      covers scope.indices index && covers scope.types type).flatMap fun (_, group) =>
    group.list.map Prod.snd

def matching (scope : SearchScope) (query : Json) (store : Store) :
    Except ShapeFault (List Members) :=
  (store.inScope scope).filterM (answersQuery query)

/-- The first `size` hits; a negative size leaves out as many at the end. -/
def firstHits (size : Json) (hits : List Members) : Except ShapeFault (List Members) :=
  match size with
  | .null => .ok hits
  | other => match other.asInt? with
    | some n => .ok (if n < 0 then hits.take (hits.length - n.natAbs) else hits.take n.toNat)
    | none => .error .sliceBound

/-- How many hits a search gives when it does not say. -/
def usualSize : Json := .integer 10

def find (scope : SearchScope) (body : Members) (store : Store) : Except ShapeFault Hits := do
  let found ← store.matching scope (Members.getOrNull (text "query") body)
  let hits ← firstHits ((Members.get? (text "size") body).getD usualSize) found
  .ok ⟨found.length, hits⟩

/-- Writes a document, under a made-up id when there is none.  The n-th of these is `ids n`. -/
def write (ids : Nat → Text) (target : WriteTarget) (document : Members) (store : Store) :
    Text × Store :=
  match target.id with
  | some (c :: id) => (c :: id, store.put ⟨target.index, target.type, c :: id⟩ document)
  | _ =>
      let count := store.generated + 1
      (ids count,
        { store with generated := count }.put ⟨target.index, target.type, ids count⟩ document)

def engine (ids : Nat → Text) : Engine Store where
  get address store := ⟨.ok ((store.get? address).map .object), store⟩
  search scope body store :=
    ⟨(store.find scope body).mapError fun fault => .fault (.shape fault), store⟩
  index target document store :=
    let (id, store) := store.write ids target document
    ⟨.ok id, store⟩
  delete address store := ⟨.ok (store.get? address).isSome, store.erase address⟩

end Store

end SearchShell
