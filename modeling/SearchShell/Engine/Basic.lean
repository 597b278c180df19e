import SearchShell.Command.Basic
import SearchShell.Fault
import SearchShell.Json.Printer
import SearchShell.Json.Reader
import SearchShell.Text.Encoding

/-!
# Search engines

A search engine is whatever can fetch, search, write and delete documents.  Each
operation takes the engine's state and gives the next one, whether or not it has
a result.
-/

set_option autoImplicit false

namespace SearchShell

structure Hits where
  total : Int
  /-- Those of them that were asked for. -/
  documents : List Members

/-- A result or the reason why there is none, and the state after the attempt. -/
structure Attempt (σ α : Type) where
  outcome : Except Abort α
  state : σ

structure Engine (σ : Type) where
  /-- The source of a document, if it exists. -/
  get : DocumentAddress → σ → Attempt σ (Option Json)
  search : SearchScope → Members → σ → Attempt σ Hits
  /-- Creates or replaces a document and gives its id. -/
  index : WriteTarget → Members → σ → Attempt σ Text
  /-- Whether there was a document to delete. -/
  delete : DocumentAddress → σ → Attempt σ Bool

/-! ## Observed engines

Any engine can be observed: the state is paired with the operations that were asked
for so far, in order. -/

inductive EngineCall where
  | get (address : DocumentAddress)
  | search (scope : SearchScope) (body : Members)
  | index (target : WriteTarget) (document : Members)
  | delete (address : DocumentAddress)

def Attempt.noting {σ α : Type} (calls : List EngineCall) (call : EngineCall)
    (attempt : Attempt σ α) : Attempt (σ × List EngineCall) α :=
  ⟨attempt.outcome, attempt.state, calls ++ [call]⟩

def Engine.observed {σ : Type} (engine : Engine σ) : Engine (σ × List EngineCall) where
  get address state := (engine.get address state.1).noting state.2 (.get address)
  search scope body state := (engine.search scope body state.1).noting state.2 (.search scope body)
  index target document state :=
    (engine.index target document state.1).noting state.2 (.index target document)
  delete address state := (engine.delete address state.1).noting state.2 (.delete address)

/-! ## Answers of a server

What the search engine says is JSON of a known shape, but nothing is taken for
granted: every look into an answer can fail, and the first failure counts. -/

namespace Http.Received

def json (received : Received) : Except Fault Json :=
  match Encoding.decodeDetected received.response.body with
  | .error fault => .error (.undecodable fault)
  | .ok s => (Json.readDecoded JsonReader.nestingLimit s).mapError .json

def requireSuccess (received : Received) : Except Fault Unit :=
  if received.response.isSuccess then .ok () else .error (.rejected received)

/-- Nothing was found, as opposed to an error: the status says so, and the body is no
object with an error in it. -/
def reportsAbsence (received : Received) : Except Fault Bool :=
  if received.response.status ≠ 404 then .ok false
  else match received.json with
    | .ok (.object members) => .ok !(Members.hasName (text "error") members)
    | .ok _ => .ok true
    | .error fault => if fault.isValue then .ok true else .error fault

end Http.Received

namespace Json

def members : Json → Except Fault Members
  | object members => .ok members
  | other => .error (.shape (.noMethod other.kindName (text "get")))

def toInteger : Json → Except Fault Int
  | integer n => .ok n
  | bool b => .ok (if b then 1 else 0)
  | float .nan => .error (.shape .nanToInteger)
  | float (.infinite _) => .error (.shape .infinityToInteger)
  | float x => .ok x.truncated
  | string s => (readInteger s).mapError .integer
  | other => .error (.shape (.notNumber other.kindName))

/-- The items of a value: those of an array, the names of an object's members, or
the code points of a string. -/
def items : Json → Except Fault (List Json)
  | array items => .ok items
  | object members => .ok (members.map fun member => string member.1)
  | string s => .ok (s.map fun c => string [c])
  | other => .error (.shape (.notIterable other.kindName))

def member (name : Text) : Json → Except Fault Json
  | object members => match Members.get? name members with
    | some value => .ok value
    | none => .error (.shape (.missingName name))
  | array _ => .error (.shape .arrayByName)
  | string _ => .error (.shape .stringByName)
  | other => .error (.shape (.notSubscriptable other.kindName))

end Json

namespace Hits

/-- The total number of hits, which newer engines wrap in an object. -/
def totalOf (hits : Members) : Except Fault Int :=
  match Members.get? (text "total") hits with
  | none => .ok 0
  | some (.object total) => ((Members.get? (text "value") total).getD (.integer 0)).toInteger
  | some total => if total.isTruthy then total.toInteger else .ok 0

/-- The source of a document; nothing at all stands for no fields. -/
def sourceOf (document : Members) : Json :=
  let source := Members.getOrNull (text "_source") document
  if source.isTruthy then source else .object []

/-- The defects of sources that are no objects, the first of them at `place`. -/
def sourceDefects (place : Nat) : List Json → List (Text × ValueDefect)
  | [] => []
  | .object _ :: rest => sourceDefects (place + 1) rest
  | _ :: rest => (text "hits." ++ Text.ofNat place, .objectType) :: sourceDefects (place + 1) rest

/-- The sources as documents, all of which must be objects. -/
def documentsOf (sources : List Json) : Except Fault (List Members) :=
  let defects := sourceDefects 0 sources
  if defects.isEmpty then
    .ok (sources.filterMap fun
      | .object members => some members
      | _ => none)
  else .error (.invalid ⟨text "SearchResult", defects⟩)

/-- Reads the answer to a search.  The total is looked at before the hits. -/
def ofJson (answer : Json) : Except Fault Hits := do
  let hits ← ((Members.get? (text "hits") (← answer.members)).getD (.object [])).members
  let total ← totalOf hits
  let found ← ((Members.get? (text "hits") hits).getD (.array [])).items
  let sources ← found.mapM fun hit => hit.members.map sourceOf
  let documents ← documentsOf sources
  .ok ⟨total, documents⟩

end Hits

namespace Json

def foundSource (answer : Json) : Except Fault (Option Json) := do
  let members ← answer.members
  if (Members.getOrNull (text "found") members).isTruthy then
    .ok (some (Hits.sourceOf members))
  else .ok none

def writtenId (answer : Json) : Except Fault Text := do
  .ok (← answer.member (text "_id")).shown

/-- Reads the answer to a deletion: whether there was a document.  Older engines say
so by `found`, newer ones by `result`. -/
def wasDeleted (answer : Json) : Except Fault Bool := do
  let members ← answer.members
  match Members.get? (text "result") members with
  | some (.string result) =>
      if result = text "not_found" then .ok false
      else .ok ((Members.get? (text "found") members).getD (.bool true)).isTruthy
  | _ => .ok ((Members.get? (text "found") members).getD (.bool true)).isTruthy

end Json

end SearchShell
