import SearchShell.Command.Basic
import SearchShell.Engine.Basic
import SearchShell.Log.Logger
import SearchShell.Refusal
import SearchShell.Table

/-!
# Interpretation

Every line gets one answer, whatever goes wrong; only an interruption gets through, and a
response whose text cannot be read in the charset that it names.  The log of a line begins
with the line itself and ends with one warning or error when the answer is an error.
-/

set_option autoImplicit false

namespace SearchShell

/-! ## Answers

Every command gets exactly one answer: a body with the form it has, or an error
with its kind. -/

inductive ContentType where
  | text
  | table
  | json
deriving DecidableEq

namespace ContentType

def name : ContentType → Text
  | text => SearchShell.text "TEXT"
  | table => SearchShell.text "TABLE"
  | json => SearchShell.text "JSON"

def all : List ContentType := [text, table, json]

def ofName? (name : Text) : Option ContentType :=
  all.find? fun contentType => contentType.name = name

end ContentType

inductive Envelope where
  | success (contentType : ContentType) (body : Text)
  | error (kind : Text) (body : Text)
deriving DecidableEq

namespace Envelope

def isSuccess : Envelope → Bool
  | success _ _ => true
  | error _ _ => false

def status : Envelope → Text
  | success _ _ => text "SUCCESS"
  | error _ _ => text "ERROR"

/-- The form of the body; errors are plain text. -/
def contentType : Envelope → ContentType
  | success contentType _ => contentType
  | error _ _ => .text

def body : Envelope → Text
  | success _ body => body
  | error _ body => body

def errorKind : Envelope → Option Text
  | success _ _ => none
  | error kind _ => some kind

def refused (refusal : Refusal) : Envelope := error refusal.kind.name refusal.message

end Envelope

/-! ## Actions

An action is a command that has passed all checks: it knows which operation of
the engine it needs, with which arguments, and how to present the result.
Deciding on an action never involves the engine. -/

inductive Action where
  | get (address : DocumentAddress)
  | count (scope : SearchScope) (body : Members)
  | search (scope : SearchScope) (body : Members)
  | index (target : WriteTarget) (document : Members)
  | delete (address : DocumentAddress)

structure Execution (σ ε α : Type) where
  outcome : Except ε α
  log : List LogRecord
  state : σ

namespace Action

/-- The action of a verb with a command's segments and payload.  The path is
judged before the payload. -/
def ofCommand (verb : Verb) (command : Command) : Except Fault Action :=
  match verb with
  | .get => ((DocumentAddress.ofSegments command.segments).mapError .refused).map get
  | .delete => ((DocumentAddress.ofSegments command.segments).mapError .refused).map delete
  | .count => do
      let scope ← (SearchScope.ofSegments command.segments).mapError .refused
      let spec ← SearchPayload.ofPayload command.payload
      .ok (count scope spec.forTotal.requestBody)
  | .search => do
      let scope ← (SearchScope.ofSegments command.segments).mapError .refused
      let spec ← SearchPayload.ofPayload command.payload
      .ok (search scope spec.requestBody)
  | .index => do
      let target ← (WriteTarget.ofSegments command.segments).mapError .refused
      let document ← readDocument command.payload
      .ok (index target document)

/-- The action of a whole line.  The verb is judged before the path. -/
def ofLine (line : Text) : Except Fault Action := do
  let command ← (Command.ofLine line).mapError .refused
  match Verb.ofWord? command.verb with
  | none => .error (.refused (.unknownMethod command.verb))
  | some verb => ofCommand verb command

def searchRecord (result : Hits) : LogRecord :=
  ⟨.debug, text "Search matched " ++ Text.ofInt result.total ++ text " documents, " ++
    Text.ofNat result.documents.length ++ text " returned"⟩

def notFound : Except Abort Envelope := .error (.fault (.refused .notFound))

/-- A success with a body that has yet to be written. -/
def written (form : ContentType) (body : Except WritingFault Text) : Except Fault Envelope :=
  (body.mapError .unwritable).map (.success form)

def present {σ α : Type} (attempt : Attempt σ α) (log : α → List LogRecord)
    (answer : α → Except Abort Envelope) : Execution σ Abort Envelope :=
  match attempt.outcome with
  | .ok result => ⟨answer result, log result, attempt.state⟩
  | .error abort => ⟨.error abort, [], attempt.state⟩

def perform {σ : Type} (engine : Engine σ) (action : Action) (state : σ) :
    Execution σ Abort Envelope :=
  match action with
  | get address =>
      present (engine.get address state) (fun _ => []) fun
        | some document => (written .json (documentText documentRoom document)).mapError .fault
        | none => notFound
  | count scope body =>
      present (engine.search scope body state) (fun _ => []) fun result =>
        (written .text (integerText result.total)).mapError .fault
  | search scope body =>
      present (engine.search scope body state) (fun result => [searchRecord result]) fun result =>
        (written .table (tableText cellRoom result.documents)).mapError .fault
  | index target document =>
      present (engine.index target document state) (fun _ => []) fun id =>
        .ok (.success .text id)
  | delete address =>
      present (engine.delete address state) (fun _ => []) fun found =>
        if found then .ok (.success .text address.id) else notFound

end Action

/-! ## Lines -/

structure FaultReport where
  envelope : Envelope
  record : LogRecord

/-- Reports a fault.  Only one that is neither a refusal nor a rejected request is an error of
the program's surroundings.  A rejected request is reported with the text of the response,
which must be readable. -/
def Fault.report : Fault → Except CharsetFault FaultReport
  | .refused refusal =>
      .ok ⟨.refused refusal, .warning, refusal.kind.name ++ text ": " ++ refusal.message⟩
  | .rejected received => received.summary.map fun summary =>
      let message := text "Error : " ++ summary
      ⟨.error ErrorKind.engineError.name message, .warning,
        text "Engine rejected command: " ++ message⟩
  | fault =>
      .ok ⟨.error ErrorKind.engineError.name (text "Error : " ++ fault.message), .error,
        text "Engine call failed"⟩

def LogRecord.ofLine (line : Text) : LogRecord :=
  ⟨.info, text "Run Elasticsearch command '" ++ line ++ text "'"⟩

namespace Engine

def execute {σ : Type} (engine : Engine σ) (line : Text) (state : σ) :
    Execution σ Abort Envelope :=
  match Action.ofLine line with
  | .ok action => action.perform engine state
  | .error fault => ⟨.error (.fault fault), [], state⟩

def interpret {σ : Type} (engine : Engine σ) (line : Text) (state : σ) :
    Execution σ Abort Envelope :=
  let done := execute engine line state
  let log := LogRecord.ofLine line :: done.log
  match done.outcome with
  | .ok envelope => ⟨.ok envelope, log, done.state⟩
  | .error (.interruption interruption) =>
      ⟨.error (.interruption interruption), log, done.state⟩
  | .error (.fault fault) => match fault.report with
      | .ok report => ⟨.ok report.envelope, log ++ [report.record], done.state⟩
      | .error unreadable => ⟨.error (.fault (.charset unreadable)), log, done.state⟩

/-- Interprets lines one after the other, each in the state that the one before left. -/
def interpretAll {σ : Type} (engine : Engine σ) :
    List Text → σ → List (Execution σ Abort Envelope)
  | [], _ => []
  | line :: rest, state =>
      let done := interpret engine line state
      done :: interpretAll engine rest done.state

/-- How far a command is when someone asks: they are over before that. -/
def progress : Nat := 0

end Engine

end SearchShell
