import SearchShell.Json.Reader

/-!
# Refusals

Why a command is turned down.  Every refusal has a kind, which is named in the
answer, and a message.
-/

set_option autoImplicit false

namespace SearchShell

inductive ErrorKind where
  | general
  | missingArguments
  | badPath
  | unknownMethod
  | notFound
  | invalidSize
  | invalidJson
  | engineError
deriving DecidableEq

namespace ErrorKind

def name : ErrorKind → Text
  | general => text "InterpreterError"
  | missingArguments => text "MissingArguments"
  | badPath => text "BadPath"
  | unknownMethod => text "UnknownMethod"
  | notFound => text "NotFound"
  | invalidSize => text "InvalidSize"
  | invalidJson => text "InvalidJson"
  | engineError => text "EngineError"

def taxonomy : List ErrorKind :=
  [missingArguments, badPath, unknownMethod, notFound, invalidSize, invalidJson, engineError]

/-- The message of an error of this kind with a detail: what was expected, what
was given, or the whole message, depending on the kind. -/
def wording (kind : ErrorKind) (detail : Option Text) : Text :=
  match kind with
  | missingArguments => detail.getD (text "Arguments missing")
  | badPath => text "Bad URL (it should be " ++ detail.getD [] ++ text ")"
  | unknownMethod => text "Unknown method"
  | notFound => detail.getD (text "Document not found")
  | invalidSize =>
      text "Invalid size '" ++ detail.getD [] ++ text "' (it should be a non-negative integer)"
  | general | invalidJson | engineError => detail.getD []

/-- The detail that an error of this kind cannot do without, and the kind that lays this down
for it. -/
def requiredDetail? : ErrorKind → Option (ErrorKind × Text)
  | missingArguments | notFound => none
  | badPath => some (badPath, text "expected")
  | unknownMethod => some (unknownMethod, text "verb")
  | invalidSize => some (invalidSize, text "raw")
  | general | invalidJson | engineError => some (general, text "message")

end ErrorKind

structure MissingDetail where
  owner : ErrorKind
  detail : Text
deriving DecidableEq

def MissingDetail.message (missing : MissingDetail) : Text :=
  missing.owner.name ++ text ".__init__() missing 1 required positional argument: '" ++
    missing.detail ++ text "'"

def ErrorKind.describe (kind : ErrorKind) (detail : Option Text) : Except MissingDetail Text :=
  match kind.requiredDetail?, detail with
  | some (owner, name), none => .error ⟨owner, name⟩
  | _, detail => .ok (kind.wording detail)

inductive PathShape where
  | document
  | search
  | index
deriving DecidableEq

namespace PathShape

def hint : PathShape → Text
  | document => text "/index/type/id"
  | search => text "/index1,index2,.../type1,type2,..."
  | index => text "/index/type or /index/type/id"

end PathShape

inductive PayloadDefect where
  | missing
  | malformed (defect : JsonDefect) (place : TextPlace)
  | notObject (kindName : Text)
deriving DecidableEq

namespace PayloadDefect

def message : PayloadDefect → Text
  | missing => text "Invalid JSON: a document body is required"
  | malformed defect place => text "Invalid JSON: " ++ (JsonFault.malformed defect place).message
  | notObject kindName => text "Invalid JSON: expected an object, got " ++ kindName

end PayloadDefect

inductive ConnectionDefect where
  | notOpen
  | unreachable (url reason : Text)
  | notJson (url : Text)
  | unexpectedAnswer (url : Text)
  | otherCluster (found expected : Text)
deriving DecidableEq

namespace ConnectionDefect

def message : ConnectionDefect → Text
  | notOpen => text "Elasticsearch connection is not open"
  | unreachable url reason =>
      text "Cannot connect to Elasticsearch at " ++ url ++ text ": " ++ reason
  | notJson url => text "No Elasticsearch node at " ++ url ++ text ": response is not JSON"
  | unexpectedAnswer url => text "No Elasticsearch node at " ++ url ++ text ": unexpected response"
  | otherCluster found expected =>
      text "Connected to cluster '" ++ found ++ text "', expected '" ++ expected ++ text "'"

end ConnectionDefect

inductive Refusal where
  | missingArguments
  | badPath (shape : PathShape)
  | unknownMethod (verb : Text)
  | notFound
  | invalidSize (raw : Text)
  | invalidJson (defect : PayloadDefect)
  | connection (defect : ConnectionDefect)
  /-- Any error of a kind, with the detail that it was made with: what an engine may raise. -/
  | raised (kind : ErrorKind) (detail : Option Text)
deriving DecidableEq

namespace Refusal

def kind : Refusal → ErrorKind
  | missingArguments => .missingArguments
  | badPath _ => .badPath
  | unknownMethod _ => .unknownMethod
  | notFound => .notFound
  | invalidSize _ => .invalidSize
  | invalidJson _ => .invalidJson
  | connection _ => .engineError
  | raised kind _ => kind

def detail : Refusal → Option Text
  | missingArguments | notFound => none
  | badPath shape => some shape.hint
  | unknownMethod verb => some verb
  | invalidSize raw => some raw
  | invalidJson defect => some defect.message
  | connection defect => some defect.message
  | raised _ detail => detail

def message (refusal : Refusal) : Text := refusal.kind.wording refusal.detail

end Refusal

end SearchShell
