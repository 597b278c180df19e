import SearchShell.Command.Interpretation
import SearchShell.Engine.Basic
import SearchShell.Http.Url
import SearchShell.Settings.Basic

/-!
# The connection to a cluster

A connection is opened by asking the server for the name of its cluster.  While
it is open, each operation of the engine is one request.  The replies come from a
script: each request takes the next one.
-/

set_option autoImplicit false

namespace SearchShell

structure Connection where
  settings : Settings
  isOpen : Bool
  script : List Http.Reply
  sent : List Http.Request

namespace Connection

def base (settings : Settings) : Except UrlFault Url := do
  (← Url.read settings.serverAddress).asBase

/-- The address that a reference leads to.  The reference is an address of its own; its path
and query are looked for below the server's. -/
def urlOf (settings : Settings) (reference : Text) : Except UrlFault Url := do
  let base ← base settings
  base.below (← Url.read reference)

/-- What is wrong with the first of two hosts that is no name. -/
def hostFault? (first second : Text) : Option Fault :=
  ((Host.nameFault? first).or (Host.nameFault? second)).map Fault.label

/-- The response asks to go to something that is no address.  An address without a host is
taken to mean the same host. -/
def redirectFault? (url : Url) (response : Http.Response) : Option Fault :=
  response.redirect?.bind fun location => match Url.read location with
    | .error fault => some (.redirect fault)
    | .ok target =>
        if target.host.isEmpty && !target.scheme.isEmpty then
          match hostFault? [] url.host, target.withHost url.host with
          | some fault, _ => some fault
          | none, .error fault => some (.url fault)
          | none, .ok _ => none
        else hostFault? target.host url.host

def receive (url : Url) : Http.Reply → Except Abort Http.Received
  | .failure failure => .error (.fault (.transport failure))
  | .interruption interruption => .error (.interruption interruption)
  | .response response => match response.headerFault? with
      | some fault => .error (.fault (.unencodable fault))
      | none => match response.expanded with
          | .error fault => .error (.fault (.coding fault))
          | .ok response => match redirectFault? url response with
              | some fault => .error (.fault fault)
              | none => .ok ⟨url.write, response⟩

/-- Sends a request, whatever the state of the connection, and takes its reply. -/
def send (method : Http.Method) (url : Url) (body : Text) (connection : Connection) :
    Attempt Connection Http.Received :=
  ⟨receive url (connection.script.head?.getD .exhausted), { connection with
    script := connection.script.tail
    sent := connection.sent ++ [⟨method, url.write, body, connection.settings.timeout⟩] }⟩

/-- The text of a request's body.  It must hold finite numbers and no surrogates. -/
def bodyText (body : Option Json) : Except Fault Text :=
  match body with
  | none => .ok []
  | some value =>
      let written := value.compact
      if !value.isFinite then .error .notFinite
      else match Utf8.encode written with
        | .ok _ => .ok written
        | .error fault => .error (.unencodable fault)

def requireOpen (connection : Connection) : Except Fault Unit :=
  if connection.isOpen then .ok () else .error (.refused (.connection .notOpen))

/-- What a request would consist of, as address and body; all that can be wrong with it is
found out before anything is sent. -/
def prepare (segments : List Text) (body : Option Json) (connection : Connection) :
    Except Fault (Url × Text) := do
  connection.requireOpen
  let reference ← (Path.ofSegments segments).mapError .unencodable
  let url ← (urlOf connection.settings reference).mapError .url
  let written ← bodyText body
  .ok (url, written)

def exchange {α : Type} (method : Http.Method) (segments : List Text) (body : Option Json)
    (read : Http.Received → Except Fault α) (connection : Connection) : Attempt Connection α :=
  match connection.prepare segments body with
  | .error fault => ⟨.error (.fault fault), connection⟩
  | .ok (url, written) =>
      let attempt := connection.send method url written
      match attempt.outcome with
      | .error abort => ⟨.error abort, attempt.state⟩
      | .ok received => ⟨(read received).mapError .fault, attempt.state⟩

def readAnswer {α : Type} (read : Json → Except Fault α) (received : Http.Received) :
    Except Fault α := do
  received.requireSuccess
  read (← received.json)

/-- The answer of a response that may say that there is nothing. -/
def readFound {α : Type} (absent : α) (read : Json → Except Fault α) (received : Http.Received) :
    Except Fault α := do
  if ← received.reportsAbsence then .ok absent
  else readAnswer read received

def searchSegments (scope : SearchScope) : List Text :=
  let indices := Text.joined (text ",") scope.indices
  let types := Text.joined (text ",") scope.types
  (if scope.indices.isEmpty && scope.types.isEmpty then []
    else [if indices.isEmpty then text "_all" else indices]) ++
  (if scope.types.isEmpty then [] else [types]) ++ [text "_search"]

def search (scope : SearchScope) (body : Option Json) :
    Connection → Attempt Connection Hits :=
  exchange .post (searchSegments scope) body (readAnswer Hits.ofJson)

def index (target : WriteTarget) (document : Option Json) :
    Connection → Attempt Connection Text :=
  match target.id with
  | none => exchange .post [target.index, target.type] document (readAnswer Json.writtenId)
  | some id => exchange .put [target.index, target.type, id] document (readAnswer Json.writtenId)

def engine : Engine Connection where
  get address :=
    exchange .get [address.index, address.type, address.id] none (readFound none Json.foundSource)
  search scope body := search scope (some (.object body))
  index target document := index target (some (.object document))
  delete address :=
    exchange .delete [address.index, address.type, address.id] none
      (readFound false Json.wasDeleted)

def close (connection : Connection) : Connection := { connection with isOpen := false }

def closingLog (connection : Connection) : List LogRecord :=
  if connection.isOpen then [⟨.info, text "Elasticsearch connection closed"⟩] else []

/-- Why the root request did not lead to the configured cluster; faults of other kinds
stay what they are. -/
def openingFault (url : Text) (fault : Fault) : Fault :=
  if fault.isExchange then .refused (.connection (.unreachable url fault.message))
  else if fault.isValue then .refused (.connection (.notJson url))
  else fault

def judgeRoot (settings : Settings) (received : Http.Received) : Except Fault Text := do
  match ← readAnswer (fun answer => .ok answer) received with
  | .object members =>
      let name := Members.getOrNull (text "cluster_name") members
      match name with
      | .string found =>
          if found = settings.clusterName then .ok found
          else .error (.refused (.connection (.otherCluster found settings.clusterName)))
      | other => .error (.refused (.connection (.otherCluster other.shown settings.clusterName)))
  | _ => .error (.refused (.connection (.unexpectedAnswer settings.serverAddress)))

/-- What is wrong with the server's part of an address that is to stand in a request.  The host
is read as a name, and the whole is written in ASCII. -/
def serverFault? (url : Url) : Option Fault :=
  (hostFault? [] url.host).or ((Unencodable.find? .ascii 0 url.authority).map Fault.unencodable)

def askRoot (connection : Connection) : Attempt Connection Http.Received :=
  match urlOf connection.settings (text "/") with
  | .error fault => ⟨.error (.fault (.url fault)), connection⟩
  | .ok url => match serverFault? url with
      | some fault => ⟨.error (.fault fault), connection⟩
      | none => connection.send .get url []

def rootOutcome (settings : Settings) : Except Abort Http.Received → Except Abort Text
  | .error (.interruption interruption) => .error (.interruption interruption)
  | .error (.fault fault) => .error (.fault (openingFault settings.serverAddress fault))
  | .ok received =>
      ((judgeRoot settings received).mapError (openingFault settings.serverAddress)).mapError .fault

def openingRecord (settings : Settings) (name : Text) : LogRecord :=
  ⟨.info, text "Connected to Elasticsearch cluster '" ++ name ++ text "' at " ++
    settings.serverAddress⟩

/-- Opens the connection, or opens it anew.  Where the settings give no address, it stays as
it is.  It ends up closed when the server cannot be used, and open when something else goes
wrong. -/
def connect (connection : Connection) : Execution Connection Abort Unit :=
  match base connection.settings with
  | .error fault => ⟨.error (.fault (.url fault)), [], connection⟩
  | .ok _ =>
      let attempt := { connection with isOpen := true }.askRoot
      match rootOutcome connection.settings attempt.outcome with
      | .ok name => ⟨.ok (), [openingRecord connection.settings name], attempt.state⟩
      | .error (.fault (.refused refusal)) =>
          ⟨.error (.fault (.refused refusal)), attempt.state.closingLog, attempt.state.close⟩
      | .error abort => ⟨.error abort, [], attempt.state⟩

/-- A connection that has sent nothing yet.  It can only be open if the settings give an
address. -/
def start (settings : Settings) (isOpen : Bool) : Except UrlFault Connection :=
  let connection : Connection := ⟨settings, isOpen, [], []⟩
  if isOpen then (base settings).map fun _ => connection else .ok connection

end Connection

/-! ## Steps with a connection

Whoever holds a connection can open and close it, have lines interpreted over it, and
use the operations of the engine directly.  Each such step can be taken in any state. -/

namespace Connection

inductive Step where
  | connect
  | close
  | check
  /-- Opens the connection, interprets a line if there is one, and closes it. -/
  | within (line : Option Text)
  | interpret (line : Text)
  /-- Has a command carried out without having its errors turned into answers. -/
  | handle (verb : Verb) (command : Command)
  | get (address : DocumentAddress)
  /-- A search with anything as its body; null stands for no body. -/
  | search (scope : SearchScope) (body : Json)
  /-- The writing of anything as a document; null stands for no body. -/
  | index (target : WriteTarget) (document : Json)
  | delete (address : DocumentAddress)

inductive StepResult where
  | nothing
  | ready
  | answer (envelope : Envelope)
  | document (source : Option Json)
  | hits (result : Hits)
  | id (id : Text)
  | deleted (found : Bool)

def relabel {α β : Type} (label : α → β) (done : Execution Connection Abort α) :
    Execution Connection Abort β :=
  ⟨done.outcome.map label, done.log, done.state⟩

def unlogged {α : Type} (label : α → StepResult) (attempt : Attempt Connection α) :
    Execution Connection Abort StepResult :=
  ⟨attempt.outcome.map label, [], attempt.state⟩

def bodyOf (value : Json) : Option Json := if value.isNull then none else some value

/-- Closes the connection after an execution, however it ended. -/
def closeAfter {α : Type} (done : Execution Connection Abort α) :
    Execution Connection Abort α :=
  ⟨done.outcome, done.log ++ done.state.closingLog, done.state.close⟩

def interpretLine (line : Text) (connection : Connection) : Execution Connection Abort StepResult :=
  relabel .answer (Engine.interpret engine line connection)

def Step.run (step : Step) (connection : Connection) : Execution Connection Abort StepResult :=
  match step with
  | .connect => relabel (fun () => .ready) connection.connect
  | .close => closeAfter ⟨.ok .nothing, [], connection⟩
  | .check =>
      ⟨(connection.requireOpen.map fun () => .ready).mapError .fault, [], connection⟩
  | .within line =>
      let opening := connection.connect
      match opening.outcome with
      | .error abort => ⟨.error abort, opening.log, opening.state⟩
      | .ok () =>
          let inner := match line with
            | some line => interpretLine line opening.state
            | none => ⟨.ok .ready, [], opening.state⟩
          closeAfter { inner with log := opening.log ++ inner.log }
  | .interpret line => interpretLine line connection
  | .handle verb command => match Action.ofCommand verb command with
      | .error fault => ⟨.error (.fault fault), [], connection⟩
      | .ok action => relabel .answer (action.perform engine connection)
  | .get address => unlogged .document (engine.get address connection)
  | .search scope body => unlogged .hits (connection.search scope (bodyOf body))
  | .index target document => unlogged .id (connection.index target (bodyOf document))
  | .delete address => unlogged .deleted (engine.delete address connection)

/-- A connection that expects other replies, and that has sent nothing yet. -/
def withScript (script : List Http.Reply) (connection : Connection) : Connection :=
  { connection with script := script, sent := [] }

def runSteps : List (Step × List Http.Reply) → Connection →
    List (Execution Connection Abort StepResult)
  | [], _ => []
  | (step, script) :: rest, connection =>
      let done := step.run (connection.withScript script)
      done :: runSteps rest done.state

end Connection

end SearchShell
