import SearchShell.CommandLine.Options
import SearchShell.Engine.Connection
import SearchShell.Settings.Sources
import SearchShell.Shell.Session

/-!
# The program

A run of the program goes through its arguments, sets up the log, loads the settings,
opens the connection, and then either interprets the one command that was given or
starts the shell.
-/

set_option autoImplicit false

namespace SearchShell

inductive Ending where
  | finished (code : Nat)
  | stopped (stop : Stop)
  | unusablePath (fault : PathFault)
  | invalidSettings (invalid : Invalid)
  | aborted (abort : Abort)
deriving DecidableEq

structure ProgramRun where
  ending : Ending
  events : List Event
  logging : Option LoggerSetup
  connection : Option Connection

namespace ProgramRun

def output (run : ProgramRun) : Text := run.events.flatMap Event.onOutput

def errorOutput (run : ProgramRun) : Text :=
  match run.logging with
  | some setup => run.events.flatMap (Event.onError setup)
  | none => run.events.flatMap fun
    | .errorOutput s => s
    | _ => []

def sent (run : ProgramRun) : List Http.Request :=
  match run.connection with
  | some connection => connection.sent
  | none => []

def files (run : ProgramRun) : List (Text × Text) :=
  match run.logging with
  | some setup => setup.files (run.events.filterMap Event.record?)
  | none => []

end ProgramRun

namespace Options

/-- An option as an override of the setting with the given name.  No value at all counts as
an empty list. -/
def overrideOf {α : Type} (name : String) (toJson : α → Json) : OptionValue α → Members
  | .absent => []
  | .empty => [(text name, .array [])]
  | .given value => [(text name, toJson value)]

def overrides (options : Options) : Members :=
  overrideOf "host" Json.string options.host ++ overrideOf "port" Json.integer options.port ++
  overrideOf "cluster_name" Json.string options.clusterName ++
  overrideOf "timeout" Json.float options.timeout

end Options

namespace Program

def closing (connection : Connection) : List Event := connection.closingLog.map Event.logged

/-- Uses an open connection, and closes it whatever happens. -/
def serve (command : List Text) (input : List InputEvent) (connection : Connection) :
    Ending × List Event × Connection :=
  if command.isEmpty then
    let run := Shell.run (Engine.interpret Connection.engine) input connection
    let ending := match run.abort with
      | none => .finished 0
      | some abort => .aborted abort
    (ending, run.events ++ closing run.state, run.state.close)
  else
    let done := Engine.interpret Connection.engine (Text.joined (text " ") command) connection
    let log := done.log.map Event.logged
    match done.outcome with
    | .ok envelope =>
        (.finished (if envelope.isSuccess then 0 else 1),
          log ++ envelope.event :: closing done.state, done.state.close)
    | .error abort => (.aborted abort, log ++ closing done.state, done.state.close)

def openingFailure (refusal : Refusal) : LogRecord :=
  ⟨.error, text "Open connection with Elasticsearch: " ++ refusal.message⟩

def connectAndServe (command : List Text) (input : List InputEvent) (connection : Connection) :
    Ending × List Event × Connection :=
  let opening := connection.connect
  let log := opening.log.map Event.logged
  match opening.outcome with
  | .ok () =>
      let (ending, events, connection) := serve command input opening.state
      (ending, log ++ events, connection)
  | .error (.fault (.refused refusal)) =>
      (.finished 2, log ++ [.logged (openingFailure refusal)], opening.state)
  | .error abort => (.aborted abort, log, opening.state)

def runLogged (defaults : Defaults) (options : Options) (logging : LoggerSetup)
    (input : List InputEvent) (script : List Http.Reply) : ProgramRun :=
  match Settings.withOverrides defaults.settings options.overrides with
  | .error invalid => ⟨.invalidSettings invalid, [], some logging, none⟩
  | .ok settings =>
      let (ending, events, connection) :=
        connectAndServe options.command input ⟨settings, false, script, []⟩
      ⟨ending, events, some logging, some connection⟩

def logging (defaults : Defaults) (options : Options) : Except PathFault LoggerSetup :=
  let setup (directory : Text) : Except PathFault LoggerSetup :=
    let setup : LoggerSetup := { directory := directory }
    match setup.fault? with
    | some fault => .error fault
    | none => .ok setup
  match options.logDirectory with
  | .absent => setup defaults.logDirectory
  | .given directory => setup directory
  | .empty => .error .missing

def run (defaults : Defaults) (arguments : List Text) (input : List InputEvent)
    (script : List Http.Reply) : ProgramRun :=
  match Options.ofArguments arguments with
  | .error stop =>
      ⟨.stopped stop, [.output stop.output, .errorOutput stop.errorOutput], none, none⟩
  | .ok options => match logging defaults options with
      | .error fault => ⟨.unusablePath fault, [], none, none⟩
      | .ok logging => runLogged defaults options logging input script

end Program

end SearchShell
