import SearchShell.Command.Interpretation
import SearchShell.Log.Logger
import SearchShell.Text.Basic

/-!
# The interactive shell

The shell reads commands and shows their results until it is told to stop, the input ends,
or something gets through that takes more than the command with it.  Everything that it shows
or logs is recorded in order.
-/

set_option autoImplicit false

namespace SearchShell

/-! ## Typed commands

A command is typed on one line, or on several when each but the last ends in a
backslash.  The end of the input completes a command that was begun; an interruption
discards it. -/

/-- What a reading of the input gives; after the last event the input is at its end. -/
inductive InputEvent where
  /-- A line with its line break, if it has one.  Nothing at all is the end of the input. -/
  | line (s : Text)
  | interruption
deriving DecidableEq

inductive TypedCommand where
  | command (s : Text)
  | ended
  | interrupted
deriving DecidableEq

structure CommandReading where
  result : TypedCommand
  prompts : Text
  rest : List InputEvent
deriving DecidableEq

namespace Shell

def prompt : Text := text "els> "

def continuationPrompt : Text := text "...> "

def withoutBreak (line : Text) : Text :=
  if line.getLast? = some (CodePoint.ofChar '\n') then line.dropLast else line

def isContinued (line : Text) : Bool := line.getLast? = some (CodePoint.ofChar '\\')

def assemble (lines : List Text) : Text := Text.joined (text "\n") lines

/-- What the end of the input makes of the lines that were begun. -/
def atEnd (pending : List Text) : TypedCommand :=
  if pending.isEmpty then .ended else .command (assemble pending)

def readOn (shown : Text) (pending : List Text) : List InputEvent → CommandReading
  | [] => ⟨atEnd pending, shown, []⟩
  | .interruption :: rest => ⟨.interrupted, shown, rest⟩
  | .line [] :: rest => ⟨atEnd pending, shown, rest⟩
  | .line (c :: more) :: rest =>
      let line := withoutBreak (c :: more)
      if isContinued line then
        let reading := readOn continuationPrompt (pending ++ [line.dropLast]) rest
        { reading with prompts := shown ++ reading.prompts }
      else ⟨.command (assemble (pending ++ [line])), shown, rest⟩

def nextCommand (input : List InputEvent) : CommandReading := readOn prompt [] input

def nextCommands : Nat → List InputEvent → List CommandReading
  | 0, _ => []
  | count + 1, input =>
      let reading := nextCommand input
      reading :: nextCommands count reading.rest

end Shell

/-! ## Sessions -/

inductive Event where
  | output (s : Text)
  | errorOutput (s : Text)
  | logged (record : LogRecord)
deriving DecidableEq

namespace Event

def onOutput : Event → Text
  | output s => s
  | _ => []

/-- What an event adds to the standard error output, which the log's console shares. -/
def onError (setup : LoggerSetup) : Event → Text
  | errorOutput s => s
  | logged record => setup.console [record]
  | output _ => []

def record? : Event → Option LogRecord
  | logged record => some record
  | _ => none

end Event

namespace Envelope

/-- The body with a line break at its end, unless there is no body. -/
def terminatedBody (envelope : Envelope) : Text :=
  if envelope.body.isEmpty || envelope.body.getLast? = some (CodePoint.ofChar '\n') then
    envelope.body
  else envelope.body ++ text "\n"

def event (envelope : Envelope) : Event :=
  if envelope.isSuccess then .output envelope.terminatedBody
  else .errorOutput envelope.terminatedBody

end Envelope

namespace Shell

def greeting : Text := text "Commands: get, count, search, index, delete. 'quit' to exit.\n"

def exitWords : List Text := [text "quit", text "exit"]

def isExit (line : Text) : Bool := exitWords.contains line.toLower

structure Run (σ : Type) where
  events : List Event
  state : σ
  /-- What ended the shell before its time, if something did. -/
  abort : Option Abort := none

def commandEvents {σ : Type} (done : Execution σ Abort Envelope) : List Event :=
  done.log.map Event.logged ++ match done.outcome with
    | .ok envelope => [envelope.event]
    | .error abort => if abort.isLocal then [.output (text "\n")] else []

def Run.after {σ : Type} (events : List Event) (run : Run σ) : Run σ :=
  { run with events := events ++ run.events }

def runWithin {σ : Type} (interpret : Text → σ → Execution σ Abort Envelope) :
    Nat → List InputEvent → σ → Run σ
  | 0, _, state => { events := [], state := state }
  | fuel + 1, input, state =>
      let reading := nextCommand input
      let prompts := Event.output reading.prompts
      match reading.result with
      | .ended => { events := [prompts, .output (text "\n")], state := state }
      | .interrupted =>
          (runWithin interpret fuel reading.rest state).after [prompts, .output (text "\n")]
      | .command typed =>
          let line := typed.trim
          if line.isEmpty then (runWithin interpret fuel reading.rest state).after [prompts]
          else if isExit line then { events := [prompts], state := state }
          else
            let done := interpret line state
            let events := prompts :: commandEvents done
            match done.outcome with
            | .ok _ => (runWithin interpret fuel reading.rest done.state).after events
            | .error abort =>
                if abort.isLocal then
                  (runWithin interpret fuel reading.rest done.state).after events
                else ⟨events, done.state, some abort⟩

/-- Runs until the end.  Each command takes at least one event of the input. -/
def run {σ : Type} (interpret : Text → σ → Execution σ Abort Envelope)
    (input : List InputEvent) (state : σ) : Run σ :=
  (runWithin interpret (input.length + 1) input state).after [.output greeting]

end Shell

end SearchShell
