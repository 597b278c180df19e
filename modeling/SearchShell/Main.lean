import SearchShell.CommandLine.Program

/-!
# Command line

Takes the arguments, the environment and the input from the operating system and shows
what a run leaves behind.  No transport is attached: every request is refused.
-/

set_option autoImplicit false

open SearchShell

/-- Surrogates cannot be shown. -/
def shownText (s : Text) : String :=
  String.ofList (s.map fun c => if c.isSurrogate then Char.ofNat 0xFFFD else Char.ofNat c.val)

def environmentText (name : String) : IO (Option Text) := do
  return (← IO.getEnv name).map text

partial def readLines (stream : IO.FS.Stream) : IO (List InputEvent) := do
  let line ← stream.getLine
  if line.isEmpty then return []
  else return .line (text line) :: (← readLines stream)

def main (arguments : List String) : IO UInt32 := do
  let environment : Environment := {
    host := ← environmentText "ELASTICSEARCH_HOST"
    port := ← environmentText "ELASTICSEARCH_PORT"
    clusterName := ← environmentText "ELASTICSEARCH_CLUSTER_NAME"
    timeout := ← environmentText "ELASTICSEARCH_TIMEOUT"
    logDirectory := ← environmentText "ELS_LOG_DIR" }
  match Defaults.ofEnvironment environment with
  | .error fault =>
      IO.eprintln (shownText fault.message)
      return 1
  | .ok defaults =>
      let input ← readLines (← IO.getStdin)
      let refusal : Http.Reply :=
        .failure ⟨.exchange, text "ConnectError", text "no transport is attached"⟩
      let run := Program.run defaults (arguments.map text) input [refusal]
      IO.print (shownText run.output)
      IO.eprint (shownText run.errorOutput)
      match run.ending with
      | .finished code => return UInt32.ofNat code
      | .stopped stop => return UInt32.ofNat stop.exitCode
      | .unusablePath fault =>
          IO.eprintln (shownText fault.message)
          return 1
      | .invalidSettings invalid =>
          IO.eprintln (shownText invalid.message)
          return 1
      | .aborted (.fault fault) =>
          IO.eprintln (shownText fault.message)
          return 1
      | .aborted (.interruption _) => return 130
