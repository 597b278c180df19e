import SearchShell.Number.FloatText
import SearchShell.Settings.Basic

/-!
# Options

Options come before the command.  A long option may be shortened as long as it stays
unambiguous, and its value may follow after an equals sign.  The command begins with
the first word that is neither an option nor the value of one, and takes everything
from there on.
-/

set_option autoImplicit false

namespace SearchShell

inductive OptionName where
  | help
  | host
  | port
  | clusterName
  | timeout
  | logDirectory
deriving DecidableEq

namespace OptionName

/-- All spellings, in the order in which they are offered. -/
def spellings : List (Text × OptionName) := [
  (text "-h", help), (text "--help", help), (text "--host", host), (text "--port", port),
  (text "--cluster-name", clusterName), (text "--timeout", timeout),
  (text "--log-dir", logDirectory)]

def display (name : OptionName) : Text :=
  Text.joined (text "/") ((spellings.filter fun spelling => spelling.2 = name).map Prod.fst)

end OptionName

inductive UsageFault where
  | ambiguous (given : Text) (candidates : List Text)
  | expectedValue (option : OptionName)
  | invalidValue (option : OptionName) (kindName value : Text)
  | ignoredValue (option : OptionName) (value : Text)
  | unrecognized (words : List Text)
deriving DecidableEq

def UsageFault.message : UsageFault → Text
  | ambiguous given candidates =>
      text "ambiguous option: " ++ given ++ text " could match " ++
        Text.joined (text ", ") candidates
  | expectedValue option =>
      text "argument " ++ option.display ++ text ": expected one argument"
  | invalidValue option kindName value =>
      text "argument " ++ option.display ++ text ": invalid " ++ kindName ++ text " value: " ++
        value.quoted
  | ignoredValue option value =>
      text "argument " ++ option.display ++ text ": ignored explicit argument " ++ value.quoted
  | unrecognized words => text "unrecognized arguments: " ++ Text.joined (text " ") words

inductive OptionValue (α : Type) where
  | absent
  /-- A double dash was attached, which counts as no value at all. -/
  | empty
  | given (value : α)
deriving DecidableEq

structure Options where
  host : OptionValue Text := .absent
  port : OptionValue Int := .absent
  clusterName : OptionValue Text := .absent
  timeout : OptionValue Binary64 := .absent
  logDirectory : OptionValue Text := .absent
  command : List Text := []

inductive Stop where
  | help
  | usage (fault : UsageFault)
deriving DecidableEq

inductive Argument where
  | word
  /-- An option, possibly with a value in the same argument. -/
  | option (name : OptionName) (attached : Option Text)
  | unknown
deriving DecidableEq

namespace Argument

def splitEquals (s : Text) : Text × Option Text :=
  let before := s.takeWhile fun c => c ≠ CodePoint.ofChar '='
  (before, if before.length < s.length then some (s.drop (before.length + 1)) else none)

/-- Digits of any script. -/
def allDigits (s : Text) : Bool := s.all fun c => c.digitValue?.isSome

/-- A minus sign and a number with or without a fraction; a line break may follow. -/
def isNegativeNumber (s : Text) : Bool :=
  match if s.getLast? = some (CodePoint.ofChar '\n') then s.dropLast else s with
  | [] => false
  | c :: unsigned =>
      let whole := unsigned.takeWhile fun c => c ≠ CodePoint.ofChar '.'
      let fraction := unsigned.drop (whole.length + 1)
      c = CodePoint.ofChar '-' && allDigits whole &&
        (if whole.length < unsigned.length then !fraction.isEmpty && allDigits fraction
         else !whole.isEmpty)

/-- The options that an argument can be short for.  A long option may be cut off
anywhere; after the letter of a short one its value follows directly. -/
def interpretations (given : Text) : List (Text × Argument) :=
  if (text "--").isPrefixOf given then
    let (beginning, value) := splitEquals given
    (OptionName.spellings.filter fun spelling => beginning.isPrefixOf spelling.1).map
      fun (spelling, name) => (spelling, option name value)
  else
    OptionName.spellings.filterMap fun (spelling, name) =>
      if spelling = given.take 2 then
        some (spelling, option name (some (given.drop 2)))
      else if given.isPrefixOf spelling then some (spelling, option name none)
      else none

def spelledOut? (spelling : Text) (value : Option Text) : Option Argument :=
  (OptionName.spellings.lookup spelling).map fun name => option name value

/-- Tells what an argument is, judged by itself alone. -/
def classify (given : Text) : Except UsageFault Argument :=
  let (beginning, value) := splitEquals given
  if given.head? ≠ some (CodePoint.ofChar '-') then .ok word
  else match spelledOut? given none with
    | some argument => .ok argument
    | none =>
      if given.length = 1 then .ok word
      else match value.bind fun value => spelledOut? beginning (some value) with
        | some argument => .ok argument
        | none => match interpretations given with
          | [(_, argument)] => .ok argument
          | [] =>
              if isNegativeNumber given || given.contains (CodePoint.ofChar ' ') then .ok word
              else .ok unknown
          | several => .error (.ambiguous given (several.map Prod.fst))

/-- What the help option comes to with what is attached to it: the same option over again is
help once more, and anything else is an error. -/
def helpWith (attached : Text) : Stop :=
  let rest := attached.dropWhile fun c => c = CodePoint.ofChar 'h'
  if attached.isEmpty || !rest.isEmpty then .usage (.ignoredValue .help rest) else .help

end Argument

namespace Options

def set (options : Options) (name : OptionName) (value : Text) : Except Stop Options :=
  match name with
  | .help => .error .help
  | .host => .ok { options with host := .given value }
  | .port => match readInteger value with
    | .ok n => .ok { options with port := .given n }
    | .error _ => .error (.usage (.invalidValue .port (text "int") value))
  | .clusterName => .ok { options with clusterName := .given value }
  | .timeout => match readFloat? value with
    | some x => .ok { options with timeout := .given x }
    | none => .error (.usage (.invalidValue .timeout (text "float") value))
  | .logDirectory => .ok { options with logDirectory := .given (normalDirectory value) }

def clear (options : Options) : OptionName → Options
  | .help => options
  | .host => { options with host := .empty }
  | .port => { options with port := .empty }
  | .clusterName => { options with clusterName := .empty }
  | .timeout => { options with timeout := .empty }
  | .logDirectory => { options with logDirectory := .empty }

def setAttached (options : Options) (name : OptionName) (value : Text) : Except Stop Options :=
  if value = text "--" then .ok (options.clear name) else options.set name value

/-- Goes through classified arguments; `unknown` are the words that nobody knew. -/
def gather (options : Options) (unknown : List Text) :
    List (Text × Argument) → Except Stop Options
  | [] => if unknown.isEmpty then .ok options else .error (.usage (.unrecognized unknown))
  | (raw, .word) :: rest =>
      if unknown.isEmpty then .ok { options with command := raw :: rest.map Prod.fst }
      else .error (.usage (.unrecognized unknown))
  | (raw, .unknown) :: rest => gather options (unknown ++ [raw]) rest
  | (_, .option .help none) :: _ => .error .help
  | (_, .option .help (some attached)) :: _ => .error (Argument.helpWith attached)
  | (_, .option name (some attached)) :: rest => do
      gather (← options.setAttached name attached) unknown rest
  | (_, .option name none) :: rest => match rest with
      | (value, .word) :: rest => do gather (← options.set name value) unknown rest
      | _ => .error (.usage (.expectedValue name))

/-- Classifies all arguments before the first double dash, which can be no value.  An
argument that is ambiguous by itself is refused wherever it stands. -/
def classifyAll (arguments : List Text) : Except UsageFault (List (Text × Argument)) :=
  (arguments.takeWhile fun argument => argument ≠ text "--").mapM fun argument =>
    (Argument.classify argument).map fun looks => (argument, looks)

/-- Goes through the arguments.  A double dash begins the command. -/
def ofArguments (arguments : List Text) : Except Stop Options := do
  let before ← (classifyAll arguments).mapError .usage
  let command := arguments.drop before.length
  let options ← gather {} [] before
  .ok { options with command := options.command ++ command }

def textLines (lines : List String) : Text := lines.flatMap fun line => text line ++ text "\n"

def usage : Text := textLines [
  "usage: els [-h] [--host HOST] [--port PORT] [--cluster-name CLUSTER_NAME]",
  "           [--timeout TIMEOUT] [--log-dir LOG_DIR]",
  "           ..."]

def helpText : Text := usage ++ textLines [
  "",
  "Run get/count/search/index/delete commands against Elasticsearch",
  "",
  "positional arguments:",
  "  command               Run a single command and exit",
  "",
  "options:",
  "  -h, --help            show this help message and exit",
  "  --host HOST           Elasticsearch host (default: $ELASTICSEARCH_HOST)",
  "  --port PORT           Elasticsearch HTTP port (default: $ELASTICSEARCH_PORT)",
  "  --cluster-name CLUSTER_NAME",
  "                        Expected cluster name (default:",
  "                        $ELASTICSEARCH_CLUSTER_NAME)",
  "  --timeout TIMEOUT     Request timeout in seconds",
  "  --log-dir LOG_DIR     Directory for els.log"]

end Options

namespace Stop

/-- Help was asked for and given; anything else is a mistake. -/
def exitCode : Stop → Nat
  | help => 0
  | usage _ => 2

def output : Stop → Text
  | help => Options.helpText
  | usage _ => []

def errorOutput : Stop → Text
  | help => []
  | usage fault => Options.usage ++ text "els: error: " ++ fault.message ++ text "\n"

end Stop

end SearchShell
