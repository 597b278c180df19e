import SearchShell.Number.Integer
import SearchShell.Settings.Basic
import SearchShell.Text.Utf8

/-!
# The log

A logger passes records that reach its level to two places: a rotating file and the
console, each with a level of its own.
-/

set_option autoImplicit false

namespace SearchShell

/-! ## Records -/

structure LogLevel where
  value : Int
deriving DecidableEq

namespace LogLevel

def unset : LogLevel := ⟨0⟩

def debug : LogLevel := ⟨10⟩

def info : LogLevel := ⟨20⟩

def warning : LogLevel := ⟨30⟩

def error : LogLevel := ⟨40⟩

def critical : LogLevel := ⟨50⟩

/-- The name of a level; a level between the named ones is named by its number. -/
def name (level : LogLevel) : Text :=
  if level = unset then text "NOTSET"
  else if level = debug then text "DEBUG"
  else if level = info then text "INFO"
  else if level = warning then text "WARNING"
  else if level = error then text "ERROR"
  else if level = critical then text "CRITICAL"
  else text "Level " ++ Text.ofInt level.value

def isSilent (level : LogLevel) : Bool := level.value ≤ 0

def reaches (level threshold : LogLevel) : Bool := threshold.value ≤ level.value

end LogLevel

structure LogRecord where
  level : LogLevel
  message : Text
deriving DecidableEq

/-! ## Rotating log files

A log file is set aside before it would grow beyond its limit.  Files that were set
aside are numbered from the latest, and only so many are kept; when none is to be
kept, nothing is set aside. -/

namespace LogRecord

/-- The point in time that all records bear. -/
def timestamp : Text := text "2000-01-01 00:00:00,000"

def levelWidth : Nat := 8

def line (record : LogRecord) : Text :=
  let name := record.level.name
  timestamp ++ text " | " ++ name ++
    List.replicate (levelWidth - name.length) (CodePoint.ofChar ' ') ++
    text " | " ++ record.message ++ text "\n"

end LogRecord

structure RotatingLog where
  /-- The size in octets that a file must not reach, if it is positive. -/
  limit : Int
  backups : Int
  current : Text
  /-- The files that were set aside, the latest first. -/
  older : List Text

namespace RotatingLog

def start (limit backups : Int) : RotatingLog := ⟨limit, backups, [], []⟩

/-- The line would make the current file too large.  The file is measured in octets and
the line in code points. -/
def isFull (log : RotatingLog) (line : Text) : Bool :=
  0 < log.limit && log.limit ≤ ((Utf8.spell log.current).length + line.length : Nat)

/-- Sets the current file aside, if files are kept at all. -/
def rotate (log : RotatingLog) : RotatingLog :=
  if 0 < log.backups then
    { log with current := [], older := (log.current :: log.older).take log.backups.toNat }
  else log

def append (log : RotatingLog) (line : Text) : RotatingLog :=
  let log := if log.isFull line then log.rotate else log
  { log with current := log.current ++ line }

def files (name : Text) (log : RotatingLog) : List (Text × Text) :=
  let numbered := (List.range log.older.length).map fun n =>
    name ++ text "." ++ Text.ofNat (n + 1)
  ((name, log.current) :: numbered.zip log.older).mergeSort fun a b => !(Text.precedes b.1 a.1)

end RotatingLog

/-! ## Loggers -/

structure LoggerSetup where
  givenName : Text := text "els_interpreter"
  directory : Text
  fileName : Text := text "els.log"
  level : LogLevel := .info
  consoleLevel : LogLevel := .warning
  limit : Int := 5000000
  backups : Int := 3

namespace LoggerSetup

def rootName : Text := text "root"

def name (setup : LoggerSetup) : Text :=
  if setup.givenName.isEmpty then rootName else setup.givenName

/-- The lowest level that the logger lets pass; without one of its own it takes that of
warnings, unless it is above all others. -/
def threshold (setup : LoggerSetup) : LogLevel :=
  if setup.level = .unset && setup.name ≠ rootName then .warning else setup.level

def passes (setup : LoggerSetup) (record : LogRecord) : Bool :=
  !record.level.isSilent && record.level.reaches setup.threshold

def toFile (setup : LoggerSetup) (records : List LogRecord) : List LogRecord :=
  records.filter fun record => setup.passes record && record.level.reaches setup.level

def reachesConsole (setup : LoggerSetup) (record : LogRecord) : Bool :=
  setup.passes record && record.level.reaches setup.consoleLevel

def console (setup : LoggerSetup) (records : List LogRecord) : Text :=
  (records.filter setup.reachesConsole).flatMap LogRecord.line

def run (setup : LoggerSetup) (records : List LogRecord) : RotatingLog :=
  (setup.toFile records).foldl (fun log record => log.append record.line)
    (RotatingLog.start setup.limit setup.backups)

def files (setup : LoggerSetup) (records : List LogRecord) : List (Text × Text) :=
  match locationOf? setup.directory setup.fileName with
  | some location => (setup.run records).files location
  | none => []

def fault? (setup : LoggerSetup) : Option PathFault :=
  (PathFault.ofPath? setup.directory).or (PathFault.ofPath? setup.fileName)

end LoggerSetup

end SearchShell
