import SearchShell.Command.Basic
import SearchShell.Settings.Basic

/-!
# Where settings come from

Each setting has a usual value, the environment can replace it, and whoever loads
the settings can override it.  Numbers in the environment must be numbers, but
only overrides are checked for their range.
-/

set_option autoImplicit false

namespace SearchShell

structure Environment where
  host : Option Text := none
  port : Option Text := none
  clusterName : Option Text := none
  timeout : Option Text := none
  logDirectory : Option Text := none

inductive EnvironmentFault where
  | port (fault : IntegerFault)
  | timeout (raw : Text)
deriving DecidableEq

def EnvironmentFault.message : EnvironmentFault → Text
  | port fault => fault.message
  | timeout raw => floatFaultMessage raw

structure Defaults where
  settings : Settings
  logDirectory : Text

namespace Defaults

/-- The defaults in an environment.  The port is read before the timeout. -/
def ofEnvironment (environment : Environment) : Except EnvironmentFault Defaults := do
  let port ← match environment.port with
    | none => .ok 9200
    | some raw => (readInteger raw).mapError .port
  let timeout ← match environment.timeout with
    | none => .ok (Binary64.ofRatio false 30 1)
    | some raw => match readFloat? raw with
      | some x => .ok x
      | none => .error (.timeout raw)
  .ok {
    settings := {
      host := environment.host.getD (text "localhost")
      port := port
      clusterName := environment.clusterName.getD (text "elasticsearch")
      timeout := timeout }
    logDirectory := normalDirectory (environment.logDirectory.getD (text "logs")) }

def usual : Defaults where
  settings := {
    host := text "localhost"
    port := 9200
    clusterName := text "elasticsearch"
    timeout := Binary64.ofRatio false 30 1 }
  logDirectory := text "logs"

end Defaults

/-- Overrides a setting: without a value the default stays as it is. -/
def override {α : Type} (default : α) (convert : Json → Except ValueDefect α) :
    Option Json → Except ValueDefect α
  | none => .ok default
  | some value => convert value

def checkPort (port : Int) : Except ValueDefect Int :=
  if port ≤ 0 then .error (.greaterThan 0)
  else if 65536 ≤ port then .error (.lessThan 65536)
  else .ok port

def checkTimeout (timeout : Binary64) : Except ValueDefect Binary64 :=
  if timeout.isPositive then .ok timeout else .error (.greaterThan 0)

def defectOf {α : Type} (name : String) (field : Except ValueDefect α) :
    List (Text × ValueDefect) :=
  match field with
  | .ok _ => []
  | .error defect => [(text name, defect)]

namespace Settings

/-- The settings with some overridden.  All defects are reported, in the order of the
fields. -/
def validate (defaults : Settings) (overrides : Members) : Except Invalid Settings :=
  let given (name : String) : Option Json := Members.get? (text name) overrides
  let host := override defaults.host textOf (given "host")
  let port := override defaults.port (fun value => (integerOf value).bind checkPort) (given "port")
  let clusterName := override defaults.clusterName textOf (given "cluster_name")
  let timeout :=
    override defaults.timeout (fun value => (floatOf value).bind checkTimeout) (given "timeout")
  match host, port, clusterName, timeout with
  | .ok host, .ok port, .ok clusterName, .ok timeout => .ok ⟨host, port, clusterName, timeout⟩
  | _, _, _, _ => .error ⟨text "EngineSettings",
      defectOf "host" host ++ defectOf "port" port ++ defectOf "cluster_name" clusterName ++
        defectOf "timeout" timeout⟩

def withOverrides (defaults : Settings) (overrides : Members) : Except Invalid Settings :=
  validate defaults (overrides.filter fun override => !override.2.isNull)

end Settings

namespace SearchPayload

/-- A specification from given values, where null stands for nothing. -/
def validate (size body : Json) : Except Invalid SearchPayload :=
  let size : Except ValueDefect (Option Int) := match size with
    | .null => .ok none
    | value => (integerOf value).bind fun n =>
        if n < 0 then .error (.greaterThanEqual 0) else .ok (some n)
  let body : Except ValueDefect (Option Members) := match body with
    | .null => .ok none
    | .object members => .ok (some members)
    | _ => .error .objectType
  match size, body with
  | .ok size, .ok body => .ok ⟨size, body⟩
  | _, _ => .error ⟨text "SearchSpec", defectOf "size" size ++ defectOf "body" body⟩

end SearchPayload

end SearchShell
