import Mathlib.Data.Option.Basic
import SearchShell.Proofs.Entries
import SearchShell.Proofs.Outcome
import SearchShell.Settings.Sources

/-!
# Ranges of settings

A port or a timeout that is given when the settings are loaded is checked.  One that the
environment sets is only read, so whether it is in range depends on the environment.
-/

set_option autoImplicit false

namespace SearchShell

open Outcome

def IsPort (port : Int) : Prop := 0 < port ∧ port < 65536

structure Settings.InRange (settings : Settings) : Prop where
  port : IsPort settings.port
  timeout : settings.timeout.isPositive = true

def IsOverridden (name : String) (overrides : Members) : Prop :=
  ∃ value, (text name, value) ∈ overrides ∧ value.isNull = false

namespace Environment

/-- If the environment sets a port, then to an integer in the range of ports. -/
def SetsPort (environment : Environment) : Prop :=
  ∀ raw, environment.port = some raw → ∃ port, readInteger raw = .ok port ∧ IsPort port

/-- If the environment sets a timeout, then to a number greater than zero. -/
def SetsTimeout (environment : Environment) : Prop :=
  ∀ raw, environment.timeout = some raw →
    ∃ timeout, readFloat? raw = some timeout ∧ timeout.isPositive = true

end Environment

/-! ## The environment -/

namespace Environment

def readPort (environment : Environment) : Except EnvironmentFault Int :=
  match environment.port with
  | none => .ok 9200
  | some raw => (readInteger raw).mapError .port

def readTimeout (environment : Environment) : Except EnvironmentFault Binary64 :=
  match environment.timeout with
  | none => .ok (Binary64.ofRatio false 30 1)
  | some raw => match readFloat? raw with
    | some x => .ok x
    | none => .error (.timeout raw)

end Environment

namespace Defaults

variable {environment : Environment} {defaults : Defaults}

theorem ofEnvironment_eq (environment : Environment) :
    ofEnvironment environment = environment.readPort >>= fun port =>
      environment.readTimeout >>= fun timeout => .ok {
        settings := {
          host := environment.host.getD (text "localhost")
          port := port
          clusterName := environment.clusterName.getD (text "elasticsearch")
          timeout := timeout }
        logDirectory := normalDirectory (environment.logDirectory.getD (text "logs")) } := by
  obtain ⟨host, port, clusterName, timeout, logDirectory⟩ := environment
  cases timeout with
  | none => cases port <;> rfl
  | some raw =>
      simp only [ofEnvironment, Environment.readPort, Environment.readTimeout]
      cases port <;> cases readFloat? raw <;> rfl

theorem ofEnvironment_port {raw : Text} {port : Int} (read : readInteger raw = .ok port) :
    ofEnvironment { port := some raw } =
      .ok { usual with settings := { usual.settings with port := port } } := by
  have logs : normalDirectory (text "logs") = text "logs" := by decide +kernel
  simp only [ofEnvironment_eq, Environment.readPort, Environment.readTimeout, read, usual,
    Option.getD_none, logs]
  rfl

/-- The environment's port and timeout are what is read, the usual ones where it sets none. -/
theorem read_of_ofEnvironment (loads : ofEnvironment environment = .ok defaults) :
    environment.readPort = .ok defaults.settings.port ∧
      environment.readTimeout = .ok defaults.settings.timeout := by
  rw [ofEnvironment_eq] at loads
  obtain ⟨port, portRead, later⟩ := (bind_eq_ok_iff _ _ _).mp loads
  obtain ⟨timeout, timeoutRead, same⟩ := (bind_eq_ok_iff _ _ _).mp later
  cases same
  exact ⟨portRead, timeoutRead⟩

/-- The usual port is in range, so only the environment can set one that is not. -/
theorem isPort_iff (loads : ofEnvironment environment = .ok defaults) :
    IsPort defaults.settings.port ↔ environment.SetsPort := by
  have read := (read_of_ofEnvironment loads).1
  unfold Environment.readPort at read
  unfold Environment.SetsPort
  cases set : environment.port with
  | none =>
      have usual : 9200 = defaults.settings.port := by simpa [set] using read
      simp [← usual, IsPort]
  | some raw =>
      rw [set] at read
      simp [(mapError_eq_ok_iff _ _ _).mp read]

theorem isPositive_iff (loads : ofEnvironment environment = .ok defaults) :
    defaults.settings.timeout.isPositive = true ↔ environment.SetsTimeout := by
  have read := (read_of_ofEnvironment loads).2
  unfold Environment.readTimeout at read
  unfold Environment.SetsTimeout
  cases set : environment.timeout with
  | none =>
      have usual : Binary64.ofRatio false 30 1 = defaults.settings.timeout := by
        simpa [set] using read
      have positive : (Binary64.ofRatio false 30 1).isPositive = true := by decide +kernel
      simp [← usual, positive]
  | some raw =>
      simp only [set] at read
      split at read
      next timeout found => simp [found, Except.ok.inj read]
      next => cases read

end Defaults

/-! ## Overrides -/

theorem checkPort_eq_ok_iff (n port : Int) : checkPort n = .ok port ↔ n = port ∧ IsPort n := by
  unfold checkPort IsPort
  split
  · simp; omega
  · split
    · simp; omega
    · simp; omega

theorem checkTimeout_eq_ok_iff (x timeout : Binary64) :
    checkTimeout x = .ok timeout ↔ x = timeout ∧ x.isPositive = true := by
  unfold checkTimeout
  split <;> simp [*]

section Checked

variable {α β : Type} (InRange : α → Prop) {convert : Json → Except ValueDefect β}
  {check : β → Except ValueDefect α}

/-- A field whose conversion is checked is in range unless it keeps a default that is not. -/
theorem override_inRange_iff (checked : ∀ {b a}, check b = .ok a → InRange a) {default field : α}
    {given : Option Json}
    (done : override default (fun value => (convert value).bind check) given = .ok field) :
    InRange field ↔ given.isSome = true ∨ InRange default := by
  cases given with
  | none =>
      cases done
      simp
  | some value =>
      obtain ⟨b, -, passed⟩ := (bind_eq_ok_iff (convert value) check field).mp done
      simp [checked passed]

end Checked

namespace Settings

variable {defaults settings : Settings} {overrides : Members}

/-- Valid settings take every field from its own override. -/
theorem validate_eq_ok_iff : validate defaults overrides = .ok settings ↔
    override defaults.host textOf (Members.get? (text "host") overrides) = .ok settings.host ∧
    override defaults.port (fun value => (integerOf value).bind checkPort)
      (Members.get? (text "port") overrides) = .ok settings.port ∧
    override defaults.clusterName textOf (Members.get? (text "cluster_name") overrides) =
      .ok settings.clusterName ∧
    override defaults.timeout (fun value => (floatOf value).bind checkTimeout)
      (Members.get? (text "timeout") overrides) = .ok settings.timeout := by
  obtain ⟨host, port, clusterName, timeout⟩ := settings
  simp only [validate]
  split
  next hostGiven portGiven nameGiven timeoutGiven =>
    simp [hostGiven, portGiven, nameGiven, timeoutGiven]
  next failed =>
    constructor
    · intro valid
      cases valid
    · rintro ⟨hostGiven, portGiven, nameGiven, timeoutGiven⟩
      exact absurd timeoutGiven (failed _ _ _ _ hostGiven portGiven nameGiven)

end Settings

theorem isOverridden_iff (name : String) (overrides : Members) :
    IsOverridden name overrides ↔
      (Members.get? (text name) (overrides.filter fun override => !override.2.isNull)).isSome =
        true := by
  simp [Members.isSome_get?_iff, IsOverridden, List.mem_filter]

/-! ## Loaded settings -/

namespace Settings

/-- Loaded settings are in range exactly when each number of the environment that nothing
overrides is. -/
theorem inRange_iff {environment : Environment} {defaults : Defaults} {overrides : Members}
    {settings : Settings} (loads : Defaults.ofEnvironment environment = .ok defaults)
    (loaded : defaults.settings.withOverrides overrides = .ok settings) :
    settings.InRange ↔
      (IsOverridden "port" overrides ∨ environment.SetsPort) ∧
      (IsOverridden "timeout" overrides ∨ environment.SetsTimeout) := by
  obtain ⟨-, portGiven, -, timeoutGiven⟩ := validate_eq_ok_iff.mp loaded
  have port : IsPort settings.port ↔ IsOverridden "port" overrides ∨ environment.SetsPort := by
    rw [isOverridden_iff, ← Defaults.isPort_iff loads]
    apply override_inRange_iff IsPort _ portGiven
    intro n port passed
    obtain ⟨rfl, inRange⟩ := (checkPort_eq_ok_iff n port).mp passed
    exact inRange
  have timeout : settings.timeout.isPositive = true ↔
      IsOverridden "timeout" overrides ∨ environment.SetsTimeout := by
    rw [isOverridden_iff, ← Defaults.isPositive_iff loads]
    apply override_inRange_iff (fun x => x.isPositive = true) _ timeoutGiven
    intro x timeout passed
    obtain ⟨rfl, positive⟩ := (checkTimeout_eq_ok_iff x timeout).mp passed
    exact positive
  rw [← port, ← timeout]
  exact ⟨fun inRange => ⟨inRange.port, inRange.timeout⟩, fun ⟨port, timeout⟩ => ⟨port, timeout⟩⟩

/-- A port of the environment that is out of range does not matter where another is given. -/
theorem given_port_is_inRange :
    ∃ defaults settings, Defaults.ofEnvironment { port := some (text "70000") } = .ok defaults ∧
      defaults.settings.port = 70000 ∧
      defaults.settings.withOverrides
        [(text "port", .string (text "9300")), (text "timeout", .null)] = .ok settings ∧
      settings.port = 9300 ∧ settings.InRange := by
  let defaults : Defaults :=
    { Defaults.usual with settings := { Defaults.usual.settings with port := 70000 } }
  let overrides : Members := [(text "port", .string (text "9300")), (text "timeout", .null)]
  have loads : Defaults.ofEnvironment { port := some (text "70000") } = .ok defaults :=
    Defaults.ofEnvironment_port (by decide +kernel)
  have loaded : defaults.settings.withOverrides overrides =
      .ok { Defaults.usual.settings with port := 9300 } := by decide +kernel
  refine ⟨defaults, _, loads, rfl, loaded, rfl, (inRange_iff loads loaded).mpr ⟨?_, ?_⟩⟩
  · exact Or.inl ⟨_, List.mem_cons_self, rfl⟩
  · exact Or.inr fun raw set => nomatch set

/-- The environment sets port zero, and the settings that are loaded have it. -/
theorem port_of_environment_is_unchecked :
    ∃ defaults settings, Defaults.ofEnvironment { port := some (text "0") } = .ok defaults ∧
      defaults.settings.withOverrides [] = .ok settings ∧
      settings.port = 0 ∧ ¬ settings.InRange := by
  let settings : Settings := { Defaults.usual.settings with port := 0 }
  have read : readInteger (text "0") = .ok 0 := by decide +kernel
  refine ⟨{ Defaults.usual with settings := settings }, settings,
    Defaults.ofEnvironment_port read, by decide +kernel, rfl, ?_⟩
  intro inRange
  exact absurd inRange.port.1 (by decide)

end Settings

end SearchShell
