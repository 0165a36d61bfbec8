import HermesSentinel.Python.Number
import HermesSentinel.Python.Text
import Mathlib.Data.List.Nodup

namespace HermesSentinel
namespace Domain

open Python

/-!
# Configuration values

Each class is a record of constructor arguments with its `__post_init__`, and
the values of the class are the records that passed.  Annotated types are taken
as given; a `float` field may hold an `int`.
-/

def requirePositive (name : String) (value : Number) : Fallible Unit := do
  let finite ← value.isfinite
  requireNumber value (finite = true) s!"{name} must be a finite number"
  requireNumber value (value.exact.le PyFloat.zero = false) s!"{name} must be > 0"

/-- The bounds of a configured percentage, with zero excluded. -/
def requireThresholdPercent (name : String) (value : Number) : Fallible Unit := do
  let finite ← value.isfinite
  requireNumber value (finite = true) s!"{name} must be a finite number"
  requireNumber value (PyFloat.zero.lt value.exact = true ∧ value.exact.le PyFloat.hundred = true)
    s!"{name} must be within (0, 100]"

def requireNonEmpty (name : String) (value : PyStr) : Fallible Unit :=
  require (value ≠ []) s!"{name} must be a non-empty string"

def requirePositiveInt (name : String) (value : Int) : Fallible Unit :=
  requireNumber (.int value) (1 ≤ value) s!"{name} must be >= 1"

/-- A finite number above zero. -/
def Positive (value : Number) : Prop :=
  value.isfinite = .ok true ∧ PyFloat.zero.lt value.exact = true

/-- A finite number above zero, and at most a hundred. -/
def ThresholdPercent (value : Number) : Prop :=
  Positive value ∧ value.exact.le PyFloat.hundred = true

theorem exact_of_isfinite {value : Number} (finite : value.isfinite = .ok true) :
    exists q, value.exact = .finite q := by
  cases value with
  | int n => exact ⟨n, rfl⟩
  | float x =>
      cases x with
      | finite q => exact ⟨q, rfl⟩
      | _ =>
          cases finite

theorem zero_lt_iff {value : Number} (finite : value.isfinite = .ok true) :
    PyFloat.zero.lt value.exact = true ↔ value.exact.le PyFloat.zero = false := by
  rcases exact_of_isfinite finite with ⟨q, exact⟩
  rw [exact]
  simp only [PyFloat.lt, PyFloat.le, PyFloat.zero, Bool.and_eq_true, decide_eq_true_eq,
    Bool.not_eq_true', decide_eq_false_iff_not, not_le]
  exact ⟨fun both => both.2, fun positive => ⟨positive.le, positive⟩⟩

theorem requirePositive_eq_ok {name : String} {value : Number} :
    requirePositive name value = .ok () ↔ Positive value := by
  unfold requirePositive Positive
  rw [bind_eq_ok]
  simp only [check_bind_eq_ok, requireNumber_eq_ok]
  constructor
  · intro passed
    rcases passed with ⟨finite, classified, isFinite, above⟩
    subst isFinite
    exact ⟨classified, (zero_lt_iff classified).mpr above⟩
  · intro positive
    exact ⟨true, positive.1, rfl, (zero_lt_iff positive.1).mp positive.2⟩

theorem requireThresholdPercent_eq_ok {name : String} {value : Number} :
    requireThresholdPercent name value = .ok () ↔ ThresholdPercent value := by
  unfold requireThresholdPercent ThresholdPercent Positive
  rw [bind_eq_ok]
  simp only [check_bind_eq_ok, requireNumber_eq_ok]
  constructor
  · intro passed
    rcases passed with ⟨finite, classified, isFinite, bounds⟩
    subst isFinite
    exact ⟨⟨classified, bounds.1⟩, bounds.2⟩
  · intro percent
    exact ⟨true, percent.1.1, rfl, percent.1.2, percent.2⟩

/-- The exceptions a constructor refuses its arguments with. -/
def RefusesArguments (kind : ExceptionClass) : Prop :=
  kind = .typeError ∨ kind.isValueError = true ∨ kind = .overflowError

theorem refusesArguments_value : RefusesArguments .valueError :=
  Or.inr (Or.inl rfl)

theorem isfinite_raises (value : Number) : RaisesOnly RefusesArguments value.isfinite := by
  cases value with
  | int n =>
      apply RaisesOnly.bind
      · unfold PyFloat.ofExact
        split
        · exact .raise _ (Or.inr (Or.inr rfl))
        · exact .ok _
      · exact fun _ _ => .ok _
  | float x => exact .ok _

theorem requirePositive_raises (name : String) (value : Number) :
    RaisesOnly RefusesArguments (requirePositive name value) :=
  .bind (isfinite_raises value) fun _ _ =>
    .bind (.requireNumber refusesArguments_value _) fun _ _ =>
      .requireNumber refusesArguments_value _

theorem requireThresholdPercent_raises (name : String) (value : Number) :
    RaisesOnly RefusesArguments (requireThresholdPercent name value) :=
  .bind (isfinite_raises value) fun _ _ =>
    .bind (.requireNumber refusesArguments_value _) fun _ _ =>
      .requireNumber refusesArguments_value _

theorem construct_raises {φ α : Type} {postInit : φ -> Fallible Unit}
    (build : (fields : φ) -> postInit fields = .ok () -> α) {fields : φ}
    (raises : RaisesOnly RefusesArguments (postInit fields)) :
    RaisesOnly RefusesArguments (construct postInit build fields) := by
  intro e failed
  exact raises e (construct_eq_error.mp failed)

structure HeartbeatSettingsFields where
  expectedIntervalSeconds : Number
  staleAfterSeconds : Number
  deriving DecidableEq

def HeartbeatSettingsFields.postInit (f : HeartbeatSettingsFields) : Fallible Unit := do
  requirePositive "expected_interval_seconds" f.expectedIntervalSeconds
  requirePositive "stale_after_seconds" f.staleAfterSeconds

structure HeartbeatSettings extends HeartbeatSettingsFields where
  accepted : toHeartbeatSettingsFields.postInit = .ok ()

def HeartbeatSettings.make (fields : HeartbeatSettingsFields) : Fallible HeartbeatSettings :=
  construct HeartbeatSettingsFields.postInit (fun f accepted => { f with accepted := accepted }) fields

theorem HeartbeatSettings.durations (settings : HeartbeatSettings) :
    Positive settings.expectedIntervalSeconds ∧ Positive settings.staleAfterSeconds := by
  have accepted := settings.accepted
  simp only [HeartbeatSettingsFields.postInit, check_bind_eq_ok, requirePositive_eq_ok] at accepted
  exact accepted

theorem HeartbeatSettings.make_raises (fields : HeartbeatSettingsFields) :
    RaisesOnly RefusesArguments (HeartbeatSettings.make fields) :=
  construct_raises _
    (.bind (requirePositive_raises _ _) fun _ _ => requirePositive_raises _ _)

/-! ## External reachability -/

structure ExternalCheckSettingsFields where
  tcpHost : PyStr
  tcpPort : Int
  timeoutSeconds : Number := .float (.finite 5)
  downConfirmations : Int := 3
  recoveryConfirmations : Int := 2
  deriving DecidableEq

def ExternalCheckSettingsFields.postInit (f : ExternalCheckSettingsFields) : Fallible Unit := do
  requireNonEmpty "tcp_host" f.tcpHost
  requireNumber (.int f.tcpPort) (1 ≤ f.tcpPort ∧ f.tcpPort ≤ 65535)
    "tcp_port must be within [1, 65535]"
  requirePositive "timeout_seconds" f.timeoutSeconds
  requirePositiveInt "down_confirmations" f.downConfirmations
  requirePositiveInt "recovery_confirmations" f.recoveryConfirmations

structure ExternalCheckSettings extends ExternalCheckSettingsFields where
  accepted : toExternalCheckSettingsFields.postInit = .ok ()

def ExternalCheckSettings.make (fields : ExternalCheckSettingsFields) :
    Fallible ExternalCheckSettings :=
  construct ExternalCheckSettingsFields.postInit (fun f accepted => { f with accepted := accepted })
    fields

theorem ExternalCheckSettings.confirmations (settings : ExternalCheckSettings) :
    1 ≤ settings.downConfirmations ∧ 1 ≤ settings.recoveryConfirmations := by
  have accepted := settings.accepted
  simp only [ExternalCheckSettingsFields.postInit, requirePositiveInt, check_bind_eq_ok,
    requireNumber_eq_ok] at accepted
  exact ⟨accepted.2.2.2.1, accepted.2.2.2.2⟩

theorem ExternalCheckSettings.port (settings : ExternalCheckSettings) :
    1 ≤ settings.tcpPort ∧ settings.tcpPort ≤ 65535 := by
  have accepted := settings.accepted
  simp only [ExternalCheckSettingsFields.postInit, check_bind_eq_ok, requireNumber_eq_ok] at accepted
  exact accepted.2.1

theorem ExternalCheckSettings.timeout (settings : ExternalCheckSettings) :
    Positive settings.timeoutSeconds := by
  have accepted := settings.accepted
  simp only [ExternalCheckSettingsFields.postInit, check_bind_eq_ok, requirePositive_eq_ok]
    at accepted
  exact accepted.2.2.1

theorem ExternalCheckSettings.make_raises (fields : ExternalCheckSettingsFields) :
    RaisesOnly RefusesArguments (ExternalCheckSettings.make fields) :=
  construct_raises _
    (.bind (.require refusesArguments_value _) fun _ _ =>
      .bind (.requireNumber refusesArguments_value _) fun _ _ =>
        .bind (requirePositive_raises _ _) fun _ _ =>
          .bind (.requireNumber refusesArguments_value _) fun _ _ =>
            .requireNumber refusesArguments_value _)

structure ThresholdsFields where
  cpuPercent : Number := .float (.finite 90)
  ramPercent : Number := .float (.finite 90)
  swapPercent : Number := .float (.finite 80)
  diskPercent : Number := .float (.finite 85)
  inodePercent : Number := .float (.finite 90)
  load5Max : Option Number := none
  deriving DecidableEq

def ThresholdsFields.postInit (f : ThresholdsFields) : Fallible Unit := do
  requireThresholdPercent "cpu_percent" f.cpuPercent
  requireThresholdPercent "ram_percent" f.ramPercent
  requireThresholdPercent "swap_percent" f.swapPercent
  requireThresholdPercent "disk_percent" f.diskPercent
  requireThresholdPercent "inode_percent" f.inodePercent
  match f.load5Max with
  | none => .ok ()
  | some limit => requirePositive "load5_max" limit

structure Thresholds extends ThresholdsFields where
  accepted : toThresholdsFields.postInit = .ok ()

def Thresholds.make (fields : ThresholdsFields) : Fallible Thresholds :=
  construct ThresholdsFields.postInit (fun f accepted => { f with accepted := accepted }) fields

/-- The percentages lie in (0, 100], and a load limit is positive. -/
theorem Thresholds.bounds (thresholds : Thresholds) :
    ThresholdPercent thresholds.cpuPercent ∧ ThresholdPercent thresholds.ramPercent ∧
      ThresholdPercent thresholds.swapPercent ∧ ThresholdPercent thresholds.diskPercent ∧
      ThresholdPercent thresholds.inodePercent ∧
      forall limit, thresholds.load5Max = some limit -> Positive limit := by
  have accepted := thresholds.accepted
  simp only [ThresholdsFields.postInit, check_bind_eq_ok, requireThresholdPercent_eq_ok] at accepted
  rcases accepted with ⟨cpu, ram, swap, disk, inode, load⟩
  refine ⟨cpu, ram, swap, disk, inode, ?_⟩
  intro limit given
  rw [given] at load
  exact requirePositive_eq_ok.mp load

theorem Thresholds.make_raises (fields : ThresholdsFields) :
    RaisesOnly RefusesArguments (Thresholds.make fields) := by
  apply construct_raises
  apply RaisesOnly.bind (requireThresholdPercent_raises _ _)
  intro _ _
  apply RaisesOnly.bind (requireThresholdPercent_raises _ _)
  intro _ _
  apply RaisesOnly.bind (requireThresholdPercent_raises _ _)
  intro _ _
  apply RaisesOnly.bind (requireThresholdPercent_raises _ _)
  intro _ _
  apply RaisesOnly.bind (requireThresholdPercent_raises _ _)
  intro _ _
  cases fields.load5Max with
  | none => exact .ok ()
  | some limit => exact requirePositive_raises _ _

/-- The default thresholds pass their own checks. -/
theorem Thresholds.make_default : exists thresholds, Thresholds.make {} = .ok thresholds := by
  have accepted : ThresholdsFields.postInit {} = .ok () := by decide
  exact ⟨_, construct_ok _ accepted⟩

structure HostConfigFields where
  name : PyStr
  heartbeat : HeartbeatSettings
  external : ExternalCheckSettings
  thresholds : Thresholds
  services : List PyStr := []

/-- The loop over the service names. -/
def requireServices : List PyStr -> Fallible Unit
  | [] => .ok ()
  | service :: rest => do
      requireNonEmpty "services entry" service
      requireServices rest

def HostConfigFields.postInit (f : HostConfigFields) : Fallible Unit := do
  requireNonEmpty "name" f.name
  requireServices f.services
  require f.services.Nodup "services entries must be unique"

structure HostConfig extends HostConfigFields where
  accepted : toHostConfigFields.postInit = .ok ()

def HostConfig.make (fields : HostConfigFields) : Fallible HostConfig :=
  construct HostConfigFields.postInit (fun f accepted => { f with accepted := accepted }) fields

theorem HostConfig.name_ne_nil (host : HostConfig) : host.name ≠ [] := by
  have accepted := host.accepted
  simp only [HostConfigFields.postInit, requireNonEmpty, check_bind_eq_ok, require_eq_ok] at accepted
  exact accepted.1

theorem requireServices_raises (services : List PyStr) :
    RaisesOnly RefusesArguments (requireServices services) := by
  induction services with
  | nil => exact .ok ()
  | cons service rest inductionHypothesis =>
      exact .bind (.require refusesArguments_value _) fun _ _ => inductionHypothesis

theorem HostConfig.make_raises (fields : HostConfigFields) :
    RaisesOnly RefusesArguments (HostConfig.make fields) :=
  construct_raises _
    (.bind (.require refusesArguments_value _) fun _ _ =>
      .bind (requireServices_raises _) fun _ _ => .require refusesArguments_value _)

structure SentinelConfigFields where
  hosts : List HostConfig := []

def SentinelConfigFields.postInit (f : SentinelConfigFields) : Fallible Unit :=
  require (f.hosts.map (fun host => host.name)).Nodup "host names must be unique"

structure SentinelConfig extends SentinelConfigFields where
  accepted : toSentinelConfigFields.postInit = .ok ()

def SentinelConfig.make (fields : SentinelConfigFields) : Fallible SentinelConfig :=
  construct SentinelConfigFields.postInit (fun f accepted => { f with accepted := accepted }) fields

theorem SentinelConfig.make_raises (fields : SentinelConfigFields) :
    RaisesOnly RefusesArguments (SentinelConfig.make fields) :=
  construct_raises _ (.require refusesArguments_value _)

namespace SentinelConfig

def host (config : SentinelConfig) (name : PyStr) : Option HostConfig :=
  config.hosts.find? (fun candidate => decide (candidate.name = name))

theorem host_eq_some {config : SentinelConfig} {name : PyStr} {found : HostConfig}
    (lookup : config.host name = some found) : found ∈ config.hosts ∧ found.name = name := by
  constructor
  · exact List.mem_of_find?_eq_some lookup
  · have named := List.find?_some lookup
    exact of_decide_eq_true named

theorem nodup_names (config : SentinelConfig) :
    (config.hosts.map (fun host => host.name)).Nodup :=
  (require_eq_ok _ _).mp config.accepted

end SentinelConfig

end Domain
end HermesSentinel
