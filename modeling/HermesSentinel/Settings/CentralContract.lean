import HermesSentinel.Central.Runtime
import HermesSentinel.Settings.Central

namespace HermesSentinel
namespace Settings

open Python
open Domain
open Foundation
open Heartbeat (NodeCredentials Key Value)

/-!
# What the central loader promises

It ends with settings or with its own error.  The settings are bounded, and
they suffice: what is built from them later accepts them.
-/

/-- The call ends with a value or with the loader's own error. -/
abbrev Bounded {α : Type} (call : Fallible α) : Prop :=
  RaisesOnly (fun raised => raised = .centralSettingsError) call

section Failures

variable {path : String} {mapping : Dictionary PyStr Json}

theorem refuse_bounded {α : Type} (message : String) : Bounded (refuse message : Fallible α) :=
  raise_only message

theorem refuseShowing_bounded {α : Type} (message : String) (names : List PyStr) :
    Bounded (refuseShowing message names : Fallible α) := by
  intro e failed
  cases failed
  rfl

theorem jsonObject_bounded (path : String) (value : Json) : Bounded (jsonObject path value) := by
  unfold jsonObject
  split
  · exact .ok _
  · exact refuse_bounded _

theorem jsonArray_bounded (path : String) (value : Json) : Bounded (jsonArray path value) := by
  unfold jsonArray
  split
  · exact .ok _
  · exact refuse_bounded _

theorem jsonString_bounded (path : String) (value : Json) : Bounded (jsonString path value) := by
  unfold jsonString
  split
  · exact .ok _
  · exact refuse_bounded _

theorem jsonInt_bounded (path : String) (value : Json) : Bounded (jsonInt path value) := by
  unfold jsonInt
  split
  · exact .ok _
  · exact refuse_bounded _

theorem jsonNumber_bounded (path : String) (value : Json) : Bounded (jsonNumber path value) := by
  unfold jsonNumber
  split
  · exact .ok _
  · dsimp only
    split
    · exact .ok _
    · exact refuse_bounded _
  · exact refuse_bounded _

theorem requireKnownKeys_bounded (required optional : List String) :
    Bounded (requireKnownKeys path mapping required optional) := by
  unfold requireKnownKeys
  dsimp only
  split
  · exact refuse_bounded _
  · split
    · exact refuseShowing_bounded _ _
    · exact .ok ()

/-- A field that was required can be read. -/
theorem getField_bounded {required optional : List String}
    (known : requireKnownKeys path mapping required optional = .ok ()) {field : String}
    (member : field ∈ required) : Bounded (getField mapping field) := by
  unfold getField
  cases found : mapping.get (text field) with
  | some value => exact .ok value
  | none =>
      have absent : text field ∉ mapping.keys := by
        rw [Dictionary.mem_keys_iff, found]
        exact fun present => present rfl
      have missing : required.filter (fun field => !mapping.keys.contains (text field)) ≠ [] := by
        apply List.ne_nil_of_mem
        apply List.mem_filter.mpr
        exact ⟨member, by rw [List.contains_eq_mem, decide_eq_false absent]; rfl⟩
      unfold requireKnownKeys at known
      dsimp only at known
      rw [if_pos missing] at known
      cases known

theorem optionalField_bounded {α : Type} {read : Json -> Fallible α}
    (bounded : forall value, Bounded (read value)) (field : String) :
    Bounded (optionalField mapping field read) := by
  unfold optionalField
  split
  · exact .ok _
  · exact .bind (bounded _) fun _ _ => .ok _

theorem parseItems_bounded {α : Type} {parse : String -> Json -> Fallible α}
    (bounded : forall path value, Bounded (parse path value)) (path : String) (index : Nat)
    (items : List Json) : Bounded (parseItems parse path index items) := by
  induction items generalizing index with
  | nil => exact .ok _
  | cons item rest inductionHypothesis =>
      exact .bind (bounded _ _) fun _ _ => .bind (inductionHypothesis _) fun _ _ => .ok _

theorem parseHeartbeat_bounded (path : String) (value : Json) :
    Bounded (parseHeartbeat path value) := by
  apply RaisesOnly.bind (jsonObject_bounded _ _)
  intro mapping _
  apply RaisesOnly.bind (requireKnownKeys_bounded _ _)
  intro _ known
  apply RaisesOnly.bind (getField_bounded known (by decide))
  intro rawExpected _
  apply RaisesOnly.bind (jsonNumber_bounded _ _)
  intro expected _
  apply RaisesOnly.bind (getField_bounded known (by decide))
  intro rawStaleAfter _
  apply RaisesOnly.bind (jsonNumber_bounded _ _)
  intro staleAfter _
  exact accepted_raises _ (HeartbeatSettings.make_raises _)

theorem parseExternal_bounded (path : String) (value : Json) :
    Bounded (parseExternal path value) := by
  apply RaisesOnly.bind (jsonObject_bounded _ _)
  intro mapping _
  apply RaisesOnly.bind (requireKnownKeys_bounded _ _)
  intro _ known
  apply RaisesOnly.bind (getField_bounded known (by decide))
  intro rawHost _
  apply RaisesOnly.bind (jsonString_bounded _ _)
  intro tcpHost _
  apply RaisesOnly.bind (getField_bounded known (by decide))
  intro rawPort _
  apply RaisesOnly.bind (jsonInt_bounded _ _)
  intro tcpPort _
  apply RaisesOnly.bind (optionalField_bounded (jsonNumber_bounded _) _)
  intro timeout _
  apply RaisesOnly.bind (optionalField_bounded (jsonInt_bounded _) _)
  intro down _
  apply RaisesOnly.bind (optionalField_bounded (jsonInt_bounded _) _)
  intro recovery _
  exact accepted_raises _ (ExternalCheckSettings.make_raises _)

theorem loadLimit_bounded (path : String) (value : Json) : Bounded (loadLimit path value) := by
  unfold loadLimit
  split
  · exact .ok _
  · exact .bind (jsonNumber_bounded _ _) fun _ _ => .ok _

theorem parseThresholds_bounded (path : String) (value : Json) :
    Bounded (parseThresholds path value) := by
  apply RaisesOnly.bind (jsonObject_bounded _ _)
  intro mapping _
  apply RaisesOnly.bind (requireKnownKeys_bounded _ _)
  intro _ known
  apply RaisesOnly.bind (optionalField_bounded (jsonNumber_bounded _) _)
  intro cpu _
  apply RaisesOnly.bind (optionalField_bounded (jsonNumber_bounded _) _)
  intro ram _
  apply RaisesOnly.bind (optionalField_bounded (jsonNumber_bounded _) _)
  intro swap _
  apply RaisesOnly.bind (optionalField_bounded (jsonNumber_bounded _) _)
  intro disk _
  apply RaisesOnly.bind (optionalField_bounded (jsonNumber_bounded _) _)
  intro inode _
  apply RaisesOnly.bind (optionalField_bounded (loadLimit_bounded _) _)
  intro load _
  exact accepted_raises _ (Thresholds.make_raises _)

theorem parseServices_bounded (path : String) (value : Json) :
    Bounded (parseServices path value) :=
  .bind (jsonArray_bounded _ _) fun _ _ => parseItems_bounded jsonString_bounded _ _ _

theorem thresholdsOrDefault_bounded (given : Option Thresholds) :
    Bounded (thresholdsOrDefault given) := by
  cases given with
  | some thresholds => exact .ok _
  | none =>
      rcases Thresholds.make_default with ⟨thresholds, made⟩
      rw [thresholdsOrDefault, made]
      exact .ok _

theorem parseHost_bounded (path : String) (value : Json) : Bounded (parseHost path value) := by
  apply RaisesOnly.bind (jsonObject_bounded _ _)
  intro mapping _
  apply RaisesOnly.bind (requireKnownKeys_bounded _ _)
  intro _ known
  apply RaisesOnly.bind (getField_bounded known (by decide))
  intro rawName _
  apply RaisesOnly.bind (jsonString_bounded _ _)
  intro name _
  apply RaisesOnly.bind (getField_bounded known (by decide))
  intro rawHeartbeat _
  apply RaisesOnly.bind (parseHeartbeat_bounded _ _)
  intro heartbeat _
  apply RaisesOnly.bind (getField_bounded known (by decide))
  intro rawExternal _
  apply RaisesOnly.bind (parseExternal_bounded _ _)
  intro external _
  apply RaisesOnly.bind (optionalField_bounded (parseThresholds_bounded _) _)
  intro given _
  apply RaisesOnly.bind (thresholdsOrDefault_bounded _)
  intro thresholds _
  apply RaisesOnly.bind (optionalField_bounded (parseServices_bounded _) _)
  intro services _
  exact accepted_raises _ (HostConfig.make_raises _)

end Failures

section Loaders

variable (interpreter : Interpreter) (env : Snapshot)

theorem loadConfig_bounded : Bounded (loadConfig interpreter env) := by
  apply RaisesOnly.bind (requiredNonEmptyString_raises _ _)
  intro raw _
  apply RaisesOnly.bind (loadJsonDocument_raises _ _ _)
  intro document _
  apply RaisesOnly.bind (jsonArray_bounded _ _)
  intro entries _
  apply RaisesOnly.bind (parseItems_bounded parseHost_bounded _ _ _)
  intro hosts _
  exact accepted_raises _ (SentinelConfig.make_raises _)

theorem requireStringTokens_bounded (mapping : Dictionary PyStr Json) :
    Bounded (requireStringTokens mapping) := by
  induction mapping with
  | nil => exact .ok ()
  | cons entry rest inductionHypothesis =>
      unfold requireStringTokens
      split
      · exact .ok ()
      · rename_i same
        cases same
        exact inductionHypothesis
      · exact refuse_bounded _

theorem requireSameNodes_bounded (configured nodes : List PyStr) :
    Bounded (requireSameNodes configured nodes) := by
  unfold requireSameNodes
  dsimp only
  split
  · exact refuseShowing_bounded _ _
  · split
    · exact refuseShowing_bounded _ _
    · split
      · exact refuseShowing_bounded _ _
      · exact .ok ()

theorem loadCredentials_bounded (config : SentinelConfig) :
    Bounded (loadCredentials interpreter env config) := by
  apply RaisesOnly.bind (requiredNonEmptyString_raises _ _)
  intro raw _
  apply RaisesOnly.bind (loadJsonDocument_raises _ _ _)
  intro document _
  apply RaisesOnly.bind (jsonObject_bounded _ _)
  intro mapping _
  apply RaisesOnly.bind (requireStringTokens_bounded _)
  intro _ _
  apply RaisesOnly.bind (requireSameNodes_bounded _ _)
  intro _ _
  exact accepted_raises _ (Heartbeat.NodeCredentials.make_raises _)

theorem loadListenPort_bounded : Bounded (loadListenPort interpreter env) := by
  apply RaisesOnly.bind (requiredNonEmptyString_raises _ _)
  intro raw _
  apply RaisesOnly.bind (parseDecimalInt_raises _ _ _)
  intro port _
  split
  · exact .ok _
  · intro e failed
    cases failed
    rfl

theorem loadPositiveInterval_bounded (name : String) : Bounded (loadPositiveInterval env name) :=
  .bind (requiredNonEmptyString_raises _ _) fun _ _ => parsePositiveFloat_raises _ _

theorem loadTelegram_bounded : Bounded (loadTelegram interpreter env) := by
  apply RaisesOnly.bind (requiredNonEmptyString_raises _ _)
  intro botToken _
  apply RaisesOnly.bind (requiredNonEmptyString_raises _ _)
  intro chatRaw _
  apply RaisesOnly.bind (parseDecimalInt_raises _ _ _)
  intro chatId _
  apply RaisesOnly.bind (optionalParsed_raises env (parseDecimalInt_raises _ _) _)
  intro threadId _
  apply RaisesOnly.bind (optionalParsed_raises env (parsePositiveFloat_raises _) _)
  intro timeout _
  exact accepted_raises _ (construct_raises _ (TelegramFields.postInit_raises _))

end Loaders

theorem loadCentralSettings_fails (interpreter : Interpreter) (env : EnvironmentMapping) :
    Bounded (loadCentralSettings interpreter env) := by
  apply RaisesOnly.bind (takeSnapshot_raises _)
  intro snapshot _
  apply RaisesOnly.bind (requiredNonEmptyString_raises _ _)
  intro databasePath _
  apply RaisesOnly.bind (requiredNonEmptyString_raises _ _)
  intro listenHost _
  apply RaisesOnly.bind (loadListenPort_bounded _ _)
  intro listenPort _
  apply RaisesOnly.bind (loadPositiveInterval_bounded _ _)
  intro monitor _
  apply RaisesOnly.bind (loadPositiveInterval_bounded _ _)
  intro poll _
  apply RaisesOnly.bind (loadConfig_bounded _ _)
  intro config _
  apply RaisesOnly.bind (loadTelegram_bounded _ _)
  intro telegram _
  apply RaisesOnly.bind (loadCredentials_bounded _ _ _)
  intro credentials _
  exact .ok _

/-! ## What the settings are -/

/-- What `HostConfig` and its parts bound. -/
structure BoundedHost (host : HostConfig) : Prop where
  heartbeat : Positive host.heartbeat.expectedIntervalSeconds ∧
    Positive host.heartbeat.staleAfterSeconds
  port : 1 ≤ host.external.tcpPort ∧ host.external.tcpPort ≤ 65535
  timeout : Positive host.external.timeoutSeconds
  confirmations : 1 ≤ host.external.downConfirmations ∧ 1 ≤ host.external.recoveryConfirmations
  thresholds : ThresholdPercent host.thresholds.cpuPercent ∧
    ThresholdPercent host.thresholds.ramPercent ∧ ThresholdPercent host.thresholds.swapPercent ∧
    ThresholdPercent host.thresholds.diskPercent ∧ ThresholdPercent host.thresholds.inodePercent
  loadLimit : forall limit, host.thresholds.load5Max = some limit -> Positive limit

/-- A configured host is bounded by its own type. -/
theorem boundedHost (host : HostConfig) : BoundedHost host := by
  rcases host.thresholds.bounds with ⟨cpu, ram, swap, disk, inode, load⟩
  exact {
    heartbeat := host.heartbeat.durations
    port := host.external.port
    timeout := host.external.timeout
    confirmations := host.external.confirmations
    thresholds := ⟨cpu, ram, swap, disk, inode⟩
    loadLimit := load }

namespace CentralSettings

def names (settings : CentralSettings) : List PyStr :=
  settings.config.hosts.map fun host => host.name

/-- The settings are bounded, and what is built from them accepts them. -/
structure Sufficient (settings : CentralSettings) : Prop where
  namesUnique : settings.names.Nodup
  namesNotBlank : forall name, name ∈ settings.names -> isBlank name = false
  sameNodes : forall node, settings.credentials.tokenFor node ≠ none ↔ node ∈ settings.names
  tokensDistinct : forall node other token, settings.credentials.tokenFor node = some token ->
    settings.credentials.tokenFor other = some token -> node = other
  tokensNotBlank : forall node token, settings.credentials.tokenFor node = some token ->
    isBlank token = false
  hosts : forall host, host ∈ settings.config.hosts -> BoundedHost host
  listenPort : 1 ≤ settings.listenPort ∧ settings.listenPort ≤ 65535
  telegramTimeout : Positive settings.telegram.timeoutSeconds
  monitorInterval : Positive (.float settings.monitorIntervalSeconds)
  pollInterval : Positive (.float settings.pollIntervalSeconds)
  runtimeAccepts : Central.SentinelRuntimeFields.postInit {
    monitorIntervalSeconds := .float settings.monitorIntervalSeconds
    pollIntervalSeconds := .float settings.pollIntervalSeconds } = .ok ()
  repositoryAccepts : forall name, name ∈ settings.names ->
    Heartbeat.requireValidNode "node" name = .ok ()

end CentralSettings

section Results

variable {interpreter : Interpreter} {env : Snapshot}

theorem sameNodes_of_accepted {configured nodes : List PyStr}
    (same : requireSameNodes configured nodes = .ok ()) (name : PyStr) :
    name ∈ configured ↔ name ∈ nodes := by
  have empty {xs : List PyStr} (none : sortedSet xs = []) : xs = [] := by
    apply List.eq_nil_iff_forall_not_mem.mpr
    intro x member
    have sorted := mem_sortedSet.mpr member
    rw [none] at sorted
    exact List.not_mem_nil sorted
  unfold requireSameNodes at same
  dsimp only at same
  split at same
  · cases same
  · split at same
    · cases same
    · rename_i noMissing
      split at same
      · cases same
      · rename_i noUnknown
        have missing := List.filter_eq_nil_iff.mp (empty (not_not.mp noMissing))
        have unknown := List.filter_eq_nil_iff.mp (empty (not_not.mp noUnknown))
        constructor
        · intro member
          have found := missing name member
          rw [Bool.not_eq_true', Bool.not_eq_false, List.contains_iff_mem] at found
          exact found
        · intro member
          have found := unknown name member
          rw [Bool.not_eq_true', Bool.not_eq_false, List.contains_iff_mem] at found
          exact found

/-- The nodes of the credentials are the configured hosts. -/
theorem loadCredentials_nodes {config : SentinelConfig} {credentials : NodeCredentials}
    (loaded : loadCredentials interpreter env config = .ok credentials) (node : PyStr) :
    credentials.tokenFor node ≠ none ↔ node ∈ config.hosts.map fun host => host.name := by
  rcases bind_eq_ok.mp loaded with ⟨raw, _, loaded⟩
  rcases bind_eq_ok.mp loaded with ⟨document, _, loaded⟩
  rcases bind_eq_ok.mp loaded with ⟨mapping, _, loaded⟩
  rcases (check_bind_eq_ok _ _ _).mp loaded with ⟨_, loaded⟩
  rcases (check_bind_eq_ok _ _ _).mp loaded with ⟨same, loaded⟩
  have made := Heartbeat.NodeCredentials.make_eq_ok (accepted_eq_ok.mp loaded)
  have keys : Key.str node ∈ (credentialItems mapping).map Prod.fst ↔ node ∈ mapping.keys := by
    unfold credentialItems Dictionary.keys
    rw [List.map_map, List.mem_map, List.mem_map]
    constructor
    · intro present
      rcases present with ⟨entry, member, named⟩
      exact ⟨entry, member, Key.str.inj named⟩
    · intro present
      rcases present with ⟨entry, member, named⟩
      exact ⟨entry, member, congrArg Key.str named⟩
  unfold NodeCredentials.tokenFor
  rw [<- Dictionary.mem_keys_iff, Heartbeat.validateTokens_nodes made, keys,
    sameNodes_of_accepted same]
  exact ⟨fun either => either.elim (fun member => absurd member List.not_mem_nil) id, Or.inr⟩

theorem loadListenPort_range {port : Int} (loaded : loadListenPort interpreter env = .ok port) :
    1 ≤ port ∧ port ≤ 65535 := by
  rcases bind_eq_ok.mp loaded with ⟨raw, _, loaded⟩
  rcases bind_eq_ok.mp loaded with ⟨parsed, _, loaded⟩
  split at loaded
  · rename_i range
    cases loaded
    exact range
  · cases loaded

theorem loadPositiveInterval_positive {name : String} {value : PyFloat}
    (loaded : loadPositiveInterval env name = .ok value) : Positive (.float value) := by
  rcases bind_eq_ok.mp loaded with ⟨raw, _, parsed⟩
  rcases parsePositiveFloat_positive parsed with ⟨finite, above⟩
  have isfinite : (Number.float value).isfinite = .ok true := congrArg Except.ok finite
  exact ⟨isfinite, (zero_lt_iff isfinite).mpr above⟩

end Results

/-- Loading central settings ends with sufficient settings or with the loader's
own error. -/
theorem loadCentralSettings_sufficient (interpreter : Interpreter) (env : EnvironmentMapping) :
    (exists settings, loadCentralSettings interpreter env = .ok settings ∧ settings.Sufficient) ∨
      exists e, loadCentralSettings interpreter env = .error e ∧ e.kind = .centralSettingsError := by
  cases loaded : loadCentralSettings interpreter env with
  | error e => exact Or.inr ⟨e, rfl, loadCentralSettings_fails interpreter env e loaded⟩
  | ok settings =>
      refine Or.inl ⟨settings, rfl, ?_⟩
      rcases bind_eq_ok.mp loaded with ⟨snapshot, _, loaded⟩
      rcases bind_eq_ok.mp loaded with ⟨databasePath, _, loaded⟩
      rcases bind_eq_ok.mp loaded with ⟨listenHost, _, loaded⟩
      rcases bind_eq_ok.mp loaded with ⟨listenPort, port, loaded⟩
      rcases bind_eq_ok.mp loaded with ⟨monitor, monitorLoaded, loaded⟩
      rcases bind_eq_ok.mp loaded with ⟨poll, pollLoaded, loaded⟩
      rcases bind_eq_ok.mp loaded with ⟨config, _, loaded⟩
      rcases bind_eq_ok.mp loaded with ⟨telegram, _, loaded⟩
      rcases bind_eq_ok.mp loaded with ⟨credentials, credentialsLoaded, loaded⟩
      cases loaded
      have nodes := loadCredentials_nodes credentialsLoaded
      have notBlank : forall name, name ∈ config.hosts.map (fun host => host.name) ->
          isBlank name = false := by
        intro name member
        rcases Option.ne_none_iff_exists'.mp ((nodes name).mpr member) with ⟨token, found⟩
        exact (credentials.tokenFor_notBlank found).1
      have monitorPositive := loadPositiveInterval_positive monitorLoaded
      have pollPositive := loadPositiveInterval_positive pollLoaded
      exact {
        namesUnique := config.nodup_names
        namesNotBlank := notBlank
        sameNodes := nodes
        tokensDistinct := fun _ _ _ => credentials.tokenFor_injective
        tokensNotBlank := fun _ _ found => (credentials.tokenFor_notBlank found).2
        hosts := fun host _ => boundedHost host
        listenPort := loadListenPort_range port
        telegramTimeout := telegram.accepted |> TelegramFields.timeout_positive
        monitorInterval := monitorPositive
        pollInterval := pollPositive
        runtimeAccepts := (check_bind_eq_ok _ _ _).mpr
          ⟨requirePositive_eq_ok.mpr monitorPositive, requirePositive_eq_ok.mpr pollPositive⟩
        repositoryAccepts := fun name member => (require_eq_ok _ _).mpr (notBlank name member) }

end Settings
end HermesSentinel
