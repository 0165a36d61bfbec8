import HermesSentinel.Heartbeat.WireExactness

namespace HermesSentinel
namespace Heartbeat

open Python
open Domain
open Foundation

/-!
# Strict decoding is exact

What the decoder does not accept it refuses with the one error of the wire
contract, unless it cannot name a key that is no field: the message is made of
the `str()` of such keys, and nothing at the top level catches what that
raises.  Around the parts of a payload a `ValueError` is caught.
-/

/-- What the body of the `try` statement may raise for the decoder to refuse the
payload: its own error, or one that `except ValueError` catches. -/
def DecodeFailure (kind : ExceptionClass) : Prop :=
  kind = .malformedHeartbeatPayloadError ∨ kind.isValueError = true

/-- Where no field is missing, showing the keys that are no fields raises
nothing else. -/
def ForeignKeysShown (allowed : ExceptionClass -> Prop) (entries : Dictionary Key Value)
    (required : List String) : Prop :=
  missingFields entries required = [] ->
    RaisesOnly allowed ((unexpectedKeys entries required).mapM showKey)

/-- The foreign keys of the part at the field, if it is a mapping. -/
def PartShown (entries : Dictionary Key Value) (field : String) (required : List String) : Prop :=
  forall part, entries.get (fieldKey field) = some (.mapping part) ->
    ForeignKeysShown DecodeFailure part required

def LoadFine (entries : Dictionary Key Value) (field : String) : Prop :=
  exists load, LoadAt entries field load ∧ load.Admissible

def ResourceFine (entries : Dictionary Key Value) (field : String) : Prop :=
  exists usage, ResourceAt entries field usage ∧ usage.Admissible

/-- The keys of each part that the decoder reaches, the parts before it being fine. -/
structure PartsShown (entries : Dictionary Key Value) : Prop where
  load : PartShown entries "load" loadFields
  ram : LoadFine entries "load" -> PartShown entries "ram" resourceFields
  swap : LoadFine entries "load" -> ResourceFine entries "ram" ->
    PartShown entries "swap" resourceFields
  rootFilesystem : LoadFine entries "load" -> ResourceFine entries "ram" ->
    ResourceFine entries "swap" -> PartShown entries "root_fs" resourceFields
  rootInodes : LoadFine entries "load" -> ResourceFine entries "ram" ->
    ResourceFine entries "swap" -> ResourceFine entries "root_fs" ->
    PartShown entries "root_inodes" resourceFields

/-- The checks before the parts pass. -/
structure ScalarsFine (reader : IsoReader) (entries : Dictionary Key Value) : Prop where
  keys : HasExactly entries topLevelFields
  node : exists node, entries.get (fieldKey "node") = some (.str node) ∧ isBlank node = false
  reportedAt : exists written reported,
    entries.get (fieldKey "reported_at") = some (.str written) ∧
      reader.fromisoformat written = some reported ∧ reported.isAware = true
  uptimeSeconds : exists q, NumberAt entries "uptime_seconds" q
  cpuPercent : exists q, NumberAt entries "cpu_percent" q

/-- Every foreign key that the decoder has to name can be named. -/
structure KeysShown (reader : IsoReader) (payload : Value) : Prop where
  topLevel : forall entries, payload = .mapping entries ->
    ForeignKeysShown (· = .malformedHeartbeatPayloadError) entries topLevelFields
  parts : forall entries, payload = .mapping entries -> ScalarsFine reader entries ->
    PartsShown entries

/-! ## How decoding fails -/

theorem requireMapping_raises (name : String) (value : Value) :
    RaisesOnly (· = .malformedHeartbeatPayloadError) (requireMapping name value) := by
  cases value with
  | mapping entries => exact .ok _
  | _ => exact .raise _ (Eq.refl _)

theorem requireExactKeys_raises {allowed : ExceptionClass -> Prop}
    (refuses : allowed .malformedHeartbeatPayloadError) {name : String}
    {entries : Dictionary Key Value} {required : List String} :
    RaisesOnly allowed (requireExactKeys name entries required) ↔
      ForeignKeysShown allowed entries required := by
  have complains (message : String) (condition : Prop) [Decidable condition] :
      RaisesOnly allowed (ensure .malformedHeartbeatPayloadError condition message) :=
    (ensure_raises _ _ _).mono fun kind same => same ▸ refuses
  have named : RaisesOnly allowed (if unexpectedKeys entries required = [] then .ok ()
      else unknownFields name (unexpectedKeys entries required)) ↔
      RaisesOnly allowed ((unexpectedKeys entries required).mapM showKey) := by
    by_cases known : unexpectedKeys entries required = []
    · rw [if_pos known, known, List.mapM_nil]
      exact iff_of_true (.ok _) (.ok _)
    · rw [if_neg known, unknownFields, RaisesOnly.bind_iff]
      refine and_iff_left fun shown _ e failed => ?_
      cases failed
      exact refuses
  unfold requireExactKeys ForeignKeysShown
  dsimp only
  rw [RaisesOnly.bind_iff, named]
  constructor
  · rintro ⟨_, later⟩ complete
    exact later () ((ensure_eq_ok _ _ _).mpr complete)
  · intro shown
    exact ⟨complains _ _, fun _ passed => shown ((ensure_eq_ok _ _ _).mp passed)⟩

/-- An object whose keys are checked first. -/
theorem checkedMapping_raises {α : Type} (allowed : ExceptionClass -> Prop)
    (refuses : allowed .malformedHeartbeatPayloadError) {name : String} {value : Value}
    {required : List String} {next : Dictionary Key Value -> Fallible α} :
    (RaisesOnly allowed (do
      let mapping ← requireMapping name value
      requireExactKeys name mapping required
      next mapping)) ↔
      forall entries, value = .mapping entries -> ForeignKeysShown allowed entries required ∧
        (HasExactly entries required -> RaisesOnly allowed (next entries)) := by
  have mapping : RaisesOnly allowed (requireMapping name value) :=
    (requireMapping_raises _ _).mono fun kind same => same ▸ refuses
  rw [RaisesOnly.bind_iff, and_iff_right mapping]
  refine forall_congr' fun entries => ?_
  rw [requireMapping_eq_ok, RaisesOnly.bind_iff, requireExactKeys_raises refuses]
  refine imp_congr_right fun _ => and_congr_right fun _ => ?_
  exact ⟨fun later keys => later () (requireExactKeys_eq_ok.mpr keys),
    fun later _ keys => later (requireExactKeys_eq_ok.mp keys)⟩

/-- Once the keys are checked no field is missing. -/
theorem getField_raises {α : Type} {allowed : ExceptionClass -> Prop}
    {entries : Dictionary Key Value} {required : List String} (keys : HasExactly entries required)
    {field : String} (member : field ∈ required) {next : Value -> Fallible α} :
    RaisesOnly allowed (getItem entries field >>= next) ↔
      forall value, entries.get (fieldKey field) = some value -> RaisesOnly allowed (next value) := by
  have present : RaisesOnly allowed (getItem entries field) := by
    intro e failed
    have known := (keys (fieldKey field)).mpr (List.mem_map_of_mem member)
    unfold getItem at failed
    split at failed
    · cases failed
    · rename_i absent
      exact absurd absent ((Dictionary.mem_keys_iff entries _).mp known)
  rw [RaisesOnly.bind_iff, and_iff_right present]
  exact forall_congr' fun value => imp_congr_left getItem_eq_ok

theorem requireNumber_raises (name : String) (value : Value) :
    RaisesOnly (· = .malformedHeartbeatPayloadError) (requireNumber name value) := by
  cases value with
  | number number =>
      unfold requireNumber
      dsimp only
      cases toFloat number with
      | ok float => exact .bind (ensure_raises _ _ _) fun _ _ => .ok _
      | error e => exact .raise _ (Eq.refl _)
  | _ => exact .raise _ (Eq.refl _)

theorem requireReportedAt_raises (reader : IsoReader) (name : String) (value : Value) :
    RaisesOnly (· = .malformedHeartbeatPayloadError) (requireReportedAt reader name value) := by
  cases value with
  | str own =>
      unfold requireReportedAt
      dsimp only
      cases reader.fromisoformat own with
      | some parsed => exact .bind (ensure_raises _ _ _) fun _ _ => .ok _
      | none => exact .raise _ (Eq.refl _)
  | _ => exact .raise _ (Eq.refl _)

theorem requireNonNegative_raises (name : String) (value : PyFloat) :
    RaisesOnly DecodeFailure (requireNonNegative name value) :=
  .bind (.require (Or.inr rfl) _) fun _ _ => .require (Or.inr rfl) _

theorem requirePercent_raises (name : String) (value : PyFloat) :
    RaisesOnly DecodeFailure (requirePercent name value) :=
  .bind (.require (Or.inr rfl) _) fun _ _ => .require (Or.inr rfl) _

theorem construct_fails {φ α : Type} {postInit : φ -> Fallible Unit}
    {build : (fields : φ) -> postInit fields = .ok () -> α} {fields : φ}
    (only : RaisesOnly DecodeFailure (postInit fields)) :
    RaisesOnly DecodeFailure (construct postInit build fields) :=
  fun e failed => only e (construct_eq_error.mp failed)

theorem loadAverage_raises (fields : LoadAverageFields) :
    RaisesOnly DecodeFailure (LoadAverage.make fields) :=
  construct_fails (.bind (requireNonNegative_raises _ _) fun _ _ =>
    .bind (requireNonNegative_raises _ _) fun _ _ => requireNonNegative_raises _ _)

theorem resourceUsage_raises (fields : ResourceUsageFields) :
    RaisesOnly DecodeFailure (ResourceUsage.make fields) := by
  apply construct_fails
  apply RaisesOnly.bind (requireNonNegative_raises _ _)
  intro _ _
  apply RaisesOnly.bind (requireNonNegative_raises _ _)
  intro _ _
  apply RaisesOnly.bind (requirePercent_raises _ _)
  intro _ _
  split
  · exact .bind (.require (Or.inr rfl) _) fun _ _ => .require (Or.inr rfl) _
  · exact .require (Or.inr rfl) _

theorem hostTelemetry_raises (fields : HostTelemetryFields) :
    RaisesOnly DecodeFailure (HostTelemetry.make fields) :=
  construct_fails (.bind (.require (Or.inr rfl) _) fun _ _ => .bind (.require (Or.inr rfl) _) fun _ _ =>
    .bind (requireNonNegative_raises _ _) fun _ _ => requirePercent_raises _ _)

/-- A checked field that is a number. -/
theorem getNumber_raises {α : Type} {entries : Dictionary Key Value} {own : String}
    {required : List String} (keys : HasExactly entries required) {field : String}
    (member : field ∈ required) {next : PyFloat -> Fallible α}
    (rest : forall value, RaisesOnly DecodeFailure (next value)) :
    RaisesOnly DecodeFailure (getItem entries field >>= fun value =>
      requireNumber own value >>= next) :=
  (getField_raises keys member).mpr fun value _ =>
    .bind ((requireNumber_raises own value).mono fun _ => Or.inl) fun number _ => rest number

theorem decodeLoad_raises {name : String} {value : Value} :
    RaisesOnly DecodeFailure (decodeLoad name value) ↔
      forall entries, value = .mapping entries ->
        ForeignKeysShown DecodeFailure entries loadFields := by
  unfold decodeLoad
  rw [checkedMapping_raises DecodeFailure (Or.inl rfl)]
  refine forall_congr' fun entries => imp_congr_right fun _ => and_iff_left fun keys => ?_
  apply getNumber_raises keys (by decide)
  intro one
  apply getNumber_raises keys (by decide)
  intro five
  apply getNumber_raises keys (by decide)
  intro fifteen
  exact loadAverage_raises _

theorem decodeResource_raises {name : String} {value : Value} :
    RaisesOnly DecodeFailure (decodeResource name value) ↔
      forall entries, value = .mapping entries ->
        ForeignKeysShown DecodeFailure entries resourceFields := by
  unfold decodeResource
  rw [checkedMapping_raises DecodeFailure (Or.inl rfl)]
  refine forall_congr' fun entries => imp_congr_right fun _ => and_iff_left fun keys => ?_
  apply getNumber_raises keys (by decide)
  intro used
  apply getNumber_raises keys (by decide)
  intro total
  apply getNumber_raises keys (by decide)
  intro percent
  exact resourceUsage_raises _

/-- A field that is decoded before what follows, which fails alike for all its values. -/
theorem getDecoded_raises {α β : Type} {allowed : ExceptionClass -> Prop}
    {entries : Dictionary Key Value} {required : List String} (keys : HasExactly entries required)
    {field : String} (member : field ∈ required) {decode : Value -> Fallible α}
    {next : α -> Fallible β} {Rest : Prop}
    (rest : forall decoded, RaisesOnly allowed (next decoded) ↔ Rest) :
    RaisesOnly allowed (getItem entries field >>= fun value => decode value >>= next) ↔
      (forall value, entries.get (fieldKey field) = some value -> RaisesOnly allowed (decode value)) ∧
        ((exists value decoded, entries.get (fieldKey field) = some value ∧
          decode value = .ok decoded) -> Rest) := by
  rw [getField_raises keys member]
  constructor
  · intro only
    constructor
    · intro value found
      exact (RaisesOnly.bind_iff.mp (only value found)).1
    · rintro ⟨value, decoded, found, succeeded⟩
      exact (rest decoded).mp ((RaisesOnly.bind_iff.mp (only value found)).2 decoded succeeded)
  · rintro ⟨fails, later⟩ value found
    apply RaisesOnly.bind (fails value found)
    intro decoded succeeded
    exact (rest decoded).mpr (later ⟨value, decoded, found, succeeded⟩)

/-- A part, which is an object of its own. -/
theorem getPart_raises {α β : Type} {entries : Dictionary Key Value}
    (keys : HasExactly entries topLevelFields) {field : String} (member : field ∈ topLevelFields)
    {required : List String} {decode : Value -> Fallible α} {next : α -> Fallible β} {Rest : Prop}
    (fails : forall value, RaisesOnly DecodeFailure (decode value) ↔
      forall part, value = .mapping part -> ForeignKeysShown DecodeFailure part required)
    (rest : forall part, RaisesOnly DecodeFailure (next part) ↔ Rest) :
    RaisesOnly DecodeFailure (getItem entries field >>= fun value => decode value >>= next) ↔
      PartShown entries field required ∧
        ((exists value part, entries.get (fieldKey field) = some value ∧ decode value = .ok part) ->
          Rest) := by
  rw [getDecoded_raises keys member rest]
  apply and_congr_left'
  constructor
  · intro only part found
    exact (fails _).mp (only _ found) part rfl
  · intro shown value found
    exact (fails value).mpr fun part isMapping => shown part (isMapping ▸ found)

/-- A scalar, which is refused as malformed or not at all. -/
theorem getScalar_raises {α β : Type} {entries : Dictionary Key Value}
    (keys : HasExactly entries topLevelFields) (field : String) (member : field ∈ topLevelFields)
    {decode : Value -> Fallible α} {next : α -> Fallible β} {Rest : Prop}
    (fails : forall value, RaisesOnly (· = .malformedHeartbeatPayloadError) (decode value))
    (rest : forall scalar, RaisesOnly (· = .malformedHeartbeatPayloadError) (next scalar) ↔ Rest) :
    RaisesOnly (· = .malformedHeartbeatPayloadError)
      (getItem entries field >>= fun value => decode value >>= next) ↔
      ((exists value scalar, entries.get (fieldKey field) = some value ∧
        decode value = .ok scalar) -> Rest) := by
  rw [getDecoded_raises keys member rest]
  exact and_iff_right fun value _ => fails value

theorem loadFine_iff {entries : Dictionary Key Value} {field own : String} :
    (exists value load, entries.get (fieldKey field) = some value ∧ decodeLoad own value = .ok load) ↔
      LoadFine entries field := by
  constructor
  · rintro ⟨value, load, found, decoded⟩
    rcases decodeLoad_eq_ok.mp decoded with ⟨values, spelled, admissible, _⟩
    exact ⟨values, ⟨value, found, spelled⟩, admissible⟩
  · rintro ⟨values, ⟨value, found, spelled⟩, admissible⟩
    exact ⟨value, ⟨_, loadFields_accepted.mpr admissible⟩, found,
      decodeLoad_eq_ok.mpr ⟨values, spelled, admissible, rfl⟩⟩

theorem resourceFine_iff {entries : Dictionary Key Value} {field own : String} :
    (exists value usage, entries.get (fieldKey field) = some value ∧
      decodeResource own value = .ok usage) ↔ ResourceFine entries field := by
  constructor
  · rintro ⟨value, usage, found, decoded⟩
    rcases decodeResource_eq_ok.mp decoded with ⟨values, spelled, admissible, _⟩
    exact ⟨values, ⟨value, found, spelled⟩, admissible⟩
  · rintro ⟨values, ⟨value, found, spelled⟩, admissible⟩
    exact ⟨value, ⟨_, resourceFields_accepted.mpr admissible⟩, found,
      decodeResource_eq_ok.mpr ⟨values, spelled, admissible, rfl⟩⟩

theorem getResource_raises {α : Type} {entries : Dictionary Key Value} {own : String}
    (keys : HasExactly entries topLevelFields) {field : String} (member : field ∈ topLevelFields)
    {next : ResourceUsage -> Fallible α} {Rest : Prop}
    (rest : forall usage, RaisesOnly DecodeFailure (next usage) ↔ Rest) :
    RaisesOnly DecodeFailure (getItem entries field >>= fun value =>
      decodeResource own value >>= next) ↔
      PartShown entries field resourceFields ∧ (ResourceFine entries field -> Rest) := by
  rw [getPart_raises keys member (fun _ => decodeResource_raises) rest, resourceFine_iff]

theorem decodeTelemetry_raises {entries : Dictionary Key Value}
    (keys : HasExactly entries topLevelFields) (node : PyStr) (reportedAt : DateTime)
    (uptimeSeconds cpuPercent : PyFloat) :
    RaisesOnly DecodeFailure (decodeTelemetry entries node reportedAt uptimeSeconds cpuPercent) ↔
      PartsShown entries := by
  have made (fields : HostTelemetryFields) :
      RaisesOnly DecodeFailure (HostTelemetry.make fields) ↔ True :=
    iff_true_intro (hostTelemetry_raises fields)
  unfold decodeTelemetry
  rw [getPart_raises keys (by decide) (fun _ => decodeLoad_raises) fun load =>
    getResource_raises keys (by decide) fun ram => getResource_raises keys (by decide) fun swap =>
      getResource_raises keys (by decide) fun rootFilesystem =>
        getResource_raises keys (by decide) fun rootInodes => made _, loadFine_iff]
  constructor
  · rintro ⟨load, later⟩
    exact ⟨load, fun loadFine => (later loadFine).1,
      fun loadFine ramFine => ((later loadFine).2 ramFine).1,
      fun loadFine ramFine swapFine => (((later loadFine).2 ramFine).2 swapFine).1,
      fun loadFine ramFine swapFine diskFine =>
        ((((later loadFine).2 ramFine).2 swapFine).2 diskFine).1⟩
  · intro shown
    exact ⟨shown.load, fun loadFine => ⟨shown.ram loadFine, fun ramFine =>
      ⟨shown.swap loadFine ramFine, fun swapFine =>
        ⟨shown.rootFilesystem loadFine ramFine swapFine, fun diskFine =>
          ⟨shown.rootInodes loadFine ramFine swapFine diskFine, fun _ => trivial⟩⟩⟩⟩⟩

/-- The clause turns what it catches into the error of the wire contract. -/
theorem wrapDomainError_raises {α : Type} {call : Fallible α} :
    RaisesOnly (· = .malformedHeartbeatPayloadError) (wrapDomainError call) ↔
      RaisesOnly DecodeFailure call := by
  constructor
  · rintro only e failed
    by_cases caught : e.kind.isValueError = true
    · exact .inr caught
    · exact .inl (only e (by rw [failed, wrapDomainError, if_neg caught]))
  · rintro only e failed
    cases ended : call with
    | ok value =>
        rw [ended] at failed
        cases failed
    | error raised =>
        rw [ended, wrapDomainError] at failed
        split at failed
        · cases failed
          rfl
        · rename_i passes
          cases failed
          exact (only _ ended).resolve_right passes

theorem number_iff {entries : Dictionary Key Value} {field own : String} :
    (exists value number, entries.get (fieldKey field) = some value ∧
      requireNumber own value = .ok number) ↔ exists q, NumberAt entries field q := by
  constructor
  · rintro ⟨value, number, found, required⟩
    rcases requireNumber_eq_ok.mp required with ⟨q, spelled, _⟩
    exact ⟨q, value, found, spelled⟩
  · rintro ⟨q, value, found, spelled⟩
    exact ⟨value, .finite q, found, requireNumber_eq_ok.mpr ⟨q, spelled, rfl⟩⟩

theorem scalarsFine_iff {reader : IsoReader} {entries : Dictionary Key Value}
    (keys : HasExactly entries topLevelFields) :
    ScalarsFine reader entries ↔
      (exists value node, entries.get (fieldKey "node") = some value ∧
        requireNode "payload.node" value = .ok node) ∧
      (exists value reported, entries.get (fieldKey "reported_at") = some value ∧
        requireReportedAt reader "payload.reported_at" value = .ok reported) ∧
      (exists value uptime, entries.get (fieldKey "uptime_seconds") = some value ∧
        requireNumber "payload.uptime_seconds" value = .ok uptime) ∧
      (exists value cpu, entries.get (fieldKey "cpu_percent") = some value ∧
        requireNumber "payload.cpu_percent" value = .ok cpu) := by
  simp only [number_iff, requireNode_eq_ok, requireReportedAt_eq_ok]
  constructor
  · rintro ⟨_, ⟨node, nodeAt, visible⟩, ⟨written, reported, reportedAt, read, aware⟩, uptime, cpu⟩
    exact ⟨⟨_, node, nodeAt, rfl, visible⟩, ⟨_, reported, reportedAt, ⟨written, rfl, read⟩, aware⟩,
      uptime, cpu⟩
  · rintro ⟨⟨_, node, nodeAt, rfl, visible⟩, ⟨_, reported, reportedAt, ⟨written, rfl, read⟩, aware⟩,
      uptime, cpu⟩
    exact ⟨keys, ⟨node, nodeAt, visible⟩, ⟨written, reported, reportedAt, read, aware⟩, uptime, cpu⟩

/-- A refused payload is refused as malformed exactly if its foreign keys can be shown. -/
theorem decodeHeartbeatPayload_raises {reader : IsoReader} {payload : Value} :
    RaisesOnly (· = .malformedHeartbeatPayloadError) (decodeHeartbeatPayload reader payload) ↔
      KeysShown reader payload := by
  have parts {entries : Dictionary Key Value} (keys : HasExactly entries topLevelFields) (node : PyStr)
      (reportedAt : DateTime) (uptimeSeconds cpuPercent : PyFloat) :
      RaisesOnly (· = .malformedHeartbeatPayloadError) (wrapDomainError
        (decodeTelemetry entries node reportedAt uptimeSeconds cpuPercent)) ↔ PartsShown entries :=
    wrapDomainError_raises.trans (decodeTelemetry_raises keys _ _ _ _)
  have scalars {entries : Dictionary Key Value} (keys : HasExactly entries topLevelFields) :=
    getScalar_raises keys "node" (by decide) (requireNode_raises "payload.node") fun node =>
      getScalar_raises keys "reported_at" (by decide)
        (requireReportedAt_raises reader "payload.reported_at") fun reportedAt =>
          getScalar_raises keys "uptime_seconds" (by decide)
            (requireNumber_raises "payload.uptime_seconds") fun uptimeSeconds =>
              getScalar_raises keys "cpu_percent" (by decide)
                (requireNumber_raises "payload.cpu_percent") fun cpuPercent =>
                  parts keys node reportedAt uptimeSeconds cpuPercent
  unfold decodeHeartbeatPayload
  rw [checkedMapping_raises (· = .malformedHeartbeatPayloadError) rfl]
  constructor
  · intro only
    refine ⟨fun entries isMapping => (only entries isMapping).1, fun entries isMapping scalarsFine => ?_⟩
    rcases (scalarsFine_iff scalarsFine.keys).mp scalarsFine with ⟨node, reportedAt, uptimeSeconds, cpuPercent⟩
    exact (scalars scalarsFine.keys).mp ((only entries isMapping).2 scalarsFine.keys)
      node reportedAt uptimeSeconds cpuPercent
  · intro shown entries isMapping
    refine ⟨shown.topLevel entries isMapping, fun keys => (scalars keys).mpr ?_⟩
    intro node reportedAt uptimeSeconds cpuPercent
    exact shown.parts entries isMapping ((scalarsFine_iff keys).mpr ⟨node, reportedAt, uptimeSeconds, cpuPercent⟩)

/-! ## Rebuilding a payload -/

def rebuildLoad (load : LoadAverageFields) : Value :=
  .mapping [(fieldKey "fifteen", .number (.float load.fifteen)),
    (fieldKey "five", .number (.float load.five)), (fieldKey "one", .number (.float load.one))]

def rebuildResource (usage : ResourceUsageFields) : Value :=
  .mapping [(fieldKey "percent", .number (.float usage.percent)),
    (fieldKey "total", .number (.float usage.total)), (fieldKey "used", .number (.float usage.used))]

/-- A payload made of the telemetry, with its timestamp as written. -/
def rebuild (telemetry : HostTelemetry) (written : PyStr) : Value :=
  .mapping [(fieldKey "cpu_percent", .number (.float telemetry.cpuPercent)),
    (fieldKey "load", rebuildLoad telemetry.load.toLoadAverageFields),
    (fieldKey "node", .str telemetry.host),
    (fieldKey "ram", rebuildResource telemetry.ram.toResourceUsageFields),
    (fieldKey "reported_at", .str written),
    (fieldKey "root_fs", rebuildResource telemetry.rootFilesystem.toResourceUsageFields),
    (fieldKey "root_inodes", rebuildResource telemetry.rootInodes.toResourceUsageFields),
    (fieldKey "swap", rebuildResource telemetry.swap.toResourceUsageFields),
    (fieldKey "uptime_seconds", .number (.float telemetry.uptimeSeconds))]

theorem spellsNumber_float (q : ℚ) : SpellsNumber (.number (.float (.finite q))) q :=
  ⟨_, rfl, rfl⟩

theorem spellsLoad_rebuild (values : LoadValues) : SpellsLoad (rebuildLoad values.floats) values :=
  ⟨_, rfl, fun _ => Iff.rfl, ⟨_, rfl, spellsNumber_float _⟩, ⟨_, rfl, spellsNumber_float _⟩,
    ⟨_, rfl, spellsNumber_float _⟩⟩

theorem spellsResource_rebuild (values : ResourceValues) :
    SpellsResource (rebuildResource values.floats) values :=
  ⟨_, rfl, fun _ => Iff.rfl, ⟨_, rfl, spellsNumber_float _⟩, ⟨_, rfl, spellsNumber_float _⟩,
    ⟨_, rfl, spellsNumber_float _⟩⟩

/-- Rebuilding the payload gives the same node and instant, and the same numbers
up to `float()`. -/
theorem spellsPayload_rebuild {reader : IsoReader} {telemetry : HostTelemetry}
    {values : PayloadValues} (carries : Carries telemetry values) {written : PyStr}
    (read : reader.fromisoformat written = some telemetry.timestamp) :
    SpellsPayload reader (rebuild telemetry written) values := by
  refine ⟨_, rfl, ?_⟩
  rw [carries.timestamp] at read
  constructor
  case keys => exact fun _ => Iff.rfl
  case node => exact congrArg (fun host => some (Value.str host)) carries.host
  case reportedAt => exact ⟨written, rfl, read⟩
  case uptimeSeconds =>
    rw [carries.uptimeSeconds]
    exact ⟨_, rfl, spellsNumber_float _⟩
  case cpuPercent =>
    rw [carries.cpuPercent]
    exact ⟨_, rfl, spellsNumber_float _⟩
  case load =>
    rw [carries.load]
    exact ⟨_, rfl, spellsLoad_rebuild _⟩
  case ram =>
    rw [carries.ram]
    exact ⟨_, rfl, spellsResource_rebuild _⟩
  case swap =>
    rw [carries.swap]
    exact ⟨_, rfl, spellsResource_rebuild _⟩
  case rootFilesystem =>
    rw [carries.rootFilesystem]
    exact ⟨_, rfl, spellsResource_rebuild _⟩
  case rootInodes =>
    rw [carries.rootInodes]
    exact ⟨_, rfl, spellsResource_rebuild _⟩

/-- The payload has exactly the fields of the wire contract, with values of the
right kind and within the bounds of the domain. -/
def WellFormedPayload (reader : IsoReader) (payload : Value) : Prop :=
  exists values, SpellsPayload reader payload values ∧ values.Admissible

structure ExactDecoding (reader : IsoReader) (payload : Value) : Prop where
  accepted : (exists telemetry, decodeHeartbeatPayload reader payload = .ok telemetry) ↔
    WellFormedPayload reader payload
  carried : forall telemetry, decodeHeartbeatPayload reader payload = .ok telemetry ->
    exists values, SpellsPayload reader payload values ∧ Carries telemetry values ∧
      forall written, reader.fromisoformat written = some telemetry.timestamp ->
        SpellsPayload reader (rebuild telemetry written) values
  refused : forall e, decodeHeartbeatPayload reader payload = .error e ->
    e.kind = .malformedHeartbeatPayloadError

/-- Decoding accepts exactly the payloads of the wire contract and refuses
everything else as malformed, but for payloads with a key it cannot show. -/
theorem strict_decoding_exact_iff (reader : IsoReader) (payload : Value) :
    ExactDecoding reader payload ↔ KeysShown reader payload := by
  constructor
  · intro exact
    exact decodeHeartbeatPayload_raises.mp exact.refused
  · intro shown
    constructor
    case accepted =>
      constructor
      · rintro ⟨telemetry, decoded⟩
        rcases decodeHeartbeatPayload_eq_ok.mp decoded with ⟨values, spelled, admissible, _⟩
        exact ⟨values, spelled, admissible⟩
      · rintro ⟨values, spelled, admissible⟩
        rcases exists_carries admissible with ⟨telemetry, carries⟩
        exact ⟨telemetry, decodeHeartbeatPayload_eq_ok.mpr ⟨values, spelled, admissible, carries⟩⟩
    case carried =>
      intro telemetry decoded
      rcases decodeHeartbeatPayload_eq_ok.mp decoded with ⟨values, spelled, _, carries⟩
      exact ⟨values, spelled, carries, fun written => spellsPayload_rebuild carries⟩
    case refused => exact decodeHeartbeatPayload_raises.mpr shown

/-- An integer of 5001 digits. -/
def overlongKey : Key :=
  .int (10 ^ 5000)

theorem int_foreign (value : Int) (fields : List String) : Key.int value ∉ fields.map fieldKey := by
  intro member
  rcases List.mem_map.mp member with ⟨field, _, impossible⟩
  cases impossible

theorem showKey_overlong {digits : Nat} (long : maxStrDigits ≤ digits) :
    exists e, showKey (.int (10 ^ digits)) = .error e ∧ e.kind = .valueError := by
  have large : 10 ^ maxStrDigits ≤ (10 ^ digits : Int).natAbs := by
    rw [Int.natAbs_pow]
    exact Nat.pow_le_pow_right (by decide) long
  rw [showKey, if_neg (not_lt.mpr large)]
  exact ⟨_, rfl, rfl⟩

/-- The report of an idle host. -/
def idleReport : Dictionary Key Value :=
  [(fieldKey "cpu_percent", .number (.int 0)),
    (fieldKey "load", rebuildLoad ⟨PyFloat.zero, PyFloat.zero, PyFloat.zero⟩),
    (fieldKey "node", .str (text "a")),
    (fieldKey "ram", rebuildResource ⟨PyFloat.zero, PyFloat.zero, PyFloat.zero⟩),
    (fieldKey "reported_at", .str (text "2024-01-01T00:00:00+00:00")),
    (fieldKey "root_fs", rebuildResource ⟨PyFloat.zero, PyFloat.zero, PyFloat.zero⟩),
    (fieldKey "root_inodes", rebuildResource ⟨PyFloat.zero, PyFloat.zero, PyFloat.zero⟩),
    (fieldKey "swap", rebuildResource ⟨PyFloat.zero, PyFloat.zero, PyFloat.zero⟩),
    (fieldKey "uptime_seconds", .number (.int 0))]

/-- What `str()` of one foreign key raises leaves the decoder. -/
theorem decode_unshown {reader : IsoReader} {key : Key} (foreign : key ∉ topLevelFields.map fieldKey)
    (value : Value) {e : Raised} (unshown : showKey key = .error e) :
    decodeHeartbeatPayload reader (.mapping (idleReport ++ [(key, value)])) = .error e := by
  have missing : missingFields (idleReport ++ [(key, value)]) topLevelFields = [] := rfl
  have unexpected : unexpectedKeys (idleReport ++ [(key, value)]) topLevelFields = [key] := by
    have known : unexpectedKeys idleReport topLevelFields = [] := rfl
    unfold unexpectedKeys at known ⊢
    rw [List.map_append, List.filter_append, known, List.nil_append]
    exact List.filter_eq_self.mpr fun own member =>
      decide_eq_true (List.mem_singleton.mp member ▸ foreign)
  have refused : requireExactKeys "payload" (idleReport ++ [(key, value)]) topLevelFields =
      .error e := by
    unfold requireExactKeys
    dsimp only
    rw [missing, unexpected, (ensure_eq_ok _ _ _).mpr rfl, ok_bind, if_neg (List.cons_ne_nil _ _),
      unknownFields, List.mapM_cons, unshown]
    rfl
  rw [decodeHeartbeatPayload, requireMapping, ok_bind, refused, error_bind]

/-- The nine fields and the overlong key end in a `ValueError`, which is not the
error of the wire contract. -/
theorem overlongKey_escapes :
    ¬ ExactDecoding extendedFormat (.mapping (idleReport ++ [(overlongKey, .number (.int 0))])) := by
  intro exact
  have long : maxStrDigits ≤ 5000 := by decide
  rcases showKey_overlong long with ⟨e, unshown, kind⟩
  have refused := exact.refused e (decode_unshown (int_foreign _ _) _ unshown)
  rw [kind] at refused
  cases refused

end Heartbeat
end HermesSentinel
