import HermesSentinel.Heartbeat.NoEnumeration

namespace HermesSentinel
namespace Heartbeat

open Python
open Domain
open Foundation

/-!
# What the decoder accepts

A payload spells values: it has exactly the fields of the wire contract, and at
each field stands the value in question.  The decoder accepts the payloads that
spell admissible values and returns these values, each in its own field.
-/

structure LoadValues where
  one : ℚ
  five : ℚ
  fifteen : ℚ

structure ResourceValues where
  used : ℚ
  total : ℚ
  percent : ℚ

structure PayloadValues where
  node : PyStr
  reportedAt : DateTime
  uptimeSeconds : ℚ
  cpuPercent : ℚ
  load : LoadValues
  ram : ResourceValues
  swap : ResourceValues
  rootFilesystem : ResourceValues
  rootInodes : ResourceValues

/-- The keys are exactly the fields. -/
def HasExactly (entries : Dictionary Key Value) (fields : List String) : Prop :=
  forall key, key ∈ entries.keys ↔ key ∈ fields.map fieldKey

/-- A JSON number that is no boolean, and the finite value that `float()` gives it. -/
def SpellsNumber (value : Value) (q : ℚ) : Prop :=
  exists number, value = .number number ∧ toFloat number = .ok (.finite q)

def NumberAt (entries : Dictionary Key Value) (field : String) (q : ℚ) : Prop :=
  exists value, entries.get (fieldKey field) = some value ∧ SpellsNumber value q

structure SpellsLoad (value : Value) (load : LoadValues) : Prop where
  fields : exists entries, value = .mapping entries ∧ HasExactly entries loadFields ∧
    NumberAt entries "one" load.one ∧ NumberAt entries "five" load.five ∧
    NumberAt entries "fifteen" load.fifteen

structure SpellsResource (value : Value) (usage : ResourceValues) : Prop where
  fields : exists entries, value = .mapping entries ∧ HasExactly entries resourceFields ∧
    NumberAt entries "used" usage.used ∧ NumberAt entries "total" usage.total ∧
    NumberAt entries "percent" usage.percent

def LoadAt (entries : Dictionary Key Value) (field : String) (load : LoadValues) : Prop :=
  exists value, entries.get (fieldKey field) = some value ∧ SpellsLoad value load

def ResourceAt (entries : Dictionary Key Value) (field : String) (usage : ResourceValues) : Prop :=
  exists value, entries.get (fieldKey field) = some value ∧ SpellsResource value usage

/-- The entries spell the values under the reader's notion of a timestamp. -/
structure SpellsEntries (reader : IsoReader) (entries : Dictionary Key Value)
    (values : PayloadValues) : Prop where
  keys : HasExactly entries topLevelFields
  node : entries.get (fieldKey "node") = some (.str values.node)
  reportedAt : exists written, entries.get (fieldKey "reported_at") = some (.str written) ∧
    reader.fromisoformat written = some values.reportedAt
  uptimeSeconds : NumberAt entries "uptime_seconds" values.uptimeSeconds
  cpuPercent : NumberAt entries "cpu_percent" values.cpuPercent
  load : LoadAt entries "load" values.load
  ram : ResourceAt entries "ram" values.ram
  swap : ResourceAt entries "swap" values.swap
  rootFilesystem : ResourceAt entries "root_fs" values.rootFilesystem
  rootInodes : ResourceAt entries "root_inodes" values.rootInodes

def SpellsPayload (reader : IsoReader) (payload : Value) (values : PayloadValues) : Prop :=
  exists entries, payload = .mapping entries ∧ SpellsEntries reader entries values

structure LoadValues.Admissible (load : LoadValues) : Prop where
  one : 0 ≤ load.one
  five : 0 ≤ load.five
  fifteen : 0 ≤ load.fifteen

structure ResourceValues.Admissible (usage : ResourceValues) : Prop where
  used : 0 ≤ usage.used
  percent : 0 ≤ usage.percent ∧ usage.percent ≤ 100
  within : usage.used ≤ usage.total
  absent : usage.total = 0 -> usage.used = 0 ∧ usage.percent = 0

structure PayloadValues.Admissible (values : PayloadValues) : Prop where
  node : isBlank values.node = false
  reportedAt : values.reportedAt.isAware = true
  uptimeSeconds : 0 ≤ values.uptimeSeconds
  cpuPercent : 0 ≤ values.cpuPercent ∧ values.cpuPercent ≤ 100
  load : values.load.Admissible
  ram : values.ram.Admissible
  swap : values.swap.Admissible
  rootFilesystem : values.rootFilesystem.Admissible
  rootInodes : values.rootInodes.Admissible

def LoadValues.floats (load : LoadValues) : LoadAverageFields where
  one := .finite load.one
  five := .finite load.five
  fifteen := .finite load.fifteen

def ResourceValues.floats (usage : ResourceValues) : ResourceUsageFields where
  used := .finite usage.used
  total := .finite usage.total
  percent := .finite usage.percent

/-- The telemetry has each value in its own field. -/
structure Carries (telemetry : HostTelemetry) (values : PayloadValues) : Prop where
  host : telemetry.host = values.node
  timestamp : telemetry.timestamp = values.reportedAt
  uptimeSeconds : telemetry.uptimeSeconds = .finite values.uptimeSeconds
  cpuPercent : telemetry.cpuPercent = .finite values.cpuPercent
  load : telemetry.load.toLoadAverageFields = values.load.floats
  ram : telemetry.ram.toResourceUsageFields = values.ram.floats
  swap : telemetry.swap.toResourceUsageFields = values.swap.floats
  rootFilesystem : telemetry.rootFilesystem.toResourceUsageFields = values.rootFilesystem.floats
  rootInodes : telemetry.rootInodes.toResourceUsageFields = values.rootInodes.floats

theorem requireNonNegative_finite {name : String} {q : ℚ} :
    requireNonNegative name (.finite q) = .ok () ↔ 0 ≤ q := by
  have nonNegative : (PyFloat.finite q).lt PyFloat.zero = false ↔ 0 ≤ q := by
    by_cases sign : 0 ≤ q
    · simp [PyFloat.lt, PyFloat.le, PyFloat.zero, sign]
    · simp [PyFloat.lt, PyFloat.le, PyFloat.zero, sign, (not_le.mp sign).le]
  unfold requireNonNegative requireFinite
  rw [check_bind_eq_ok, require_eq_ok, require_eq_ok, nonNegative]
  exact and_iff_right rfl

theorem requirePercent_finite {name : String} {q : ℚ} :
    requirePercent name (.finite q) = .ok () ↔ 0 ≤ q ∧ q ≤ 100 := by
  unfold requirePercent requireFinite
  rw [check_bind_eq_ok, require_eq_ok, require_eq_ok]
  simp only [PyFloat.isFinite, PyFloat.le, PyFloat.zero, PyFloat.hundred, decide_eq_true_eq, true_and]

theorem loadFields_accepted {values : LoadValues} :
    values.floats.postInit = .ok () ↔ values.Admissible := by
  simp only [LoadAverageFields.postInit, LoadValues.floats, check_bind_eq_ok,
    requireNonNegative_finite]
  exact ⟨fun bounds => ⟨bounds.1, bounds.2.1, bounds.2.2⟩,
    fun admissible => ⟨admissible.one, admissible.five, admissible.fifteen⟩⟩

theorem loadAverage_make {values : LoadValues} {load : LoadAverage} :
    LoadAverage.make values.floats = .ok load ↔
      values.Admissible ∧ load.toLoadAverageFields = values.floats := by
  rw [LoadAverage.make, construct_eq_ok, <- loadFields_accepted]
  constructor
  · rintro ⟨checked, rfl⟩
    exact ⟨checked, rfl⟩
  · rintro ⟨checked, same⟩
    rcases load with ⟨fields, own⟩
    cases same
    exact ⟨checked, rfl⟩

theorem resourceFields_accepted {values : ResourceValues} :
    values.floats.postInit = .ok () ↔ values.Admissible := by
  have finite (a b : ℚ) : PyFloat.finite a = PyFloat.finite b ↔ a = b := by
    rw [PyFloat.finite.injEq]
  have exceeds : ((PyFloat.finite values.total).lt (.finite values.used) = false) ↔
      values.used ≤ values.total := by
    by_cases within : values.used ≤ values.total
    · simp [PyFloat.lt, PyFloat.le, within]
    · simp [PyFloat.lt, PyFloat.le, within, (not_le.mp within).le]
  have unfolded : values.floats.postInit = (do
      requireNonNegative "used" (.finite values.used)
      requireNonNegative "total" (.finite values.total)
      requirePercent "percent" (.finite values.percent)
      if PyFloat.finite values.total = PyFloat.zero then
        require (PyFloat.finite values.used = PyFloat.zero)
          "used must be 0 when total is 0 (resource absent)"
        require (PyFloat.finite values.percent = PyFloat.zero)
          "percent must be 0 when total is 0 (resource absent)"
      else
        require ((PyFloat.finite values.total).lt (.finite values.used) = false)
          "used must not exceed total") := rfl
  rw [unfolded, check_bind_eq_ok, check_bind_eq_ok, check_bind_eq_ok, requireNonNegative_finite,
    requireNonNegative_finite, requirePercent_finite]
  by_cases noTotal : values.total = 0
  · have zero : PyFloat.finite values.total = PyFloat.zero := congrArg PyFloat.finite noTotal
    rw [if_pos zero, check_bind_eq_ok, require_eq_ok, require_eq_ok]
    constructor
    · rintro ⟨used, total, percent, noUsed, noPercent⟩
      have zeros := And.intro ((finite _ _).mp noUsed) ((finite _ _).mp noPercent)
      exact ⟨used, percent, by rw [zeros.1, noTotal], fun _ => zeros⟩
    · rintro ⟨used, percent, within, absent⟩
      exact ⟨used, used.trans within, percent, (finite _ _).mpr (absent noTotal).1,
        (finite _ _).mpr (absent noTotal).2⟩
  · have present : ¬ PyFloat.finite values.total = PyFloat.zero :=
      fun zero => noTotal ((finite _ _).mp zero)
    rw [if_neg present, require_eq_ok, exceeds]
    constructor
    · rintro ⟨used, total, percent, within⟩
      exact ⟨used, percent, within, fun absent => absurd absent noTotal⟩
    · rintro ⟨used, percent, within, absent⟩
      exact ⟨used, used.trans within, percent, within⟩

theorem resourceUsage_make {values : ResourceValues} {usage : ResourceUsage} :
    ResourceUsage.make values.floats = .ok usage ↔
      values.Admissible ∧ usage.toResourceUsageFields = values.floats := by
  rw [ResourceUsage.make, construct_eq_ok, <- resourceFields_accepted]
  constructor
  · rintro ⟨checked, rfl⟩
    exact ⟨checked, rfl⟩
  · rintro ⟨checked, same⟩
    rcases usage with ⟨fields, own⟩
    cases same
    exact ⟨checked, rfl⟩

/-! ## The checks of the decoder -/

theorem requireMapping_eq_ok {name : String} {value : Value} {entries : Dictionary Key Value} :
    requireMapping name value = .ok entries ↔ value = .mapping entries := by
  cases value with
  | mapping own =>
      rw [requireMapping, Except.ok.injEq, Value.mapping.injEq]
  | _ =>
      constructor
      · intro impossible
        cases impossible
      · intro impossible
        cases impossible

/-- Unknown keys are refused, or one of them cannot be shown. -/
theorem unknownFields_eq_ok {name : String} {unexpected : List Key} :
    (if unexpected = [] then .ok () else unknownFields name unexpected) = .ok () ↔ unexpected = [] := by
  by_cases known : unexpected = []
  · rw [if_pos known]
    exact iff_of_true rfl known
  · rw [if_neg known, unknownFields, bind_eq_ok]
    refine iff_of_false ?_ known
    rintro ⟨shown, _, impossible⟩
    cases impossible

theorem requireExactKeys_eq_ok {name : String} {entries : Dictionary Key Value}
    {required : List String} :
    requireExactKeys name entries required = .ok () ↔ HasExactly entries required := by
  unfold requireExactKeys
  dsimp only
  rw [check_bind_eq_ok, ensure_eq_ok, unknownFields_eq_ok]
  unfold missingFields unexpectedKeys
  rw [List.filter_eq_nil_iff, List.filter_eq_nil_iff]
  constructor
  · rintro ⟨complete, known⟩ key
    constructor
    · intro present
      by_contra unknown
      exact known key present (decide_eq_true unknown)
    · intro field
      rcases List.mem_map.mp field with ⟨own, within, rfl⟩
      rw [Dictionary.mem_keys_iff]
      intro absent
      exact complete own within (Option.isNone_iff_eq_none.mpr absent)
  · intro exactly
    constructor
    · intro field within absent
      have present := (exactly (fieldKey field)).mpr (List.mem_map_of_mem within)
      exact (Dictionary.mem_keys_iff entries _).mp present (Option.isNone_iff_eq_none.mp absent)
    · intro key present unknown
      exact of_decide_eq_true unknown ((exactly key).mp present)

theorem getItem_eq_ok {entries : Dictionary Key Value} {field : String} {value : Value} :
    getItem entries field = .ok value ↔ entries.get (fieldKey field) = some value := by
  unfold getItem
  cases entries.get (fieldKey field) with
  | none =>
      constructor
      · intro impossible
        cases impossible
      · intro impossible
        cases impossible
  | some own => rw [Except.ok.injEq, Option.some.injEq]

theorem requireNode_eq_ok {name : String} {value : Value} {node : PyStr} :
    requireNode name value = .ok node ↔ value = .str node ∧ isBlank node = false := by
  cases value with
  | str own =>
      rw [requireNode, check_bind_eq_ok, ensure_eq_ok, Except.ok.injEq, Value.str.injEq]
      constructor
      · rintro ⟨visible, rfl⟩
        exact ⟨rfl, visible⟩
      · rintro ⟨rfl, visible⟩
        exact ⟨visible, rfl⟩
  | _ =>
      constructor
      · intro impossible
        cases impossible
      · intro impossible
        cases impossible.1

theorem isFinite_iff {value : PyFloat} : value.isFinite = true ↔ exists q, value = .finite q := by
  cases value with
  | finite q => exact ⟨fun _ => ⟨q, rfl⟩, fun _ => rfl⟩
  | _ =>
      constructor
      · intro impossible
        cases impossible
      · rintro ⟨_, impossible⟩
        cases impossible

theorem requireNumber_eq_ok {name : String} {value : Value} {result : PyFloat} :
    requireNumber name value = .ok result ↔ exists q, SpellsNumber value q ∧ result = .finite q := by
  cases value with
  | number number =>
      unfold requireNumber
      dsimp only
      cases converted : toFloat number with
      | error e =>
          constructor
          · intro impossible
            cases impossible
          · rintro ⟨q, ⟨own, same, spelled⟩, _⟩
            cases same
            rw [converted] at spelled
            cases spelled
      | ok float =>
          dsimp only
          rw [check_bind_eq_ok, ensure_eq_ok, isFinite_iff, Except.ok.injEq]
          constructor
          · rintro ⟨⟨q, finite⟩, rfl⟩
            rw [finite] at converted
            exact ⟨q, ⟨number, rfl, converted⟩, finite⟩
          · rintro ⟨q, ⟨own, same, spelled⟩, rfl⟩
            cases same
            rw [converted] at spelled
            cases spelled
            exact ⟨⟨q, rfl⟩, rfl⟩
  | _ =>
      constructor
      · intro impossible
        cases impossible
      · rintro ⟨_, ⟨_, impossible, _⟩, _⟩
        cases impossible

theorem requireReportedAt_eq_ok {reader : IsoReader} {name : String} {value : Value}
    {reported : DateTime} :
    requireReportedAt reader name value = .ok reported ↔
      (exists written, value = .str written ∧ reader.fromisoformat written = some reported) ∧
        reported.isAware = true := by
  cases value with
  | str own =>
      unfold requireReportedAt
      dsimp only
      cases parsed : reader.fromisoformat own with
      | none =>
          constructor
          · intro impossible
            cases impossible
          · rintro ⟨⟨written, same, read⟩, _⟩
            cases same
            rw [parsed] at read
            cases read
      | some moment =>
          dsimp only
          rw [check_bind_eq_ok, ensure_eq_ok, Except.ok.injEq]
          constructor
          · rintro ⟨aware, rfl⟩
            exact ⟨⟨own, rfl, parsed⟩, aware⟩
          · rintro ⟨⟨written, same, read⟩, aware⟩
            cases same
            rw [parsed] at read
            cases read
            exact ⟨aware, rfl⟩
  | _ =>
      constructor
      · intro impossible
        cases impossible
      · rintro ⟨⟨_, impossible, _⟩, _⟩
        cases impossible

theorem decodeLoad_eq_ok {name : String} {value : Value} {load : LoadAverage} :
    decodeLoad name value = .ok load ↔
      exists values, SpellsLoad value values ∧ values.Admissible ∧
        load.toLoadAverageFields = values.floats := by
  simp only [decodeLoad, bind_eq_ok, requireMapping_eq_ok, getItem_eq_ok, requireNumber_eq_ok]
  constructor
  · rintro ⟨entries, rfl, _, keys, one, oneAt, _, ⟨first, oneSpelled, rfl⟩, five, fiveAt, _,
      ⟨second, fiveSpelled, rfl⟩, fifteen, fifteenAt, _, ⟨third, fifteenSpelled, rfl⟩, made⟩
    have spelled : LoadAverage.make (LoadValues.floats ⟨first, second, third⟩) = .ok load := made
    rcases loadAverage_make.mp spelled with ⟨admissible, same⟩
    exact ⟨⟨first, second, third⟩, ⟨entries, rfl, requireExactKeys_eq_ok.mp keys,
      ⟨one, oneAt, oneSpelled⟩, ⟨five, fiveAt, fiveSpelled⟩, ⟨fifteen, fifteenAt, fifteenSpelled⟩⟩,
      admissible, same⟩
  · rintro ⟨values, ⟨entries, rfl, keys, ⟨one, oneAt, oneSpelled⟩, ⟨five, fiveAt, fiveSpelled⟩,
      ⟨fifteen, fifteenAt, fifteenSpelled⟩⟩, admissible, same⟩
    exact ⟨entries, rfl, (), requireExactKeys_eq_ok.mpr keys, one, oneAt, _, ⟨_, oneSpelled, rfl⟩, five, fiveAt, _,
      ⟨_, fiveSpelled, rfl⟩, fifteen, fifteenAt, _, ⟨_, fifteenSpelled, rfl⟩,
      loadAverage_make.mpr ⟨admissible, same⟩⟩

theorem decodeResource_eq_ok {name : String} {value : Value} {usage : ResourceUsage} :
    decodeResource name value = .ok usage ↔
      exists values, SpellsResource value values ∧ values.Admissible ∧
        usage.toResourceUsageFields = values.floats := by
  simp only [decodeResource, bind_eq_ok, requireMapping_eq_ok, getItem_eq_ok, requireNumber_eq_ok]
  constructor
  · rintro ⟨entries, rfl, _, keys, used, usedAt, _, ⟨first, usedSpelled, rfl⟩, total, totalAt, _,
      ⟨second, totalSpelled, rfl⟩, percent, percentAt, _, ⟨third, percentSpelled, rfl⟩, made⟩
    have spelled : ResourceUsage.make (ResourceValues.floats ⟨first, second, third⟩) = .ok usage := made
    rcases resourceUsage_make.mp spelled with ⟨admissible, same⟩
    exact ⟨⟨first, second, third⟩, ⟨entries, rfl, requireExactKeys_eq_ok.mp keys,
      ⟨used, usedAt, usedSpelled⟩, ⟨total, totalAt, totalSpelled⟩, ⟨percent, percentAt, percentSpelled⟩⟩,
      admissible, same⟩
  · rintro ⟨values, ⟨entries, rfl, keys, ⟨used, usedAt, usedSpelled⟩, ⟨total, totalAt, totalSpelled⟩,
      ⟨percent, percentAt, percentSpelled⟩⟩, admissible, same⟩
    exact ⟨entries, rfl, (), requireExactKeys_eq_ok.mpr keys, used, usedAt, _, ⟨_, usedSpelled, rfl⟩, total, totalAt, _,
      ⟨_, totalSpelled, rfl⟩, percent, percentAt, _, ⟨_, percentSpelled, rfl⟩,
      resourceUsage_make.mpr ⟨admissible, same⟩⟩

theorem wrapDomainError_eq_ok {α : Type} {call : Fallible α} {value : α} :
    wrapDomainError call = .ok value ↔ call = .ok value := by
  cases call with
  | ok own => rfl
  | error e =>
      unfold wrapDomainError
      constructor
      · intro impossible
        dsimp only at impossible
        split at impossible
        · cases impossible
        · cases impossible
      · intro impossible
        cases impossible

/-- Beside its parts the telemetry checks its host, its timestamp and two numbers. -/
theorem telemetryFields_accepted {fields : HostTelemetryFields} {uptime cpu : ℚ}
    (uptimeSeconds : fields.uptimeSeconds = .finite uptime) (cpuPercent : fields.cpuPercent = .finite cpu)
    (host : isBlank fields.host = false) (timestamp : fields.timestamp.isAware = true) :
    fields.postInit = .ok () ↔ 0 ≤ uptime ∧ 0 ≤ cpu ∧ cpu ≤ 100 := by
  have named : fields.host ≠ [] := by
    intro empty
    rw [empty] at host
    cases host
  have aware : fields.timestamp.tzinfo.isSome = true := by
    unfold DateTime.isAware at timestamp
    cases zone : fields.timestamp.tzinfo with
    | none =>
        rw [zone] at timestamp
        cases timestamp
    | some tzinfo => rfl
  unfold HostTelemetryFields.postInit requireNonEmpty
  rw [check_bind_eq_ok, check_bind_eq_ok, check_bind_eq_ok, require_eq_ok, require_eq_ok,
    uptimeSeconds, cpuPercent, requireNonNegative_finite, requirePercent_finite]
  exact ⟨fun all => all.2.2, fun bounds => ⟨named, aware, bounds⟩⟩

theorem hostTelemetry_make {fields : HostTelemetryFields} {telemetry : HostTelemetry} {uptime cpu : ℚ}
    (uptimeSeconds : fields.uptimeSeconds = .finite uptime) (cpuPercent : fields.cpuPercent = .finite cpu)
    (host : isBlank fields.host = false) (timestamp : fields.timestamp.isAware = true) :
    HostTelemetry.make fields = .ok telemetry ↔
      (0 ≤ uptime ∧ 0 ≤ cpu ∧ cpu ≤ 100) ∧ telemetry.toHostTelemetryFields = fields := by
  rw [HostTelemetry.make, construct_eq_ok,
    <- telemetryFields_accepted uptimeSeconds cpuPercent host timestamp]
  constructor
  · rintro ⟨checked, rfl⟩
    exact ⟨checked, rfl⟩
  · rintro ⟨checked, same⟩
    rcases telemetry with ⟨own, proof⟩
    cases same
    exact ⟨checked, rfl⟩

/-- The decoder accepts what spells admissible values, and keeps each in its field. -/
theorem decodeHeartbeatPayload_eq_ok {reader : IsoReader} {payload : Value}
    {telemetry : HostTelemetry} :
    decodeHeartbeatPayload reader payload = .ok telemetry ↔
      exists values, SpellsPayload reader payload values ∧ values.Admissible ∧
        Carries telemetry values := by
  simp only [decodeHeartbeatPayload, decodeTelemetry, wrapDomainError_eq_ok, bind_eq_ok,
    requireMapping_eq_ok, getItem_eq_ok, requireNode_eq_ok, requireReportedAt_eq_ok,
    requireNumber_eq_ok, decodeLoad_eq_ok, decodeResource_eq_ok]
  constructor
  · rintro ⟨entries, rfl, _, keys, _, nodeAt, node, ⟨rfl, visible⟩, _, reportedAt, reported,
      ⟨⟨written, rfl, read⟩, aware⟩, uptimeValue, uptimeAt, _, ⟨uptime, uptimeSpelled, rfl⟩, cpuValue,
      cpuAt, _, ⟨cpu, cpuSpelled, rfl⟩, loadValue, loadAt, load, ⟨loads, loadSpelled, loadFine, loadSame⟩,
      ramValue, ramAt, ram, ⟨rams, ramSpelled, ramFine, ramSame⟩, swapValue, swapAt, swap,
      ⟨swaps, swapSpelled, swapFine, swapSame⟩, diskValue, diskAt, disk,
      ⟨disks, diskSpelled, diskFine, diskSame⟩, inodeValue, inodeAt, inode,
      ⟨inodes, inodeSpelled, inodeFine, inodeSame⟩, made⟩
    rcases (hostTelemetry_make rfl rfl visible aware).mp made with ⟨bounds, same⟩
    refine ⟨⟨node, reported, uptime, cpu, loads, rams, swaps, disks, inodes⟩, ⟨entries, rfl, ?_⟩, ?_, ?_⟩
    · exact ⟨requireExactKeys_eq_ok.mp keys, nodeAt, ⟨written, reportedAt, read⟩,
        ⟨uptimeValue, uptimeAt, uptimeSpelled⟩, ⟨cpuValue, cpuAt, cpuSpelled⟩,
        ⟨loadValue, loadAt, loadSpelled⟩, ⟨ramValue, ramAt, ramSpelled⟩,
        ⟨swapValue, swapAt, swapSpelled⟩, ⟨diskValue, diskAt, diskSpelled⟩,
        ⟨inodeValue, inodeAt, inodeSpelled⟩⟩
    · exact ⟨visible, aware, bounds.1, bounds.2, loadFine, ramFine, swapFine, diskFine, inodeFine⟩
    · constructor
      all_goals rw [same]
      all_goals assumption
  · rintro ⟨values, ⟨entries, rfl, spelled⟩, admissible, carries⟩
    rcases spelled with ⟨keys, nodeAt, ⟨written, reportedAt, read⟩, ⟨uptimeValue, uptimeAt, uptimeSpelled⟩,
      ⟨cpuValue, cpuAt, cpuSpelled⟩, ⟨loadValue, loadAt, loadSpelled⟩, ⟨ramValue, ramAt, ramSpelled⟩,
      ⟨swapValue, swapAt, swapSpelled⟩, ⟨diskValue, diskAt, diskSpelled⟩,
      ⟨inodeValue, inodeAt, inodeSpelled⟩⟩
    refine ⟨entries, rfl, (), requireExactKeys_eq_ok.mpr keys, _, nodeAt, _, ⟨rfl, admissible.node⟩, _,
      reportedAt, _, ⟨⟨written, rfl, read⟩, admissible.reportedAt⟩, uptimeValue, uptimeAt, _,
      ⟨_, uptimeSpelled, rfl⟩, cpuValue, cpuAt, _, ⟨_, cpuSpelled, rfl⟩, loadValue, loadAt,
      telemetry.load, ⟨_, loadSpelled, admissible.load, carries.load⟩, ramValue, ramAt, telemetry.ram,
      ⟨_, ramSpelled, admissible.ram, carries.ram⟩, swapValue, swapAt, telemetry.swap,
      ⟨_, swapSpelled, admissible.swap, carries.swap⟩, diskValue, diskAt, telemetry.rootFilesystem,
      ⟨_, diskSpelled, admissible.rootFilesystem, carries.rootFilesystem⟩, inodeValue, inodeAt,
      telemetry.rootInodes, ⟨_, inodeSpelled, admissible.rootInodes, carries.rootInodes⟩, ?_⟩
    apply (hostTelemetry_make rfl rfl admissible.node admissible.reportedAt).mpr
    refine ⟨⟨admissible.uptimeSeconds, admissible.cpuPercent⟩, ?_⟩
    rcases telemetry with ⟨⟨host, timestamp, uptime, load, cpu, ram, swap, disk, inode⟩, accepted⟩
    have host := carries.host
    have timestamp := carries.timestamp
    have uptime := carries.uptimeSeconds
    have cpu := carries.cpuPercent
    dsimp only at host timestamp uptime cpu ⊢
    rw [host, timestamp, uptime, cpu]

/-- Admissible values are the values of some telemetry. -/
theorem exists_carries {values : PayloadValues} (admissible : values.Admissible) :
    exists telemetry, Carries telemetry values := by
  have loadFine := loadFields_accepted.mpr admissible.load
  have ramFine := resourceFields_accepted.mpr admissible.ram
  have swapFine := resourceFields_accepted.mpr admissible.swap
  have diskFine := resourceFields_accepted.mpr admissible.rootFilesystem
  have inodeFine := resourceFields_accepted.mpr admissible.rootInodes
  refine ⟨⟨⟨values.node, values.reportedAt, .finite values.uptimeSeconds, ⟨_, loadFine⟩,
    .finite values.cpuPercent, ⟨_, ramFine⟩, ⟨_, swapFine⟩, ⟨_, diskFine⟩, ⟨_, inodeFine⟩⟩, ?_⟩, ?_⟩
  · exact (telemetryFields_accepted rfl rfl admissible.node admissible.reportedAt).mpr
      ⟨admissible.uptimeSeconds, admissible.cpuPercent⟩
  · constructor
    all_goals rfl

end Heartbeat
end HermesSentinel
