import HermesSentinel.Heartbeat.LatestHeartbeat
import HermesSentinel.Settings.Secrecy
import HermesSentinel.Telegram.BoundedDelivery

namespace HermesSentinel
namespace Telegram

open Python
open Domain
open Foundation
open Host
open Settings
open Heartbeat (Acceptable Insertion latestHeartbeat runInsertions)

/-!
# Host names downstream

The loader admits any name that is not blank.  The repository binds the name as
a text and the sender puts it on a line of its own, so a name gets through both
exactly if it has a UTF-8 encoding and no line break.
-/

/-- The lines of a message. -/
def linesOf (message : PyStr) : List PyStr :=
  split lineFeed message

/-- The name can be looked up in every database the repository has filled, and
every incident of the host becomes a message of five lines that can be sent. -/
structure Survives (reader : IsoReader) (settings : CentralSettings) (name : PyStr) : Prop where
  latest : forall insertions : List Insertion, exists found,
    latestHeartbeat reader (runInsertions insertions).database name = .ok found
  lines : forall incident : Incident, incident.host = name ->
    (linesOf (renderIncidentMessage incident)).length = 5 ∧
      (linesOf (renderIncidentMessage incident))[2]? = some (text "Host: " ++ name)
  body : forall incident : Incident, incident.host = name ->
    exists body, renderJsonBody (renderIncidentMessage incident)
      settings.telegram.toTelegramFields = .ok body

theorem acceptable_iff {name : PyStr} (notBlank : isBlank name = false) :
    Acceptable name ↔ Encodable name := by
  unfold Acceptable Utf8.encode
  rw [and_iff_right notBlank]
  split
  · rename_i encodable
    exact iff_of_true rfl encodable
  · rename_i refused
    exact iff_of_false nofun refused

/-- A query of a run answers exactly if the node is acceptable. -/
theorem latest_answers_iff (reader : IsoReader) (insertions : List Insertion) (name : PyStr) :
    (exists found, latestHeartbeat reader (runInsertions insertions).database name = .ok found) ↔
      Acceptable name := by
  have contract := Heartbeat.latest_heartbeat_correct reader insertions name
  constructor
  · rintro ⟨found, answered⟩
    by_contra refused
    rcases (contract.refused refused).2.1 with ⟨e, failed⟩
    rw [answered] at failed
    cases failed
  · intro acceptable
    by_cases stored : exists record, record ∈ (runInsertions insertions).inserted ∧ record.node = name
    · rcases contract.present stored with ⟨_, restored, _, answered, _⟩
      exact ⟨some restored, answered⟩
    · have none : forall record, record ∈ (runInsertions insertions).inserted ->
          record.node ≠ name := fun record member same => stored ⟨record, member, same⟩
      exact ⟨Option.none, (contract.absent acceptable).1.mpr none⟩

theorem incidentLines_ne_nil (incident : Incident) : incidentLines incident ≠ [] :=
  List.cons_ne_nil _ _

theorem lineFeed_free {s : PyStr} (simple : Json.SimpleString s) : lineFeed ∉ s := by
  intro member
  exact absurd (simple lineFeed member) (by decide)

/-- The message has its five lines unless the name of the host breaks its line. -/
theorem linesOf_incident {incident : Incident} (unbroken : lineFeed ∉ incident.host) :
    linesOf (renderIncidentMessage incident) = incidentLines incident := by
  refine Lines.split_join (incidentLines_ne_nil incident) ?_
  intro line member
  rcases incidentLines_simple member with rfl | simple
  · intro broken
    rcases List.mem_append.mp broken with label | name
    · exact absurd label (by decide)
    · exact unbroken name
  · exact lineFeed_free simple

theorem unbroken_of_length {incident : Incident}
    (five : (linesOf (renderIncidentMessage incident)).length = 5) : lineFeed ∉ incident.host := by
  intro broken
  have same : (([lineFeed].intercalate (incidentLines incident)).splitOn lineFeed).length =
      (incidentLines incident).length := five
  have free := Lines.free_of_length (incidentLines_ne_nil incident) same
  exact free _ (hostLine_mem incident) (List.mem_append.mpr (.inr broken))

/-- A host that goes down. -/
def downTransition (name : PyStr) : HostTransitionFields where
  host := name
  fromState := .healthy
  toState := .down
  confirmedAt := firstMoment

theorem downTransition_accepted {name : PyStr} (nonempty : name ≠ []) :
    (downTransition name).postInit = .ok () := by
  unfold HostTransitionFields.postInit requireNonEmpty
  simp only [check_bind_eq_ok, require_eq_ok]
  exact ⟨nonempty, rfl, (by decide : HostState.healthy ≠ .down)⟩

/-- There are incidents of every host. -/
theorem exists_incident {name : PyStr} (nonempty : name ≠ []) :
    exists incident : Incident, incident.host = name :=
  ⟨{
    kind := .down
    transition := { downTransition name with accepted := downTransition_accepted nonempty }
    accepted := rfl }, rfl⟩

/-- A name that is not blank survives exactly if it can be encoded and is one line. -/
theorem survives_of_notBlank (reader : IsoReader) (settings : CentralSettings) {name : PyStr}
    (notBlank : isBlank name = false) :
    Survives reader settings name ↔ Encodable name ∧ lineFeed ∉ name := by
  constructor
  · intro survives
    rcases exists_incident (ne_nil_of_notBlank notBlank) with ⟨incident, rfl⟩
    refine ⟨?_, unbroken_of_length (survives.lines incident rfl).1⟩
    exact (encodable_incident incident).mp
      ((renderJsonBody_encodable _ _).mp (survives.body incident rfl))
  · rintro ⟨encodable, unbroken⟩
    constructor
    · intro insertions
      exact (latest_answers_iff reader insertions name).mpr ((acceptable_iff notBlank).mpr encodable)
    · rintro incident rfl
      rw [linesOf_incident unbroken]
      exact ⟨rfl, rfl⟩
    · rintro incident rfl
      exact (renderJsonBody_encodable _ _).mpr ((encodable_incident incident).mpr encodable)

/-- Of the names the loader accepts these get through. -/
theorem hostName_survives_iff {interpreter : Interpreter} {env : EnvironmentMapping}
    {settings : CentralSettings} (loaded : loadCentralSettings interpreter env = .ok settings)
    {name : PyStr} (configured : name ∈ settings.names) (reader : IsoReader) :
    Survives reader settings name ↔ Encodable name ∧ lineFeed ∉ name := by
  rcases loadCentralSettings_sufficient interpreter env with ⟨own, same, sufficient⟩ | ⟨e, failed, _⟩
  · rw [loaded] at same
    cases same
    exact survives_of_notBlank reader settings (sufficient.namesNotBlank name configured)
  · rw [loaded] at failed
    cases failed

/-- The variables of a service with one host. -/
def oneHost (name : PyStr) : Snapshot :=
  serviceVariables name (text "secret") (text "1:a")

def namesLoaded : Fallible CentralSettings -> Option (List PyStr)
  | .ok settings => some settings.names
  | .error _ => none

theorem exists_loaded {name : PyStr}
    (names : namesLoaded (loadCentralSettings standardInterpreter (.ofSnapshot (oneHost name))) =
      some [name]) :
    exists settings, loadCentralSettings standardInterpreter (.ofSnapshot (oneHost name)) =
      .ok settings ∧ name ∈ settings.names := by
  cases loaded : loadCentralSettings standardInterpreter (.ofSnapshot (oneHost name)) with
  | error e =>
      rw [loaded] at names
      cases names
  | ok settings =>
      rw [loaded] at names
      refine ⟨settings, rfl, ?_⟩
      rw [show settings.names = [name] from Option.some.inj names]
      exact List.mem_singleton_self name

theorem prod_survives :
    exists settings, loadCentralSettings standardInterpreter (.ofSnapshot (oneHost (text "prod"))) =
      .ok settings ∧ Survives extendedFormat settings (text "prod") := by
  rcases @exists_loaded (text "prod") (by decide +kernel) with ⟨settings, loaded, configured⟩
  refine ⟨settings, loaded, ?_⟩
  exact (hostName_survives_iff loaded configured extendedFormat).mpr (by decide +kernel)

theorem loneSurrogate_inRange : 0xD800 < 0x110000 := by
  decide

/-- What `"\ud800"` is read as. -/
def loneSurrogate : PyStr :=
  [⟨0xD800, loneSurrogate_inRange⟩]

def twoLines : PyStr :=
  text "a
b"

/-- Both are accepted at the start and stop the service later. -/
theorem acceptedNames_fail :
    (exists settings, loadCentralSettings standardInterpreter (.ofSnapshot (oneHost loneSurrogate)) =
      .ok settings ∧ loneSurrogate ∈ settings.names ∧
        ¬ Survives extendedFormat settings loneSurrogate) ∧
      exists settings, loadCentralSettings standardInterpreter (.ofSnapshot (oneHost twoLines)) =
        .ok settings ∧ twoLines ∈ settings.names ∧ ¬ Survives extendedFormat settings twoLines := by
  constructor
  · rcases @exists_loaded loneSurrogate (by decide +kernel) with ⟨settings, loaded, configured⟩
    refine ⟨settings, loaded, configured, ?_⟩
    rw [survives_of_notBlank extendedFormat settings (by decide +kernel)]
    decide +kernel
  · rcases @exists_loaded twoLines (by decide +kernel) with ⟨settings, loaded, configured⟩
    refine ⟨settings, loaded, configured, ?_⟩
    rw [survives_of_notBlank extendedFormat settings (by decide +kernel)]
    decide +kernel

end Telegram
end HermesSentinel
