import HermesSentinel.Foundation.Binary64Order
import HermesSentinel.Heartbeat.Acceptance
import HermesSentinel.Heartbeat.StrictDecoding

namespace HermesSentinel
namespace Heartbeat

open Python
open Domain
open Foundation

/-!
# Client input and internal errors

On a healthy server the adapter turns every refusal into a response, up to the
insertion of an accepted heartbeat.  There two boundaries meet: what the
decoder accepts and what the table can hold.  A reported timestamp may lie
outside the years of UTC, and a configured node may have no UTF-8 text; such a
heartbeat is accepted, and its insertion raises.
-/

/-- The two ways in which a record cannot be written. -/
def Unwritable (kind : ExceptionClass) : Prop :=
  kind = .overflowError ∨ kind = .unicodeEncodeError

theorem serializeTimestamp_raises {value : DateTime} (aware : value.isAware = true) :
    RaisesOnly Unwritable (serializeTimestamp value) := by
  apply RaisesOnly.bind
  · intro e failed
    have passed : requireAware "timestamp" value = .ok () := (require_eq_ok _ _).mpr aware
    rw [passed] at failed
    cases failed
  intro _ _
  apply RaisesOnly.bind
  · intro e failed
    unfold DateTime.astimezoneUtc at failed
    split at failed
    · cases failed
    · cases failed
      exact .inl rfl
  intro wall _
  exact .ok _

theorem bindParameter_raises (parameter : Parameter) :
    RaisesOnly Unwritable (bindParameter parameter) := by
  cases parameter with
  | real value => exact .ok _
  | text value =>
      unfold bindParameter
      dsimp only
      cases Utf8.encode .strict value with
      | some bytes => exact .ok _
      | none => exact .raise _ (Or.inr rfl)

theorem bindParameters_raises (parameters : List Parameter) :
    RaisesOnly Unwritable (parameters.mapM bindParameter) := by
  induction parameters with
  | nil => exact .ok []
  | cons parameter rest inductionHypothesis =>
      rw [List.mapM_cons]
      exact .bind (bindParameter_raises parameter) fun _ _ =>
        .bind inductionHypothesis fun _ _ => .ok _

/-- With a working storage a record is inserted, or it cannot be written. -/
theorem insertHeartbeat_outcome (record : HeartbeatRecord) (db : Database) :
    (Storable record ∧ exists id, (insertHeartbeat (.ok ()) record db).1 = .ok id) ∨
      (¬ Storable record ∧ exists e, (insertHeartbeat (.ok ()) record db).1 = .error e ∧
        Unwritable e.kind) := by
  rcases insertHeartbeat_cases (.ok ()) record db with ⟨e, failed⟩ | ⟨row, stores, _, inserted⟩
  · right
    constructor
    · intro storable
      rcases insertHeartbeat_total storable db with ⟨id, total⟩
      rw [failed] at total
      cases total
    · refine ⟨e, by rw [failed], ?_⟩
      have valid := record.valid
      have parts : RaisesOnly Unwritable
          (recordParameters record >>= fun parameters => parameters.mapM bindParameter) := by
        apply RaisesOnly.bind
        · exact .bind (serializeTimestamp_raises valid.2.2) fun _ _ =>
            .bind (serializeTimestamp_raises valid.2.1) fun _ _ => .ok _
        · intro parameters _
          exact bindParameters_raises parameters
      apply parts e
      simp only [insertHeartbeat, executeInsert, bind, pure, Program.bind, Program.pure,
        Program.lift, Program.read, Program.update] at failed
      cases built : recordParameters record with
      | error raised =>
          rw [built] at failed
          cases failed
          rfl
      | ok parameters =>
          rw [built] at failed
          dsimp only at failed
          rw [ok_bind]
          cases bound : parameters.mapM bindParameter with
          | error raised =>
              rw [bound] at failed
              cases failed
              rfl
          | ok values =>
              rw [bound] at failed
              cases failed
  · left
    rcases stores with ⟨node, reportedAt, receivedAt, holds⟩
    refine ⟨⟨by rw [holds.encoded]; rfl, DateTime.utcRepresentable_of_ok holds.reported,
      DateTime.utcRepresentable_of_ok holds.received⟩, row.id, by rw [inserted]⟩

/-- One configuration, and a central clock that reads an aware time which UTC
can express. -/
structure HealthyServer (adapter : HeartbeatHttpAdapter) (world : IngestWorld) : Prop where
  config : adapter.wire.ingestor.config = adapter.wire.config
  clock : exists receivedAt, adapter.wire.ingestor.clock world.clockCalls = .ok (.datetime receivedAt) ∧
    receivedAt.isAware = true ∧ receivedAt.UtcRepresentable

/-- The node has a UTF-8 text and the timestamp a value in UTC. -/
def Serialisable (telemetry : HostTelemetry) : Prop :=
  (Utf8.encode .strict telemetry.host).isSome = true ∧ telemetry.timestamp.UtcRepresentable

/-- An accepted heartbeat is ingested exactly when it can be written. -/
theorem ingest_outcome {adapter : HeartbeatHttpAdapter} {world : IngestWorld}
    (healthy : HealthyServer adapter world) {telemetry : HostTelemetry}
    (known : (adapter.wire.config.host telemetry.host).isSome = true)
    (named : isBlank telemetry.host = false) (aware : telemetry.timestamp.isAware = true) :
    (Serialisable telemetry ∧
      exists receipt, (ingest adapter.wire.ingestor (.ok ()) telemetry world).1 = .ok receipt) ∨
    (¬ Serialisable telemetry ∧ exists e,
      (ingest adapter.wire.ingestor (.ok ()) telemetry world).1 = .error e ∧ Unwritable e.kind) := by
  rcases healthy.clock with ⟨receivedAt, reading, receivedAware, receivable⟩
  have configured : ensure .unknownNodeError
      ((adapter.wire.ingestor.config.host telemetry.host).isSome = true) "unknown Sentinel node" =
        .ok () := by
    rw [healthy.config]
    exact (ensure_eq_ok _ _ _).mpr known
  have checked : requireAwareClock .ingestionInvalidClockResultError
      "central clock must return a timezone-aware datetime (tzinfo is not None and utcoffset() is not None)"
      (.datetime receivedAt) = .ok receivedAt := requireAwareClock_eq_ok.mpr ⟨rfl, receivedAware⟩
  have accepted : HeartbeatRecordFields.postInit { telemetry, receivedAt } = .ok () := by
    simp only [HeartbeatRecordFields.postInit, requireValidNode, requireAware, check_bind_eq_ok,
      require_eq_ok]
    exact ⟨named, receivedAware, aware⟩
  have made := construct_ok HeartbeatRecord.mk accepted
  have serialisable : Storable ⟨⟨telemetry, receivedAt⟩, accepted⟩ ↔ Serialisable telemetry :=
    ⟨fun storable => ⟨storable.1, storable.2.1⟩,
      fun writable => ⟨writable.1, writable.2, receivable⟩⟩
  rw [<- serialisable]
  simp only [ingest, readClock, onDatabase, bind, pure, Program.bind, Program.pure, Program.lift,
    Program.read, Program.update, Program.zoom, configured, reading, checked,
    HeartbeatRecord.make, made]
  rcases insertHeartbeat_outcome ⟨⟨telemetry, receivedAt⟩, accepted⟩ world.database with
    ⟨storable, id, inserted⟩ | ⟨notStorable, e, failed, unwritable⟩
  · left
    rcases outcome : insertHeartbeat (.ok ()) ⟨⟨telemetry, receivedAt⟩, accepted⟩ world.database with
      ⟨result, after⟩
    rw [outcome] at inserted
    dsimp only at inserted
    rw [inserted]
    exact ⟨storable, _, rfl⟩
  · right
    rcases outcome : insertHeartbeat (.ok ()) ⟨⟨telemetry, receivedAt⟩, accepted⟩ world.database with
      ⟨result, after⟩
    rw [outcome] at failed
    dsimp only at failed
    rw [failed]
    exact ⟨notStorable, e, rfl, unwritable⟩

/-! ## The adapter -/

theorem mem_jsonEntries {members : List (Text × Json)} {key : Key} :
    key ∈ (jsonEntries members).map Prod.fst -> exists own, key = .str own := by
  induction members with
  | nil => exact fun member => absurd member List.not_mem_nil
  | cons member rest inductionHypothesis =>
      rcases member with ⟨own, value⟩
      rw [jsonEntries, List.map_cons, List.mem_cons]
      rintro (same | later)
      · exact ⟨own, same⟩
      · exact inductionHypothesis later

/-- The keys of a JSON object are strings, which show themselves. -/
theorem foreignKeysShown_json (allowed : ExceptionClass -> Prop) (members : List (Text × Json))
    (required : List String) : ForeignKeysShown allowed (jsonEntries members) required := by
  intro _
  have strings : forall key, key ∈ unexpectedKeys (jsonEntries members) required ->
      exists own, key = .str own :=
    fun key member => mem_jsonEntries (List.mem_of_mem_filter member)
  generalize unexpectedKeys (jsonEntries members) required = keys at strings
  induction keys with
  | nil => exact .ok _
  | cons key rest inductionHypothesis =>
      rcases strings key List.mem_cons_self with ⟨own, rfl⟩
      rw [List.mapM_cons, showKey, ok_bind]
      exact .bind (inductionHypothesis fun key member => strings key (List.mem_cons_of_mem _ member))
        fun shown _ => .ok _

theorem partShown_json (members : List (Text × Json)) (field : String) (required : List String) :
    PartShown (jsonEntries members) field required := by
  intro part found
  rw [fieldKey, get_jsonEntries] at found
  rcases Option.map_eq_some_iff.mp found with ⟨document, _, isMapping⟩
  cases document with
  | object own =>
      cases isMapping
      exact foreignKeysShown_json _ own required
  | _ => cases isMapping

theorem keysShown_json (reader : IsoReader) (members : List (Text × Json)) :
    KeysShown reader (jsonValue (.object members)) := by
  constructor
  · intro entries isMapping
    cases isMapping
    exact foreignKeysShown_json _ members _
  · intro entries isMapping _
    cases isMapping
    exact ⟨partShown_json members _ _, fun _ => partShown_json members _ _,
      fun _ _ => partShown_json members _ _, fun _ _ _ => partShown_json members _ _,
      fun _ _ _ _ => partShown_json members _ _⟩

/-- What the wire adapter refuses is a client error. -/
theorem accept_raises (adapter : AuthenticatedHeartbeatAdapter) {members : List (Text × Json)}
    (strict : Strict (.object members)) (token : PresentedToken) :
    RaisesOnly (fun kind => kind = .malformedHeartbeatPayloadError ∨
      kind = .heartbeatAuthenticationError) (adapter.accept (ofJson (.object members)) token) := by
  apply RaisesOnly.bind ((snapshotPayload_raises members adapter.nesting).mono fun _ => Or.inl)
  intro snapshot taken
  rw [snapshotPayload.eq_def, ofJson] at taken
  rw [snapshotValue_ofJson (.object members) _ snapshot strict taken]
  apply RaisesOnly.bind ((claimedNode_raises _).mono fun _ => Or.inl)
  intro node _
  apply RaisesOnly.bind
  · intro e failed
    rcases authenticate_cases adapter.config adapter.credentials node token with passed | refused
    · rw [passed] at failed
      cases failed
    · rw [refused] at failed
      cases failed
      exact .inr rfl
  intro _ _
  apply RaisesOnly.bind
    ((decodeHeartbeatPayload_raises.mpr (keysShown_json adapter.reader members)).mono fun _ => Or.inl)
  intro telemetry _
  exact .bind ((ensure_raises _ _ _).mono fun _ => Or.inl) fun _ _ => .ok _

theorem wireFailure_refusal {e : Raised} (refusal : e.kind = .malformedHeartbeatPayloadError ∨
    e.kind = .heartbeatAuthenticationError) : exists response, wireFailure e = some response := by
  unfold wireFailure
  rcases refusal with malformedError | authentication
  · rw [malformedError]
    exact ⟨_, rfl⟩
  · rw [authentication]
    exact ⟨_, rfl⟩

theorem wireFailure_unwritable {e : Raised} (unwritable : Unwritable e.kind) :
    wireFailure e = none := by
  unfold wireFailure
  rcases unwritable with overflow | unencodable
  · rw [overflow]
  · rw [unencodable]

/-- The timestamp the body reports can be expressed in UTC, and its node in UTF-8. -/
structure WritableBody (reader : IsoReader) (members : List (Text × Json)) : Prop where
  reportedAt : forall written reported, members.lookup (text "reported_at") = some (.str written) ->
    reader.fromisoformat written = some reported -> reported.UtcRepresentable
  node : forall node, members.lookup (text "node") = some (.str node) ->
    (Utf8.encode .strict node).isSome = true

theorem str_of_jsonValue {document : Json} {s : PyStr} (same : jsonValue document = .str s) :
    document = .str s := by
  cases document with
  | str own =>
      cases same
      rfl
  | _ => cases same

/-- The telemetry of an accepted body is that of its members. -/
theorem accept_members {adapter : AuthenticatedHeartbeatAdapter} {members : List (Text × Json)}
    {token : PresentedToken} {telemetry : HostTelemetry} (strict : Strict (.object members))
    (accepted : adapter.accept (ofJson (.object members)) token = .ok telemetry) :
    members.lookup (text "node") = some (.str telemetry.host) ∧
      (exists written, members.lookup (text "reported_at") = some (.str written) ∧
        adapter.reader.fromisoformat written = some telemetry.timestamp) ∧
      isBlank telemetry.host = false ∧ telemetry.timestamp.isAware = true ∧
      (adapter.config.host telemetry.host).isSome = true := by
  rcases AuthenticatedHeartbeatAdapter.accept_eq_ok.mp accepted with
    ⟨snapshot, taken, claimed, authorised, decoded⟩
  rw [snapshotPayload.eq_def, ofJson] at taken
  have same := snapshotValue_ofJson (.object members) _ snapshot strict taken
  rw [same] at claimed decoded
  rcases decodeHeartbeatPayload_eq_ok.mp decoded with
    ⟨values, ⟨entries, isMapping, spelled⟩, admissible, carries⟩
  rw [jsonValue] at isMapping
  cases isMapping
  rcases spelled.reportedAt with ⟨written, found, read⟩
  rw [fieldKey, get_jsonEntries] at found
  rcases Option.map_eq_some_iff.mp found with ⟨document, looked, isText⟩
  rw [str_of_jsonValue isText] at looked
  rw [<- carries.timestamp] at read
  refine ⟨claimedNode_jsonValue claimed, ⟨written, looked, read⟩, ?_, ?_, authorised.1⟩
  · rw [carries.host]
    exact admissible.node
  · rw [carries.timestamp]
    exact admissible.reportedAt

/-- The adapter returns a response unless the body reaches the insertion and
cannot be written; then what the insertion raises passes through. -/
theorem handle_outcome {adapter : HeartbeatHttpAdapter} {world : IngestWorld}
    (healthy : HealthyServer adapter world) (request : HttpRequest) :
    ((exists response, (adapter.handle (.ok ()) request world).1 = .ok response) ∧
      forall members, Reaches adapter request members -> WritableBody adapter.wire.reader members) ∨
    (exists e members, (adapter.handle (.ok ()) request world).1 = .error e ∧ Unwritable e.kind ∧
      Reaches adapter request members ∧ ¬ WritableBody adapter.wire.reader members) := by
  cases shape : structured request with
  | none =>
      left
      rw [handle_malformed shape]
      refine ⟨⟨_, rfl⟩, ?_⟩
      rintro members ⟨wellFormed, _, _, impossible, _⟩
      rw [shape] at impossible
      cases impossible
  | some wellFormed =>
      cases inspected : inspect adapter.scan wellFormed with
      | error response =>
          left
          rw [handle_refused shape inspected]
          refine ⟨⟨_, rfl⟩, ?_⟩
          rintro members ⟨own, _, _, same, impossible, _⟩
          rw [shape] at same
          cases same
          rw [inspected] at impossible
          cases impossible
      | ok forwarded =>
          rcases forwarded with ⟨members, token⟩
          have only {others : List (Text × Json)} (reaches : Reaches adapter request others) :
              others = members ∧ exists telemetry,
                adapter.wire.accept (ofJson (.object members)) (.str token) = .ok telemetry := by
            rcases reaches with ⟨own, ownToken, telemetry, same, looked, accepted⟩
            rw [shape] at same
            cases same
            rw [inspected] at looked
            cases looked
            exact ⟨rfl, telemetry, accepted⟩
          rw [handle_inspected shape inspected, forward_eq]
          cases admitted : adapter.wire.accept (ofJson (.object members)) (.str token) with
          | error e =>
              left
              have refused : adapter.wire.perform (forwardedCall (.ok ()) members token) world =
                  (.error e, world) := perform_refused admitted world
              have strict := decodeStrictJson_strict (inspect_members inspected)
              rcases wireFailure_refusal (accept_raises _ strict _ e admitted) with ⟨response, mapped⟩
              rw [refused]
              dsimp only
              rw [mapped]
              refine ⟨⟨response, rfl⟩, ?_⟩
              intro others reaches
              rcases (only reaches).2 with ⟨telemetry, impossible⟩
              rw [admitted] at impossible
              cases impossible
          | ok telemetry =>
              have performed : adapter.wire.perform (forwardedCall (.ok ()) members token) world =
                  ingest adapter.wire.ingestor (.ok ()) telemetry world :=
                perform_admitted admitted world
              rcases accept_members (decodeStrictJson_strict (inspect_members inspected)) admitted with
                ⟨node, ⟨written, reported, read⟩, named, aware, known⟩
              have writable : WritableBody adapter.wire.reader members ↔ Serialisable telemetry := by
                constructor
                · intro body
                  exact ⟨body.node _ node, body.reportedAt _ _ reported read⟩
                · intro serialisable
                  constructor
                  · intro other moment looked parsed
                    rw [reported] at looked
                    cases looked
                    rw [read] at parsed
                    cases parsed
                    exact serialisable.2
                  · intro other looked
                    rw [node] at looked
                    cases looked
                    exact serialisable.1
              rw [performed]
              rcases outcome : ingest adapter.wire.ingestor (.ok ()) telemetry world with
                ⟨result, after⟩
              rcases ingest_outcome healthy known named aware with
                ⟨serialisable, receipt, ended⟩ | ⟨notSerialisable, e, ended, unwritable⟩
              · left
                rw [outcome] at ended
                dsimp only at ended
                rw [ended]
                refine ⟨⟨_, rfl⟩, ?_⟩
                intro others reaches
                rw [(only reaches).1]
                exact writable.mpr serialisable
              · right
                rw [outcome] at ended
                dsimp only at ended
                rw [ended]
                dsimp only
                rw [wireFailure_unwritable unwritable]
                exact ⟨e, members, rfl, unwritable,
                  ⟨wellFormed, token, telemetry, shape, inspected, admitted⟩,
                  fun body => notSerialisable (writable.mp body)⟩

/-- On a healthy server a request gets a response exactly unless an accepted
body cannot be written. -/
theorem client_input_answered_iff (adapter : HeartbeatHttpAdapter) (world : IngestWorld)
    (healthy : HealthyServer adapter world) (request : HttpRequest) :
    (exists response, (adapter.handle (.ok ()) request world).1 = .ok response) ↔
      forall members, Reaches adapter request members -> WritableBody adapter.wire.reader members := by
  rcases handle_outcome healthy request with ⟨answered, writable⟩ | ⟨e, members, raised, _, reaches, not⟩
  · exact ⟨fun _ => writable, fun _ => answered⟩
  · constructor
    · rintro ⟨response, answered⟩
      rw [raised] at answered
      cases answered
    · intro writable
      exact absurd (writable members reaches) not

/-! ## A timestamp before the years of UTC -/

/-- The server of the outpost. -/
def outpostServer : HeartbeatHttpAdapter :=
  outpostHeartbeats.adapter standardPython

def emptyWorld : IngestWorld where
  database := Database.empty
  clockCalls := 0

theorem healthy_outpost : HealthyServer outpostServer emptyWorld :=
  ⟨rfl, _, rfl, rfl, DateTime.utcRepresentable_utc _⟩

def idleResource : Json :=
  .object [(text "percent", .int 0), (text "total", .int 0), (text "used", .int 0)]

/-- A document without anything to report, at a given time. -/
def idleMembers (written : PyStr) : List (Text × Json) :=
  [(text "cpu_percent", .int 0),
    (text "load", .object [(text "fifteen", .int 0), (text "five", .int 0), (text "one", .int 0)]),
    (text "node", .str (text "a")), (text "ram", idleResource), (text "reported_at", .str written),
    (text "root_fs", idleResource), (text "root_inodes", idleResource), (text "swap", idleResource),
    (text "uptime_seconds", .int 0)]

def posted (members : List (Text × Json)) : HttpRequest where
  method := .typed heartbeatMethod
  path := .typed heartbeatPath
  headers := .typed [
    .pair (.typed (text "Content-Type")) (.typed (text "application/json")),
    .pair (.typed (text "X-Sentinel-Token")) (.typed (text "t"))]
  body := .typed ((Json.render (.object members)).flatMap Utf8.encodeChar)

/-- One hour ahead of UTC, in the first hour of the year 1. -/
def beforeUtc : PyStr :=
  text "0001-01-01T00:00:00+01:00"

def beforeUtcMoment : DateTime where
  wall := ⟨0, zero_inRange⟩
  tzinfo := some ⟨some ⟨3600000000, by decide⟩⟩

theorem spellsNumber_zero : SpellsNumber (.number (.int 0)) 0 := by
  have rounded : Binary64.nearest ((0 : Int) : ℚ) = 0 := by
    exact_mod_cast Binary64.nearest_natCast (m := 0) (by decide)
  have fits : ¬ Binary64.Overflows ((0 : Int) : ℚ) := by
    unfold Binary64.Overflows
    rw [rounded]
    norm_num
  refine ⟨_, rfl, ?_⟩
  rw [toFloat, PyFloat.ofExact, if_neg fits, rounded]

def idleValues (reportedAt : DateTime) : PayloadValues where
  node := text "a"
  reportedAt := reportedAt
  uptimeSeconds := 0
  cpuPercent := 0
  load := ⟨0, 0, 0⟩
  ram := ⟨0, 0, 0⟩
  swap := ⟨0, 0, 0⟩
  rootFilesystem := ⟨0, 0, 0⟩
  rootInodes := ⟨0, 0, 0⟩

theorem spellsResource_idle : SpellsResource (jsonValue idleResource) ⟨0, 0, 0⟩ :=
  ⟨_, rfl, fun _ => Iff.rfl, ⟨_, rfl, spellsNumber_zero⟩, ⟨_, rfl, spellsNumber_zero⟩,
    ⟨_, rfl, spellsNumber_zero⟩⟩

theorem spellsPayload_idle {reader : IsoReader} {written : PyStr} {reportedAt : DateTime}
    (read : reader.fromisoformat written = some reportedAt) :
    SpellsPayload reader (jsonValue (.object (idleMembers written))) (idleValues reportedAt) := by
  refine ⟨_, rfl, ?_⟩
  constructor
  case keys => exact fun _ => Iff.rfl
  case node => rfl
  case reportedAt => exact ⟨written, rfl, read⟩
  case uptimeSeconds => exact ⟨_, rfl, spellsNumber_zero⟩
  case cpuPercent => exact ⟨_, rfl, spellsNumber_zero⟩
  case load =>
    exact ⟨_, rfl, _, rfl, fun _ => Iff.rfl, ⟨_, rfl, spellsNumber_zero⟩, ⟨_, rfl, spellsNumber_zero⟩,
      ⟨_, rfl, spellsNumber_zero⟩⟩
  case ram => exact ⟨_, rfl, spellsResource_idle⟩
  case swap => exact ⟨_, rfl, spellsResource_idle⟩
  case rootFilesystem => exact ⟨_, rfl, spellsResource_idle⟩
  case rootInodes => exact ⟨_, rfl, spellsResource_idle⟩

theorem admissible_idle {reportedAt : DateTime} (aware : reportedAt.isAware = true) :
    (idleValues reportedAt).Admissible := by
  have absent : ResourceValues.Admissible ⟨0, 0, 0⟩ :=
    ⟨le_refl _, ⟨le_refl _, by norm_num⟩, le_refl _, fun _ => ⟨rfl, rfl⟩⟩
  have named : isBlank (text "a") = false := by decide
  exact ⟨named, aware, le_refl _, ⟨le_refl _, by norm_num [idleValues]⟩,
    ⟨le_refl _, le_refl _, le_refl _⟩, absent, absent, absent, absent⟩

theorem read_beforeUtc : extendedFormat.fromisoformat beforeUtc = some beforeUtcMoment := by
  decide +kernel

theorem fits_idleMembers (depth : Nat) {written : PyStr} (simple : Json.SimpleString written) :
    Json.Fits (depth + 2) (.object (idleMembers written)) := by
  have resource : Json.Fits (depth + 1) idleResource :=
    ⟨by decide, trivial, by decide, trivial, by decide, trivial, trivial⟩
  exact ⟨by decide, trivial, by decide, ⟨by decide, trivial, by decide, trivial, by decide, trivial,
    trivial⟩, by decide, by show Json.SimpleString (text "a"); decide, by decide, resource, by decide,
    simple, by decide, resource, by decide, resource, by decide, resource, by decide, trivial, trivial⟩

theorem strict_idleMembers (written : PyStr) : Strict (.object (idleMembers written)) := by
  have resource : Strict idleResource := ⟨by decide, trivial, trivial, trivial, trivial⟩
  refine ⟨?_, trivial, ⟨by decide, trivial, trivial, trivial, trivial⟩, trivial, resource, trivial,
    resource, resource, resource, trivial, trivial⟩
  show (["cpu_percent", "load", "node", "ram", "reported_at", "root_fs", "root_inodes", "swap",
    "uptime_seconds"].map text).Nodup
  decide

theorem reaches_beforeUtc :
    Reaches outpostServer (posted (idleMembers beforeUtc)) (idleMembers beforeUtc) := by
  have encoded : Utf8.encode .strict (Json.render (.object (idleMembers beforeUtc))) =
      some ((Json.render (.object (idleMembers beforeUtc))).flatMap Utf8.encodeChar) := by
    decide +kernel
  have simple : Json.SimpleString beforeUtc := by decide
  apply reaches_of_posts JsonScanner.standard rfl rfl ?_ encoded ?_ ?_ (fits_idleMembers 898 simple)
    (fits_idleMembers 7 simple) (strict_idleMembers beforeUtc) (spellsPayload_idle read_beforeUtc)
    (admissible_idle rfl) ⟨rfl, text "t", rfl, rfl⟩
  · refine ⟨rfl, rfl, rfl, ⟨text "application/json", rfl, ?_⟩, rfl⟩
    exact contentTypeRejection_eq_none.mp (by decide +kernel)
  · decide +kernel
  · decide +kernel

theorem not_writableBody_beforeUtc :
    ¬ WritableBody outpostServer.wire.reader (idleMembers beforeUtc) := by
  intro writable
  have representable := writable.reportedAt beforeUtc beforeUtcMoment rfl read_beforeUtc
  revert representable
  decide

/-- A healthy server fails on a request it accepts. -/
theorem beforeUtc_not_answered :
    HealthyServer outpostServer emptyWorld ∧
      exists e, (outpostServer.handle (.ok ()) (posted (idleMembers beforeUtc)) emptyWorld).1 =
        .error e := by
  refine ⟨healthy_outpost, ?_⟩
  rcases handle_outcome healthy_outpost (posted (idleMembers beforeUtc)) with
    ⟨_, writable⟩ | ⟨e, _, raised, _⟩
  · exact absurd (writable _ reaches_beforeUtc) not_writableBody_beforeUtc
  · exact ⟨e, raised⟩

theorem beforeUtc_gets_no_response :
    ¬ exists response,
      (outpostServer.handle (.ok ()) (posted (idleMembers beforeUtc)) emptyWorld).1 = .ok response := by
  intro answered
  exact not_writableBody_beforeUtc ((client_input_answered_iff outpostServer emptyWorld
    healthy_outpost _).mp answered _ reaches_beforeUtc)

end Heartbeat
end HermesSentinel
