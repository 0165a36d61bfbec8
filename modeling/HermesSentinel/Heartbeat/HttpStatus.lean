import HermesSentinel.Heartbeat.Authenticity
import HermesSentinel.Heartbeat.Http

namespace HermesSentinel
namespace Heartbeat

open Python
open Domain
open Foundation

/-!
# What the status says was stored

A response 204 means one new row, made of the decoded body and the reading of
the clock; after anything else the table is what it was.  The checks before the
wire adapter never answer 204, and the snapshot of a parsed body is that body.
-/

mutual

/-- A parsed document as a stable value. -/
def jsonValue : Json -> Value
  | .object members => .mapping (jsonEntries members)
  | .str value => .str value
  | .bool value => .bool value
  | .int value => .number (.int value)
  | .real literal => .number (.float (PyFloat.ofDecimal (Decimal.value literal)))
  | .null => .other
  | .constant _ => .other
  | .array _ => .other

def jsonEntries : List (Text × Json) -> List (Key × Value)
  | [] => []
  | (key, value) :: rest => (.str key, jsonValue value) :: jsonEntries rest

end

theorem get_jsonEntries (members : List (Text × Json)) (key : Text) :
    Dictionary.get (jsonEntries members) (.str key) = (members.lookup key).map jsonValue := by
  induction members with
  | nil => rfl
  | cons member rest inductionHypothesis =>
      rcases member with ⟨own, value⟩
      rw [jsonEntries, Dictionary.get_cons, inductionHypothesis]
      by_cases same : own = key
      · rw [if_pos (congrArg Key.str same), List.lookup_cons, beq_iff_eq.mpr same.symm]
        rfl
      · have different : ¬ Key.str own = Key.str key := fun equal => same (Key.str.inj equal)
        rw [if_neg different, List.lookup_cons, beq_false_of_ne (Ne.symm same)]

theorem sanitizeSnapshot_eq_ok {call : Fallible (Dictionary Key Value)} {value : Value} :
    sanitizeSnapshot call = .ok value ↔ exists entries, call = .ok entries ∧ value = .mapping entries := by
  cases call with
  | ok entries =>
      constructor
      · intro same
        cases same
        exact ⟨entries, rfl, rfl⟩
      · rintro ⟨_, same, isMapping⟩
        cases same
        rw [isMapping]
        rfl
  | error e =>
      constructor
      · intro impossible
        unfold sanitizeSnapshot at impossible
        dsimp only at impossible
        split at impossible
        · cases impossible
        · cases impossible
      · rintro ⟨_, impossible, _⟩
        cases impossible

mutual

/-- A strict document that is read at all is read as it is. -/
theorem snapshotValue_ofJson : forall (document : Json) (stack : Nat) (value : Value),
    Strict document -> snapshotValue stack (ofJson document) = .ok value -> value = jsonValue document
  | .object members, stack, value, strict, taken => by
      cases stack with
      | zero => cases taken
      | succ stack =>
          rw [ofJson, snapshotValue, sanitizeSnapshot_eq_ok] at taken
          rcases taken with ⟨entries, read, isMapping⟩
          have whole := snapshotItems_ofMembers members stack [] entries strict.2 (by
            rw [List.map_nil, List.nil_append]
            exact strict.1.map fun _ _ same => Key.str.inj same) read
          rw [isMapping, whole, jsonValue, List.nil_append]
  | .str _, _, _, _, taken => by
      cases taken
      rfl
  | .bool _, _, _, _, taken => by
      cases taken
      rfl
  | .int _, _, _, _, taken => by
      cases taken
      rfl
  | .real _, _, _, _, taken => by
      cases taken
      rfl
  | .null, _, _, _, taken => by
      cases taken
      rfl
  | .constant _, _, _, strict, _ => strict.elim
  | .array _, _, _, _, taken => by
      cases taken
      rfl

/-- The entries are added behind those already read. -/
theorem snapshotItems_ofMembers : forall (members : List (Text × Json)) (stack : Nat)
    (read entries : Dictionary Key Value), StrictMembers members ->
    (read.map Prod.fst ++ (Json.keys members).map Key.str).Nodup ->
    snapshotItems stack read (ofMembers members) = .ok entries -> entries = read ++ jsonEntries members
  | [], stack, read, entries, _, _, taken => by
      cases taken
      rw [jsonEntries, List.append_nil]
  | (key, document) :: rest, stack, read, entries, strict, distinct, taken => by
      rw [ofMembers, snapshotItems, bind_eq_ok] at taken
      rcases taken with ⟨value, first, others⟩
      have same := snapshotValue_ofJson document stack value strict.1 first
      have moved : read.map Prod.fst ++ (Json.keys ((key, document) :: rest)).map Key.str =
          (read ++ [(Key.str key, value)]).map Prod.fst ++ (Json.keys rest).map Key.str := by
        rw [Json.keys, List.map_cons, List.map_cons, List.map_append, List.append_assoc]
        rfl
      rw [moved] at distinct
      have new : Key.str key ∉ read.map Prod.fst := by
        rw [List.map_append] at distinct
        have apart := (List.nodup_append.mp (List.nodup_append.mp distinct).1).2.2
        intro present
        exact apart _ present _ (List.mem_singleton.mpr rfl) rfl
      rw [Dictionary.assign_new new] at others
      rw [snapshotItems_ofMembers rest stack _ entries strict.2 distinct others, jsonEntries, same,
        List.append_assoc]
      rfl

end

theorem decodeStrictJson_strict {scan : PyStr -> Json.Scanned Json} {body : List Utf8.Byte}
    {members : List (Text × Json)} (parsed : decodeStrictJson scan body = some members) :
    Strict (.object members) := by
  unfold decodeStrictJson at parsed
  split at parsed
  · cases parsed
  · split at parsed
    · rename_i loaded
      cases parsed
      exact (loadsBy_eq_ok.mp loaded).2
    · cases parsed
    · cases parsed

/-- Every response of these checks has another status. -/
def Refuses {α : Type} (checks : Except HttpResponse α) : Prop :=
  forall response, checks = .error response -> response.status ≠ 204

theorem Refuses.bind {α β : Type} {first : Except HttpResponse α}
    {next : α -> Except HttpResponse β} (left : Refuses first)
    (right : forall value, Refuses (next value)) : Refuses (first >>= next) := by
  intro response failed
  cases call : first with
  | error e =>
      rw [call, error_bind] at failed
      cases failed
      exact left _ call
  | ok value =>
      rw [call, ok_bind] at failed
      exact right value response failed

theorem refuses_refuseIf (condition : Prop) [Decidable condition] {response : HttpResponse}
    (other : response.status ≠ 204) : Refuses (refuseIf condition response) := by
  intro given failed
  unfold refuseIf at failed
  split at failed
  · cases failed
    exact other
  · cases failed

theorem refuses_onlyValue {repeated absent : HttpResponse} (values : List PyStr)
    (first : repeated.status ≠ 204) (second : absent.status ≠ 204) :
    Refuses (onlyValue repeated absent values) := by
  intro given failed
  unfold onlyValue at failed
  split at failed
  · cases failed
    exact second
  · cases failed
  · cases failed
    exact first

theorem parametersRejection_ne : forall (parameters : List PyStr) (sawCharset : Bool) (status : Nat),
    parametersRejection sawCharset parameters = some status -> status ≠ 204 := by
  intro parameters
  induction parameters with
  | nil =>
      intro sawCharset status impossible
      cases impossible
  | cons parameter rest inductionHypothesis =>
      intro sawCharset status refused
      unfold parametersRejection at refused
      dsimp only at refused
      split_ifs at refused
      all_goals first
        | exact inductionHypothesis _ _ refused
        | (cases refused; decide)

theorem refuses_checkContentType (value : PyStr) : Refuses (checkContentType value) := by
  intro given failed
  unfold checkContentType at failed
  split at failed
  · rename_i status refused
    cases failed
    show status ≠ 204
    unfold contentTypeRejection at refused
    dsimp only at refused
    split_ifs at refused
    · cases refused
      decide
    · cases refused
      decide
    · exact parametersRejection_ne _ _ _ refused
  · cases failed

theorem refuses_parseBody (scan : PyStr -> Json.Scanned Json) (body : List Utf8.Byte) :
    Refuses (parseBody scan body) := by
  intro given failed
  unfold parseBody at failed
  split at failed
  · cases failed
  · cases failed
    decide

theorem refuses_inspect (scan : PyStr -> Json.Scanned Json) (request : StructuredRequest) :
    Refuses (inspect scan request) := by
  unfold inspect
  apply Refuses.bind (refuses_refuseIf _ (by decide))
  intro _
  apply Refuses.bind (refuses_refuseIf _ (by decide))
  intro _
  apply Refuses.bind (refuses_refuseIf _ (by decide))
  intro _
  apply Refuses.bind (refuses_refuseIf _ (by decide))
  intro _
  apply Refuses.bind (refuses_onlyValue _ (by decide) (by decide))
  intro contentType
  apply Refuses.bind (refuses_checkContentType contentType)
  intro _
  apply Refuses.bind (refuses_onlyValue _ (by decide) (by decide))
  intro token
  apply Refuses.bind (refuses_parseBody scan request.body)
  intro members response impossible
  cases impossible

theorem inspect_members {scan : PyStr -> Json.Scanned Json} {request : StructuredRequest}
    {members : List (Text × Json)} {token : PyStr}
    (inspected : inspect scan request = .ok (members, token)) :
    decodeStrictJson scan request.body = some members := by
  simp only [inspect, bind_eq_ok] at inspected
  rcases inspected with ⟨_, _, _, _, _, _, _, _, _, _, _, _, _, _, parsed, parse, same⟩
  cases same
  unfold parseBody at parse
  split at parse
  · rename_i found
    cases parse
    exact found
  · cases parse

/-! ## What is forwarded -/

/-- The call that forwarding makes. -/
def forwardedCall (storage : Fallible Unit) (members : List (Text × Json)) (token : PyStr) :
    HandleCall where
  payload := ofJson (.object members)
  token := .str token
  storage := storage

theorem forward_eq (adapter : HeartbeatHttpAdapter) (storage : Fallible Unit)
    (members : List (Text × Json)) (token : PyStr) (world : IngestWorld) :
    adapter.forward storage members token world =
      match adapter.wire.perform (forwardedCall storage members token) world with
      | (.ok _, after) => (.ok (respond 204 []), after)
      | (.error e, after) =>
          match wireFailure e with
          | some response => (.ok response, after)
          | none => (.error e, after) := by
  have same : adapter.wire.perform (forwardedCall storage members token) world =
      adapter.wire.handle storage (ofJson (.object members)) (.str token) world := rfl
  rw [same]
  unfold HeartbeatHttpAdapter.forward Program.handle
  simp only [bind, pure, Program.bind, Program.pure]
  rcases adapter.wire.handle storage (ofJson (.object members)) (.str token) world with
    ⟨e | receipt, after⟩
  · dsimp only
    cases wireFailure e with
    | none => rfl
    | some response => rfl
  · rfl

section

variable {adapter : HeartbeatHttpAdapter} {storage : Fallible Unit} {request : HttpRequest}
  {world : IngestWorld}

theorem handle_malformed (shape : structured request = none) :
    adapter.handle storage request world = (.ok (respond 400 []), world) := by
  unfold HeartbeatHttpAdapter.handle
  rw [shape]
  rfl

theorem handle_refused {wellFormed : StructuredRequest} (shape : structured request = some wellFormed)
    {response : HttpResponse} (inspected : inspect adapter.scan wellFormed = .error response) :
    adapter.handle storage request world = (.ok response, world) := by
  unfold HeartbeatHttpAdapter.handle
  rw [shape]
  dsimp only
  rw [inspected]
  rfl

/-- A request that passes the checks is forwarded. -/
theorem handle_inspected {wellFormed : StructuredRequest} (shape : structured request = some wellFormed)
    {members : List (Text × Json)} {token : PyStr}
    (inspected : inspect adapter.scan wellFormed = .ok (members, token)) :
    adapter.handle storage request world = adapter.forward storage members token world := by
  unfold HeartbeatHttpAdapter.handle
  rw [shape]
  dsimp only
  rw [inspected]

end

theorem wireFailure_ne {e : Raised} {response : HttpResponse}
    (mapped : wireFailure e = some response) : response.status ≠ 204 := by
  unfold wireFailure at mapped
  split at mapped
  · cases mapped
    decide
  · cases mapped
    decide
  · cases mapped

/-- Forwarding stores the decoded body and answers 204, or leaves the database
alone and answers something else or raises. -/
theorem forward_cases (adapter : HeartbeatHttpAdapter) (storage : Fallible Unit)
    (members : List (Text × Json)) (token : PyStr) (world : IngestWorld) :
    ((adapter.forward storage members token world).2.database = world.database ∧
      forall response, (adapter.forward storage members token world).1 = .ok response ->
        response.status ≠ 204) ∨
    (exists telemetry receipt record row after,
      adapter.wire.accept (ofJson (.object members)) (.str token) = .ok telemetry ∧
      adapter.forward storage members token world = (.ok (respond 204 []), after) ∧
      Ingested adapter.wire.ingestor telemetry world after receipt record row) := by
  rw [forward_eq]
  have failure (e : Raised) (after : IngestWorld) (same : after.database = world.database) :
      (match wireFailure e with
        | some response => ((.ok response, after) : Except Raised HttpResponse × IngestWorld)
        | none => (.error e, after)).2.database = world.database ∧
      forall response, (match wireFailure e with
        | some response => ((.ok response, after) : Except Raised HttpResponse × IngestWorld)
        | none => (.error e, after)).1 = .ok response -> response.status ≠ 204 := by
    cases mapped : wireFailure e with
    | none =>
        refine ⟨same, ?_⟩
        intro response impossible
        cases impossible
    | some answer =>
        refine ⟨same, ?_⟩
        intro response answered
        cases answered
        exact wireFailure_ne mapped
  cases admitted : adapter.wire.accept (ofJson (.object members)) (.str token) with
  | error e =>
      have refused : adapter.wire.perform (forwardedCall storage members token) world =
          (.error e, world) := perform_refused admitted world
      rw [refused]
      exact .inl (failure e world rfl)
  | ok telemetry =>
      have performed : adapter.wire.perform (forwardedCall storage members token) world =
          ingest adapter.wire.ingestor storage telemetry world := perform_admitted admitted world
      rw [performed]
      rcases ingest_cases adapter.wire.ingestor storage telemetry world with
        ⟨e, after, ended, same, _⟩ | ⟨receipt, after, record, row, ended, ingested⟩
      · rw [ended]
        exact .inl (failure e after same)
      · rw [ended]
        exact .inr ⟨telemetry, receipt, record, row, after, rfl, rfl, ingested⟩

/-- One row was appended, made of the body of the request and the one reading
of the clock. -/
structure StoredFrom (adapter : HeartbeatHttpAdapter) (request : StructuredRequest)
    (before after : IngestWorld) (members : List (Text × Json)) (record : HeartbeatRecord)
    (row : StoredRow) : Prop where
  rows : after.database.rows = before.database.rows ++ [row]
  stores : Stores row record
  body : decodeStrictJson adapter.scan request.body = some members
  node : members.lookup (text "node") = some (.str record.node)
  telemetry : decodeHeartbeatPayload adapter.wire.reader (jsonValue (.object members)) =
    .ok record.telemetry
  clock : adapter.wire.ingestor.clock before.clockCalls = .ok (.datetime record.receivedAt)
  clockCalls : after.clockCalls = before.clockCalls + 1

structure StatusContract (adapter : HeartbeatHttpAdapter) (storage : Fallible Unit)
    (request : HttpRequest) (before : IngestWorld) : Prop where
  stored : forall response, (adapter.handle storage request before).1 = .ok response ->
    response.status = 204 ->
    exists wellFormed members record row, structured request = some wellFormed ∧
      StoredFrom adapter wellFormed before (adapter.handle storage request before).2 members record row
  otherwise : (forall response, (adapter.handle storage request before).1 = .ok response ->
    response.status ≠ 204) ->
    (adapter.handle storage request before).2.database = before.database

/-- The node a parsed body claims is its member of that name. -/
theorem claimedNode_jsonValue {members : List (Text × Json)} {node : PyStr}
    (claimed : claimedNode (jsonValue (.object members)) = .ok node) :
    members.lookup (text "node") = some (.str node) := by
  rw [jsonValue] at claimed
  unfold claimedNode at claimed
  rw [requireMapping, ok_bind, fieldKey, get_jsonEntries] at claimed
  cases found : members.lookup (text "node") with
  | none =>
      rw [found] at claimed
      cases claimed
  | some document =>
      rw [found, Option.map_some] at claimed
      cases document with
      | str value =>
          simp only [jsonValue, requireNode, check_bind_eq_ok] at claimed
          cases claimed.2
          rfl
      | _ => cases claimed

theorem storedFrom_forward {adapter : HeartbeatHttpAdapter} {request : StructuredRequest}
    {members : List (Text × Json)} {token : PyStr} {telemetry : HostTelemetry}
    {before after : IngestWorld} {receipt : HeartbeatReceipt} {record : HeartbeatRecord}
    {row : StoredRow} (inspected : inspect adapter.scan request = .ok (members, token))
    (admitted : adapter.wire.accept (ofJson (.object members)) (.str token) = .ok telemetry)
    (ingested : Ingested adapter.wire.ingestor telemetry before after receipt record row) :
    StoredFrom adapter request before after members record row := by
  have parsed := inspect_members inspected
  rcases AuthenticatedHeartbeatAdapter.accept_eq_ok.mp admitted with
    ⟨snapshot, taken, claimed, _, decoded⟩
  rw [snapshotPayload.eq_def, ofJson] at taken
  have same := snapshotValue_ofJson (.object members) _ snapshot (decodeStrictJson_strict parsed) taken
  rw [same] at claimed decoded
  rw [<- ingested.content] at claimed decoded
  constructor
  case rows => rw [ingested.world]
  case stores => exact ingested.stores
  case body => exact parsed
  case node => exact claimedNode_jsonValue claimed
  case telemetry => exact decoded
  case clock => exact ingested.clock
  case clockCalls => rw [ingested.world]

/-- The HTTP status tells exactly what was stored. -/
theorem status_tells_what_was_stored (adapter : HeartbeatHttpAdapter) (storage : Fallible Unit)
    (request : HttpRequest) (before : IngestWorld) :
    StatusContract adapter storage request before := by
  have refused (response : HttpResponse) (status : response.status ≠ 204)
      (same : adapter.handle storage request before = (.ok response, before)) :
      StatusContract adapter storage request before := by
    constructor
    · intro answer answered accepted
      rw [same] at answered
      cases answered
      exact absurd accepted status
    · intro _
      rw [same]
  cases shape : structured request with
  | none => exact refused (respond 400 []) (by decide) (handle_malformed shape)
  | some wellFormed =>
      cases inspected : inspect adapter.scan wellFormed with
      | error response =>
          exact refused response (refuses_inspect _ _ response inspected) (handle_refused shape inspected)
      | ok forwarded =>
          rcases forwarded with ⟨members, token⟩
          have handled : adapter.handle storage request before =
              adapter.forward storage members token before := handle_inspected shape inspected
          rcases forward_cases adapter storage members token before with
            ⟨same, other⟩ | ⟨telemetry, receipt, record, row, after, admitted, ended, ingested⟩
          · constructor
            · intro response answered accepted
              rw [handled] at answered
              exact absurd accepted (other response answered)
            · intro _
              rw [handled]
              exact same
          · constructor
            · intro response _ _
              refine ⟨wellFormed, members, record, row, shape, ?_⟩
              rw [handled, ended]
              exact storedFrom_forward inspected admitted ingested
            · intro other
              rw [handled, ended] at other
              exact absurd rfl (other _ rfl)

end Heartbeat
end HermesSentinel
