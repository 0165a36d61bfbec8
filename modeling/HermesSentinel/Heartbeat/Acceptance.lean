import HermesSentinel.Heartbeat.ContentType
import HermesSentinel.Heartbeat.WireExactness

namespace HermesSentinel
namespace Heartbeat

open Python
open Domain
open Foundation

/-!
# Bodies that are let through

What a client has to send for its heartbeat to be accepted: a rendered document
of moderate nesting is read back whole by every scanner, its snapshot is the
document itself, and with the two headers it passes the checks of the adapter.
-/

mutual

/-- The stack suffices for a document that nests no deeper. -/
theorem snapshotValue_total : forall (document : Json) (stack : Nat), Json.Fits stack document ->
    exists value, snapshotValue stack (ofJson document) = .ok value
  | .object members, 0, fits => fits.elim
  | .object members, stack + 1, fits => by
      rcases snapshotItems_total members stack [] fits with ⟨entries, read⟩
      refine ⟨.mapping entries, ?_⟩
      rw [ofJson, snapshotValue, read]
      rfl
  | .array _, _, _ => ⟨_, rfl⟩
  | .str _, _, _ => ⟨_, rfl⟩
  | .bool _, _, _ => ⟨_, rfl⟩
  | .int _, _, _ => ⟨_, rfl⟩
  | .real _, _, _ => ⟨_, rfl⟩
  | .null, _, _ => ⟨_, rfl⟩
  | .constant _, _, fits => fits.elim

theorem snapshotItems_total : forall (members : List (Text × Json)) (stack : Nat)
    (read : Dictionary Key Value), Json.FitMembers stack members ->
    exists entries, snapshotItems stack read (ofMembers members) = .ok entries
  | [], _, read, _ => ⟨read, rfl⟩
  | (key, document) :: rest, stack, read, fits => by
      rcases snapshotValue_total document stack fits.2.1 with ⟨value, taken⟩
      rcases snapshotItems_total rest stack (Dictionary.assign (.str key) value read) fits.2.2 with
        ⟨entries, others⟩
      refine ⟨entries, ?_⟩
      rw [ofMembers, snapshotItems, taken]
      exact others

end

/-- The snapshot of a parsed body is that body. -/
theorem snapshotPayload_ofJson {members : List (Text × Json)} {stack : Nat}
    (fits : Json.Fits stack (.object members)) (strict : Strict (.object members)) :
    snapshotPayload stack (ofJson (.object members)) = .ok (jsonValue (.object members)) := by
  rcases snapshotValue_total (.object members) stack fits with ⟨value, taken⟩
  have same := snapshotValue_ofJson (.object members) stack value strict taken
  rw [same] at taken
  rw [snapshotPayload.eq_def, ofJson]
  rw [ofJson] at taken
  exact taken

/-- The bytes of a rendered document are read back as its members. -/
theorem decodeStrictJson_render (scanner : JsonScanner) {members : List (Text × Json)}
    (fits : Json.Fits nestingBudget (.object members)) (strict : Strict (.object members))
    {body : List Utf8.Byte}
    (encoded : Utf8.encode .strict (Json.render (.object members)) = some body) :
    decodeStrictJson scanner.scan body = some members := by
  unfold decodeStrictJson
  rw [Utf8.decode_encode encoded]
  dsimp only
  rw [<- loads_eq_loadsBy, loads_render scanner httpHooks fits strict]

/-- The request reaches the insertion: it passes the checks, authenticates and
decodes.  Its body then has these members. -/
def Reaches (adapter : HeartbeatHttpAdapter) (request : HttpRequest)
    (members : List (Text × Json)) : Prop :=
  exists wellFormed token telemetry, structured request = some wellFormed ∧
    inspect adapter.scan wellFormed = .ok (members, token) ∧
    adapter.wire.accept (ofJson (.object members)) (.str token) = .ok telemetry

/-- A heartbeat as it is posted: one JSON content type and one token among its headers. -/
structure Posts (request : StructuredRequest) (token : PyStr) (body : List Utf8.Byte) : Prop where
  path : request.path = heartbeatPath
  method : request.method = heartbeatMethod
  body : request.body = body
  contentType : exists value, headerValues request.headers "content-type" = [value] ∧
    JsonMediaType isSpace value
  token : headerValues request.headers "x-sentinel-token" = [token]

theorem inspect_posts {scan : PyStr -> Json.Scanned Json} {request : StructuredRequest} {token : PyStr}
    {body : List Utf8.Byte} (posts : Posts request token body) (nonempty : body ≠ [])
    (bounded : body.length ≤ maxHeartbeatBodyBytes) {members : List (Text × Json)}
    (parsed : decodeStrictJson scan body = some members) :
    inspect scan request = .ok (members, token) := by
  rcases posts.contentType with ⟨value, single, media⟩
  unfold inspect
  rw [posts.path, posts.method, posts.body, posts.token, single]
  have accepted : checkContentType value = .ok () := by
    unfold checkContentType
    rw [contentTypeRejection_eq_none.mpr media]
  have read : parseBody scan body = .ok members := by
    unfold parseBody
    rw [parsed]
  simp only [refuseIf, onlyValue, ne_eq, not_true_eq_false, if_false, nonempty,
    Nat.not_lt.mpr bounded, ok_bind, accepted, read]

/-- A posted document that spells admissible values of its own node reaches the insertion. -/
theorem reaches_of_posts {adapter : HeartbeatHttpAdapter} (scanner : JsonScanner)
    (scans : adapter.scan = scanner.scan) {request : HttpRequest} {wellFormed : StructuredRequest}
    {token : PyStr} {body : List Utf8.Byte} {members : List (Text × Json)} {values : PayloadValues}
    (shape : structured request = some wellFormed) (posts : Posts wellFormed token body)
    (encoded : Utf8.encode .strict (Json.render (.object members)) = some body)
    (bounded : body.length ≤ maxHeartbeatBodyBytes) (nonempty : body ≠ [])
    (fits : Json.Fits nestingBudget (.object members))
    (shallow : Json.Fits (adapter.wire.nesting + 1) (.object members))
    (strict : Strict (.object members))
    (spelled : SpellsPayload adapter.wire.reader (jsonValue (.object members)) values)
    (admissible : values.Admissible)
    (authorised : Authorised adapter.wire.config adapter.wire.credentials values.node (.str token)) :
    Reaches adapter request members := by
  have parsed := decodeStrictJson_render scanner fits strict encoded
  rw [<- scans] at parsed
  rcases exists_carries admissible with ⟨telemetry, carries⟩
  refine ⟨wellFormed, token, telemetry, shape, inspect_posts posts nonempty bounded parsed, ?_⟩
  have claimed : claimedNode (jsonValue (.object members)) = .ok values.node := by
    rcases spelled with ⟨entries, isMapping, spelledEntries⟩
    rw [isMapping]
    unfold claimedNode
    rw [requireMapping, ok_bind, spelledEntries.node]
    exact requireNode_eq_ok.mpr ⟨rfl, admissible.node⟩
  apply AuthenticatedHeartbeatAdapter.accept_eq_ok.mpr
  refine ⟨_, snapshotPayload_ofJson shallow strict, ?_, ?_,
    decodeHeartbeatPayload_eq_ok.mpr ⟨values, spelled, admissible, carries⟩⟩
  · rw [carries.host]
    exact claimed
  · rw [carries.host]
    exact authorised

end Heartbeat
end HermesSentinel
