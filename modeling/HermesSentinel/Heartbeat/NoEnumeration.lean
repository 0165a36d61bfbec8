import HermesSentinel.Heartbeat.HttpStatus

namespace HermesSentinel
namespace Heartbeat

open Python
open Domain
open Foundation

/-!
# No node enumeration

Two servers run in the same interpreter with whatever configuration,
credentials, clock and database.  A request that is authentic at neither gets
the same response from both: the checks before the authentication do not depend
on the server, and every way to fail it looks the same.
-/

/-- What the interpreter contributes. -/
structure Interpreter where
  scan : PyStr -> Json.Scanned Json
  reader : IsoReader
  nesting : Nat

/-- What differs between two servers. -/
structure HeartbeatServer where
  config : SentinelConfig
  credentials : NodeCredentials
  ingestor : HeartbeatIngestor

def HeartbeatServer.adapter (interpreter : Interpreter) (server : HeartbeatServer) :
    HeartbeatHttpAdapter where
  wire := {
    config := server.config
    credentials := server.credentials
    ingestor := server.ingestor
    reader := interpreter.reader
    nesting := interpreter.nesting }
  scan := interpreter.scan

/-- The token presented is the credential of the node claimed in the body: there
is one token and a node, and the server knows the node and has this token for it. -/
def Authentic (interpreter : Interpreter) (server : HeartbeatServer) (request : HttpRequest) : Prop :=
  exists wellFormed members node token, structured request = some wellFormed ∧
    headerValues wellFormed.headers "x-sentinel-token" = [token] ∧
    decodeStrictJson interpreter.scan wellFormed.body = some members ∧
    members.lookup (text "node") = some (.str node) ∧
    Authorised server.config server.credentials node (.str token)

mutual

/-- Reading a parsed document meets no exception that passes `except Exception`. -/
theorem snapshotValue_raises : forall (document : Json) (stack : Nat),
    RaisesOnly (fun kind => kind.isException = true) (snapshotValue stack (ofJson document))
  | .object members, 0 => .raise _ rfl
  | .object members, stack + 1 => by
      intro e failed
      rw [ofJson, snapshotValue] at failed
      unfold sanitizeSnapshot at failed
      split at failed
      · cases failed
      · rename_i raised read
        have caught := snapshotItems_raises members stack [] raised read
        rw [if_pos caught] at failed
        cases failed
        rfl
  | .str _, _ => .ok _
  | .bool _, _ => .ok _
  | .int _, _ => .ok _
  | .real _, _ => .ok _
  | .null, _ => .ok _
  | .constant _, _ => .ok _
  | .array _, _ => .ok _

theorem snapshotItems_raises : forall (members : List (Text × Json)) (stack : Nat)
    (entries : Dictionary Key Value),
    RaisesOnly (fun kind => kind.isException = true) (snapshotItems stack entries (ofMembers members))
  | [], _, _ => .ok _
  | (_, document) :: rest, stack, _ =>
      .bind (snapshotValue_raises document stack) fun _ _ => snapshotItems_raises rest stack _

end

theorem snapshotPayload_raises (members : List (Text × Json)) (nesting : Nat) :
    RaisesOnly (· = .malformedHeartbeatPayloadError)
      (snapshotPayload (nesting + 1) (ofJson (.object members))) := by
  intro e failed
  rw [ofJson, snapshotPayload, snapshotValue] at failed
  unfold sanitizeSnapshot at failed
  split at failed
  · cases failed
  · rename_i raised read
    rw [if_pos (snapshotItems_raises members nesting [] raised read)] at failed
    cases failed
    rfl

theorem ensure_raises (kind : ExceptionClass) (condition : Prop) [Decidable condition]
    (message : String) : RaisesOnly (· = kind) (ensure kind condition message) := by
  unfold ensure
  split
  · exact .ok _
  · exact .raise _ (Eq.refl _)

theorem requireNode_raises (name : String) (value : Value) :
    RaisesOnly (· = .malformedHeartbeatPayloadError) (requireNode name value) := by
  cases value with
  | str own => exact .bind (ensure_raises _ _ _) fun _ _ => .ok _
  | _ => exact .raise _ (Eq.refl _)

theorem claimedNode_raises (value : Value) :
    RaisesOnly (· = .malformedHeartbeatPayloadError) (claimedNode value) := by
  unfold claimedNode
  apply RaisesOnly.bind
  · cases value with
    | mapping entries => exact .ok _
    | _ => exact .raise _ (Eq.refl _)
  · intro mapping _
    split
    · exact .raise _ (Eq.refl _)
    · exact requireNode_raises _ _

/-- The refusal of a parsed body, in which no server occurs. -/
def refusal (nesting : Nat) (members : List (Text × Json)) : Fallible HostTelemetry := do
  let snapshot ← snapshotPayload (nesting + 1) (ofJson (.object members))
  let _ ← claimedNode snapshot
  authenticationFailed

theorem refusal_raises (nesting : Nat) (members : List (Text × Json)) :
    RaisesOnly (fun kind => kind = .malformedHeartbeatPayloadError ∨
      kind = .heartbeatAuthenticationError) (refusal nesting members) := by
  apply RaisesOnly.bind ((snapshotPayload_raises members nesting).mono fun _ => Or.inl)
  intro snapshot _
  apply RaisesOnly.bind ((claimedNode_raises snapshot).mono fun _ => Or.inl)
  intro _ _
  exact .raise _ (Or.inr rfl)

theorem refusal_ne_ok (nesting : Nat) (members : List (Text × Json)) (telemetry : HostTelemetry) :
    refusal nesting members ≠ .ok telemetry := by
  intro impossible
  rw [refusal, bind_eq_ok] at impossible
  rcases impossible with ⟨_, _, impossible⟩
  rw [bind_eq_ok] at impossible
  rcases impossible with ⟨_, _, impossible⟩
  exact raise_ne_ok _ _ _ impossible

/-- Where the claimed node's token is not presented, the adapter refuses, and in
the same way whatever its configuration. -/
theorem accept_unauthorised (adapter : AuthenticatedHeartbeatAdapter) {members : List (Text × Json)}
    {token : PyStr} (strict : Strict (.object members))
    (unauthorised : forall node, members.lookup (text "node") = some (.str node) ->
      ¬ Authorised adapter.config adapter.credentials node (.str token)) :
    adapter.accept (ofJson (.object members)) (.str token) = refusal adapter.nesting members := by
  unfold AuthenticatedHeartbeatAdapter.accept refusal
  cases taken : snapshotPayload (adapter.nesting + 1) (ofJson (.object members)) with
  | error e => rfl
  | ok snapshot =>
      rw [ok_bind, ok_bind]
      cases claimed : claimedNode snapshot with
      | error e => rfl
      | ok node =>
          rw [ok_bind, ok_bind]
          rw [ofJson, snapshotPayload] at taken
          have same := snapshotValue_ofJson (.object members) _ snapshot strict taken
          rw [same] at claimed
          have notAuthorised := unauthorised node (claimedNode_jsonValue claimed)
          rcases authenticate_cases adapter.config adapter.credentials node (.str token) with
            accepted | failed
          · exact absurd (authenticate_eq_ok.mp accepted) notAuthorised
          · rw [failed]
            rfl

/-- The response to a refused body. -/
def refusedResponse (nesting : Nat) (members : List (Text × Json)) : HttpResponse :=
  match refusal nesting members with
  | .error e => (wireFailure e).getD (respond 401 [])
  | .ok _ => respond 401 []

theorem forward_unauthorised (adapter : HeartbeatHttpAdapter) (storage : Fallible Unit)
    {members : List (Text × Json)} {token : PyStr} (strict : Strict (.object members))
    (unauthorised : forall node, members.lookup (text "node") = some (.str node) ->
      ¬ Authorised adapter.wire.config adapter.wire.credentials node (.str token))
    (world : IngestWorld) :
    adapter.forward storage members token world =
      (.ok (refusedResponse adapter.wire.nesting members), world) := by
  have refused := accept_unauthorised adapter.wire strict unauthorised
  unfold refusedResponse
  cases failure : refusal adapter.wire.nesting members with
  | ok telemetry => exact absurd failure (refusal_ne_ok _ _ _)
  | error e =>
      rw [failure] at refused
      have kinds := refusal_raises adapter.wire.nesting members e failure
      have stopped : adapter.wire.perform (forwardedCall storage members token) world =
          (.error e, world) := perform_refused refused world
      rw [forward_eq, stopped]
      dsimp only
      unfold wireFailure
      rcases kinds with malformed | unauthentic
      · rw [malformed]
        rfl
      · rw [unauthentic]
        rfl

/-! ## Two servers -/

/-- The response to a request that is not authentic. -/
def unauthenticResponse (interpreter : Interpreter) (request : HttpRequest) : HttpResponse :=
  match structured request with
  | none => respond 400 []
  | some wellFormed =>
      match inspect interpreter.scan wellFormed with
      | .error response => response
      | .ok (members, _) => refusedResponse interpreter.nesting members

theorem inspect_token {scan : PyStr -> Json.Scanned Json} {request : StructuredRequest}
    {members : List (Text × Json)} {token : PyStr}
    (inspected : inspect scan request = .ok (members, token)) :
    headerValues request.headers "x-sentinel-token" = [token] := by
  simp only [inspect, bind_eq_ok] at inspected
  rcases inspected with ⟨_, _, _, _, _, _, _, _, _, _, _, _, found, single, _, _, same⟩
  cases same
  unfold onlyValue at single
  split at single
  · cases single
  · rename_i values
    cases single
    exact values
  · cases single

/-- A request that is not authentic is answered without touching anything, by a
response in which the server does not occur. -/
theorem handle_unauthentic (interpreter : Interpreter) (server : HeartbeatServer)
    (request : HttpRequest) (unauthentic : ¬ Authentic interpreter server request)
    (storage : Fallible Unit) (world : IngestWorld) :
    (server.adapter interpreter).handle storage request world =
      (.ok (unauthenticResponse interpreter request), world) := by
  unfold HeartbeatHttpAdapter.handle unauthenticResponse
  cases shape : structured request with
  | none => rfl
  | some wellFormed =>
      dsimp only
      have sameChecks : inspect (server.adapter interpreter).scan wellFormed =
          inspect interpreter.scan wellFormed := rfl
      rw [sameChecks]
      cases inspected : inspect interpreter.scan wellFormed with
      | error response => rfl
      | ok forwarded =>
          rcases forwarded with ⟨members, token⟩
          have parsed := inspect_members inspected
          apply forward_unauthorised _ storage (decodeStrictJson_strict parsed)
          intro node claimed authorised
          apply unauthentic
          exact ⟨wellFormed, members, node, token, shape, inspect_token inspected, parsed, claimed,
            authorised⟩

/-- A request that is authentic at neither of two servers is answered alike by
both, without a call of a clock or a change of a database. -/
theorem no_node_enumeration (interpreter : Interpreter) (first second : HeartbeatServer)
    (request : HttpRequest) (notFirst : ¬ Authentic interpreter first request)
    (notSecond : ¬ Authentic interpreter second request) :
    exists response,
      (forall storage world,
        (first.adapter interpreter).handle storage request world = (.ok response, world)) ∧
      (forall storage world,
        (second.adapter interpreter).handle storage request world = (.ok response, world)) := by
  refine ⟨unauthenticResponse interpreter request, ?_, ?_⟩
  · intro storage world
    exact handle_unauthentic interpreter first request notFirst storage world
  · intro storage world
    exact handle_unauthentic interpreter second request notSecond storage world

/-- A host that reports to the server, with the settings a host needs. -/
def outpost : HostConfig where
  name := text "a"
  heartbeat := {
    expectedIntervalSeconds := .float (.finite 60)
    staleAfterSeconds := .float (.finite 180)
    accepted := by decide }
  external := { tcpHost := text "a", tcpPort := 22, accepted := by decide }
  thresholds := { accepted := by decide }
  accepted := by decide

def outpostConfig : SentinelConfig where
  hosts := [outpost]
  accepted := by decide

def outpostCredentials : NodeCredentials where
  tokens := [(text "a", text "t")]
  accepted := ⟨[(.str (text "a"), .str (text "t"))], by decide⟩

theorem zero_inRange : 0 < maxMicros := by
  decide

/-- A server of one host, whose clock stands at the first microsecond of the year 1. -/
def outpostHeartbeats : HeartbeatServer where
  config := outpostConfig
  credentials := outpostCredentials
  ingestor := {
    config := outpostConfig
    clock := fun _ => .ok (.datetime (DateTime.utc ⟨0, zero_inRange⟩)) }

def otherHost : HostConfig where
  name := text "db"
  heartbeat := outpost.heartbeat
  external := outpost.external
  thresholds := outpost.thresholds
  accepted := by decide

/-- A server of another host, without a clock. -/
def otherHeartbeats : HeartbeatServer where
  config := { hosts := [otherHost], accepted := by decide }
  credentials := {
    tokens := [(text "db", text "secret")]
    accepted := ⟨[(.str (text "db"), .str (text "secret"))], by decide⟩ }
  ingestor := {
    config := { hosts := [otherHost], accepted := by decide }
    clock := fun _ => .ok .other }

/-- A heartbeat request for the outpost with a guessed token. -/
def guess : HttpRequest where
  method := .typed (text "POST")
  path := .typed (text "/v1/heartbeat")
  headers := .typed [
    .pair (.typed (text "Content-Type")) (.typed (text "application/json")),
    .pair (.typed (text "X-Sentinel-Token")) (.typed (text "guess"))]
  body := .typed ((Json.render (.object [(text "node", .str (text "a"))])).flatMap Utf8.encodeChar)

def standardPython : Interpreter where
  scan := JsonScanner.standard.scan
  reader := extendedFormat
  nesting := 8

/-- A token that belongs to no node of a server is not authentic there. -/
theorem not_authentic_of_token {interpreter : Interpreter} {server : HeartbeatServer}
    {request : HttpRequest} {wellFormed : StructuredRequest} {token : PyStr}
    (shape : structured request = some wellFormed)
    (presented : headerValues wellFormed.headers "x-sentinel-token" = [token])
    (foreign : forall node, server.credentials.tokenFor node ≠ some token) :
    ¬ Authentic interpreter server request := by
  rintro ⟨other, members, node, own, same, header, _, _, _, expected, known, equal⟩
  cases shape.symm.trans same
  cases presented.symm.trans header
  cases equal
  exact foreign node known

/-- The server that knows the node and the one that does not answer alike. -/
theorem no_node_enumeration_guess :
    (outpostHeartbeats.config.host (text "a")).isSome = true ∧
      otherHeartbeats.config.host (text "a") = none ∧
      exists response,
        (forall storage world,
          (outpostHeartbeats.adapter standardPython).handle storage guess world =
            (.ok response, world)) ∧
        (forall storage world,
          (otherHeartbeats.adapter standardPython).handle storage guess world =
            (.ok response, world)) := by
  have onlyToken {node own token : PyStr} (different : own ≠ token) (asked : PyStr) :
      Dictionary.get [(node, own)] asked ≠ some token := by
    rw [Dictionary.get_cons]
    split
    · exact fun found => different (Option.some.inj found)
    · intro impossible
      cases impossible
  refine ⟨by decide, by decide, ?_⟩
  apply no_node_enumeration
  · exact not_authentic_of_token rfl rfl (onlyToken (by decide))
  · exact not_authentic_of_token rfl rfl (onlyToken (by decide))

end Heartbeat
end HermesSentinel
