import HermesSentinel.Heartbeat.Wire

namespace HermesSentinel
namespace Heartbeat

open Python
open Domain
open Foundation

/-!
# Authenticity of stored rows

A call writes a row only for the node that its payload, as read once, claims,
and only with that node's own token.  A run of calls keeps the calls that wrote
each row, so that provenance can be stated for every row of the database.
-/

theorem AuthenticatedHeartbeatAdapter.accept_eq_ok {adapter : AuthenticatedHeartbeatAdapter}
    {payload : Payload} {token : PresentedToken} {telemetry : HostTelemetry} :
    adapter.accept payload token = .ok telemetry ↔
      exists snapshot, snapshotPayload (adapter.nesting + 1) payload = .ok snapshot ∧
        claimedNode snapshot = .ok telemetry.host ∧
        Authorised adapter.config adapter.credentials telemetry.host token ∧
        decodeHeartbeatPayload adapter.reader snapshot = .ok telemetry := by
  simp only [AuthenticatedHeartbeatAdapter.accept, bind_eq_ok]
  constructor
  · rintro ⟨snapshot, taken, node, claimed, _, authentic, decoded, decodes, _, same, result⟩
    cases result
    have named := (ensure_eq_ok _ _ _).mp same
    rw [<- named] at claimed authentic
    exact ⟨snapshot, taken, claimed, authenticate_eq_ok.mp authentic, decodes⟩
  · rintro ⟨snapshot, taken, claimed, authorised, decodes⟩
    refine ⟨snapshot, taken, telemetry.host, claimed, (), authenticate_eq_ok.mpr authorised,
      telemetry, decodes, (), ?_, rfl⟩
    exact (ensure_eq_ok _ _ _).mpr rfl

/-- A call of the adapter with what the storage does. -/
structure HandleCall where
  payload : Payload
  token : PresentedToken
  storage : Fallible Unit

def AuthenticatedHeartbeatAdapter.perform (adapter : AuthenticatedHeartbeatAdapter)
    (call : HandleCall) : Program Raised IngestWorld HeartbeatReceipt :=
  adapter.handle call.storage call.payload call.token

/-- The call presents the token of the node its payload claims, and the payload
decodes. -/
def Admitted (adapter : AuthenticatedHeartbeatAdapter) (call : HandleCall) : Prop :=
  exists snapshot node telemetry, snapshotPayload (adapter.nesting + 1) call.payload = .ok snapshot ∧
    claimedNode snapshot = .ok node ∧
    Authorised adapter.config adapter.credentials node call.token ∧
    decodeHeartbeatPayload adapter.reader snapshot = .ok telemetry

/-- The row was written by the call: it holds a record of the node the payload
claims, and the token is that node's own. -/
structure WrittenBy (adapter : AuthenticatedHeartbeatAdapter) (call : HandleCall)
    (row : StoredRow) (record : HeartbeatRecord) : Prop where
  stores : Stores row record
  claims : Claims (adapter.nesting + 1) call.payload record.node
  token : exists own, adapter.credentials.tokenFor record.node = some own ∧ call.token = .str own
  configured : (adapter.config.host record.node).isSome = true

section

variable {adapter : AuthenticatedHeartbeatAdapter}

/-- Before the ingestion nothing is touched. -/
theorem perform_refused {call : HandleCall} {e : Raised}
    (refused : adapter.accept call.payload call.token = .error e) (world : IngestWorld) :
    adapter.perform call world = (.error e, world) := by
  show Program.bind (Program.lift (adapter.accept call.payload call.token)) _ world = _
  rw [refused]
  rfl

theorem perform_admitted {call : HandleCall} {telemetry : HostTelemetry}
    (admitted : adapter.accept call.payload call.token = .ok telemetry) (world : IngestWorld) :
    adapter.perform call world = ingest adapter.ingestor call.storage telemetry world := by
  show Program.bind (Program.lift (adapter.accept call.payload call.token)) _ world = _
  rw [admitted]
  rfl

/-- A call leaves the database alone, or returns and appends a row it has written. -/
theorem perform_cases (adapter : AuthenticatedHeartbeatAdapter) (call : HandleCall)
    (world : IngestWorld) :
    (exists e after, adapter.perform call world = (.error e, after) ∧
      after.database = world.database) ∨
    (exists receipt after record row, adapter.perform call world = (.ok receipt, after) ∧
      WrittenBy adapter call row record ∧
      after.database = { rows := world.database.rows ++ [row], lastId := row.id }) := by
  cases admitted : adapter.accept call.payload call.token with
  | error e => exact .inl ⟨e, world, perform_refused admitted world, rfl⟩
  | ok telemetry =>
      rw [perform_admitted admitted]
      rcases ingest_cases adapter.ingestor call.storage telemetry world with
        ⟨e, after, ended, same, _⟩ | ⟨receipt, after, record, row, ended, ingested⟩
      · exact .inl ⟨e, after, ended, same⟩
      · have named : telemetry.host = record.node := by
          rw [HeartbeatRecord.node, ingested.content]
        rcases AuthenticatedHeartbeatAdapter.accept_eq_ok.mp admitted with
          ⟨snapshot, taken, claimed, authorised, _⟩
        rw [named] at claimed authorised
        refine .inr ⟨receipt, after, record, row, ended, ?_, ?_⟩
        · exact ⟨ingested.stores, ⟨snapshot, taken, claimed⟩, authorised.2, authorised.1⟩
        · rw [ingested.world]

/-- A call that fails authentication or decoding leaves the clock alone as well. -/
theorem perform_not_admitted {call : HandleCall} (refused : ¬ Admitted adapter call)
    (world : IngestWorld) : (exists e, adapter.perform call world = (.error e, world)) := by
  cases admitted : adapter.accept call.payload call.token with
  | error e => exact ⟨e, perform_refused admitted world⟩
  | ok telemetry =>
      rcases AuthenticatedHeartbeatAdapter.accept_eq_ok.mp admitted with
        ⟨snapshot, taken, claimed, authorised, decodes⟩
      exact absurd ⟨snapshot, _, telemetry, taken, claimed, authorised, decodes⟩ refused

/-- What a call with one node's token leaves alone. -/
theorem perform_others {call : HandleCall} {node token : PyStr}
    (own : adapter.credentials.tokenFor node = some token) (presented : call.token = .str token)
    (world : IngestWorld) {other : PyStr} (different : other ≠ node) (reader : IsoReader) :
    latestHeartbeat reader (adapter.perform call world).2.database other =
      latestHeartbeat reader world.database other := by
  rcases perform_cases adapter call world with
    ⟨e, after, ended, same⟩ | ⟨receipt, after, record, row, ended, written, appended⟩
  · rw [ended, same]
  · rw [ended, appended]
    refine (queries_append_other reader world.database written.stores ?_ row.id).1
    intro isOther
    rcases written.token with ⟨recordToken, found, same⟩
    rw [presented] at same
    cases same
    have owner := adapter.credentials.tokenFor_injective found own
    exact different (isOther.symm.trans owner)

end

/-- The world, and the rows written so far with the calls that wrote them. -/
structure HandleRun where
  world : IngestWorld
  written : List (StoredRow × HandleCall)

def stepHandle (adapter : AuthenticatedHeartbeatAdapter) (run : HandleRun) (call : HandleCall) :
    HandleRun :=
  let after := (adapter.perform call run.world).2
  let new := after.database.rows.drop run.world.database.rows.length
  { world := after, written := run.written ++ new.map fun row => (row, call) }

def runHandles (adapter : AuthenticatedHeartbeatAdapter) (world : IngestWorld)
    (calls : List HandleCall) : HandleRun :=
  calls.foldl (stepHandle adapter) { world := world, written := [] }

/-- Provenance: the rows are those there were, followed by the written ones. -/
structure Provenance (adapter : AuthenticatedHeartbeatAdapter) (initial : IngestWorld)
    (calls : List HandleCall) (run : HandleRun) : Prop where
  rows : run.world.database.rows = initial.database.rows ++ run.written.map Prod.fst
  authentic : forall row call, (row, call) ∈ run.written ->
    call ∈ calls ∧ exists record, WrittenBy adapter call row record

theorem provenance_step {adapter : AuthenticatedHeartbeatAdapter} {initial : IngestWorld}
    {calls : List HandleCall} {run : HandleRun} (provenance : Provenance adapter initial calls run)
    (call : HandleCall) :
    Provenance adapter initial (calls ++ [call]) (stepHandle adapter run call) := by
  have earlier (row : StoredRow) (writer : HandleCall) (member : (row, writer) ∈ run.written) :
      writer ∈ calls ++ [call] ∧ exists record, WrittenBy adapter writer row record := by
    rcases provenance.authentic row writer member with ⟨among, written⟩
    exact ⟨List.mem_append_left _ among, written⟩
  unfold stepHandle
  rcases perform_cases adapter call run.world with
    ⟨e, after, ended, same⟩ | ⟨receipt, after, record, row, ended, written, appended⟩
  · rw [ended]
    constructor
    · dsimp only
      rw [same, List.drop_length, List.map_nil, List.append_nil]
      exact provenance.rows
    · dsimp only
      rw [same, List.drop_length, List.map_nil, List.append_nil]
      exact earlier
  · rw [ended]
    constructor
    · dsimp only
      rw [appended]
      dsimp only
      rw [List.drop_left, List.map_append, provenance.rows, List.append_assoc]
      rfl
    · dsimp only
      rw [appended]
      dsimp only
      rw [List.drop_left]
      intro other writer member
      rcases List.mem_append.mp member with old | new
      · exact earlier other writer old
      · cases List.mem_singleton.mp new
        exact ⟨List.mem_append_right _ List.mem_cons_self, record, written⟩

theorem provenance_run (adapter : AuthenticatedHeartbeatAdapter) (initial : IngestWorld)
    (calls : List HandleCall) : Provenance adapter initial calls (runHandles adapter initial calls) := by
  induction calls using List.reverseRecOn with
  | nil =>
      constructor
      · exact (List.append_nil _).symm
      · intro row call impossible
        cases impossible
  | append_singleton earlier call inductionHypothesis =>
      have stepped := provenance_step inductionHypothesis call
      unfold runHandles at stepped ⊢
      rw [List.foldl_append]
      exact stepped

/-- A run of calls with one node's token leaves the other nodes alone. -/
theorem runHandles_others {adapter : AuthenticatedHeartbeatAdapter} (reader : IsoReader)
    {node token other : PyStr} (own : adapter.credentials.tokenFor node = some token)
    (different : other ≠ node) (initial : IngestWorld) (calls : List HandleCall)
    (presented : forall call, call ∈ calls -> call.token = .str token) :
    latestHeartbeat reader (runHandles adapter initial calls).world.database other =
      latestHeartbeat reader initial.database other := by
  induction calls using List.reverseRecOn with
  | nil => rfl
  | append_singleton earlier call inductionHypothesis =>
      have before := inductionHypothesis fun c member => presented c (List.mem_append_left _ member)
      have last := perform_others own (presented call (List.mem_append_right _ List.mem_cons_self))
        (runHandles adapter initial earlier).world different reader
      rw [<- before, <- last]
      unfold runHandles
      rw [List.foldl_append]
      rfl

structure AuthenticityContract (adapter : AuthenticatedHeartbeatAdapter) (initial : IngestWorld)
    (calls : List HandleCall) : Prop where
  provenance : Provenance adapter initial calls (runHandles adapter initial calls)
  /-- A call that ends in an exception writes no row. -/
  failed : forall world call e, (adapter.perform call world).1 = .error e ->
    (adapter.perform call world).2.database = world.database
  /-- A call that fails authentication or decoding raises, and calls no clock. -/
  refused : forall world call, ¬ Admitted adapter call ->
    (exists e, (adapter.perform call world).1 = .error e) ∧
      (adapter.perform call world).2 = world
  /-- One node's token does nothing to another node's latest heartbeat. -/
  others : forall reader node token other, adapter.credentials.tokenFor node = some token ->
    other ≠ node -> (forall call, call ∈ calls -> call.token = .str token) ->
    latestHeartbeat reader (runHandles adapter initial calls).world.database other =
      latestHeartbeat reader initial.database other
  /-- The same, when others call in between. -/
  othersCall : forall reader world call node token other,
    adapter.credentials.tokenFor node = some token -> other ≠ node -> call.token = .str token ->
    latestHeartbeat reader (adapter.perform call world).2.database other =
      latestHeartbeat reader world.database other

theorem per_node_authenticity (adapter : AuthenticatedHeartbeatAdapter) (initial : IngestWorld)
    (calls : List HandleCall) : AuthenticityContract adapter initial calls := by
  constructor
  case provenance => exact provenance_run adapter initial calls
  case failed =>
    intro world call e raised
    rcases perform_cases adapter call world with
      ⟨_, after, ended, same⟩ | ⟨receipt, after, _, _, ended, _⟩
    · rw [ended]
      exact same
    · rw [ended] at raised
      cases raised
  case refused =>
    intro world call notAdmitted
    rcases perform_not_admitted notAdmitted world with ⟨e, ended⟩
    rw [ended]
    exact ⟨⟨e, rfl⟩, rfl⟩
  case others =>
    intro reader node token other own different presented
    exact runHandles_others reader own different initial calls presented
  case othersCall =>
    intro reader world call node token other own different presented
    exact perform_others own presented world different reader

end Heartbeat
end HermesSentinel
