import HermesSentinel.Heartbeat.BodyFraming
import HermesSentinel.Heartbeat.NoEnumeration
import HermesSentinel.Heartbeat.ProbeAgreement

namespace HermesSentinel
namespace Heartbeat

open Python
open Domain
open Foundation

/-!
# What a connection can make the listener store

Emission and framing touch the socket only.  The one place at which a
connection reaches the ingestion is the call of the adapter, and the adapter
ingests the telemetry of a request that passed every check.  So a connection is
no ingestion at all or exactly one, of telemetry its sender was entitled to
post.
-/

/-- The request makes the adapter ingest this telemetry: it has the form of a
heartbeat, and its one token is the credential of the node it reports on. -/
structure Posted (adapter : HeartbeatHttpAdapter) (request : HttpRequest) (telemetry : HostTelemetry) :
    Prop where
  accepted : exists wellFormed members token, structured request = some wellFormed ∧
    inspect adapter.scan wellFormed = .ok (members, token) ∧
    adapter.wire.accept (ofJson (.object members)) (.str token) = .ok telemetry
  authorised : exists wellFormed token, structured request = some wellFormed ∧
    headerValues wellFormed.headers "x-sentinel-token" = [token] ∧
    Authorised adapter.wire.config adapter.wire.credentials telemetry.host (.str token)

/-- The adapter ingests what was posted, and nothing else. -/
theorem handle_ingests (adapter : HeartbeatHttpAdapter) (storage : Fallible Unit)
    (request : HttpRequest) (world : IngestWorld) :
    (adapter.handle storage request world).2 = world ∨
      exists telemetry, Posted adapter request telemetry ∧
        (adapter.handle storage request world).2 =
          (ingest adapter.wire.ingestor storage telemetry world).2 := by
  cases shape : structured request with
  | none =>
      rw [handle_malformed shape]
      exact .inl rfl
  | some wellFormed =>
      cases inspected : inspect adapter.scan wellFormed with
      | error response =>
          rw [handle_refused shape inspected]
          exact .inl rfl
      | ok passed =>
          rcases passed with ⟨members, token⟩
          rw [handle_inspected shape inspected, forward_eq]
          cases admitted : adapter.wire.accept (ofJson (.object members)) (.str token) with
          | error e =>
              rw [show adapter.wire.perform (forwardedCall storage members token) world =
                (.error e, world) from perform_refused admitted world]
              dsimp only
              cases wireFailure e with
              | none => exact .inl rfl
              | some response => exact .inl rfl
          | ok telemetry =>
              have authorised := (AuthenticatedHeartbeatAdapter.accept_eq_ok.mp admitted)
              rcases authorised with ⟨_, _, _, authorised, _⟩
              refine .inr ⟨telemetry, ⟨⟨wellFormed, members, token, shape, inspected, admitted⟩,
                ⟨wellFormed, token, shape, inspect_token inspected, authorised⟩⟩, ?_⟩
              rw [show adapter.wire.perform (forwardedCall storage members token) world =
                ingest adapter.wire.ingestor storage telemetry world from
                  perform_admitted admitted world]
              rcases ingest adapter.wire.ingestor storage telemetry world with
                ⟨e | receipt, after⟩
              · dsimp only
                cases wireFailure e with
                | none => rfl
                | some response => rfl
              · rfl

/-- Whatever happens, this stays true of the ingestion. -/
abbrev KeepsIngestion (holds : IngestWorld -> Prop) {α : Type} (program : Handler α) : Prop :=
  Program.Spec (fun handler => holds handler.ingestion) program
    (fun _ handler => holds handler.ingestion) (fun _ handler => holds handler.ingestion)

section

variable {holds : IngestWorld -> Prop}

theorem KeepsIngestion.pure {α : Type} (value : α) :
    KeepsIngestion holds (Pure.pure value : Handler α) :=
  Program.Spec.pure fun _ kept => kept

theorem send_keeps (part : Sent) : KeepsIngestion holds (send part) := by
  apply Program.Spec.update
  intro handler kept
  split
  · exact kept
  · exact kept

theorem sendHeaders_keeps (headers : List (PyStr × PyStr)) :
    KeepsIngestion holds (sendHeaders headers) := by
  induction headers with
  | nil => exact KeepsIngestion.pure ()
  | cons header rest inductionHypothesis => exact (send_keeps _).bind fun _ => inductionHypothesis

theorem closeAfter_keeps : KeepsIngestion holds closeAfter :=
  Program.Spec.update fun _ kept => kept

theorem ownHead_keeps (status : Nat) : KeepsIngestion holds (do
    sendResponseOnly status
    sendHeader (text "Content-Length") (text "0")
    sendHeader (text "Connection") (text "close")
    endHeaders) :=
  (send_keeps _).bind fun _ => (send_keeps _).bind fun _ => (send_keeps _).bind fun _ => send_keeps _

theorem emitOwnResponse_keeps (status : Nat) : KeepsIngestion holds (emitOwnResponse status) :=
  closeAfter_keeps.bind fun _ => ownHead_keeps status

theorem sendError_keeps (status : Nat) : KeepsIngestion holds (sendError status) :=
  .bind (.update fun _ kept => kept) fun _ => ownHead_keeps status

theorem onlyIf_keeps (condition : Bool) {program : Handler Unit}
    (kept : KeepsIngestion holds program) : KeepsIngestion holds (Program.onlyIf condition program) := by
  unfold Program.onlyIf
  split
  · exact kept
  · exact KeepsIngestion.pure ()

theorem emitResponse_keeps (response : HttpResponse) :
    KeepsIngestion holds (emitResponse response) := by
  refine closeAfter_keeps.bind fun _ => (send_keeps _).bind fun _ => ?_
  refine (sendHeaders_keeps _).bind fun _ => (send_keeps _).bind fun _ => ?_
  split
  · refine (send_keeps _).bind fun _ => (send_keeps _).bind fun _ => ?_
    exact .update fun _ kept => kept
  · exact (onlyIf_keeps _ (send_keeps _)).bind fun _ => send_keeps _

theorem readBody_keeps (broken : Option Raised) (length : Nat) :
    KeepsIngestion holds (readBody broken length) := by
  cases broken with
  | some e => exact .interrupt fun _ kept => kept
  | none =>
      intro handler kept
      exact kept

theorem resolveBody_keeps (broken : Option Raised) (request : ParsedRequest) :
    KeepsIngestion holds (resolveBody broken request) := by
  unfold resolveBody
  split
  · exact KeepsIngestion.pure _
  split
  · exact KeepsIngestion.pure _
  · exact KeepsIngestion.pure _
  · refine (readBody_keeps broken _).bind fun body => ?_
    split
    · exact KeepsIngestion.pure _
    · exact KeepsIngestion.pure _

/-- A request line the parser refuses. -/
theorem refused_keeps (version : PyStr) (status : Nat) : KeepsIngestion holds (do
    Program.update fun handler : HandlerState => { handler with requestVersion := version }
    sendError status) := by
  have versioned : KeepsIngestion holds (Program.update fun handler : HandlerState =>
      { handler with requestVersion := version }) := .update fun _ kept => kept
  exact versioned.bind fun _ => sendError_keeps status

theorem checkExpectation_keeps (request : ParsedRequest) :
    KeepsIngestion holds (Listener.checkExpectation request) := by
  unfold Listener.checkExpectation Listener.handleExpect100
  split
  · split
    · have refused : KeepsIngestion holds (emitOwnResponse 417) := emitOwnResponse_keeps 417
      exact refused.bind fun _ => KeepsIngestion.pure _
    · exact KeepsIngestion.pure _
  · exact KeepsIngestion.pure _

end

/-- What a connection leaves of the ingestion it started with. -/
inductive ConnectionEffect (listener : Listener) (incoming : Incoming) (before : IngestWorld) :
    IngestWorld -> Prop
  | nothing : ConnectionEffect listener incoming before before
  | ingested (request : ParsedRequest) (parsed : incoming = .parsed request)
      (body : List Utf8.Byte) (telemetry : HostTelemetry)
      (posted : Posted listener.adapter (request.toHttpRequest body) telemetry) :
      ConnectionEffect listener incoming before
        (ingest listener.adapter.wire.ingestor listener.storage telemetry before).2

theorem callAdapter_effect (listener : Listener) {incoming : Incoming} {request : ParsedRequest}
    (parsed : incoming = .parsed request) (body : List Utf8.Byte) (before : IngestWorld) :
    Program.Spec (fun handler => handler.ingestion = before)
      (callAdapter listener.adapter listener.storage (request.toHttpRequest body))
      (fun _ handler => ConnectionEffect listener incoming before handler.ingestion)
      (fun _ handler => ConnectionEffect listener incoming before handler.ingestion) := by
  apply Program.Spec.iff_final.mpr
  intro handler same
  have left : (callAdapter listener.adapter listener.storage (request.toHttpRequest body)
      handler).2.ingestion =
        (listener.adapter.handle listener.storage (request.toHttpRequest body) before).2 := by
    rw [<- same, callAdapter_eq]
    rcases listener.adapter.handle listener.storage (request.toHttpRequest body)
      handler.ingestion with ⟨e | response, after⟩
    · dsimp only
      split
      · rfl
      · rfl
    · rfl
  rw [left]
  rcases handle_ingests listener.adapter listener.storage (request.toHttpRequest body) before with
    untouched | ⟨telemetry, posted, ingests⟩
  · rw [untouched]
    exact .nothing
  · rw [ingests]
    exact .ingested request parsed body telemetry posted

/-- A part that leaves the ingestion alone, before the adapter is reached. -/
theorem KeepsIngestion.before {listener : Listener} {incoming : Incoming} {before : IngestWorld}
    {α : Type} {program : Handler α} (kept : KeepsIngestion (· = before) program) :
    Program.Spec (fun handler => handler.ingestion = before) program
      (fun _ handler => handler.ingestion = before)
      (fun _ handler => ConnectionEffect listener incoming before handler.ingestion) := by
  refine kept.mono (fun _ same => same) (fun _ _ same => same) ?_
  intro _ handler same
  rw [same]
  exact .nothing

/-- A connection that ends with such a part. -/
theorem KeepsIngestion.last {listener : Listener} {incoming : Incoming} {before : IngestWorld}
    {α : Type} {program : Handler α} (kept : KeepsIngestion (· = before) program) :
    Program.Spec (fun handler => handler.ingestion = before) program
      (fun _ handler => ConnectionEffect listener incoming before handler.ingestion)
      (fun _ handler => ConnectionEffect listener incoming before handler.ingestion) := by
  refine kept.before.mono (fun _ same => same) ?_ (fun _ _ effect => effect)
  intro _ handler same
  rw [same]
  exact .nothing

theorem dispatch_effect (listener : Listener) {incoming : Incoming} {request : ParsedRequest}
    (parsed : incoming = .parsed request) (before : IngestWorld) :
    Program.Spec (fun handler => handler.ingestion = before) (listener.dispatch request)
      (fun _ handler => ConnectionEffect listener incoming before handler.ingestion)
      (fun _ handler => ConnectionEffect listener incoming before handler.ingestion) := by
  refine .bind (resolveBody_keeps listener.broken request).before fun framed => ?_
  cases framed with
  | error status => exact (emitOwnResponse_keeps status).last
  | ok body =>
      refine .bind (callAdapter_effect listener parsed body before) fun answer => ?_
      cases answer with
      | none => exact emitOwnResponse_keeps 500
      | some response => exact emitResponse_keeps response

theorem handleOneRequest_effect (listener : Listener) (incoming : Incoming) (before : IngestWorld) :
    Program.Spec (fun handler => handler.ingestion = before) (listener.handleOneRequest incoming)
      (fun _ handler => ConnectionEffect listener incoming before handler.ingestion)
      (fun _ handler => ConnectionEffect listener incoming before handler.ingestion) := by
  cases incoming with
  | nothing => exact closeAfter_keeps.last
  | refused version status => exact (refused_keeps version status).last
  | parsed request =>
      have versioned : KeepsIngestion (· = before) (Program.update fun handler : HandlerState =>
          { handler with requestVersion := request.requestVersion }) := .update fun _ kept => kept
      refine versioned.before.bind fun _ => ?_
      refine (checkExpectation_keeps request).before.bind fun continued => ?_
      split
      · exact dispatch_effect listener rfl before
      · exact (KeepsIngestion.pure ()).last

/-- A connection is no ingestion, or one of telemetry that was posted on it. -/
theorem serve_effect (listener : Listener) (incoming : Incoming) (received : List Utf8.Byte)
    (before : IngestWorld) :
    ConnectionEffect listener incoming before (serve listener incoming received before).2.ingestion :=
  Program.Spec.iff_final.mp (handleOneRequest_effect listener incoming before)
    (HandlerState.fresh received before) rfl

end Heartbeat
end HermesSentinel
