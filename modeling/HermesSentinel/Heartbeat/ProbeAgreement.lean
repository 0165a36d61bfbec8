import HermesSentinel.DeadMan.Probe
import HermesSentinel.Heartbeat.NoEnumeration
import HermesSentinel.Heartbeat.Listener

namespace HermesSentinel
namespace Heartbeat

open Python
open Domain
open Foundation
open DeadMan

/-!
# The endpoint and the probe agree

A dead-man probe is a request to the heartbeat path with another method than
POST.  What the listener sends is `Unlisted` while no `Allow` header was sent;
the only response that has one is the answer to a probe.
-/

def statusOf : List Sent -> Option Nat
  | [] => none
  | .statusLine status :: _ => some status
  | _ :: rest => statusOf rest

/-- The values of the `Allow` headers. -/
def allowOf (sent : List Sent) : List PyStr :=
  sent.flatMap fun part =>
    match part with
    | .header name value => if lower name = text "allow" then [value] else []
    | _ => []

def bodyOf (sent : List Sent) : List Utf8.Byte :=
  sent.flatMap fun part =>
    match part with
    | .body bytes => bytes
    | _ => []

/-- The response that was sent, if one was. -/
def observed (sent : List Sent) : Option DeadManProbeResponse :=
  (statusOf sent).bind fun status =>
    (DeadManProbeResponse.make status (allowOf sent) (bodyOf sent)).toOption

/-- A response was sent and a probe classifies it as healthy. -/
def Healthy (sent : List Sent) : Prop :=
  exists response, observed sent = some response ∧ classifyDeadmanProbe response = .healthy

def Unlisted (handler : HandlerState) : Prop :=
  allowOf handler.sent = []

theorem not_healthy_of_unlisted {handler : HandlerState} (unlisted : Unlisted handler) :
    ¬ Healthy handler.sent := by
  rintro ⟨response, seen, healthy⟩
  rcases Option.bind_eq_some_iff.mp seen with ⟨status, _, made⟩
  have allowed := ((classify_healthy_iff response).mp healthy).2.1
  cases result : DeadManProbeResponse.make status (allowOf handler.sent) (bodyOf handler.sent) with
  | error e =>
      rw [result] at made
      cases made
  | ok response' =>
      rw [result] at made
      cases made
      rw [(DeadManProbeResponse.make_eq_ok result).2.1, unlisted] at allowed
      revert allowed
      decide

/-- Whatever happens, no `Allow` header is sent. -/
abbrev KeepsUnlisted {α : Type} (program : Handler α) : Prop :=
  Program.Spec Unlisted program (fun _ => Unlisted) (fun _ => Unlisted)

theorem KeepsUnlisted.pure {α : Type} (value : α) : KeepsUnlisted (Pure.pure value : Handler α) :=
  Program.Spec.pure fun _ unlisted => unlisted

theorem send_unlisted {part : Sent} (other : allowOf [part] = []) : KeepsUnlisted (send part) := by
  apply Program.Spec.update
  intro handler unlisted
  split
  · exact unlisted
  · show allowOf (handler.sent ++ [part]) = []
    rw [allowOf, List.flatMap_append]
    exact List.append_eq_nil_iff.mpr ⟨unlisted, other⟩

theorem closeAfter_unlisted : KeepsUnlisted closeAfter :=
  Program.Spec.update fun _ unlisted => unlisted

theorem emitOwnResponse_unlisted (status : Nat) : KeepsUnlisted (emitOwnResponse status) :=
  closeAfter_unlisted.bind fun _ =>
    (send_unlisted rfl).bind fun _ =>
      (send_unlisted (by decide)).bind fun _ =>
        (send_unlisted (by decide)).bind fun _ => send_unlisted rfl

theorem sendError_unlisted (status : Nat) : KeepsUnlisted (sendError status) := by
  refine Program.Spec.bind (?_ : KeepsUnlisted _) fun _ => ?_
  · exact Program.Spec.update fun _ unlisted => unlisted
  · exact (send_unlisted rfl).bind fun _ =>
      (send_unlisted (by decide)).bind fun _ =>
        (send_unlisted (by decide)).bind fun _ => send_unlisted rfl

/-- None of the headers is `Allow`. -/
def Plain (response : HttpResponse) : Prop :=
  forall header, header ∈ response.headers -> lower header.1 ≠ text "allow"

theorem sendHeaders_unlisted {headers : List (PyStr × PyStr)}
    (plain : forall header, header ∈ headers -> lower header.1 ≠ text "allow") :
    KeepsUnlisted (sendHeaders headers) := by
  induction headers with
  | nil => exact KeepsUnlisted.pure ()
  | cons header rest inductionHypothesis =>
      have own : allowOf [.header header.1 header.2] = [] := by
        simp [allowOf, plain header List.mem_cons_self]
      exact (send_unlisted own).bind fun _ =>
        inductionHypothesis fun other member => plain other (List.mem_cons_of_mem _ member)

theorem allowOf_header (name value : PyStr) :
    allowOf [.header name value] = if lower name = text "allow" then [value] else [] :=
  List.append_nil _

theorem endHeaders_unlisted : KeepsUnlisted endHeaders :=
  send_unlisted rfl

theorem emitResponse_unlisted {response : HttpResponse} (plain : Plain response) :
    KeepsUnlisted (emitResponse response) := by
  apply closeAfter_unlisted.bind
  intro _
  apply (send_unlisted rfl).bind
  intro _
  apply (sendHeaders_unlisted plain).bind
  intro _
  apply (send_unlisted (by decide)).bind
  intro _
  split
  · have contentLength : allowOf [.header (text "Content-Length") (decimal response.body.length)] = [] :=
      (allowOf_header _ _).trans (if_neg (by decide))
    apply (send_unlisted contentLength).bind
    intro _
    apply endHeaders_unlisted.bind
    intro _
    · apply Program.Spec.update
      intro handler unlisted
      show allowOf (handler.sent ++ [Sent.body response.body]) = []
      rw [allowOf, List.flatMap_append]
      exact List.append_eq_nil_iff.mpr ⟨unlisted, rfl⟩
  · refine Program.Spec.bind (?_ : KeepsUnlisted _) fun _ => endHeaders_unlisted
    unfold Program.onlyIf
    split
    · exact send_unlisted (by decide)
    · exact KeepsUnlisted.pure ()

theorem plain_respond (status : Nat) : Plain (respond status []) := by
  intro header member
  rw [List.mem_singleton.mp member]
  decide

def IsProbe (request : ParsedRequest) : Prop :=
  request.path = heartbeatPath ∧ request.command ≠ heartbeatMethod

theorem plain_checkContentType {value : PyStr} {response : HttpResponse}
    (refused : checkContentType value = .error response) : Plain response := by
  unfold checkContentType at refused
  split at refused
  · cases refused
    exact plain_respond _
  · cases refused

theorem plain_onlyValue {repeated absent : Nat} {values : List PyStr} {response : HttpResponse}
    (refused : onlyValue (respond repeated []) (respond absent []) values = .error response) :
    Plain response := by
  unfold onlyValue at refused
  split at refused
  · cases refused
    exact plain_respond _
  · cases refused
  · cases refused
    exact plain_respond _

theorem plain_refuseIf {condition : Prop} [Decidable condition] {status : Nat}
    {response : HttpResponse} (refused : refuseIf condition (respond status []) = .error response) :
    Plain response := by
  unfold refuseIf at refused
  split at refused
  · cases refused
    exact plain_respond _
  · cases refused

theorem plain_parseBody {scan : PyStr -> Json.Scanned Json} {body : List Utf8.Byte}
    {response : HttpResponse} (refused : parseBody scan body = .error response) :
    Plain response := by
  unfold parseBody at refused
  split at refused
  · cases refused
  · cases refused
    exact plain_respond _

/-- Of the checks before the wire adapter only the method's answers with a list. -/
theorem plain_inspect {scan : PyStr -> Json.Scanned Json} {request : StructuredRequest}
    {response : HttpResponse} (notProbe : request.path = heartbeatPath ->
      request.method = heartbeatMethod)
    (refused : inspect scan request = .error response) : Plain response := by
  unfold inspect at refused
  rcases bind_eq_error.mp refused with path | ⟨_, path, refused⟩
  · exact plain_refuseIf path
  rcases bind_eq_error.mp refused with method | ⟨_, _, refused⟩
  · have right : request.path = heartbeatPath := by
      by_contra wrong
      rw [refuseIf, if_pos wrong] at path
      cases path
    rw [refuseIf, if_neg (not_not.mpr (notProbe right))] at method
    cases method
  rcases bind_eq_error.mp refused with size | ⟨_, _, refused⟩
  · exact plain_refuseIf size
  rcases bind_eq_error.mp refused with empty | ⟨_, _, refused⟩
  · exact plain_refuseIf empty
  rcases bind_eq_error.mp refused with contentTypes | ⟨_, _, refused⟩
  · exact plain_onlyValue contentTypes
  rcases bind_eq_error.mp refused with contentType | ⟨_, _, refused⟩
  · exact plain_checkContentType contentType
  rcases bind_eq_error.mp refused with tokens | ⟨_, _, refused⟩
  · exact plain_onlyValue tokens
  rcases bind_eq_error.mp refused with body | ⟨_, _, impossible⟩
  · exact plain_parseBody body
  · cases impossible

theorem plain_wireFailure {e : Raised} {response : HttpResponse}
    (mapped : wireFailure e = some response) : Plain response := by
  unfold wireFailure at mapped
  split at mapped
  · cases mapped
    exact plain_respond _
  · cases mapped
    exact plain_respond _
  · cases mapped

/-- The structure of a request that the listener built shows its own parts. -/
theorem structured_toHttpRequest {request : ParsedRequest} {body : List Utf8.Byte}
    {wellFormed : StructuredRequest}
    (shape : structured (request.toHttpRequest body) = some wellFormed) :
    wellFormed.path = request.path ∧ wellFormed.method = request.command := by
  rcases Option.map_eq_some_iff.mp shape with ⟨headers, _, rfl⟩
  exact ⟨rfl, rfl⟩

theorem plain_handle (adapter : HeartbeatHttpAdapter) (storage : Fallible Unit)
    {request : ParsedRequest} (notProbe : ¬ IsProbe request) (body : List Utf8.Byte)
    (world : IngestWorld) {response : HttpResponse}
    (answered : (adapter.handle storage (request.toHttpRequest body) world).1 = .ok response) :
    Plain response := by
  unfold HeartbeatHttpAdapter.handle at answered
  cases shape : structured (request.toHttpRequest body) with
  | none =>
      simp only [shape] at answered
      cases answered
      exact plain_respond _
  | some wellFormed =>
      simp only [shape] at answered
      rcases structured_toHttpRequest shape with ⟨path, method⟩
      cases inspected : inspect adapter.scan wellFormed with
      | error refusal =>
          simp only [inspected] at answered
          cases answered
          apply plain_inspect _ inspected
          intro right
          by_contra wrong
          exact notProbe ⟨path ▸ right, method ▸ wrong⟩
      | ok forwarded =>
          simp only [inspected, forward_eq] at answered
          split at answered
          · cases answered
            exact plain_respond _
          · split at answered
            · rename_i mapped
              cases answered
              exact plain_wireFailure mapped
            · cases answered

/-! ## Requests that are no probes -/

theorem readBody_unlisted (broken : Option Raised) (length : Nat) :
    KeepsUnlisted (readBody broken length) := by
  unfold readBody
  cases broken with
  | some e => exact Program.Spec.interrupt fun _ unlisted => unlisted
  | none =>
      intro handler unlisted
      exact unlisted

theorem resolveBody_unlisted (broken : Option Raised) (request : ParsedRequest) :
    KeepsUnlisted (resolveBody broken request) := by
  unfold resolveBody
  split
  · exact KeepsUnlisted.pure _
  split
  · exact KeepsUnlisted.pure _
  · exact KeepsUnlisted.pure _
  · apply (readBody_unlisted broken _).bind
    intro body
    split
    · exact KeepsUnlisted.pure _
    · exact KeepsUnlisted.pure _

/-- The adapter sends nothing itself, and answers plainly. -/
theorem callAdapter_unlisted (listener : Listener) {request : ParsedRequest}
    (notProbe : ¬ IsProbe request) (body : List Utf8.Byte) :
    Program.Spec Unlisted
      (callAdapter listener.adapter listener.storage (request.toHttpRequest body))
      (fun answer handler => Unlisted handler ∧
        forall response, answer = some response -> Plain response)
      (fun _ => Unlisted) := by
  intro handler unlisted
  unfold callAdapter Program.handle Program.zoom
  simp only [bind, pure, Program.bind, Program.pure]
  rcases ended : listener.adapter.handle listener.storage (request.toHttpRequest body)
      handler.ingestion with ⟨e | response, after⟩
  · by_cases caught : e.kind.isException = true
    · simp only [if_pos caught]
      refine ⟨unlisted, ?_⟩
      intro response impossible
      cases impossible
    · simp only [if_neg caught]
      exact unlisted
  · refine ⟨unlisted, ?_⟩
    intro other same
    cases same
    exact plain_handle listener.adapter listener.storage notProbe body handler.ingestion
      (by rw [ended])

theorem dispatch_unlisted (listener : Listener) {request : ParsedRequest}
    (notProbe : ¬ IsProbe request) : KeepsUnlisted (listener.dispatch request) := by
  apply (resolveBody_unlisted listener.broken request).bind
  intro framed
  cases framed with
  | error status => exact emitOwnResponse_unlisted status
  | ok body =>
      apply (callAdapter_unlisted listener notProbe body).bind
      intro answer
      cases answer with
      | none =>
          intro handler ⟨unlisted, _⟩
          exact emitOwnResponse_unlisted 500 handler unlisted
      | some response =>
          intro handler ⟨unlisted, plain⟩
          exact emitResponse_unlisted (plain response rfl) handler unlisted

theorem handleExpect100_unlisted (request : ParsedRequest) :
    KeepsUnlisted (Listener.handleExpect100 request) := by
  unfold Listener.handleExpect100
  split
  · exact (emitOwnResponse_unlisted 417).bind fun _ => KeepsUnlisted.pure false
  · exact KeepsUnlisted.pure true

theorem handleOneRequest_unlisted (listener : Listener) {incoming : Incoming}
    (notProbe : forall request, incoming = .parsed request -> ¬ IsProbe request) :
    KeepsUnlisted (listener.handleOneRequest incoming) := by
  cases incoming with
  | nothing => exact closeAfter_unlisted
  | refused version status =>
      refine Program.Spec.bind (?_ : KeepsUnlisted _) fun _ => sendError_unlisted status
      exact Program.Spec.update fun _ unlisted => unlisted
  | parsed request =>
      refine Program.Spec.bind (?_ : KeepsUnlisted _) fun _ => ?_
      · exact Program.Spec.update fun _ unlisted => unlisted
      refine Program.Spec.bind (?_ : KeepsUnlisted _) fun continued => ?_
      · unfold Listener.checkExpectation
        split
        · exact handleExpect100_unlisted request
        · exact KeepsUnlisted.pure true
      · split
        · exact dispatch_unlisted listener (notProbe request rfl)
        · exact KeepsUnlisted.pure ()

/-! ## Probes -/

def WellFormedHeaders (headers : List (PyStr × PyStr)) : Prop :=
  forall header, header ∈ headers ->
    isMalformedHeaderName header.1 = false ∧ isMalformedHeaderValue header.2 = false

/-- The handler when a connection is taken up. -/
def HandlerState.fresh (received : List Utf8.Byte) (ingestion : IngestWorld) : HandlerState where
  requestVersion := silentVersion
  received := received
  sent := []
  closeConnection := true
  ingestion := ingestion

def serve (listener : Listener) (incoming : Incoming) (received : List Utf8.Byte)
    (ingestion : IngestWorld) : Except Raised Unit × HandlerState :=
  listener.handleOneRequest incoming (HandlerState.fresh received ingestion)

theorem structuredHeaders_typed {headers : List (PyStr × PyStr)}
    (wellFormed : WellFormedHeaders headers) :
    structuredHeaders (headers.map fun header => .pair (.typed header.1) (.typed header.2)) =
      some headers := by
  induction headers with
  | nil => rfl
  | cons header rest inductionHypothesis =>
      have own := wellFormed header List.mem_cons_self
      have others := inductionHypothesis fun other member =>
        wellFormed other (List.mem_cons_of_mem _ member)
      rw [List.map_cons, structuredHeaders, own.1, own.2, others]
      rfl

/-- The response to a probe with these headers. -/
def probeResponse (headers : List (PyStr × PyStr)) : HttpResponse :=
  if (structuredHeaders
      (headers.map fun header => .pair (.typed header.1) (.typed header.2))).isSome = true then
    respond 405 [(text "Allow", heartbeatMethod)]
  else respond 400 []

/-- A probe is answered before its body or the configuration is looked at. -/
theorem handle_probe (adapter : HeartbeatHttpAdapter) (storage : Fallible Unit)
    {request : ParsedRequest} (probe : IsProbe request) (world : IngestWorld) :
    adapter.handle storage (request.toHttpRequest []) world =
      (.ok (probeResponse request.headers), world) := by
  unfold HeartbeatHttpAdapter.handle probeResponse
  cases found : structuredHeaders
      (request.headers.map fun header => .pair (.typed header.1) (.typed header.2)) with
  | none =>
      have shape : structured (request.toHttpRequest []) = none := by
        rw [structured, ParsedRequest.toHttpRequest]
        simp only [found, Option.map_none]
      simp only [shape]
      rfl
  | some headers =>
      have shape : structured (request.toHttpRequest []) =
          some ⟨request.command, request.path, headers, []⟩ := by
        rw [structured, ParsedRequest.toHttpRequest]
        simp only [found, Option.map_some]
      have refused : inspect adapter.scan ⟨request.command, request.path, headers, []⟩ =
          .error (respond 405 [(text "Allow", heartbeatMethod)]) := by
        unfold inspect
        rw [refuseIf, if_neg (not_not.mpr probe.1), ok_bind, refuseIf, if_pos probe.2]
        rfl
      simp only [shape, refused]
      rfl

/-- What is sent for a bodyless response to a peer that speaks a later version. -/
def emission (response : HttpResponse) : List Sent :=
  .statusLine response.status ::
    (response.headers.map fun header => .header header.1 header.2) ++
      [.header (text "Connection") (text "close"), .endOfHeaders]

theorem send_loud {part : Sent} {handler : HandlerState}
    (loud : handler.requestVersion ≠ silentVersion) :
    send part handler = (.ok (), { handler with sent := handler.sent ++ [part] }) := by
  rw [send, Program.update, if_neg loud]

theorem sendHeaders_loud (headers : List (PyStr × PyStr)) {handler : HandlerState}
    (loud : handler.requestVersion ≠ silentVersion) :
    sendHeaders headers handler = (.ok (), { handler with
      sent := handler.sent ++ headers.map fun header => .header header.1 header.2 }) := by
  induction headers generalizing handler with
  | nil =>
      rw [List.map_nil, List.append_nil]
      rfl
  | cons header rest inductionHypothesis =>
      have first := @send_loud (.header header.1 header.2) handler loud
      have others := @inductionHypothesis
        { handler with sent := handler.sent ++ [.header header.1 header.2] } loud
      rw [sendHeaders, sendHeader, Program.bind_returned first, others, List.append_assoc]
      rfl

theorem emitResponse_loud {response : HttpResponse} (bodyless : response.body = [])
    (measured : (response.headers.any fun header =>
      decide (lower header.1 = text "content-length")) = true)
    {handler : HandlerState} (loud : handler.requestVersion ≠ silentVersion) :
    emitResponse response handler = (.ok (), { handler with
      closeConnection := true, sent := handler.sent ++ emission response }) := by
  have closed : closeAfter handler = (.ok (), { handler with closeConnection := true }) := rfl
  have status := @send_loud (.statusLine response.status)
    { handler with closeConnection := true } loud
  have headers := @sendHeaders_loud response.headers
    { handler with
      closeConnection := true
      sent := handler.sent ++ [.statusLine response.status] } loud
  have connection := @send_loud (.header (text "Connection") (text "close"))
    { handler with
      closeConnection := true
      sent := handler.sent ++ [.statusLine response.status] ++
        response.headers.map fun header => .header header.1 header.2 } loud
  have skipped : forall state : HandlerState,
      Program.onlyIf (!true) (sendHeader (text "Content-Length") (text "0")) state =
        (.ok (), state) := fun _ => rfl
  have ended := @send_loud .endOfHeaders
    { handler with
      closeConnection := true
      sent := handler.sent ++ [.statusLine response.status] ++
        (response.headers.map fun header => .header header.1 header.2) ++
          [.header (text "Connection") (text "close")] } loud
  unfold emitResponse
  rw [Program.bind_returned closed, sendResponseOnly, Program.bind_returned status,
    Program.bind_returned headers, sendHeader, Program.bind_returned connection,
    if_neg (not_not.mpr bodyless), measured, Program.bind_returned (skipped _), endHeaders, ended]
  simp only [emission, List.append_assoc, List.cons_append, List.nil_append]

/-- A silent peer is sent nothing. -/
theorem send_silent {part : Sent} {handler : HandlerState}
    (silent : handler.requestVersion = silentVersion) : send part handler = (.ok (), handler) := by
  rw [send, Program.update, if_pos silent]

theorem sendHeaders_silent (headers : List (PyStr × PyStr)) {handler : HandlerState}
    (silent : handler.requestVersion = silentVersion) :
    sendHeaders headers handler = (.ok (), handler) := by
  induction headers with
  | nil => rfl
  | cons header rest inductionHypothesis =>
      rw [sendHeaders, sendHeader, Program.bind_returned (send_silent silent), inductionHypothesis]

theorem emitResponse_silent {response : HttpResponse} (bodyless : response.body = [])
    (measured : (response.headers.any fun header =>
      decide (lower header.1 = text "content-length")) = true)
    {handler : HandlerState} (silent : handler.requestVersion = silentVersion) :
    emitResponse response handler = (.ok (), { handler with closeConnection := true }) := by
  have closed : closeAfter handler = (.ok (), { handler with closeConnection := true }) := rfl
  have nothing : forall part, send part { handler with closeConnection := true } =
      (.ok (), { handler with closeConnection := true }) := fun _ => send_silent silent
  have headers := @sendHeaders_silent response.headers { handler with closeConnection := true } silent
  have skipped : forall state : HandlerState,
      Program.onlyIf (!true) (sendHeader (text "Content-Length") (text "0")) state =
        (.ok (), state) := fun _ => rfl
  unfold emitResponse
  rw [Program.bind_returned closed, sendResponseOnly, Program.bind_returned (nothing _),
    Program.bind_returned headers, sendHeader, Program.bind_returned (nothing _),
    if_neg (not_not.mpr bodyless), measured, Program.bind_returned (skipped _), endHeaders, nothing]

/-- A probe is dispatched without reading its body or touching the database. -/
theorem dispatch_probe (listener : Listener) {request : ParsedRequest} (probe : IsProbe request)
    (handler : HandlerState) :
    listener.dispatch request handler = emitResponse (probeResponse request.headers) handler := by
  have other : isHeartbeatPost request = false :=
    decide_eq_false fun post => probe.2 post.1
  have framed : resolveBody listener.broken request handler = (.ok (.ok []), handler) := by
    rw [resolveBody, if_pos other]
    rfl
  have answered : callAdapter listener.adapter listener.storage (request.toHttpRequest []) handler =
      (.ok (some (probeResponse request.headers)), handler) := by
    unfold callAdapter Program.handle Program.zoom
    simp only [bind, pure, Program.bind, Program.pure, handle_probe _ _ probe]
  unfold Listener.dispatch
  rw [Program.bind_returned framed]
  dsimp only
  rw [Program.bind_returned answered]

theorem serve_probe (listener : Listener) {request : ParsedRequest} (probe : IsProbe request)
    (received : List Utf8.Byte) (ingestion : IngestWorld) :
    serve listener (.parsed request) received ingestion =
      emitResponse (probeResponse request.headers)
        { HandlerState.fresh received ingestion with requestVersion := request.requestVersion } := by
  have other : isHeartbeatPost request = false :=
    decide_eq_false fun post => probe.2 post.1
  have versioned : Program.update (fun handler : HandlerState =>
      { handler with requestVersion := request.requestVersion })
        (HandlerState.fresh received ingestion) =
      ((.ok () : Except Raised Unit),
        { HandlerState.fresh received ingestion with requestVersion := request.requestVersion }) := rfl
  have continued : forall handler : HandlerState,
      Listener.checkExpectation request handler = (.ok true, handler) := by
    intro handler
    unfold Listener.checkExpectation Listener.handleExpect100
    rw [other]
    split <;> rfl
  unfold serve Listener.handleOneRequest
  dsimp only
  rw [Program.bind_returned versioned, Program.bind_returned (continued _), if_pos rfl,
    dispatch_probe listener probe]

/-- The probe is answered as healthy, and nothing else happened. -/
structure AnsweredHealthy (run : Except Raised Unit × HandlerState) (received : List Utf8.Byte)
    (ingestion : IngestWorld) : Prop where
  returned : run.1 = .ok ()
  unread : run.2.received = received
  unstored : run.2.ingestion = ingestion
  healthy : Healthy run.2.sent

theorem probeResponse_wellFormed {headers : List (PyStr × PyStr)}
    (wellFormed : WellFormedHeaders headers) :
    probeResponse headers = respond 405 [(text "Allow", heartbeatMethod)] := by
  rw [probeResponse, structuredHeaders_typed wellFormed]
  rfl

theorem probeResponse_body (headers : List (PyStr × PyStr)) : (probeResponse headers).body = [] := by
  unfold probeResponse
  split <;> rfl

theorem probeResponse_measured (headers : List (PyStr × PyStr)) :
    ((probeResponse headers).headers.any fun header =>
      decide (lower header.1 = text "content-length")) = true := by
  unfold probeResponse
  split
  · decide
  · decide

theorem healthy_emission : Healthy (emission (respond 405 [(text "Allow", heartbeatMethod)])) := by
  refine ⟨⟨405, [text "POST"], [], by decide⟩, rfl, ?_⟩
  exact (classify_healthy_iff _).mpr ⟨rfl, by decide, rfl⟩

theorem serve_loud (listener : Listener) {request : ParsedRequest} (probe : IsProbe request)
    (loud : request.requestVersion ≠ silentVersion) (received : List Utf8.Byte)
    (ingestion : IngestWorld) :
    serve listener (.parsed request) received ingestion =
      (.ok (), { requestVersion := request.requestVersion
                 received := received
                 sent := emission (probeResponse request.headers)
                 closeConnection := true
                 ingestion := ingestion }) := by
  rw [serve_probe listener probe]
  exact @emitResponse_loud _ (probeResponse_body _) (probeResponse_measured _)
    { HandlerState.fresh received ingestion with requestVersion := request.requestVersion } loud

theorem serve_silent (listener : Listener) {request : ParsedRequest} (probe : IsProbe request)
    (silent : request.requestVersion = silentVersion) (received : List Utf8.Byte)
    (ingestion : IngestWorld) :
    (serve listener (.parsed request) received ingestion).2.sent = [] := by
  rw [serve_probe listener probe]
  have emitted := @emitResponse_silent _ (probeResponse_body request.headers)
    (probeResponse_measured _)
    { HandlerState.fresh received ingestion with requestVersion := request.requestVersion } silent
  rw [emitted]
  rfl

theorem not_healthy_nil : ¬ Healthy [] := by
  rintro ⟨_, impossible, _⟩
  cases impossible

/-- Every probe of a peer that can be sent a status is answered as healthy, and
whatever is answered as healthy was such a probe; it stores nothing. -/
theorem probe_and_endpoint_agree (listener : Listener) :
    (forall request received ingestion, IsProbe request -> WellFormedHeaders request.headers ->
      request.requestVersion ≠ silentVersion ->
        AnsweredHealthy (serve listener (.parsed request) received ingestion) received ingestion) ∧
    (forall incoming received ingestion,
      Healthy (serve listener incoming received ingestion).2.sent ->
        AnsweredHealthy (serve listener incoming received ingestion) received ingestion ∧
          exists request, incoming = .parsed request ∧ IsProbe request) := by
  constructor
  · intro request received ingestion probe wellFormed loud
    have answered := serve_loud listener probe loud received ingestion
    rw [answered]
    refine ⟨rfl, rfl, rfl, ?_⟩
    rw [probeResponse_wellFormed wellFormed]
    exact healthy_emission
  · intro incoming received ingestion healthy
    by_cases probed : exists request, incoming = .parsed request ∧ IsProbe request
    · refine ⟨?_, probed⟩
      rcases probed with ⟨request, rfl, probe⟩
      by_cases silent : request.requestVersion = silentVersion
      · rw [serve_silent listener probe silent] at healthy
        exact absurd healthy not_healthy_nil
      · have answered := serve_loud listener probe silent received ingestion
        rw [answered] at healthy ⊢
        exact ⟨rfl, rfl, rfl, healthy⟩
    · have notProbe : forall request, incoming = .parsed request -> ¬ IsProbe request :=
        fun request same probe => probed ⟨request, same, probe⟩
      have final := Program.Spec.iff_final.mp (handleOneRequest_unlisted listener notProbe)
        (HandlerState.fresh received ingestion) rfl
      exact absurd healthy (not_healthy_of_unlisted final)

/-- `GET /v1/heartbeat` without a version, as HTTP/0.9 has it. -/
def simpleRequest : ParsedRequest where
  command := text "GET"
  path := text "/v1/heartbeat"
  requestVersion := text "HTTP/0.9"
  headers := []

def quietListener : Listener where
  adapter := outpostHeartbeats.adapter standardPython
  storage := .ok ()
  broken := none

/-- Nothing is sent to it, so nothing can be classified as healthy. -/
theorem simpleRequest_silent :
    IsProbe simpleRequest ∧ WellFormedHeaders simpleRequest.headers ∧
      (serve quietListener (.parsed simpleRequest) [] ⟨Database.empty, 0⟩).2.sent = [] ∧
      ¬ AnsweredHealthy (serve quietListener (.parsed simpleRequest) [] ⟨Database.empty, 0⟩) []
        ⟨Database.empty, 0⟩ := by
  have probe : IsProbe simpleRequest := ⟨rfl, by decide⟩
  have nothing := serve_silent quietListener probe rfl [] ⟨Database.empty, 0⟩
  refine ⟨probe, ?_, nothing, ?_⟩
  · intro header impossible
    cases impossible
  · intro answered
    have healthy := answered.healthy
    rw [nothing] at healthy
    exact not_healthy_nil healthy

end Heartbeat
end HermesSentinel
