import HermesSentinel.Reporter.Secrecy

namespace HermesSentinel
namespace Reporter

open Python
open Foundation
open Foundation.Awk
open Foundation.Decimal
open Domain
open Heartbeat

/-!
# From the hosts to the database

Timers start the reporter again and again, on one host or on many, and no run
repeats a request.  Between `curl` and the server a request or its answer may
be lost.  A run therefore stores its heartbeat once or not at all; if it
succeeds it has stored it.  What it measures is computed exactly, as in the
parsers.
-/

/-- One start of the reporter; the world behind `curl` is that of the server. -/
structure Tick where
  station : Station IngestWorld
  environment : Variables
  exported : String -> Bool

def Tick.shell (tick : Tick) (world : IngestWorld) : Shell IngestWorld where
  environment := tick.environment
  exported := tick.exported
  xtrace := false
  events := []
  remote := world

/-- The host as the collector finds it, whatever the world behind `curl` is. -/
def Tick.host (tick : Tick) : MonitoredHost :=
  let start : Shell Unit := ⟨tick.environment, tick.exported, false, [], ()⟩
  { tick.station.host with environment := start.forCollector }

def Tick.run (tick : Tick) (world : IngestWorld) : Except Nat Unit × IngestWorld :=
  let ended := script tick.station (tick.shell world)
  (ended.1, ended.2.remote)

/-- The runs of a list of starts, each on what the others left. -/
def runTicks : List Tick -> IngestWorld -> List (Except Nat Unit) × IngestWorld
  | [], world => ([], world)
  | tick :: ticks, world =>
      let ended := tick.run world
      let later := runTicks ticks ended.2
      (ended.1 :: later.1, later.2)

/-- How far an exchange with the server comes. -/
inductive Exchanged (adapter : HeartbeatHttpAdapter) (request : HttpRequest) (world : IngestWorld) :
    CurlReply × IngestWorld -> Prop
  /-- The request does not reach the server. -/
  | lost {reply : CurlReply} (failed : ¬ reply.Accepted) : Exchanged adapter request world (reply, world)
  /-- The server handles it, and its answer does not reach `curl`. -/
  | unanswered {reply : CurlReply} (storage : Fallible Unit) (failed : ¬ reply.Accepted) :
      Exchanged adapter request world (reply, (adapter.handle storage request world).2)
  | answered {reply : CurlReply} {response : HttpResponse} (storage : Fallible Unit)
      (answer : (adapter.handle storage request world).1 = .ok response)
      (status : reply.Accepted ↔ response.status = 204) :
      Exchanged adapter request world (reply, (adapter.handle storage request world).2)

/-- `curl` as the reporter calls it: one request with the header that was read
from the standard input, and no other way to the server. -/
def Connected (adapter : HeartbeatHttpAdapter) (station : Station IngestWorld) : Prop :=
  forall endpoint payload token environment world, validateReporterToken token = true ->
    exists headers, SentHeaders headers token ∧
      Exchanged adapter (heartbeatRequest headers payload) world
        (station.curl ⟨curlArguments endpoint payload, tokenLine token, environment⟩ world)

/-- A network that loses nothing, before a server whose storage works. -/
def Reliable (adapter : HeartbeatHttpAdapter) (station : Station IngestWorld) : Prop :=
  forall endpoint payload token environment world, validateReporterToken token = true ->
    exists headers, SentHeaders headers token ∧
      forall response, (adapter.handle (.ok ()) (heartbeatRequest headers payload) world).1 = .ok response ->
        ((station.curl ⟨curlArguments endpoint payload, tokenLine token, environment⟩ world).1.Accepted ↔
          response.status = 204) ∧
        (station.curl ⟨curlArguments endpoint payload, tokenLine token, environment⟩ world).2 =
          (adapter.handle (.ok ()) (heartbeatRequest headers payload) world).2

/-- The row holds the measurements that a run collected, under its node and for its token. -/
structure HeartbeatOf (adapter : HeartbeatHttpAdapter) (tick : Tick) (row : StoredRow) : Prop where
  content : exists report reportedAt record, tick.host.collectReport = .ok report ∧
    adapter.wire.reader.fromisoformat report.reportedAt = some reportedAt ∧
    Stores row record ∧ Carries record.telemetry (report.values reportedAt)
  authorised : Authorised adapter.wire.config adapter.wire.credentials (tick.environment "SENTINEL_NODE")
    (.str (tick.environment "SENTINEL_TOKEN"))

/-- A run that comes to its call, on a reliable network, for a node that is served. -/
structure Ready (adapter : HeartbeatHttpAdapter) (tick : Tick) : Prop where
  clock : PrintsUtc tick.station.host.date
  prepared : forall world, (tick.station.prepared (tick.shell world)).isSome = true
  serves : forall world, Serves adapter world (tick.environment "SENTINEL_NODE")
    (tick.environment "SENTINEL_TOKEN")
  reliable : Reliable adapter tick.station

/-- What became of the runs: some stored their heartbeat, once, and no run
succeeded that did not. -/
inductive Outcomes (adapter : HeartbeatHttpAdapter) :
    List Tick -> List (Except Nat Unit) -> List StoredRow -> Prop
  | done : Outcomes adapter [] [] []
  | stored {tick : Tick} {ticks : List Tick} {result : Except Nat Unit}
      {results : List (Except Nat Unit)} {row : StoredRow} {rows : List StoredRow}
      (heartbeat : HeartbeatOf adapter tick row) (others : Outcomes adapter ticks results rows) :
      Outcomes adapter (tick :: ticks) (result :: results) (row :: rows)
  | notStored {tick : Tick} {ticks : List Tick} {results : List (Except Nat Unit)}
      {rows : List StoredRow} (others : Outcomes adapter ticks results rows) :
      Outcomes adapter (tick :: ticks) (.error 1 :: results) rows

section Requests

variable {adapter : HeartbeatHttpAdapter} {tick : Tick} {world : IngestWorld}

/-- The document of a run, where it prepares a call. -/
structure Prepared (tick : Tick) (call : CurlCall) (snapshot : Snapshot) : Prop where
  token : validateReporterToken (tick.environment "SENTINEL_TOKEN") = true
  reported : tick.host.collectReport = .ok snapshot.report
  node : snapshot.node = tick.environment "SENTINEL_NODE"
  sized : validatePayloadSize snapshot.report.print = true
  call : exists environment,
    call = ⟨curlArguments (tick.environment "SENTINEL_ENDPOINT") snapshot.report.print,
      tokenLine (tick.environment "SENTINEL_TOKEN"), environment⟩

theorem host_node (tick : Tick) :
    tick.host.environment "SENTINEL_NODE" = tick.environment "SENTINEL_NODE" :=
  (inherits_forCollector _).others "SENTINEL_NODE" (by decide) (by decide)

theorem payload_document (clock : PrintsUtc tick.station.host.date) {payload : Text}
    (collected : tick.station.payload (tick.shell world) = some payload) :
    exists snapshot : Snapshot, tick.host.collectReport = .ok snapshot.report ∧
      snapshot.node = tick.environment "SENTINEL_NODE" ∧ payload = snapshot.report.print := by
  unfold Station.payload at collected
  cases printed : ({ tick.station.host with environment := (tick.shell world).forCollector } :
      MonitoredHost).collectPayload with
  | error message =>
      rw [printed] at collected
      cases collected
  | ok output =>
      rw [printed] at collected
      rw [<- Option.some.inj collected, <- host_node tick]
      exact @collectPayload_document tick.host clock _ printed

theorem prepared_document (clock : PrintsUtc tick.station.host.date) {call : CurlCall}
    (prepared : tick.station.prepared (tick.shell world) = some call) :
    exists snapshot, Prepared tick call snapshot := by
  unfold Station.prepared at prepared
  by_cases ready : validateEndpointUrl ((tick.shell world).environment "SENTINEL_ENDPOINT") = true ∧
      validateReporterToken ((tick.shell world).environment "SENTINEL_TOKEN") = true ∧
      tick.station.curlAvailable = true
  case neg =>
    rw [if_neg ready] at prepared
    cases prepared
  case pos =>
    rw [if_pos ready] at prepared
    rcases Option.bind_eq_some_iff.mp prepared with ⟨payload, collected, rest⟩
    by_cases sized : validatePayloadSize payload = true
    case neg =>
      rw [if_neg sized] at rest
      cases rest
    case pos =>
      rw [if_pos sized] at rest
      rcases payload_document clock collected with ⟨snapshot, reported, node, document⟩
      rw [document] at sized rest
      exact ⟨snapshot, ready.2.1, reported, node, sized, _, (Option.some.inj rest).symm⟩

theorem encode_document (snapshot : Snapshot) :
    Utf8.encode .strict (Json.render (.object snapshot.members)) =
      some (wireBytes snapshot.report.print) := by
  have encoded := encode_wireBytes (Json.ascii_render (fits_members 0 snapshot))
  rwa [render_members] at encoded ⊢

theorem Prepared.bounds {call : CurlCall} {snapshot : Snapshot} (prepared : Prepared tick call snapshot) :
    (wireBytes snapshot.report.print).length ≤ maxHeartbeatBodyBytes ∧
      wireBytes snapshot.report.print ≠ [] := by
  have length : (wireBytes snapshot.report.print).length = snapshot.report.print.length :=
    List.length_map _
  have bounds := of_decide_eq_true prepared.sized
  rw [<- length] at bounds
  exact ⟨bounds.2, List.ne_nil_of_length_pos bounds.1⟩

/-- The request passes the checks of the server, with the members of the document. -/
theorem inspect_prepared (scanner : JsonScanner) (scans : adapter.scan = scanner.scan)
    {call : CurlCall} {snapshot : Snapshot} (prepared : Prepared tick call snapshot)
    {headers : List (PyStr × PyStr)} (sent : SentHeaders headers (tick.environment "SENTINEL_TOKEN")) :
    inspect adapter.scan ⟨heartbeatMethod, heartbeatPath, headers, wireBytes snapshot.report.print⟩ =
      .ok (snapshot.members, tick.environment "SENTINEL_TOKEN") := by
  have parsed := decodeStrictJson_render scanner (fits_members 898 snapshot) (strict_members snapshot)
    (encode_document snapshot)
  rw [<- scans] at parsed
  exact inspect_posts (posts_request sent _) prepared.bounds.2 prepared.bounds.1 parsed

/-- What the members are decoded to carries the measurements. -/
theorem carries_document {reader : IsoReader} {snapshot : Snapshot} {telemetry : HostTelemetry}
    (decoded : decodeHeartbeatPayload reader (jsonValue (.object snapshot.members)) = .ok telemetry) :
    Carries telemetry (snapshot.report.values (DateTime.utc snapshot.wall)) := by
  rcases exists_carries (admissible_values snapshot) with ⟨own, carries⟩
  have same := decodeHeartbeatPayload_eq_ok.mpr
    ⟨_, spellsPayload_members reader snapshot, admissible_values snapshot, carries⟩
  rw [decoded] at same
  rw [Except.ok.inj same]
  exact carries

variable (world) in
/-- The server stores the heartbeat, or stores nothing and does not answer 204. -/
theorem handle_stores (scanner : JsonScanner) (scans : adapter.scan = scanner.scan)
    {call : CurlCall} {snapshot : Snapshot} (prepared : Prepared tick call snapshot)
    {headers : List (PyStr × PyStr)} (sent : SentHeaders headers (tick.environment "SENTINEL_TOKEN"))
    (storage : Fallible Unit) :
    let handled := adapter.handle storage (heartbeatRequest headers snapshot.report.print) world
    (handled.2.database = world.database ∧
      forall response, handled.1 = .ok response -> response.status ≠ 204) ∨
    (exists row, handled.2.database.rows = world.database.rows ++ [row] ∧
      HeartbeatOf adapter tick row) := by
  intro handled
  have inspected := inspect_prepared scanner scans prepared sent
  have forwarded : handled = _ := handle_inspected (structured_request sent prepared.token _) inspected
  rw [forwarded]
  rcases forward_cases adapter storage snapshot.members (tick.environment "SENTINEL_TOKEN") world with
    unchanged | ⟨telemetry, receipt, record, row, after, admitted, ended, ingested⟩
  · exact .inl unchanged
  · have stored := storedFrom_forward inspected admitted ingested
    have carries := carries_document stored.telemetry
    rcases AuthenticatedHeartbeatAdapter.accept_eq_ok.mp admitted with ⟨_, _, _, authorised, _⟩
    have node : telemetry.host = tick.environment "SENTINEL_NODE" := by
      rw [<- ingested.content, carries.host]
      exact prepared.node
    rw [node] at authorised
    refine .inr ⟨row, ?_, ⟨_, _, record, prepared.reported, ?_, stored.stores, carries⟩, authorised⟩
    · rw [ended]
      exact stored.rows
    · exact adapter.wire.reader.inverts snapshot.wall

/-- An exchange that stores nothing is not reported as accepted. -/
theorem exchange_stores (scanner : JsonScanner) (scans : adapter.scan = scanner.scan)
    (connected : Connected adapter tick.station) {call : CurlCall} {snapshot : Snapshot}
    (prepared : Prepared tick call snapshot) :
    ((tick.station.curl call world).2.database = world.database ∧
      ¬ (tick.station.curl call world).1.Accepted) ∨
    (exists row, (tick.station.curl call world).2.database.rows = world.database.rows ++ [row] ∧
      HeartbeatOf adapter tick row) := by
  rcases prepared.call with ⟨environment, rfl⟩
  rcases connected (tick.environment "SENTINEL_ENDPOINT") snapshot.report.print _ environment
    world prepared.token with ⟨headers, sent, exchanged⟩
  have stores (storage : Fallible Unit) :=
    handle_stores world scanner scans prepared sent storage
  generalize tick.station.curl _ world = ended at exchanged
  cases exchanged with
  | lost failed => exact .inl ⟨rfl, failed⟩
  | unanswered storage failed =>
      rcases stores storage with ⟨unchanged, _⟩ | stored
      · exact .inl ⟨unchanged, failed⟩
      · exact .inr stored
  | answered storage answer status =>
      rcases stores storage with ⟨unchanged, otherwise⟩ | stored
      · exact .inl ⟨unchanged, fun accepted => otherwise _ answer (status.mp accepted)⟩
      · exact .inr stored

/-! ## The runs -/

variable (world) in
/-- A run that does not store its heartbeat changes nothing and fails. -/
theorem run_stores (scanner : JsonScanner) (scans : adapter.scan = scanner.scan)
    (connected : Connected adapter tick.station) (clock : PrintsUtc tick.station.host.date) :
    ((tick.run world).1 = .error 1 ∧ (tick.run world).2.database = world.database) ∨
    (exists row, (tick.run world).2.database.rows = world.database.rows ++ [row] ∧
      HeartbeatOf adapter tick row) := by
  have ran := script_spec tick.station (tick.shell world) _ rfl
  unfold Tick.run
  dsimp only
  rcases ended : script tick.station (tick.shell world) with ⟨status | _, final⟩
  · rw [ended] at ran
    cases ran with
    | unprepared _ failed =>
        refine .inl ⟨congrArg _ failed.1, ?_⟩
        dsimp only
        rw [failed.2.1]
        rfl
    | refused call prepared _ failed =>
        rcases prepared_document clock prepared with ⟨snapshot, document⟩
        dsimp only
        rw [failed.1, failed.2.1]
        exact (exchange_stores scanner scans connected document).imp
          (fun unchanged => ⟨rfl, unchanged.1⟩) id
  · rw [ended] at ran
    rcases ran with ⟨call, prepared, accepted, _, remote, _⟩
    rcases prepared_document clock prepared with ⟨snapshot, document⟩
    dsimp only
    rw [remote]
    rcases exchange_stores scanner scans connected document with unchanged | stored
    · exact absurd accepted unchanged.2
    · exact .inr stored

/-- The server that serves the node answers 204. -/
theorem handle_serves {call : CurlCall} {snapshot : Snapshot} (prepared : Prepared tick call snapshot)
    {headers : List (PyStr × PyStr)} (sent : SentHeaders headers (tick.environment "SENTINEL_TOKEN"))
    (serves : Serves adapter world (tick.environment "SENTINEL_NODE")
      (tick.environment "SENTINEL_TOKEN")) :
    (adapter.handle (.ok ()) (heartbeatRequest headers snapshot.report.print) world).1 =
      .ok (respond 204 []) := by
  rcases serves.scanner with ⟨scanner, scans⟩
  have shallow : Json.Fits (adapter.wire.nesting + 1) (.object snapshot.members) := by
    have room := serves.stack
    rw [show adapter.wire.nesting + 1 = (adapter.wire.nesting - 1) + 2 by omega]
    exact fits_members _ snapshot
  have authorised := serves.authorised
  rw [<- prepared.node] at authorised
  have reaches := reaches_of_posts scanner scans (structured_request sent prepared.token _)
    (posts_request sent _) (encode_document snapshot) prepared.bounds.1 prepared.bounds.2
    (fits_members 898 snapshot) shallow (strict_members snapshot) (spellsPayload_members _ snapshot)
    (admissible_values snapshot) authorised
  exact handle_reaches serves.healthy reaches (writable_members _ snapshot)

/-- A run that is ready succeeds and stores its heartbeat. -/
theorem run_ready (ready : Ready adapter tick) (world : IngestWorld) :
    (tick.run world).1 = .ok () ∧
      exists row, (tick.run world).2.database.rows = world.database.rows ++ [row] ∧
        HeartbeatOf adapter tick row := by
  rcases Option.isSome_iff_exists.mp (ready.prepared world) with ⟨call, prepared⟩
  rcases prepared_document ready.clock prepared with ⟨snapshot, document⟩
  rcases document.call with ⟨environment, same⟩
  rcases ready.reliable (tick.environment "SENTINEL_ENDPOINT") snapshot.report.print _ environment
    world document.token with ⟨headers, sent, exchanged⟩
  have answer := handle_serves document sent (ready.serves world)
  rcases exchanged _ answer with ⟨status, remote⟩
  rw [<- same] at status remote
  have accepted := status.mpr rfl
  rcases (ready.serves world).scanner with ⟨scanner, scans⟩
  have stored := (handle_stores world scanner scans document sent (.ok ())).resolve_left
    fun unchanged => unchanged.2 _ answer rfl
  rw [<- remote] at stored
  have ran := script_spec tick.station (tick.shell world) _ rfl
  unfold Tick.run
  dsimp only
  rcases ended : script tick.station (tick.shell world) with ⟨status | _, final⟩
  · rw [ended] at ran
    cases ran with
    | unprepared none _ => cases prepared.symm.trans none
    | refused other own refused _ =>
        have same : call = other := Option.some.inj (prepared.symm.trans own)
        subst same
        exact absurd accepted refused
  · rw [ended] at ran
    rcases ran with ⟨other, own, _, _, remote, _⟩
    have same : call = other := Option.some.inj (prepared.symm.trans own)
    subst same
    dsimp only
    rw [remote]
    exact ⟨rfl, stored⟩

end Requests

/-- Whatever is lost on the way, every run of every timer stores its heartbeat
at most once, and a run that succeeds has stored it. -/
theorem reports_are_stored_at_most_once {adapter : HeartbeatHttpAdapter} (scanner : JsonScanner)
    (scans : adapter.scan = scanner.scan) (ticks : List Tick)
    (connected : forall tick, tick ∈ ticks -> Connected adapter tick.station)
    (clocks : forall tick, tick ∈ ticks -> PrintsUtc tick.station.host.date) (world : IngestWorld) :
    exists rows, (runTicks ticks world).2.database.rows = world.database.rows ++ rows ∧
      Outcomes adapter ticks (runTicks ticks world).1 rows := by
  induction ticks generalizing world with
  | nil => exact ⟨[], (List.append_nil _).symm, .done⟩
  | cons tick ticks inductionHypothesis =>
      rcases inductionHypothesis (fun other member => connected other (List.mem_cons_of_mem _ member))
        (fun other member => clocks other (List.mem_cons_of_mem _ member)) (tick.run world).2 with
        ⟨rows, others, outcomes⟩
      rcases run_stores world scanner scans (connected tick List.mem_cons_self)
        (clocks tick List.mem_cons_self) with ⟨failed, unchanged⟩ | ⟨row, stored, heartbeat⟩
      · refine ⟨rows, ?_, ?_⟩
        · rw [runTicks, others, unchanged]
        · rw [runTicks]
          dsimp only
          rw [failed]
          exact .notStored outcomes
      · refine ⟨row :: rows, ?_, .stored heartbeat outcomes⟩
        rw [runTicks, others, stored, List.append_assoc]
        rfl

/-- Where nothing is lost, every run that is ready succeeds and stores its
heartbeat, in the order of the runs. -/
theorem ready_reports_are_stored {adapter : HeartbeatHttpAdapter} (ticks : List Tick)
    (ready : forall tick, tick ∈ ticks -> Ready adapter tick) (world : IngestWorld) :
    (runTicks ticks world).1 = List.replicate ticks.length (.ok ()) ∧
      exists rows, (runTicks ticks world).2.database.rows = world.database.rows ++ rows ∧
        List.Forall₂ (HeartbeatOf adapter) ticks rows := by
  induction ticks generalizing world with
  | nil => exact ⟨rfl, [], (List.append_nil _).symm, .nil⟩
  | cons tick ticks inductionHypothesis =>
      rcases run_ready (ready tick List.mem_cons_self) world with ⟨success, row, stored, heartbeat⟩
      rcases inductionHypothesis (fun other member => ready other (List.mem_cons_of_mem _ member))
        (tick.run world).2 with ⟨successes, rows, others, heartbeats⟩
      refine ⟨?_, row :: rows, ?_, .cons heartbeat heartbeats⟩
      · rw [runTicks, List.length_cons, List.replicate_succ, success, successes]
      · rw [runTicks, others, stored, List.append_assoc]
        rfl

inductive Fate
  | arrives
  | loseAnswer
  | loseRequest

/-- The headers of `curl`, with the one it has read. -/
def outpostHeaders (stdin : Text) : List (PyStr × PyStr) :=
  [(text "Content-Type", text "application/json"),
    (text "X-Sentinel-Token", (stdin.drop (text "X-Sentinel-Token: ").length).dropLast),
    (text "Accept", text "*/*")]

def replyTo : Except Raised HttpResponse -> CurlReply
  | .ok response => ⟨false, if response.status = 204 then text "204" else text "400"⟩
  | .error _ => ⟨true, []⟩

def outpostCurl (fate : Fate) (call : CurlCall) (world : IngestWorld) : CurlReply × IngestWorld :=
  let handled := outpostServer.handle (.ok ())
    (heartbeatRequest (outpostHeaders call.stdin) (call.arguments.getD 10 [])) world
  match fate with
  | .arrives => (replyTo handled.1, handled.2)
  | .loseAnswer => (⟨true, []⟩, handled.2)
  | .loseRequest => (⟨true, []⟩, world)

def outpostTick (fate : Fate) : Tick where
  station := {
    host := outpostHost
    curlAvailable := true
    curl := outpostCurl fate }
  environment := outpostEnvironment "t"
  exported := outpostNames

theorem sentHeaders_outpost (token : Text) : SentHeaders (outpostHeaders (tokenLine token)) token := by
  have read : (tokenLine token).drop (text "X-Sentinel-Token: ").length = token ++ [newline] := by
    rw [tokenLine, List.append_assoc]
    exact List.drop_left
  have plain : WellFormedHeaders [(text "Accept", text "*/*")] := by
    intro header member
    rw [List.mem_singleton.mp member]
    decide
  refine ⟨[(text "Accept", text "*/*")], ?_, plain, by decide⟩
  rw [outpostHeaders, read, List.dropLast_concat]

theorem not_accepted_failed : ¬ (⟨true, []⟩ : CurlReply).Accepted :=
  fun accepted => nomatch accepted.1

theorem accepted_replyTo (response : HttpResponse) :
    (replyTo (.ok response)).Accepted ↔ response.status = 204 := by
  unfold replyTo CurlReply.Accepted
  dsimp only
  by_cases created : response.status = 204
  · rw [if_pos created]
    exact iff_of_true ⟨rfl, by decide⟩ created
  · rw [if_neg created]
    exact iff_of_false (fun accepted => absurd accepted.2 (by decide)) created

theorem connected_outpost (fate : Fate) : Connected outpostServer (outpostTick fate).station := by
  intro endpoint payload token environment world _
  refine ⟨_, sentHeaders_outpost token, ?_⟩
  show Exchanged outpostServer (heartbeatRequest (outpostHeaders (tokenLine token)) payload) world
    (outpostCurl fate ⟨curlArguments endpoint payload, tokenLine token, environment⟩ world)
  cases fate with
  | loseRequest => exact .lost not_accepted_failed
  | loseAnswer => exact .unanswered (.ok ()) not_accepted_failed
  | arrives =>
      show Exchanged outpostServer _ world (replyTo (outpostServer.handle (.ok ())
        (heartbeatRequest (outpostHeaders (tokenLine token)) payload) world).1, _)
      cases answer : (outpostServer.handle (.ok ())
          (heartbeatRequest (outpostHeaders (tokenLine token)) payload) world).1 with
      | error e => exact .unanswered (.ok ()) not_accepted_failed
      | ok response => exact .answered (.ok ()) answer (accepted_replyTo response)

theorem ready_outpost : Ready outpostServer (outpostTick .arrives) := by
  have reliable : Reliable outpostServer (outpostTick .arrives).station := by
    intro endpoint payload token environment world _
    refine ⟨_, sentHeaders_outpost token, fun response answer => ⟨?_, rfl⟩⟩
    rw [<- accepted_replyTo response, <- answer]
    exact Iff.rfl
  have serves (world : IngestWorld) : Serves outpostServer world
      ((outpostTick .arrives).environment "SENTINEL_NODE")
      ((outpostTick .arrives).environment "SENTINEL_TOKEN") :=
    ⟨⟨rfl, _, rfl, rfl, DateTime.utcRepresentable_utc _⟩, ⟨_, rfl⟩, by decide, rfl, text "t", rfl, rfl⟩
  have prepared : ((outpostTick .arrives).station.prepared
      ((outpostTick .arrives).shell emptyWorld)).isSome = true := by
    decide +kernel
  exact ⟨outpostHost_clock, fun _ => prepared, serves, reliable⟩

/-- A heartbeat that arrives, one whose answer is lost, and one that is lost itself. -/
def forgetfulTicks : List Tick :=
  [outpostTick .arrives, outpostTick .loseAnswer, outpostTick .loseRequest]

/-- Two of them are stored, and one of them knows. -/
theorem reports_are_stored_at_most_once_forgetful :
    (runTicks forgetfulTicks emptyWorld).1 = [.ok (), .error 1, .error 1] ∧
      (runTicks forgetfulTicks emptyWorld).2.database.rows.length = 2 ∧
      exists rows, (runTicks forgetfulTicks emptyWorld).2.database.rows =
          emptyWorld.database.rows ++ rows ∧
        Outcomes outpostServer forgetfulTicks (runTicks forgetfulTicks emptyWorld).1 rows := by
  have fated : forall tick, tick ∈ forgetfulTicks -> exists fate, tick = outpostTick fate := by
    intro tick member
    simp only [forgetfulTicks, List.mem_cons, List.not_mem_nil, or_false] at member
    rcases member with same | same | same
    all_goals exact ⟨_, same⟩
  refine ⟨by decide +kernel, by decide +kernel, ?_⟩
  apply reports_are_stored_at_most_once JsonScanner.standard rfl
  · intro tick member
    rcases fated tick member with ⟨fate, rfl⟩
    exact connected_outpost fate
  · intro tick member
    rcases fated tick member with ⟨fate, rfl⟩
    exact outpostHost_clock

/-- Two heartbeats of the outpost arrive. -/
theorem ready_reports_are_stored_outpost :
    (runTicks [outpostTick .arrives, outpostTick .arrives] emptyWorld).1 = [.ok (), .ok ()] ∧
      exists rows, (runTicks [outpostTick .arrives, outpostTick .arrives] emptyWorld).2.database.rows =
          emptyWorld.database.rows ++ rows ∧
        List.Forall₂ (HeartbeatOf outpostServer) [outpostTick .arrives, outpostTick .arrives] rows := by
  refine ready_reports_are_stored _ (fun tick member => ?_) emptyWorld
  have same : tick = outpostTick .arrives := by
    simpa using member
  rw [same]
  exact ready_outpost

end Reporter
end HermesSentinel
