import HermesSentinel.Heartbeat.ClientErrors
import HermesSentinel.Heartbeat.ProbeAgreement
import HermesSentinel.Reporter.Document

namespace HermesSentinel
namespace Reporter

open Foundation
open Foundation.Awk
open Foundation.Decimal
open Python
open Domain
open Heartbeat

/-!
# Reporter and server

Producer and consumer of the heartbeat are written independently.  Every
document that the reporter prints and is willing to send is one that the server
decodes, into the floats of the printed decimals, each in its own field; and
sent with the token of its node it is stored.
-/

/-- The float of a printed decimal. -/
def printed (token : Text) : ℚ :=
  Binary64.nearest (Decimal.value token)

def UsageTokens.values (tokens : UsageTokens) : ResourceValues where
  used := printed tokens.used
  total := printed tokens.total
  percent := printed tokens.percent

/-- The printed decimals, each in the field of its name. -/
def Report.values (report : Report) (reportedAt : DateTime) : PayloadValues where
  node := report.node
  reportedAt := reportedAt
  uptimeSeconds := printed report.uptime
  cpuPercent := printed report.cpuPercent
  load := {
    one := printed report.loadOne
    five := printed report.loadFive
    fifteen := printed report.loadFifteen }
  ram := report.ram.values
  swap := report.swap.values
  rootFilesystem := report.rootFs.values
  rootInodes := report.rootInodes.values

theorem finiteLimit_le : finiteLimit ≤ 3 * 2 ^ 1022 := by
  decide +kernel

theorem not_overflows_of_le {q : ℚ} (nonneg : 0 ≤ q) (le : q ≤ finiteLimit) : ¬ Binary64.Overflows q := by
  apply Binary64.not_overflows nonneg
  apply le.trans
  exact_mod_cast finiteLimit_le

theorem hundred_le_finiteLimit : 100 ≤ finiteLimit := by
  decide +kernel

section

variable {bound : Nat} (measured : Bounded bound)

theorem token_value : 0 ≤ Decimal.value measured.token ∧ Decimal.value measured.token ≤ bound :=
  ⟨value_fixed_nonneg 2 _, value_fixed_le measured.within⟩

theorem printed_token_nonneg : 0 ≤ printed measured.token :=
  Binary64.nearest_nonneg (token_value measured).1

theorem fits_token (depth : Nat) : Json.Fits depth (.real measured.token) := by
  have number := readNumber_fixed (Nat.succ_ne_zero 1) measured.value
  cases depth with
  | zero => exact ⟨isNumberChar_fixed 2 _, number⟩
  | succ depth => exact ⟨isNumberChar_fixed 2 _, number⟩

theorem spellsNumber_token (small : bound ≤ finiteLimit) :
    SpellsNumber (jsonValue (.real measured.token)) (printed measured.token) := by
  have range := token_value measured
  have fits : ¬ Binary64.Overflows (Decimal.value measured.token) := by
    apply not_overflows_of_le range.1
    apply range.2.trans
    exact_mod_cast small
  refine ⟨_, rfl, ?_⟩
  rw [toFloat, PyFloat.ofDecimal, if_neg fits]
  rfl

end

theorem printed_percent_le (percent : Percent) : printed percent.token ≤ 100 := by
  have range := token_value percent
  have bounded := Binary64.nearest_le (m := 100) (k := 0) (by decide) (by decide) range.1 (by
    rw [zpow_zero, mul_one]
    exact range.2)
  rw [zpow_zero, mul_one] at bounded
  exact_mod_cast bounded

theorem printed_natCast (n : Nat) : printed (fixed 0 (n : ℚ)) = Binary64.nearest n := by
  rw [printed, fixed_natCast, value_decimal]

theorem nearest_zero : Binary64.nearest 0 = 0 := by
  exact_mod_cast Binary64.nearest_natCast (m := 0) (by decide)

theorem spellsNumber_natCast {n : Nat} (small : n < finiteLimit) :
    SpellsNumber (jsonValue (.int n)) (printed (fixed 0 (n : ℚ))) := by
  have fits : ¬ Binary64.Overflows ((n : Int) : ℚ) := by
    rw [Int.cast_natCast]
    apply not_overflows_of_le (Nat.cast_nonneg n)
    exact_mod_cast small.le
  refine ⟨_, rfl, ?_⟩
  rw [toFloat, PyFloat.ofExact, if_neg fits, printed_natCast, Int.cast_natCast]

theorem nearest_natCast_eq_zero {n : Nat} (zero : Binary64.nearest n = 0) : n = 0 := by
  by_contra positive
  have one : Binary64.nearest ((1 : Nat) : ℚ) = 1 := by
    exact_mod_cast Binary64.nearest_natCast (m := 1) (by decide)
  have least : ((1 : Nat) : ℚ) ≤ n := Nat.cast_le.mpr (Nat.one_le_iff_ne_zero.mpr positive)
  have order := Binary64.nearest_mono (Nat.cast_nonneg 1) least
  rw [one, zero] at order
  exact absurd order (by norm_num)

theorem admissible_usage (usage : Usage) : usage.tokens.values.Admissible := by
  have used : usage.tokens.values.used = Binary64.nearest usage.used := printed_natCast usage.used
  have total : usage.tokens.values.total = Binary64.nearest usage.total := printed_natCast usage.total
  constructor
  case used =>
    rw [used]
    exact Binary64.nearest_nonneg (Nat.cast_nonneg _)
  case percent => exact ⟨printed_token_nonneg usage.percent, printed_percent_le usage.percent⟩
  case within =>
    rw [used, total]
    exact Binary64.nearest_mono (Nat.cast_nonneg _) (Nat.cast_le.mpr usage.within)
  case absent =>
    intro none
    rw [total] at none
    have noTotal := nearest_natCast_eq_zero none
    have noUsed : usage.used = 0 := Nat.le_zero.mp (noTotal ▸ usage.within)
    constructor
    · rw [used, noUsed, Nat.cast_zero, nearest_zero]
    · show Binary64.nearest (Decimal.value (fixed 2 usage.percent.value)) = 0
      rw [usage.absent noTotal, value_fixed_zero, nearest_zero]

theorem spellsResource_usage (usage : Usage) :
    SpellsResource (jsonValue usage.json) usage.tokens.values := by
  have keys : HasExactly (jsonEntries [(text "used", .int usage.used), (text "total", .int usage.total),
      (text "percent", .real usage.percent.token)]) resourceFields := by
    intro key
    show key ∈ ["used", "total", "percent"].map fieldKey ↔ key ∈ resourceFields.map fieldKey
    apply List.Perm.mem_iff
    decide
  exact ⟨_, rfl, keys, ⟨_, rfl, spellsNumber_natCast (usage.within.trans_lt usage.finite)⟩,
    ⟨_, rfl, spellsNumber_natCast usage.finite⟩,
    ⟨_, rfl, spellsNumber_token usage.percent hundred_le_finiteLimit⟩⟩

theorem fits_usage (depth : Nat) (usage : Usage) : Json.Fits (depth + 1) usage.json :=
  ⟨by decide, trivial, by decide, trivial, by decide, fits_token usage.percent depth, trivial⟩

theorem strict_usage (usage : Usage) : Strict usage.json := by
  refine ⟨?_, trivial, trivial, trivial, trivial⟩
  show (["used", "total", "percent"].map text).Nodup
  decide

theorem fits_members (depth : Nat) (snapshot : Snapshot) :
    Json.Fits (depth + 2) (.object snapshot.members) := by
  have load : Json.Fits (depth + 1) snapshot.loadJson :=
    ⟨by decide, fits_token snapshot.loadOne depth, by decide, fits_token snapshot.loadFive depth,
      by decide, fits_token snapshot.loadFifteen depth, trivial⟩
  exact ⟨by decide, simple_node snapshot.accepted, by decide, simple_isoformat snapshot.wall,
    by decide, fits_token snapshot.uptime (depth + 1), by decide, load, by decide,
    fits_token snapshot.cpuPercent (depth + 1), by decide, fits_usage depth snapshot.ram, by decide,
    fits_usage depth snapshot.swap, by decide, fits_usage depth snapshot.rootFs, by decide,
    fits_usage depth snapshot.rootInodes, trivial⟩

theorem strict_members (snapshot : Snapshot) : Strict (.object snapshot.members) := by
  have load : Strict snapshot.loadJson := by
    refine ⟨?_, trivial, trivial, trivial, trivial⟩
    show (["one", "five", "fifteen"].map text).Nodup
    decide
  refine ⟨?_, trivial, trivial, trivial, load, trivial, strict_usage snapshot.ram,
    strict_usage snapshot.swap, strict_usage snapshot.rootFs, strict_usage snapshot.rootInodes, trivial⟩
  show (["node", "reported_at", "uptime_seconds", "load", "cpu_percent", "ram", "swap", "root_fs",
    "root_inodes"].map text).Nodup
  decide

theorem spellsLoad_members (snapshot : Snapshot) :
    SpellsLoad (jsonValue snapshot.loadJson) (snapshot.report.values (DateTime.utc snapshot.wall)).load := by
  have keys : HasExactly (jsonEntries [(text "one", .real snapshot.loadOne.token),
      (text "five", .real snapshot.loadFive.token),
      (text "fifteen", .real snapshot.loadFifteen.token)]) loadFields := by
    intro key
    show key ∈ ["one", "five", "fifteen"].map fieldKey ↔ key ∈ loadFields.map fieldKey
    apply List.Perm.mem_iff
    decide
  exact ⟨_, rfl, keys, ⟨_, rfl, spellsNumber_token snapshot.loadOne (le_refl _)⟩,
    ⟨_, rfl, spellsNumber_token snapshot.loadFive (le_refl _)⟩,
    ⟨_, rfl, spellsNumber_token snapshot.loadFifteen (le_refl _)⟩⟩

/-- The document spells the printed decimals under every reader of timestamps. -/
theorem spellsPayload_members (reader : IsoReader) (snapshot : Snapshot) :
    SpellsPayload reader (jsonValue (.object snapshot.members))
      (snapshot.report.values (DateTime.utc snapshot.wall)) := by
  refine ⟨_, rfl, ?_⟩
  constructor
  case keys =>
    intro key
    show key ∈ ["node", "reported_at", "uptime_seconds", "load", "cpu_percent", "ram", "swap", "root_fs",
      "root_inodes"].map fieldKey ↔ key ∈ topLevelFields.map fieldKey
    apply List.Perm.mem_iff
    decide
  case node => rfl
  case reportedAt => exact ⟨_, rfl, reader.inverts snapshot.wall⟩
  case uptimeSeconds => exact ⟨_, rfl, spellsNumber_token snapshot.uptime (le_refl _)⟩
  case cpuPercent => exact ⟨_, rfl, spellsNumber_token snapshot.cpuPercent hundred_le_finiteLimit⟩
  case load => exact ⟨_, rfl, spellsLoad_members snapshot⟩
  case ram => exact ⟨_, rfl, spellsResource_usage snapshot.ram⟩
  case swap => exact ⟨_, rfl, spellsResource_usage snapshot.swap⟩
  case rootFilesystem => exact ⟨_, rfl, spellsResource_usage snapshot.rootFs⟩
  case rootInodes => exact ⟨_, rfl, spellsResource_usage snapshot.rootInodes⟩

/-- What is printed lies within the bounds of the domain. -/
theorem admissible_values (snapshot : Snapshot) :
    (snapshot.report.values (DateTime.utc snapshot.wall)).Admissible where
  node := isBlank_node snapshot.accepted
  reportedAt := rfl
  uptimeSeconds := printed_token_nonneg snapshot.uptime
  cpuPercent := ⟨printed_token_nonneg snapshot.cpuPercent, printed_percent_le snapshot.cpuPercent⟩
  load := ⟨printed_token_nonneg snapshot.loadOne, printed_token_nonneg snapshot.loadFive,
    printed_token_nonneg snapshot.loadFifteen⟩
  ram := admissible_usage snapshot.ram
  swap := admissible_usage snapshot.swap
  rootFilesystem := admissible_usage snapshot.rootFs
  rootInodes := admissible_usage snapshot.rootInodes

/-! ## The request -/

/-- The bytes of a text of the shell. -/
def wireBytes (payload : Text) : List Utf8.Byte :=
  payload.map fun c => Utf8.byte c.val

/-- In ASCII these are the bytes of UTF-8. -/
theorem encode_wireBytes {payload : Text} (ascii : Json.Ascii payload) :
    Utf8.encode .strict payload = some (wireBytes payload) := by
  have single : forall s : Text, Json.Ascii s -> s.flatMap Utf8.encodeChar = wireBytes s := by
    intro s
    induction s with
    | nil =>
        intro _
        rfl
    | cons c rest inductionHypothesis =>
        intro small
        rw [List.flatMap_cons, inductionHypothesis fun d member => small d (List.mem_cons_of_mem c member),
          Utf8.encodeChar, if_pos (small c List.mem_cons_self)]
        rfl
  rcases Utf8.encode_ascii ascii with ⟨bytes, encoded⟩
  unfold Utf8.encode at encoded ⊢
  split at encoded
  · rename_i allowed
    rw [if_pos allowed, single payload ascii]
  · cases encoded

/-- A header of a request, whose parts are strings. -/
def typedHeader (header : PyStr × PyStr) : HeaderEntry :=
  .pair (.typed header.1) (.typed header.2)

def heartbeatRequest (headers : List (PyStr × PyStr)) (payload : Text) : HttpRequest where
  method := .typed heartbeatMethod
  path := .typed heartbeatPath
  headers := .typed (headers.map typedHeader)
  body := .typed (wireBytes payload)

/-- The two headers of the reporter, each once, among any well-formed ones. -/
def SentHeaders (headers : List (PyStr × PyStr)) (token : PyStr) : Prop :=
  exists others,
    headers.Perm ((text "Content-Type", text "application/json") ::
      (text "X-Sentinel-Token", token) :: others) ∧
    WellFormedHeaders others ∧
    forall header, header ∈ others ->
      lower header.1 ≠ text "content-type" ∧ lower header.1 ≠ text "x-sentinel-token"

theorem wellFormed_token {token : PyStr} (accepted : validateReporterToken token = true) :
    isMalformedHeaderValue token = false := by
  rw [validateReporterToken, Bool.and_eq_true] at accepted
  apply List.any_eq_false.mpr
  intro c member
  have own := List.all_eq_true.mp accepted.2 c member
  simp only [isTokenChar, isAsciiLetterOrDigit, isDigit, Bool.or_eq_true, decide_eq_true_eq] at own
  rw [decide_eq_true_eq]
  rcases own with (digit | letter | letter) | rfl | rfl | rfl | rfl
  · omega
  · omega
  · omega
  all_goals decide

/-- The only value of a header among others of other names. -/
theorem headerValues_of_perm {headers others : List (PyStr × PyStr)} {name value : PyStr} {field : String}
    (perm : headers.Perm ((name, value) :: others)) (named : lower name = text field)
    (absent : forall header, header ∈ others -> lower header.1 ≠ text field) :
    headerValues headers field = [value] := by
  have none : others.filter (fun header => decide (lower header.1 = text field)) = [] := by
    apply List.filter_eq_nil_iff.mpr
    intro header member same
    exact absent header member (of_decide_eq_true same)
  have own : ((name, value) :: others).filter (fun header => decide (lower header.1 = text field)) =
      [(name, value)] := by
    rw [List.filter_cons, if_pos (decide_eq_true named), none]
  have filtered := (perm.filter fun header => decide (lower header.1 = text field)).map Prod.snd
  rw [own] at filtered
  exact List.perm_singleton.mp filtered

section

variable {headers : List (PyStr × PyStr)} {token : PyStr}

theorem structured_request (sent : SentHeaders headers token)
    (accepted : validateReporterToken token = true) (payload : Text) :
    structured (heartbeatRequest headers payload) =
      some ⟨heartbeatMethod, heartbeatPath, headers, wireBytes payload⟩ := by
  rcases sent with ⟨others, perm, wellFormed, _⟩
  have all : WellFormedHeaders headers := by
    intro header member
    rcases List.mem_cons.mp (perm.mem_iff.mp member) with rfl | member
    · decide
    · rcases List.mem_cons.mp member with rfl | member
      · have name : isMalformedHeaderName (text "X-Sentinel-Token") = false := by decide
        exact ⟨name, wellFormed_token accepted⟩
      · exact wellFormed header member
  have typed : structuredHeaders (headers.map typedHeader) = some headers :=
    structuredHeaders_typed all
  unfold structured heartbeatRequest
  dsimp only
  rw [typed]
  rfl

theorem posts_request (sent : SentHeaders headers token) (payload : Text) :
    Posts ⟨heartbeatMethod, heartbeatPath, headers, wireBytes payload⟩ token (wireBytes payload) := by
  rcases sent with ⟨others, perm, _, different⟩
  have media : JsonMediaType isSpace (text "application/json") :=
    contentTypeRejection_eq_none.mp (by decide +kernel)
  have contentType : headerValues headers "content-type" = [text "application/json"] := by
    apply headerValues_of_perm perm (by decide)
    intro header member
    rcases List.mem_cons.mp member with rfl | member
    · have name : lower (text "X-Sentinel-Token") ≠ text "content-type" := by decide
      exact name
    · exact (different header member).1
  have own : headerValues headers "x-sentinel-token" = [token] := by
    apply headerValues_of_perm (perm.trans (List.Perm.swap _ _ _)) (by decide)
    intro header member
    rcases List.mem_cons.mp member with rfl | member
    · decide
    · exact (different header member).2
  exact ⟨rfl, rfl, rfl, ⟨_, contentType, media⟩, own⟩

end

/-- A server in order that serves the node under exactly this credential: one
configuration, a clock that UTC can express, the interpreter's JSON scanner and
a stack with room for an object within an object. -/
structure Serves (adapter : HeartbeatHttpAdapter) (world : IngestWorld) (node token : PyStr) : Prop where
  healthy : HealthyServer adapter world
  scanner : exists scanner : JsonScanner, adapter.scan = scanner.scan
  stack : 1 ≤ adapter.wire.nesting
  authorised : Authorised adapter.wire.config adapter.wire.credentials node (.str token)

/-- A request that reaches the insertion and can be written is stored. -/
theorem handle_reaches {adapter : HeartbeatHttpAdapter} {world : IngestWorld}
    (healthy : HealthyServer adapter world) {request : HttpRequest} {members : List (Text × Json)}
    (reaches : Reaches adapter request members) (writable : WritableBody adapter.wire.reader members) :
    (adapter.handle (.ok ()) request world).1 = .ok (respond 204 []) := by
  rcases reaches with ⟨wellFormed, token, telemetry, shape, inspected, admitted⟩
  rcases accept_members (decodeStrictJson_strict (inspect_members inspected)) admitted with
    ⟨node, ⟨written, reported, read⟩, named, aware, known⟩
  have serialisable : Serialisable telemetry :=
    ⟨writable.node _ node, writable.reportedAt _ _ reported read⟩
  have performed : adapter.wire.perform (forwardedCall (.ok ()) members token) world =
      ingest adapter.wire.ingestor (.ok ()) telemetry world := perform_admitted admitted world
  rw [handle_inspected shape inspected, forward_eq, performed]
  rcases outcome : ingest adapter.wire.ingestor (.ok ()) telemetry world with ⟨result, after⟩
  rcases ingest_outcome healthy known named aware with ⟨_, receipt, ended⟩ | ⟨refused, _⟩
  · rw [outcome] at ended
    dsimp only at ended
    rw [ended]
  · exact absurd serialisable refused

theorem writable_members (reader : IsoReader) (snapshot : Snapshot) :
    WritableBody reader snapshot.members := by
  have node : snapshot.members.lookup (text "node") = some (.str snapshot.node) := rfl
  have reportedAt : snapshot.members.lookup (text "reported_at") =
      some (.str (isoformat snapshot.wall)) := rfl
  constructor
  · intro written moment found read
    rw [reportedAt] at found
    cases found
    rw [reader.inverts] at read
    cases read
    exact DateTime.utcRepresentable_utc snapshot.wall
  · intro own found
    rw [node] at found
    cases found
    have ascii : Json.Ascii snapshot.node := by
      intro c member
      have range := of_decide_eq_true (simple_node snapshot.accepted c member)
      omega
    rw [encode_wireBytes ascii]
    rfl

/-- Whatever the inputs of the reporter are, what it prints and finds small
enough is one JSON object that decodes to the printed decimals of the
configured node, and every server of that node stores it. -/
theorem reporter_agrees_with_server (host : MonitoredHost) (clock : PrintsUtc host.date) {output : Text}
    (collected : host.collectPayload = .ok output)
    (sized : validatePayloadSize (commandSubstitution output) = true) :
    exists report members reportedAt,
      host.collectReport = .ok report ∧ report.node = host.environment "SENTINEL_NODE" ∧
      commandSubstitution output = report.print ∧
      (forall scanner : JsonScanner,
        decodeStrictJson scanner.scan (wireBytes report.print) = some members) ∧
      (forall reader : IsoReader, reader.fromisoformat report.reportedAt = some reportedAt ∧
        exists telemetry, decodeHeartbeatPayload reader (jsonValue (.object members)) = .ok telemetry ∧
          Carries telemetry (report.values reportedAt)) ∧
      forall token adapter world headers, validateReporterToken token = true ->
        Serves adapter world report.node token -> SentHeaders headers token ->
          (adapter.handle (.ok ()) (heartbeatRequest headers report.print) world).1 =
            .ok (respond 204 []) := by
  rcases collectPayload_document clock collected with ⟨snapshot, reported, node, document⟩
  have shallow (depth : Nat) := fits_members depth snapshot
  have strict := strict_members snapshot
  have encoded := encode_wireBytes (Json.ascii_render (shallow 0))
  rw [render_members] at encoded
  have length : (wireBytes snapshot.report.print).length = snapshot.report.print.length :=
    List.length_map _
  have bounds := of_decide_eq_true sized
  rw [document, <- length] at bounds
  have spells (reader : IsoReader) := spellsPayload_members reader snapshot
  have admissible := admissible_values snapshot
  refine ⟨snapshot.report, snapshot.members, DateTime.utc snapshot.wall, reported, node, document,
    ?_, ?_, ?_⟩
  · intro scanner
    apply decodeStrictJson_render scanner (shallow 898) strict
    rw [render_members]
    exact encoded
  · intro reader
    rcases exists_carries admissible with ⟨telemetry, carries⟩
    exact ⟨reader.inverts snapshot.wall, telemetry,
      decodeHeartbeatPayload_eq_ok.mpr ⟨_, spells reader, admissible, carries⟩, carries⟩
  · intro token adapter world headers accepted serves sent
    rcases serves.scanner with ⟨scanner, scans⟩
    have stack : adapter.wire.nesting + 1 = (adapter.wire.nesting - 1) + 2 := by
      have room := serves.stack
      omega
    have reaches : Reaches adapter (heartbeatRequest headers snapshot.report.print) snapshot.members := by
      apply reaches_of_posts scanner scans (structured_request sent accepted _) (posts_request sent _)
        ?_ bounds.2 (List.ne_nil_of_length_pos bounds.1) (shallow 898) ?_ strict (spells _) admissible
        serves.authorised
      · rw [render_members]
        exact encoded
      · rw [stack]
        exact shallow _
    exact handle_reaches serves.healthy reaches (writable_members _ snapshot)

/-- A host of ordinary measurements; its swap is absent. -/
def outpostHost : MonitoredHost where
  environment := fun name => if name = "SENTINEL_NODE" then text "a" else []
  input := fun moment _ =>
    ["350735.47 234388.90", "0.20 0.18 0.125 1/80 11206", "cpu  10 0 10 70 10 0 0 0 0 0",
      "cpu  20 0 10 140 20 0 0 0 0 0", "MemTotal: 4 kB\nMemAvailable: 1 kB\nSwapTotal: 0 kB",
      "MemTotal: 4 kB\nSwapTotal: 0 kB\nSwapFree: 0 kB"][moment]?.map text
  diskFree := fun mode =>
    match mode with
    | .bytes => some (text "Filesystem 1-blocks Used Available Capacity Mounted on\n/dev/sda 3 1 2 34% /")
    | .inodes => some (text "Filesystem Inodes IUsed IFree IUse% Mounted on\n/dev/sda 0 0 0 0% /")
  date := some (line (isoformat ⟨0, zero_inRange⟩))

theorem outpostHost_clock : PrintsUtc outpostHost.date := by
  intro output found
  cases found
  exact ⟨_, rfl, rfl⟩

theorem outpostHost_collected : exists output, outpostHost.collectPayload = .ok output ∧
    validatePayloadSize (commandSubstitution output) = true := by
  have collects : (outpostHost.collectPayload.toOption.any fun output =>
      validatePayloadSize (commandSubstitution output)) = true := by
    decide +kernel
  cases collected : outpostHost.collectPayload with
  | error message =>
      rw [collected] at collects
      cases collects
  | ok output =>
      rw [collected] at collects
      exact ⟨output, rfl, collects⟩

/-- The heartbeat of the host is stored by the server of the outpost. -/
theorem outpostHost_stored : exists output, outpostHost.collectPayload = .ok output ∧
    (outpostServer.handle (.ok ()) (heartbeatRequest
      [(text "X-Sentinel-Token", text "t"), (text "Accept", text "*/*"),
        (text "Content-Type", text "application/json")] (commandSubstitution output)) emptyWorld).1 =
      .ok (respond 204 []) := by
  rcases outpostHost_collected with ⟨output, collected, sized⟩
  rcases reporter_agrees_with_server outpostHost outpostHost_clock collected sized with
    ⟨report, members, moment, _, node, document, _, _, stored⟩
  have serves : Serves outpostServer emptyWorld report.node (text "t") := by
    rw [node]
    exact ⟨healthy_outpost, ⟨_, rfl⟩, by decide, rfl, text "t", rfl, rfl⟩
  have plain : WellFormedHeaders [(text "Accept", text "*/*")] := by
    intro header member
    rw [List.mem_singleton.mp member]
    decide
  have sent : SentHeaders [(text "X-Sentinel-Token", text "t"), (text "Accept", text "*/*"),
      (text "Content-Type", text "application/json")] (text "t") :=
    ⟨[(text "Accept", text "*/*")], by decide, plain, by decide⟩
  refine ⟨output, collected, ?_⟩
  rw [document]
  exact stored (text "t") outpostServer emptyWorld _ (by decide) serves sent

end Reporter
end HermesSentinel
