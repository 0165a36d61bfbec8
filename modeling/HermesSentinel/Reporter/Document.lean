import HermesSentinel.Foundation.Lines
import HermesSentinel.Python.IsoFormat
import HermesSentinel.Python.Json
import HermesSentinel.Python.Strip
import HermesSentinel.Reporter.Measurements

namespace HermesSentinel
namespace Reporter

open Foundation
open Foundation.Awk
open Foundation.Decimal
open Python

/-!
# The printed document

A run that collects a report has measurements behind it, and what it prints of
them is the text of a JSON document: the template spells the members in their
order, the node needs no escape, and every numeral is one of JSON.
-/

structure Snapshot where
  node : Text
  accepted : validateNodeIdentity node = true
  wall : WallClock
  uptime : Gauge
  loadOne : Gauge
  loadFive : Gauge
  loadFifteen : Gauge
  cpuPercent : Percent
  ram : Usage
  swap : Usage
  rootFs : Usage
  rootInodes : Usage

def Bounded.token {bound : Nat} (measured : Bounded bound) : Text :=
  fixed 2 measured.value

def Usage.tokens (usage : Usage) : UsageTokens where
  used := fixed 0 usage.used
  total := fixed 0 usage.total
  percent := usage.percent.token

def Snapshot.report (snapshot : Snapshot) : Report where
  node := snapshot.node
  reportedAt := isoformat snapshot.wall
  uptime := snapshot.uptime.token
  loadOne := snapshot.loadOne.token
  loadFive := snapshot.loadFive.token
  loadFifteen := snapshot.loadFifteen.token
  cpuPercent := snapshot.cpuPercent.token
  ram := snapshot.ram.tokens
  swap := snapshot.swap.tokens
  rootFs := snapshot.rootFs.tokens
  rootInodes := snapshot.rootInodes.tokens

/-- The clock of the host: `date` prints a date of the calendar in whole seconds. -/
def PrintsUtc (date : Option Text) : Prop :=
  forall output, date = some output ->
    exists wall, fraction wall = 0 ∧ output = line (isoformat wall)

theorem read_line (usage : Usage) :
    UsageTokens.read (commandSubstitution usage.line) = usage.tokens := by
  unfold UsageTokens.read Usage.line usageLine
  rw [readThree_triple (0, (usage.used : ℚ)) (0, (usage.total : ℚ)) (2, usage.percent.value)]
  rfl

theorem orFail_eq_ok {α : Type} {message : String} {result : Option α} {value : α} :
    orFail message result = .ok value ↔ result = some value := by
  cases result with
  | none =>
      constructor
      · intro impossible
        cases impossible
      · intro impossible
        cases impossible
  | some own => rw [orFail, Except.ok.injEq, Option.some.injEq]

theorem unlessFail_eq_ok {condition : Bool} {message : String} {done : Unit} :
    unlessFail condition message = .ok done ↔ condition = true := by
  unfold unlessFail
  split
  · rename_i holds
    exact iff_of_true rfl holds
  · rename_i fails
    constructor
    · intro impossible
      cases impossible
    · intro holds
      exact absurd holds fails

theorem content_of_parseFile {host : MonitoredHost} {parser : Text -> Option Text} {moment : Nat}
    {file out : Text} (parsed : host.parseFile parser moment file = some out) :
    exists content, parser content = some out := by
  rcases Option.bind_eq_some_iff.mp parsed with ⟨content, _, accepted⟩
  exact ⟨content, accepted⟩

theorem parseFile_usage {host : MonitoredHost} {parser : Text -> Option Text}
    (prints : forall content out, parser content = some out -> exists usage : Usage, out = usage.line)
    {moment : Nat} {file out : Text} (parsed : host.parseFile parser moment file = some out) :
    exists usage : Usage, UsageTokens.read (commandSubstitution out) = usage.tokens := by
  rcases content_of_parseFile parsed with ⟨content, accepted⟩
  rcases prints content out accepted with ⟨usage, rfl⟩
  exact ⟨usage, read_line usage⟩

theorem collectRoot_usage {host : MonitoredHost} {mode : DfMode} {moment : Nat} {name : String}
    {out : Text} (collected : host.collectRoot mode moment name = some out) :
    exists usage : Usage, UsageTokens.read (commandSubstitution out) = usage.tokens := by
  have prints (content out : Text) (parsed : parseRootUsage mode content = some out) :
      exists usage : Usage, out = usage.line := parseRootUsage_prints parsed
  unfold MonitoredHost.collectRoot at collected
  dsimp only at collected
  split at collected
  · exact parseFile_usage prints collected
  · rcases Option.bind_eq_some_iff.mp collected with ⟨content, _, accepted⟩
    rcases prints content out accepted with ⟨usage, rfl⟩
    exact ⟨usage, read_line usage⟩

theorem substituted_fixed (places : Nat) (q : ℚ) :
    commandSubstitution (line (fixed places q)) = fixed places q :=
  commandSubstitution_line (clean_of_simple (simple_fixed places q))

/-- A collected report is that of measurements of the configured node. -/
theorem collectReport_snapshot {host : MonitoredHost} (clock : PrintsUtc host.date) {report : Report}
    (collected : host.collectReport = .ok report) :
    exists snapshot : Snapshot, report = snapshot.report ∧
      snapshot.node = host.environment "SENTINEL_NODE" := by
  unfold MonitoredHost.collectReport at collected
  simp only [bind_eq_ok, orFail_eq_ok, unlessFail_eq_ok] at collected
  rcases collected with ⟨_, accepted, uptimeOut, uptimeParsed, loadOut, loadParsed, samples, _,
    percentOut, computed, ramOut, ramParsed, swapOut, swapParsed, fsOut, fsCollected, inodesOut,
    inodesCollected, dateOut, dated, result⟩
  rcases content_of_parseFile uptimeParsed with ⟨_, uptimeAccepted⟩
  rcases parseUptime_prints uptimeAccepted with ⟨uptime, rfl⟩
  rcases content_of_parseFile loadParsed with ⟨_, loadAccepted⟩
  rcases parseLoadavg_prints loadAccepted with ⟨one, five, fifteen, rfl⟩
  rcases computeCpuPercent_prints computed with ⟨percent, rfl⟩
  rcases parseFile_usage (fun _ _ => parseRamUsage_prints) ramParsed with ⟨ram, ramRead⟩
  rcases parseFile_usage (fun _ _ => parseSwapUsage_prints) swapParsed with ⟨swap, swapRead⟩
  rcases collectRoot_usage fsCollected with ⟨rootFs, fsRead⟩
  rcases collectRoot_usage inodesCollected with ⟨rootInodes, inodesRead⟩
  rcases clock dateOut dated with ⟨wall, _, rfl⟩
  refine ⟨{
    node := host.environment "SENTINEL_NODE"
    accepted, wall, uptime, ram, swap, rootFs, rootInodes
    loadOne := one
    loadFive := five
    loadFifteen := fifteen
    cpuPercent := percent }, ?_, rfl⟩
  rw [readThree_triple (2, one.value) (2, five.value) (2, fifteen.value), substituted_fixed,
    substituted_fixed, ramRead, swapRead, fsRead, inodesRead,
    commandSubstitution_line (clean_of_simple (simple_isoformat wall))] at result
  exact (Except.ok.inj result).symm

/-! ## The node -/

theorem isSimple_of_isNodeChar {c : CodePoint} (allowed : isNodeChar c = true) :
    Json.isSimple c = true ∧ isSpace c = false := by
  have range : (48 ≤ c.val ∧ c.val ≤ 57) ∨ (65 ≤ c.val ∧ c.val ≤ 90) ∨ (97 ≤ c.val ∧ c.val ≤ 122) ∨
      c.val = 95 ∨ c.val = 46 ∨ c.val = 45 := by
    simp only [isNodeChar, isAsciiLetterOrDigit, isDigit, Bool.or_eq_true, decide_eq_true_eq] at allowed
    rcases allowed with (digit | letter | letter) | rfl | rfl | rfl
    · exact .inl digit
    · exact .inr (.inl letter)
    · exact .inr (.inr (.inl letter))
    all_goals decide
  constructor
  · exact Json.isSimple_of_val (by omega) (by omega) (by omega) (by omega)
  · apply decide_eq_false
    omega

section

variable {node : Text} (accepted : validateNodeIdentity node = true)

include accepted

theorem nodeChar_of_mem {c : CodePoint} (member : c ∈ node) (other : c ≠ codePoint ' ') :
    isNodeChar c = true := by
  rcases Lines.part_of_mem member other with ⟨part, inNode, within⟩
  have word := List.all_eq_true.mp accepted part inNode
  rw [Bool.and_eq_true] at word
  exact List.all_eq_true.mp word.2 c within

theorem simple_node : Json.SimpleString node := by
  intro c member
  by_cases space : c = codePoint ' '
  · rw [space]
    decide
  · exact (isSimple_of_isNodeChar (nodeChar_of_mem accepted member space)).1

/-- The first word has a character. -/
theorem isBlank_node : isBlank node = false := by
  cases node with
  | nil => cases accepted
  | cons c rest =>
      have other : c ≠ codePoint ' ' := by
        rintro rfl
        rw [validateNodeIdentity, List.splitOn_cons_eq_if_modifyHead, if_pos (beq_self_eq_true _)]
          at accepted
        cases accepted
      exact isBlank_of_visible List.mem_cons_self
        (isSimple_of_isNodeChar (nodeChar_of_mem accepted List.mem_cons_self other)).2

end

def Usage.json (usage : Usage) : Json :=
  .object [
    (text "used", .int usage.used),
    (text "total", .int usage.total),
    (text "percent", .real usage.percent.token)]

def Snapshot.loadJson (snapshot : Snapshot) : Json :=
  .object [
    (text "one", .real snapshot.loadOne.token),
    (text "five", .real snapshot.loadFive.token),
    (text "fifteen", .real snapshot.loadFifteen.token)]

def Snapshot.members (snapshot : Snapshot) : List (Text × Json) :=
  [(text "node", .str snapshot.node),
    (text "reported_at", .str (isoformat snapshot.wall)),
    (text "uptime_seconds", .real snapshot.uptime.token),
    (text "load", snapshot.loadJson),
    (text "cpu_percent", .real snapshot.cpuPercent.token),
    (text "ram", snapshot.ram.json),
    (text "swap", snapshot.swap.json),
    (text "root_fs", snapshot.rootFs.json),
    (text "root_inodes", snapshot.rootInodes.json)]

theorem render_natCast (n : Nat) : Json.render (.int n) = fixed 0 (n : ℚ) := by
  rw [fixed_natCast, Json.render, Json.renderInt, if_neg (by omega), Int.natAbs_natCast]

theorem renderString_simple {s : Text} (simple : Json.SimpleString s) :
    Json.renderString s = codePoint '"' :: (s ++ [codePoint '"']) := by
  rw [Json.renderString, Json.flatMap_escape simple]

/-- A member of the template, after the first one of its object. -/
theorem renderMoreMembers_cons {key : Text} (simple : Json.SimpleString key) (value : Json)
    (rest : List (Text × Json)) :
    Json.renderMoreMembers ((key, value) :: rest) =
      text ",\"" ++ (key ++ (text "\":" ++ (Json.render value ++ Json.renderMoreMembers rest))) := by
  have comma : text ",\"" = [codePoint ',', codePoint '"'] := rfl
  have colon : text "\":" = [codePoint '"', codePoint ':'] := rfl
  rw [Json.renderMoreMembers, renderString_simple simple, comma, colon]
  simp only [List.cons_append, List.append_assoc, List.nil_append]

theorem render_object {key : Text} (simple : Json.SimpleString key) (value : Json)
    (rest : List (Text × Json)) :
    Json.render (.object ((key, value) :: rest)) =
      text "\x7b\"" ++ (key ++ (text "\":" ++ (Json.render value ++
        (Json.renderMoreMembers rest ++ text "\x7d")))) := by
  have brace : text "\x7b\"" = [codePoint '{', codePoint '"'] := rfl
  have colon : text "\":" = [codePoint '"', codePoint ':'] := rfl
  have close : text "\x7d" = [codePoint '}'] := rfl
  rw [Json.render, Json.renderMembers, renderString_simple simple, brace, colon, close]
  simp only [List.cons_append, List.append_assoc, List.nil_append]

theorem render_usage (usage : Usage) : Json.render usage.json = usage.tokens.print := by
  have first : text "\x7b\"used\":" = text "\x7b\"" ++ (text "used" ++ text "\":") := rfl
  have second : text ",\"total\":" = text ",\"" ++ (text "total" ++ text "\":") := rfl
  have third : text ",\"percent\":" = text ",\"" ++ (text "percent" ++ text "\":") := rfl
  rw [Usage.json, render_object (by decide), renderMoreMembers_cons (by decide),
    renderMoreMembers_cons (by decide), render_natCast, render_natCast, Json.render,
    Json.renderMoreMembers, UsageTokens.print, Usage.tokens, first, second, third]
  simp only [List.append_assoc, List.nil_append]

/-- The template is the text of the members in their order. -/
theorem render_members (snapshot : Snapshot) :
    Json.render (.object snapshot.members) = snapshot.report.print := by
  have node : text "\x7b\"node\":\"" =
      text "\x7b\"" ++ (text "node" ++ (text "\":" ++ text "\"")) := by decide +kernel
  have reportedAt : text "\",\"reported_at\":\"" =
      text "\"" ++ (text ",\"" ++ (text "reported_at" ++ (text "\":" ++ text "\""))) := by decide +kernel
  have uptime : text "\",\"uptime_seconds\":" =
      text "\"" ++ (text ",\"" ++ (text "uptime_seconds" ++ text "\":")) := by decide +kernel
  have load : text ",\"load\":\x7b\"one\":" =
      text ",\"" ++ (text "load" ++
        (text "\":" ++ (text "\x7b\"" ++ (text "one" ++ text "\":")))) := by decide +kernel
  have five : text ",\"five\":" = text ",\"" ++ (text "five" ++ text "\":") := by decide +kernel
  have fifteen : text ",\"fifteen\":" = text ",\"" ++ (text "fifteen" ++ text "\":") := by decide +kernel
  have cpuPercent : text "\x7d,\"cpu_percent\":" =
      text "\x7d" ++ (text ",\"" ++ (text "cpu_percent" ++ text "\":")) := by decide +kernel
  have ram : text ",\"ram\":" = text ",\"" ++ (text "ram" ++ text "\":") := by decide +kernel
  have swap : text ",\"swap\":" = text ",\"" ++ (text "swap" ++ text "\":") := by decide +kernel
  have rootFs : text ",\"root_fs\":" = text ",\"" ++ (text "root_fs" ++ text "\":") := by decide +kernel
  have rootInodes : text ",\"root_inodes\":" = text ",\"" ++ (text "root_inodes" ++ text "\":") := by decide +kernel
  have quoted {s : Text} (simple : Json.SimpleString s) :
      Json.render (.str s) = text "\"" ++ (s ++ text "\"") := renderString_simple simple
  have loads : Json.render snapshot.loadJson = text "\x7b\"" ++ (text "one" ++ (text "\":" ++
      (snapshot.loadOne.token ++ (text ",\"" ++ (text "five" ++ (text "\":" ++
        (snapshot.loadFive.token ++ (text ",\"" ++ (text "fifteen" ++ (text "\":" ++
          (snapshot.loadFifteen.token ++ text "\x7d"))))))))))) := by
    rw [Snapshot.loadJson, render_object (by decide), renderMoreMembers_cons (by decide),
      renderMoreMembers_cons (by decide)]
    simp only [Json.render, Json.renderMoreMembers, List.append_assoc, List.nil_append]
  rw [Snapshot.members, render_object (by decide), renderMoreMembers_cons (by decide),
    renderMoreMembers_cons (by decide), renderMoreMembers_cons (by decide),
    renderMoreMembers_cons (by decide), renderMoreMembers_cons (by decide),
    renderMoreMembers_cons (by decide), renderMoreMembers_cons (by decide),
    renderMoreMembers_cons (by decide), quoted (simple_node snapshot.accepted),
    quoted (simple_isoformat snapshot.wall), loads]
  unfold Report.print Snapshot.report
  simp only [node, reportedAt, uptime, load, five, fifteen, cpuPercent, ram, swap, rootFs, rootInodes,
    render_usage, Json.render, Json.renderMoreMembers, List.append_assoc, List.nil_append]

/-- A token of the template and the text after it. -/
theorem Clean.followed {s token : Text} (before : Clean s) (own : Clean token) (literal : String)
    (after : Clean (text literal)) : Clean (s ++ token ++ text literal) :=
  clean_append (clean_append before own) after

theorem clean_token {bound : Nat} (measured : Bounded bound) : Clean measured.token :=
  clean_of_simple (simple_fixed 2 measured.value)

theorem clean_count (n : Nat) : Clean (fixed 0 (n : ℚ)) :=
  clean_of_simple (simple_fixed 0 n)

theorem clean_usage (usage : Usage) : Clean usage.tokens.print := by
  have start : Clean (text "\x7b\"used\":") := by decide
  have used := start.followed (clean_count usage.used) ",\"total\":" (by decide)
  have total := used.followed (clean_count usage.total) ",\"percent\":" (by decide)
  exact total.followed (clean_token usage.percent) "\x7d" (by decide)

theorem clean_print (snapshot : Snapshot) : Clean snapshot.report.print := by
  have start : Clean (text "\x7b\"node\":\"") := by decide
  have node := start.followed (clean_of_simple (simple_node snapshot.accepted))
    "\",\"reported_at\":\"" (by decide)
  have reportedAt := node.followed (clean_of_simple (simple_isoformat snapshot.wall))
    "\",\"uptime_seconds\":" (by decide)
  have uptime := reportedAt.followed (clean_token snapshot.uptime) ",\"load\":\x7b\"one\":" (by decide)
  have one := uptime.followed (clean_token snapshot.loadOne) ",\"five\":" (by decide)
  have five := one.followed (clean_token snapshot.loadFive) ",\"fifteen\":" (by decide)
  have fifteen := five.followed (clean_token snapshot.loadFifteen) "\x7d,\"cpu_percent\":" (by decide)
  have cpuPercent := fifteen.followed (clean_token snapshot.cpuPercent) ",\"ram\":" (by decide)
  have ram := cpuPercent.followed (clean_usage snapshot.ram) ",\"swap\":" (by decide)
  have swap := ram.followed (clean_usage snapshot.swap) ",\"root_fs\":" (by decide)
  have rootFs := swap.followed (clean_usage snapshot.rootFs) ",\"root_inodes\":" (by decide)
  exact rootFs.followed (clean_usage snapshot.rootInodes) "\x7d" (by decide)

/-- What a successful run prints is captured as the document of its report. -/
theorem collectPayload_document {host : MonitoredHost} (clock : PrintsUtc host.date) {output : Text}
    (collected : host.collectPayload = .ok output) :
    exists snapshot : Snapshot, host.collectReport = .ok snapshot.report ∧
      snapshot.node = host.environment "SENTINEL_NODE" ∧
      commandSubstitution output = snapshot.report.print := by
  unfold MonitoredHost.collectPayload at collected
  simp only [bind_eq_ok, unlessFail_eq_ok] at collected
  rcases collected with ⟨report, reported, _, _, _, _, _, _, printed⟩
  rcases collectReport_snapshot clock reported with ⟨snapshot, rfl, node⟩
  rw [<- Except.ok.inj printed, commandSubstitution_line (clean_print snapshot)]
  exact ⟨snapshot, reported, node, rfl⟩

end Reporter
end HermesSentinel
