import HermesSentinel.Reporter.Parsers
import Mathlib.Data.List.DropRight

namespace HermesSentinel
namespace Reporter

open Foundation
open Foundation.Awk
open Foundation.Decimal

/-!
# The collector of the reporter

`collect_payload` of `sentinel-report.sh` with the gates around it.  An error
is the text that `fail` puts on the diagnostic stream before the exit.
-/

/-- `$(...)`: NUL bytes are dropped, and the newlines at the end. -/
def commandSubstitution (output : Text) : Text :=
  (output.filter fun c => decide (c.val ≠ 0)).rdropWhile fun c => decide (c = newline)

/-- `read -r first second third` from a here-string. -/
def readThree (s : Text) : Text × Text × Text :=
  let visible := fun c => !isBlank c
  let s := (s.takeWhile fun c => decide (c ≠ newline)).dropWhile isBlank
  let more := (s.dropWhile visible).dropWhile isBlank
  let rest := (more.dropWhile visible).dropWhile isBlank
  (s.takeWhile visible, more.takeWhile visible, rest.rdropWhile isBlank)

def orFail {α : Type} (message : String) : Option α -> Except String α
  | some result => .ok result
  | none => .error message

def unlessFail (condition : Bool) (message : String) : Except String Unit :=
  if condition = true then .ok () else .error message

def isAsciiLetterOrDigit (c : CodePoint) : Bool :=
  isDigit c || decide ((65 ≤ c.val ∧ c.val ≤ 90) ∨ (97 ≤ c.val ∧ c.val ≤ 122))

def isNodeChar (c : CodePoint) : Bool :=
  isAsciiLetterOrDigit c ||
    decide (c = codePoint '_' ∨ c = codePoint '.' ∨ c = codePoint '-')

/-- Words of node characters, separated by single spaces. -/
def validateNodeIdentity (value : Text) : Bool :=
  (value.splitOn (codePoint ' ')).all fun word => !word.isEmpty && word.all isNodeChar

def isTokenChar (c : CodePoint) : Bool :=
  isAsciiLetterOrDigit c ||
    decide (c = codePoint '.' ∨ c = codePoint '_' ∨ c = codePoint '~' ∨ c = codePoint '-')

def validateReporterToken (value : Text) : Bool :=
  !value.isEmpty && value.all isTokenChar

def sentinelMaxBodyBytes : Nat := 16384

def validatePayloadSize (payload : Text) : Bool :=
  decide (0 < payload.length ∧ payload.length ≤ sentinelMaxBodyBytes)

def requireMetricDecimal (token : Text) : Bool :=
  isDecimal token

def requireMetricCount (token : Text) : Bool :=
  isCount token

/-- The text has a digit where the pattern has the letter `d`, and is the
pattern elsewhere. -/
def matchesDigits : Text -> Text -> Bool
  | [], [] => true
  | p :: pattern, c :: rest =>
      (if p = codePoint 'd' then isDigit c else decide (c = p)) && matchesDigits pattern rest
  | _, _ => false

def requireMetricTimestamp (token : Text) : Bool :=
  matchesDigits (text "dddd-dd-ddTdd:dd:dd+00:00") token

/-- What a run of the reporter finds on its host. -/
structure MonitoredHost where
  /-- `${NAME-}` -/
  environment : String -> Text
  /-- What awk reads when it opens a file at the given point of the run. -/
  input : Nat -> Text -> Option Text
  /-- The output of the two `df` invocations, captured in a temporary file. -/
  diskFree : DfMode -> Option Text
  /-- The output of `date -u +%Y-%m-%dT%H:%M:%S+00:00`. -/
  date : Option Text

namespace MonitoredHost

variable (host : MonitoredHost)

/-- `${NAME:-default}`. -/
def fileVariable (name default : String) : Text :=
  if host.environment name = [] then text default else host.environment name

/-- A parser applied to a file. -/
def parseFile (parser : Text -> Option Text) (moment : Nat) (file : Text) : Option Text :=
  (host.input moment file).bind parser

def collectRoot (mode : DfMode) (moment : Nat) (variableName : String) : Option Text :=
  let source := host.environment variableName
  if source ≠ [] then host.parseFile (parseRootUsage mode) moment source
  else (host.diskFree mode).bind (parseRootUsage mode)

def collectRootFs : Option Text :=
  host.collectRoot .bytes 6 "SENTINEL_DF_BYTES_FILE"

def collectRootInodes : Option Text :=
  host.collectRoot .inodes 7 "SENTINEL_DF_INODES_FILE"

/-- The two samples of the aggregate line. -/
def cpuSamples : Except String (Text × Text) := do
  let statA := host.environment "SENTINEL_PROC_STAT_A"
  let statB := host.environment "SENTINEL_PROC_STAT_B"
  unlessFail (decide (statA = [] ↔ statB = []))
    "SENTINEL_PROC_STAT_A and SENTINEL_PROC_STAT_B must be set together"
  let cpuA ← orFail "cannot collect CPU sample"
    (host.parseFile readCpuSample 2 (host.fileVariable "SENTINEL_PROC_STAT_A" "/proc/stat"))
  let cpuB ← orFail "cannot collect CPU sample"
    (host.parseFile readCpuSample 3 (host.fileVariable "SENTINEL_PROC_STAT_B" "/proc/stat"))
  .ok (commandSubstitution cpuA, commandSubstitution cpuB)

end MonitoredHost

/-- Used, total and percentage of a resource, as printed. -/
structure UsageTokens where
  used : Text
  total : Text
  percent : Text

def UsageTokens.read (line : Text) : UsageTokens :=
  let words := readThree line
  ⟨words.1, words.2.1, words.2.2⟩

/-- The arguments of the final `printf`. -/
structure Report where
  node : Text
  reportedAt : Text
  uptime : Text
  loadOne : Text
  loadFive : Text
  loadFifteen : Text
  cpuPercent : Text
  ram : UsageTokens
  swap : UsageTokens
  rootFs : UsageTokens
  rootInodes : UsageTokens

def UsageTokens.print (tokens : UsageTokens) : Text :=
  text "\x7b\"used\":" ++ tokens.used ++ text ",\"total\":" ++ tokens.total ++ text ",\"percent\":" ++
    tokens.percent ++ text "\x7d"

/-- The final `printf`, without its newline; `\x7b` and `\x7d` are the braces. -/
def Report.print (report : Report) : Text :=
  text "\x7b\"node\":\"" ++ report.node ++ text "\",\"reported_at\":\"" ++ report.reportedAt ++
    text "\",\"uptime_seconds\":" ++ report.uptime ++ text ",\"load\":\x7b\"one\":" ++ report.loadOne ++
    text ",\"five\":" ++ report.loadFive ++ text ",\"fifteen\":" ++ report.loadFifteen ++
    text "\x7d,\"cpu_percent\":" ++ report.cpuPercent ++ text ",\"ram\":" ++ report.ram.print ++
    text ",\"swap\":" ++ report.swap.print ++ text ",\"root_fs\":" ++ report.rootFs.print ++
    text ",\"root_inodes\":" ++ report.rootInodes.print ++ text "\x7d"

def Report.decimals (report : Report) : List Text :=
  [report.uptime, report.loadOne, report.loadFive, report.loadFifteen, report.cpuPercent,
    report.ram.percent, report.swap.percent, report.rootFs.percent, report.rootInodes.percent]

def Report.counts (report : Report) : List Text :=
  [report.ram.used, report.ram.total, report.swap.used, report.swap.total,
    report.rootFs.used, report.rootFs.total, report.rootInodes.used, report.rootInodes.total]

/-- What is collected, up to the final gate. -/
def MonitoredHost.collectReport (host : MonitoredHost) : Except String Report := do
  let node := host.environment "SENTINEL_NODE"
  unlessFail (validateNodeIdentity node)
    "SENTINEL_NODE is required and must match the documented node identity constraint"
  let uptime ← orFail "cannot collect uptime"
    (host.parseFile parseUptime 0 (host.fileVariable "SENTINEL_PROC_UPTIME" "/proc/uptime"))
  let load ← orFail "cannot collect load average"
    (host.parseFile parseLoadavg 1 (host.fileVariable "SENTINEL_PROC_LOADAVG" "/proc/loadavg"))
  let loads := readThree (commandSubstitution load)
  let samples ← host.cpuSamples
  let cpuPercent ← orFail "cannot compute CPU usage" (computeCpuPercent samples.1 samples.2)
  let meminfo := host.fileVariable "SENTINEL_PROC_MEMINFO" "/proc/meminfo"
  let ram ← orFail "cannot collect RAM usage" (host.parseFile parseRamUsage 4 meminfo)
  let swap ← orFail "cannot collect swap usage" (host.parseFile parseSwapUsage 5 meminfo)
  let rootFs ← orFail "cannot collect root filesystem usage" host.collectRootFs
  let rootInodes ← orFail "cannot collect root inode usage" host.collectRootInodes
  let reportedAt ← orFail "cannot read host clock" host.date
  .ok {
    node
    reportedAt := commandSubstitution reportedAt
    uptime := commandSubstitution uptime
    loadOne := loads.1
    loadFive := loads.2.1
    loadFifteen := loads.2.2
    cpuPercent := commandSubstitution cpuPercent
    ram := .read (commandSubstitution ram)
    swap := .read (commandSubstitution swap)
    rootFs := .read (commandSubstitution rootFs)
    rootInodes := .read (commandSubstitution rootInodes) }

/-- `collect_payload`, with what it prints. -/
def MonitoredHost.collectPayload (host : MonitoredHost) : Except String Text := do
  let report ← host.collectReport
  unlessFail (report.decimals.all requireMetricDecimal) "metric validation failed before rendering"
  unlessFail (report.counts.all requireMetricCount) "metric validation failed before rendering"
  unlessFail (requireMetricTimestamp report.reportedAt) "timestamp validation failed before rendering"
  .ok (line report.print)

end Reporter
end HermesSentinel
