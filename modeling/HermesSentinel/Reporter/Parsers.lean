import HermesSentinel.Foundation.Awk

namespace HermesSentinel
namespace Reporter

open Foundation
open Foundation.Awk
open Foundation.Decimal

/-!
# The parsers of the reporter

The awk programs of `sentinel-report.sh`, from what they read to what they
print; `none` is a failing exit status.  A text is a list of bytes, each a code
point of its own, as it is under `LC_ALL=C`.  Numbers are exact, and so is the
rounding of `printf`: no value is infinite or NaN, so of the finite gates only
the bound is left.
-/

/-- The gate `value < 1e308`. -/
def finiteLimit : Nat := 10 ^ 308

/-- The line `printf` ends with `\n`. -/
def line (s : Text) : Text :=
  s ++ [newline]

def uptimeRule (number : Nat) (record : List Text) (_value : Option ℚ) : Option (Option ℚ) :=
  if 1 < number then none
  else if record.length < 1 ∨ isDecimal (field record 1) = false then none
  else some (some (value (field record 1)))

def parseUptime (content : Text) : Option Text := do
  let found ← run uptimeRule none content
  let value ← found
  if value < finiteLimit then some (line (fixed 2 value)) else none

structure Load where
  one : ℚ
  five : ℚ
  fifteen : ℚ

def loadRule (number : Nat) (record : List Text) (_load : Option Load) : Option (Option Load) :=
  if 1 < number then none
  else if record.length < 3 then none
  else if [1, 2, 3].all (fun i => isDecimal (field record i)) = false then none
  else some (some ⟨value (field record 1), value (field record 2), value (field record 3)⟩)

/-- Three printed values, separated by blanks. -/
def triple (first second third : Text) : Text :=
  line (first ++ codePoint ' ' :: (second ++ codePoint ' ' :: third))

def parseLoadavg (content : Text) : Option Text := do
  let found ← run loadRule none content
  let load ← found
  if load.one < finiteLimit ∧ load.five < finiteLimit ∧ load.fifteen < finiteLimit then
    some (triple (fixed 2 load.one) (fixed 2 load.five) (fixed 2 load.fifteen))
  else none

/-- The first aggregate line of a `/proc/stat` file. -/
def readCpuSample (content : Text) : Option Text :=
  ((records content).find? fun record => decide (field (fields record) 1 = text "cpu")).map line

/-- The fields 2 to 9 of an aggregate line. -/
structure CpuCounters where
  user : Nat
  nice : Nat
  system : Nat
  idle : Nat
  iowait : Nat
  irq : Nat
  softirq : Nat
  steal : Nat

def CpuCounters.ofFields (record : List Text) : CpuCounters where
  user := decimalValue (field record 2)
  nice := decimalValue (field record 3)
  system := decimalValue (field record 4)
  idle := decimalValue (field record 5)
  iowait := decimalValue (field record 6)
  irq := decimalValue (field record 7)
  softirq := decimalValue (field record 8)
  steal := decimalValue (field record 9)

/-- No counter has decreased. -/
def CpuCounters.Precedes (a b : CpuCounters) : Prop :=
  a.user ≤ b.user ∧ a.nice ≤ b.nice ∧ a.system ≤ b.system ∧ a.idle ≤ b.idle ∧
    a.iowait ≤ b.iowait ∧ a.irq ≤ b.irq ∧ a.softirq ≤ b.softirq ∧ a.steal ≤ b.steal

instance (a b : CpuCounters) : Decidable (a.Precedes b) :=
  inferInstanceAs (Decidable (_ ∧ _))

def CpuCounters.idleAll (counters : CpuCounters) : Nat :=
  counters.idle + counters.iowait

def CpuCounters.nonIdle (counters : CpuCounters) : Nat :=
  counters.user + counters.nice + counters.system + counters.irq + counters.softirq + counters.steal

def CpuCounters.total (counters : CpuCounters) : Nat :=
  counters.idleAll + counters.nonIdle

structure CpuSamples where
  first : Option CpuCounters := none
  second : Option CpuCounters := none

def cpuRule (number : Nat) (record : List Text) (samples : CpuSamples) : Option CpuSamples :=
  if 2 < number then none
  else if field record 1 ≠ text "cpu" ∨ record.length < 9 then none
  else if [2, 3, 4, 5, 6, 7, 8, 9].all (fun i => isCount (field record i)) = false then none
  else if number = 1 then some { samples with first := some (.ofFields record) }
  else some { samples with second := some (.ofFields record) }

def cpuPercent (a b : CpuCounters) : ℚ :=
  let totalDelta : ℚ := b.total - a.total
  let idleDelta : ℚ := b.idleAll - a.idleAll
  100 * (totalDelta - idleDelta) / totalDelta

def computeCpuPercent (cpuA cpuB : Text) : Option Text := do
  let samples ← run cpuRule {} (line cpuA ++ line cpuB)
  let a ← samples.first
  -- `NR < 2`
  let b ← samples.second
  if a.Precedes b ∧ 0 < (b.total : ℚ) - a.total ∧ 0 ≤ cpuPercent a b ∧ cpuPercent a b ≤ 100 then
    some (line (fixed 2 (cpuPercent a b)))
  else none

/-- The values of the two keys that a program looks for, once they are seen. -/
structure MemoryValues where
  total : Option Nat := none
  rest : Option Nat := none

/-- The action at either key: none may occur twice. -/
def memoryRule (totalKey restKey : String) (_number : Nat) (record : List Text)
    (values : MemoryValues) : Option MemoryValues :=
  let wellFormed := record.length = 3 ∧ isCount (field record 2) = true ∧ field record 3 = text "kB"
  if field record 1 = text totalKey then
    if values.total.isSome = true ∨ ¬ wellFormed then none
    else some { values with total := some (decimalValue (field record 2)) }
  else if field record 1 = text restKey then
    if values.rest.isSome = true ∨ ¬ wellFormed then none
    else some { values with rest := some (decimalValue (field record 2)) }
  else some values

/-- `printf "%.0f %.0f %.2f\n"`. -/
def usageLine (used total percent : ℚ) : Text :=
  triple (fixed 0 used) (fixed 0 total) (fixed 2 percent)

def parseRamUsage (content : Text) : Option Text := do
  let values ← run (memoryRule "MemTotal:" "MemAvailable:") {} content
  let memTotal ← values.total
  let memAvailable ← values.rest
  if 0 < memTotal then
    let total : ℚ := memTotal * 1024
    let used : ℚ := (memTotal - memAvailable) * 1024
    let percent := used / total * 100
    if 0 ≤ used ∧ used ≤ total ∧ total < finiteLimit ∧ used < finiteLimit ∧ 0 ≤ percent ∧
        percent ≤ 100 then
      some (usageLine used total percent)
    else none
  else none

def parseSwapUsage (content : Text) : Option Text := do
  let values ← run (memoryRule "SwapTotal:" "SwapFree:") {} content
  let swapTotal ← values.total
  let swapFree ← values.rest
  if swapTotal < swapFree then none
  else if swapTotal = 0 then
    if swapFree = 0 then some (usageLine 0 0 0) else none
  else
    let total : ℚ := swapTotal * 1024
    let used : ℚ := (swapTotal - swapFree) * 1024
    let percent := used / total * 100
    if total < finiteLimit ∧ used < finiteLimit ∧ 0 ≤ percent ∧ percent ≤ 100 then
      some (usageLine used total percent)
    else none

inductive DfMode
  | bytes
  | inodes
  deriving DecidableEq

/-- The header of the invocation; the size label of the byte counts may vary. -/
def isDfHeader (mode : DfMode) (record : List Text) : Bool :=
  decide (record.length = 7 ∧ field record 1 = text "Filesystem" ∧ field record 6 = text "Mounted" ∧
    field record 7 = text "on") &&
  match mode with
  | .bytes =>
      decide (field record 3 = text "Used" ∧ field record 4 = text "Available" ∧
        field record 5 = text "Capacity")
  | .inodes =>
      decide (field record 2 = text "Inodes" ∧ field record 3 = text "IUsed" ∧
        field record 4 = text "IFree" ∧ field record 5 = text "IUse%")

/-- The six columns of a row are those of the root, and its counts are counts. -/
def isDfRow (record : List Text) : Bool :=
  let capacity := field record 5
  decide (record.length = 6 ∧ field record 6 = text "/") &&
  (isCount (field record 2) && isCount (field record 3) && isCount (field record 4)) &&
  (decide (capacity.getLast? = some (codePoint '%')) && isCount capacity.dropLast) &&
  decide (decimalValue capacity.dropLast ≤ 100)

def dfPercent (used total : Nat) : ℚ :=
  if 0 < total then (used : ℚ) / total * 100 else 0

/-- The row is printed as soon as it is read. -/
def rootRule (mode : DfMode) (number : Nat) (record : List Text) (printed : Option Text) :
    Option (Option Text) :=
  if number = 1 then
    if isDfHeader mode record = true then some printed else none
  else
    let total := decimalValue (field record 2)
    let used := decimalValue (field record 3)
    let available := decimalValue (field record 4)
    if printed.isSome = true ∨ isDfRow record = false then none
    else if total < finiteLimit ∧ used < finiteLimit ∧ available < finiteLimit ∧ used ≤ total ∧
        available ≤ total ∧ 0 ≤ dfPercent used total ∧ dfPercent used total ≤ 100 then
      some (some (usageLine used total (dfPercent used total)))
    else none

def parseRootUsage (mode : DfMode) (content : Text) : Option Text := do
  let printed ← run (rootRule mode) none content
  printed

end Reporter
end HermesSentinel
