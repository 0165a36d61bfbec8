import HermesSentinel.Foundation.Calendar
import HermesSentinel.Foundation.FixedWidth
import HermesSentinel.Python.Exceptions
import HermesSentinel.Python.Text

namespace HermesSentinel
namespace Python

/-!
# Datetimes

A `datetime` is a reading of a wall clock, counted in microseconds from
0001-01-01T00:00:00 and confined to the years 1 to 9999, together with an
optional `tzinfo`.  Every `tzinfo` of the program is a `datetime.timezone`,
produced by `datetime.fromisoformat` or `timezone.utc`, so its offset does not
depend on the reading.  A `tzinfo` whose `utcoffset()` is `None` is kept apart
from a missing one, because the program's awareness checks distinguish them.

Aware datetimes compare by instant.  The instant of a valid datetime may lie
outside the representable years; only the conversion to UTC then overflows.
-/

open Foundation

def microsPerSecond : Nat := 1000000

def microsPerDay : Nat := 86400 * microsPerSecond

/-- One past the last microsecond of the year 9999. -/
def maxMicros : Nat := Calendar.daysBeforeYear 10000 * microsPerDay

/-- A wall-clock reading within the years 1 to 9999. -/
structure WallClock where
  micros : Nat
  inRange : micros < maxMicros
  deriving DecidableEq

/-- A fixed offset from UTC, below one day in size. -/
structure Offset where
  micros : Int
  bounded : -(microsPerDay : Int) < micros ∧ micros < microsPerDay
  deriving DecidableEq

structure TzInfo where
  utcoffset : Option Offset
  deriving DecidableEq

def Offset.zero : Offset :=
  ⟨0, by decide⟩

/-- `timezone.utc`. -/
def TzInfo.utc : TzInfo :=
  ⟨some Offset.zero⟩

structure DateTime where
  wall : WallClock
  tzinfo : Option TzInfo
  deriving DecidableEq

namespace DateTime

/-- `value.tzinfo is not None and value.utcoffset() is not None`. -/
def isAware (d : DateTime) : Bool :=
  (d.tzinfo.bind TzInfo.utcoffset).isSome

def offset (d : DateTime) : Int :=
  match d.tzinfo.bind TzInfo.utcoffset with
  | some offset => offset.micros
  | none => 0

/-- The instant an aware datetime denotes, in microseconds of UTC. -/
def instant (d : DateTime) : Int :=
  d.wall.micros - d.offset

/-- A wall-clock reading in UTC. -/
def utc (wall : WallClock) : DateTime :=
  { wall := wall, tzinfo := some TzInfo.utc }

@[simp] theorem isAware_utc (wall : WallClock) : (utc wall).isAware = true := rfl

@[simp] theorem instant_utc (wall : WallClock) : (utc wall).instant = wall.micros := by
  show (wall.micros : Int) - 0 = wall.micros
  omega

/-- The UTC value lies in the years 1 to 9999. -/
def UtcRepresentable (d : DateTime) : Prop :=
  0 ≤ d.instant ∧ d.instant < maxMicros

instance (d : DateTime) : Decidable d.UtcRepresentable :=
  inferInstanceAs (Decidable (_ ∧ _))

/-- `value.astimezone(timezone.utc)` of an aware datetime. -/
def astimezoneUtc (d : DateTime) : Fallible WallClock :=
  if representable : d.UtcRepresentable then
    .ok ⟨d.instant.toNat, by
      have := representable.1
      have := representable.2
      omega⟩
  else
    raise .overflowError "date value out of range"

theorem astimezoneUtc_eq_ok (d : DateTime) (wall : WallClock) :
    d.astimezoneUtc = .ok wall ↔ (wall.micros : Int) = d.instant := by
  unfold astimezoneUtc
  split
  · rename_i representable
    have := representable.1
    rw [Except.ok.injEq, WallClock.mk.injEq]
    omega
  · rename_i outside
    constructor
    · intro impossible
      exact absurd impossible (raise_ne_ok _ _ _)
    · intro same
      have := wall.inRange
      exact absurd ⟨by omega, by omega⟩ outside

theorem astimezoneUtc_total {d : DateTime} (representable : d.UtcRepresentable) :
    exists wall, d.astimezoneUtc = .ok wall ∧ (wall.micros : Int) = d.instant := by
  unfold astimezoneUtc
  rw [dif_pos representable]
  exact ⟨_, rfl, Int.toNat_of_nonneg representable.1⟩

@[simp] theorem astimezoneUtc_utc (wall : WallClock) : (utc wall).astimezoneUtc = .ok wall :=
  (astimezoneUtc_eq_ok _ _).mpr (instant_utc wall).symm

/-- The same instant given in UTC, where UTC can express it. -/
def inUtc (d : DateTime) : DateTime :=
  match d.astimezoneUtc with
  | .ok wall => utc wall
  | .error _ => d

@[simp] theorem instant_inUtc (d : DateTime) : d.inUtc.instant = d.instant := by
  unfold inUtc
  cases converted : d.astimezoneUtc with
  | ok wall =>
      show (utc wall).instant = d.instant
      rw [instant_utc]
      exact (astimezoneUtc_eq_ok d wall).mp converted
  | error _ => rfl

theorem isAware_inUtc {d : DateTime} (aware : d.isAware = true) : d.inUtc.isAware = true := by
  unfold inUtc
  cases d.astimezoneUtc with
  | ok wall => rfl
  | error _ => exact aware

theorem inUtc_of_ok {d : DateTime} {wall : WallClock} (converted : d.astimezoneUtc = .ok wall) :
    d.inUtc = utc wall := by
  rw [inUtc, converted]

theorem utcRepresentable_of_ok {d : DateTime} {wall : WallClock}
    (converted : d.astimezoneUtc = .ok wall) : d.UtcRepresentable := by
  have instant := (astimezoneUtc_eq_ok d wall).mp converted
  have below := wall.inRange
  exact ⟨by omega, by omega⟩

theorem utcRepresentable_utc (wall : WallClock) : (utc wall).UtcRepresentable := by
  have := wall.inRange
  rw [UtcRepresentable, instant_utc]
  omega

end DateTime

end Python
end HermesSentinel
