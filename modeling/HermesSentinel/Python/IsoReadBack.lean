import HermesSentinel.Python.IsoFormat

namespace HermesSentinel
namespace Python

open Foundation
open FixedWidth

/-!
# Timestamps of any offset, read back

What `DateTime.isoformat` writes shows the wall clock and the offset to the
microsecond, so a reader of the text knows both.  `Stamp` is what it shows.
-/

/-- A wall clock with its offset, if there is one. -/
structure Stamp where
  wall : WallClock
  offset : Option Offset
  deriving DecidableEq

def DateTime.stamp (d : DateTime) : Stamp where
  wall := d.wall
  offset := d.tzinfo.bind TzInfo.utcoffset

/-- The seconds and microseconds of an offset, where they are written. -/
def readFine (s : Text) : Option (Nat × Nat) :=
  if s = [] then some (0, 0)
  else do
    let s ← expect (codePoint ':') s
    let (seconds, s) ← readField 2 s
    let (micros, s) ← readFraction s
    if s = [] then some (seconds, micros) else none

def offsetOfMicros (micros : Int) : Option Offset :=
  if bounded : -(microsPerDay : Int) < micros ∧ micros < microsPerDay then some ⟨micros, bounded⟩
  else none

/-- What `formatOffset` writes, or nothing. -/
def readFineOffset (s : Text) : Option (Option Offset) :=
  match s with
  | [] => some none
  | mark :: s => do
      let (hours, s) ← readField 2 s
      let s ← expect (codePoint ':') s
      let (minutes, s) ← readField 2 s
      let (seconds, micros) ← readFine s
      let size : Int := (((hours * 60 + minutes) * 60 + seconds) * microsPerSecond + micros : Nat)
      let offset ← offsetOfMicros (if mark = codePoint '-' then -size else size)
      some (some offset)

def readStamp (s : PyStr) : Option Stamp := do
  let (year, s) ← readField 4 s
  let s ← expect (codePoint '-') s
  let (month, s) ← readField 2 s
  let s ← expect (codePoint '-') s
  let (day, s) ← readField 2 s
  let s ← expect (codePoint 'T') s
  let (hour, s) ← readField 2 s
  let s ← expect (codePoint ':') s
  let (minute, s) ← readField 2 s
  let s ← expect (codePoint ':') s
  let (second, s) ← readField 2 s
  let (micro, s) ← readFraction s
  let offset ← readFineOffset s
  let wall ← wallOf ⟨year, month, day⟩ hour minute second micro
  some { wall, offset }

theorem readFraction_other {s : Text} (other : s.head? ≠ some (codePoint '.')) :
    readFraction s = some (0, s) := by
  have refused : expect (codePoint '.') s = none := by
    cases s with
    | nil => rfl
    | cons head rest =>
        have different : head ≠ codePoint '.' := fun same => other (congrArg some same)
        exact if_neg different
  rw [readFraction, refused]

theorem readFraction_point {n : Nat} (bounded : n < 1000000) (rest : Text) :
    readFraction (codePoint '.' :: (numeral digit 6 n ++ rest)) = some (n, rest) := by
  rw [readFraction, expect_cons]
  exact readField_numeral bounded rest

/-- The finer part of an offset. -/
theorem readFine_written {seconds micros : Nat} (small : seconds < 60) (below : micros < 1000000) :
    readFine (if seconds = 0 ∧ micros = 0 then []
      else codePoint ':' :: (numeral digit 2 seconds ++
        (if micros = 0 then [] else codePoint '.' :: numeral digit 6 micros))) =
      some (seconds, micros) := by
  by_cases whole : seconds = 0 ∧ micros = 0
  · rw [if_pos whole, whole.1, whole.2]
    rfl
  · rw [if_neg whole, readFine, if_neg (List.cons_ne_nil _ _), expect_bind,
      readField_bind (Nat.lt_trans small (by decide))]
    by_cases even : micros = 0
    · rw [if_pos even, even]
      rfl
    · have read := readFraction_point below []
      rw [List.append_nil] at read
      simp only [if_neg even, read, Option.bind_eq_bind, Option.bind_some, if_true]

theorem readFineOffset_formatOffset (offset : Offset) :
    readFineOffset (formatOffset offset) = some (some offset) := by
  rcases offset with ⟨micros, bounded⟩
  have day : microsPerDay = 86400 * 1000000 := rfl
  generalize sized : micros.natAbs = size
  have below : size < 86400 * 1000000 := by omega
  have hours : size / 1000000 / 3600 < 10 ^ 2 := by omega
  have minutes : size / 1000000 / 60 % 60 < 10 ^ 2 := by omega
  have seconds : size / 1000000 % 60 < 60 := Nat.mod_lt _ (by decide)
  have fine : size % 1000000 < 1000000 := Nat.mod_lt _ (by decide)
  have whole : ((size / 1000000 / 3600 * 60 + size / 1000000 / 60 % 60) * 60 + size / 1000000 % 60) *
      1000000 + size % 1000000 = size := by omega
  unfold readFineOffset formatOffset
  simp only [sized, microsPerSecond]
  rw [readField_bind hours, expect_bind, readField_bind minutes, readFine_written seconds fine]
  simp only [Option.bind_eq_bind, Option.bind_some, whole]
  have signed : (if codePoint (if micros < 0 then '-' else '+') = codePoint '-' then -(size : Int)
      else size) = micros := by
    by_cases negative : micros < 0
    · rw [if_pos negative, if_pos rfl]
      omega
    · rw [if_neg negative, if_neg (by decide)]
      omega
  rw [signed, offsetOfMicros, dif_pos bounded]
  rfl

/-- No text of an offset begins with a point. -/
theorem head_offset (offset : Option Offset) :
    ((offset.map formatOffset).getD []).head? ≠ some (codePoint '.') := by
  cases offset with
  | none => exact nofun
  | some offset =>
      rw [Option.map_some, Option.getD_some, formatOffset, List.head?_cons]
      split
      · decide
      · decide

theorem readFraction_written (d : DateTime) :
    readFraction (isoformatFraction d.wall ++ (d.stamp.offset.map formatOffset).getD []) =
      some (fraction d.wall, (d.stamp.offset.map formatOffset).getD []) := by
  unfold isoformatFraction
  by_cases zero : fraction d.wall = 0
  · rw [if_pos zero, zero, List.nil_append, readFraction_other (head_offset _)]
  · rw [if_neg zero, List.cons_append, readFraction_point (fraction_lt d.wall)]

theorem readFineOffset_written (offset : Option Offset) :
    readFineOffset ((offset.map formatOffset).getD []) = some offset := by
  cases offset with
  | none => rfl
  | some offset => exact readFineOffset_formatOffset offset

/-- The text of a value shows its wall clock and its offset. -/
theorem readStamp_isoformat (d : DateTime) : readStamp d.isoformat = some d.stamp := by
  have day := secondsOfDay_lt d.wall
  have small := Calendar.dateOf_small (d.wall.micros / microsPerDay)
  have year : (date d.wall).year < 10 ^ 4 := date_year_lt d.wall
  have month : (date d.wall).month < 10 ^ 2 := Nat.lt_of_le_of_lt small.1 (by decide)
  have dayOfMonth : (date d.wall).day < 10 ^ 2 := Nat.lt_of_le_of_lt small.2 (by decide)
  have hour : secondsOfDay d.wall / 3600 < 10 ^ 2 := by omega
  have minute : secondsOfDay d.wall / 60 % 60 < 10 ^ 2 := by omega
  have second : secondsOfDay d.wall % 60 < 10 ^ 2 := by omega
  have rest : d.isoformat = isoformatSeconds d.wall ++ (isoformatFraction d.wall ++
    (d.stamp.offset.map formatOffset).getD []) := rfl
  rw [rest]
  unfold readStamp isoformatSeconds
  simp only [List.append_assoc, List.cons_append]
  rw [readField_bind year, expect_bind, readField_bind month, expect_bind, readField_bind dayOfMonth,
    expect_bind, readField_bind hour, expect_bind, readField_bind minute, expect_bind,
    readField_bind second, readFraction_written]
  simp only [Option.bind_eq_bind, Option.bind_some, readFineOffset_written]
  show (wallOf (date d.wall) _ _ _ _).bind _ = _
  rw [wallOf_fields]
  rfl

end Python
end HermesSentinel
