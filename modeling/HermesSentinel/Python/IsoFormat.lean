import HermesSentinel.Foundation.JsonRoundTrip
import HermesSentinel.Python.DateTime

namespace HermesSentinel
namespace Python

/-!
# Timestamps as text

`isoformat` is `datetime.isoformat()` of a UTC value: the fraction has six
digits and is left out when it is zero.  `DateTime.isoformat` is that of any
value.  Reading goes through an `IsoReader`,
a `datetime.fromisoformat` of which only this much is assumed: it reads back
what `isoformat` writes.  It may accept any further spellings, which is how
two texts come to denote one instant.

`extendedFormat` is such a reader, for the extended calendar format of
ISO 8601.
-/

open Foundation
open FixedWidth

def secondsOfDay (wall : WallClock) : Nat :=
  wall.micros % microsPerDay / microsPerSecond

def fraction (wall : WallClock) : Nat :=
  wall.micros % microsPerSecond

def date (wall : WallClock) : Calendar.Date :=
  Calendar.dateOf (wall.micros / microsPerDay)

/-- The date and the time to the second, nineteen characters. -/
def isoformatSeconds (wall : WallClock) : PyStr :=
  numeral digit 4 (date wall).year ++ codePoint '-' ::
  (numeral digit 2 (date wall).month ++ codePoint '-' ::
  (numeral digit 2 (date wall).day ++ codePoint 'T' ::
  (numeral digit 2 (secondsOfDay wall / 3600) ++ codePoint ':' ::
  (numeral digit 2 (secondsOfDay wall / 60 % 60) ++ codePoint ':' ::
    numeral digit 2 (secondsOfDay wall % 60)))))

def isoformatFraction (wall : WallClock) : PyStr :=
  if fraction wall = 0 then [] else codePoint '.' :: numeral digit 6 (fraction wall)

/-- `value.isoformat()` of an aware value in UTC. -/
def isoformat (wall : WallClock) : PyStr :=
  isoformatSeconds wall ++ (isoformatFraction wall ++ text "+00:00")

/-- A `datetime.fromisoformat`, with `none` for its `ValueError`. -/
structure IsoReader where
  fromisoformat : PyStr -> Option DateTime
  inverts : forall wall, fromisoformat (isoformat wall) = some (DateTime.utc wall)

theorem secondsOfDay_lt (wall : WallClock) : secondsOfDay wall < 86400 := by
  have below : wall.micros % microsPerDay < 86400 * microsPerSecond :=
    Nat.mod_lt _ (by decide)
  exact Nat.div_lt_of_lt_mul (by rwa [Nat.mul_comm] at below)

theorem fraction_lt (wall : WallClock) : fraction wall < 1000000 :=
  Nat.mod_lt _ (by decide)

theorem date_year_lt (wall : WallClock) : (date wall).year < 10000 := by
  refine Calendar.yearOf_lt ?_
  exact Nat.div_lt_of_lt_mul (by rw [Nat.mul_comm]; exact wall.inRange)

/-- The fields of a reading determine it. -/
theorem micros_eq (wall : WallClock) :
    wall.micros = Calendar.dayNumber (date wall) * microsPerDay +
      secondsOfDay wall * microsPerSecond + fraction wall := by
  rw [date, Calendar.dayNumber_dateOf, secondsOfDay, fraction, microsPerDay]
  have days := Nat.div_add_mod wall.micros (86400 * microsPerSecond)
  have seconds := Nat.div_add_mod (wall.micros % (86400 * microsPerSecond)) microsPerSecond
  rw [Nat.mod_mul_left_mod] at seconds
  simp only [microsPerSecond] at *
  omega

theorem isSimple_digit : forall d, d < 10 -> Json.isSimple (digit d) = true := by
  decide +kernel

theorem simple_numeral (width n : Nat) : Json.SimpleString (numeral digit width n) := by
  intro c member
  rcases mem_numeral member with ⟨d, small, rfl⟩
  exact isSimple_digit d small

theorem simple_nil : Json.SimpleString [] := by
  intro c member
  cases member

theorem simple_isoformatSeconds (wall : WallClock) : Json.SimpleString (isoformatSeconds wall) := by
  have field : forall {width n : Nat} {c : CodePoint} {rest : Text}, Json.isSimple c = true ->
      Json.SimpleString rest -> Json.SimpleString (numeral digit width n ++ c :: rest) := by
    intro width n c rest separator simple
    exact Json.simple_append (simple_numeral width n) (Json.simple_cons separator simple)
  exact field rfl (field rfl (field rfl (field rfl (field rfl (simple_numeral 2 _)))))

theorem simple_isoformatFraction (wall : WallClock) : Json.SimpleString (isoformatFraction wall) := by
  rw [isoformatFraction]
  split
  · exact simple_nil
  · exact Json.simple_cons rfl (simple_numeral 6 _)

/-- A timestamp is written with characters that JSON leaves as they are. -/
theorem simple_isoformat (wall : WallClock) : Json.SimpleString (isoformat wall) :=
  Json.simple_append (simple_isoformatSeconds wall)
    (Json.simple_append (simple_isoformatFraction wall) (by decide))

/-- The offset as `isoformat` appends it: to the minute, unless it is finer. -/
def formatOffset (offset : Offset) : PyStr :=
  let size := offset.micros.natAbs
  let seconds := size / microsPerSecond
  codePoint (if offset.micros < 0 then '-' else '+') ::
    (numeral digit 2 (seconds / 3600) ++ codePoint ':' ::
      (numeral digit 2 (seconds / 60 % 60) ++
        (if seconds % 60 = 0 ∧ size % microsPerSecond = 0 then []
        else codePoint ':' :: (numeral digit 2 (seconds % 60) ++
          (if size % microsPerSecond = 0 then []
          else codePoint '.' :: numeral digit 6 (size % microsPerSecond))))))

/-- `value.isoformat()`. -/
def DateTime.isoformat (d : DateTime) : PyStr :=
  isoformatSeconds d.wall ++ (isoformatFraction d.wall ++
    ((d.tzinfo.bind TzInfo.utcoffset).map formatOffset).getD [])

theorem simple_formatOffset (offset : Offset) : Json.SimpleString (formatOffset offset) := by
  unfold formatOffset
  refine Json.simple_cons ?_ (Json.simple_append (simple_numeral 2 _) (Json.simple_cons rfl
    (Json.simple_append (simple_numeral 2 _) ?_)))
  · split
    · rfl
    · rfl
  · split
    · exact simple_nil
    · refine Json.simple_cons rfl (Json.simple_append (simple_numeral 2 _) ?_)
      split
      · exact simple_nil
      · exact Json.simple_cons rfl (simple_numeral 6 _)

theorem simple_dateTime (d : DateTime) : Json.SimpleString d.isoformat := by
  refine Json.simple_append (simple_isoformatSeconds _) (Json.simple_append (simple_isoformatFraction _) ?_)
  cases d.tzinfo.bind TzInfo.utcoffset with
  | none => exact simple_nil
  | some offset => exact simple_formatOffset offset

def expect (c : CodePoint) (s : Text) : Option Text :=
  match s with
  | [] => none
  | head :: rest => if head = c then some rest else none

/-- A number of exactly `width` digits. -/
def readField (width : Nat) (s : Text) : Option (Nat × Text) :=
  if (s.take width).length = width ∧ (s.take width).all isDigit = true then
    some (decimalValue (s.take width), s.drop width)
  else none

/-- Six digits after a point, or nothing. -/
def readFraction (s : Text) : Option (Nat × Text) :=
  match expect (codePoint '.') s with
  | some rest => readField 6 rest
  | none => some (0, s)

def offsetOf (sign : Int) (hours minutes : Nat) : Option Offset :=
  let micros : Int := sign * ((hours * 60 + minutes) * 60 * microsPerSecond : Nat)
  if bounded : minutes < 60 ∧ -(microsPerDay : Int) < micros ∧ micros < microsPerDay then
    some ⟨micros, bounded.2⟩
  else none

/-- What may follow the time: nothing, `Z`, or a signed offset. -/
def readOffset (s : Text) : Option (Option TzInfo) :=
  match s with
  | [] => some none
  | mark :: rest =>
      if mark = codePoint 'Z' then if rest = [] then some (some TzInfo.utc) else none
      else if mark = codePoint '+' ∨ mark = codePoint '-' then do
        let (hours, rest) ← readField 2 rest
        let rest ← expect (codePoint ':') rest
        let (minutes, rest) ← readField 2 rest
        let offset ← offsetOf (if mark = codePoint '+' then 1 else -1) hours minutes
        if rest = [] then some (some ⟨some offset⟩) else none
      else none

/-- The reading of a wall clock that the fields denote, if they are valid. -/
def wallOf (date : Calendar.Date) (hour minute second micro : Nat) : Option WallClock :=
  let micros := Calendar.dayNumber date * microsPerDay +
    ((hour * 60 + minute) * 60 + second) * microsPerSecond + micro
  if valid : Calendar.dateOf (Calendar.dayNumber date) = date ∧ hour < 24 ∧ minute < 60 ∧
      second < 60 ∧ micros < maxMicros then
    some ⟨micros, valid.2.2.2.2⟩
  else none

def readExtended (s : PyStr) : Option DateTime := do
  let (year, s) ← readField 4 s
  let s ← expect (codePoint '-') s
  let (month, s) ← readField 2 s
  let s ← expect (codePoint '-') s
  let (day, s) ← readField 2 s
  let s ← expect (codePoint 'T') s
  let (hour, s) ← readField 2 s
  let s ← expect (codePoint ':') s
  let (minute, s) ← readField 2 s
  let s ← expect (codePoint ':') s
  let (second, s) ← readField 2 s
  let (micro, s) ← readFraction s
  let tzinfo ← readOffset s
  let wall ← wallOf ⟨year, month, day⟩ hour minute second micro
  some { wall := wall, tzinfo := tzinfo }

theorem readField_numeral {width n : Nat} (bounded : n < 10 ^ width) (rest : Text) :
    readField width (numeral digit width n ++ rest) = some (n, rest) := by
  have length := numeral_length digit width n
  have digits : (numeral digit width n).all isDigit = true := by
    rw [List.all_eq_true]
    intro c member
    rcases mem_numeral member with ⟨d, _, rfl⟩
    exact isDigit_digit d
  have value : decimalValue (numeral digit width n) = n := by
    rw [decimalValue, foldl_numeral (fun d small => digitValue_digit small) width n 0 bounded]
    omega
  rw [readField, List.take_left' length, List.drop_left' length, if_pos ⟨length, digits⟩, value]

theorem expect_cons (c : CodePoint) (rest : Text) : expect c (c :: rest) = some rest :=
  if_pos rfl

theorem readFraction_isoformat (wall : WallClock) :
    readFraction (isoformatFraction wall ++ text "+00:00") = some (fraction wall, text "+00:00") := by
  unfold isoformatFraction
  by_cases zero : fraction wall = 0
  · rw [if_pos zero, zero]
    rfl
  · rw [if_neg zero, readFraction, List.cons_append, expect_cons]
    exact readField_numeral (fraction_lt wall) _

theorem wallOf_fields (wall : WallClock) :
    wallOf (date wall) (secondsOfDay wall / 3600) (secondsOfDay wall / 60 % 60)
      (secondsOfDay wall % 60) (fraction wall) = some wall := by
  have day := secondsOfDay_lt wall
  have clock : (secondsOfDay wall / 3600 * 60 + secondsOfDay wall / 60 % 60) * 60 +
      secondsOfDay wall % 60 = secondsOfDay wall := by omega
  have dated : Calendar.dateOf (Calendar.dayNumber (date wall)) = date wall := by
    rw [date, Calendar.dayNumber_dateOf]
  unfold wallOf
  simp only [clock, <- micros_eq]
  rw [dif_pos ⟨dated, by omega, by omega, by omega, wall.inRange⟩]

/-- A field that is written is taken off the text. -/
theorem readField_bind {α : Type} {width n : Nat} (bounded : n < 10 ^ width) (rest : Text)
    (next : Nat × Text -> Option α) :
    (readField width (numeral digit width n ++ rest) >>= next) = next (n, rest) := by
  rw [readField_numeral bounded]
  rfl

theorem expect_bind {α : Type} (c : CodePoint) (rest : Text) (next : Text -> Option α) :
    (expect c (c :: rest) >>= next) = next rest := by
  rw [expect_cons]
  rfl

theorem readExtended_isoformat (wall : WallClock) :
    readExtended (isoformat wall) = some (DateTime.utc wall) := by
  have day := secondsOfDay_lt wall
  have small := Calendar.dateOf_small (wall.micros / microsPerDay)
  have year : (date wall).year < 10 ^ 4 := date_year_lt wall
  have month : (date wall).month < 10 ^ 2 := Nat.lt_of_le_of_lt small.1 (by decide)
  have dayOfMonth : (date wall).day < 10 ^ 2 := Nat.lt_of_le_of_lt small.2 (by decide)
  have hour : secondsOfDay wall / 3600 < 10 ^ 2 := by omega
  have minute : secondsOfDay wall / 60 % 60 < 10 ^ 2 := by omega
  have second : secondsOfDay wall % 60 < 10 ^ 2 := by omega
  unfold readExtended isoformat isoformatSeconds
  simp only [List.append_assoc, List.cons_append]
  rw [readField_bind year, expect_bind, readField_bind month, expect_bind, readField_bind dayOfMonth,
    expect_bind, readField_bind hour, expect_bind, readField_bind minute, expect_bind,
    readField_bind second, readFraction_isoformat]
  have offset : readOffset (text "+00:00") = some (some TzInfo.utc) := by decide +kernel
  simp only [offset, Option.bind_eq_bind, Option.bind_some]
  show (wallOf (date wall) _ _ _ _).bind _ = _
  rw [wallOf_fields]
  rfl

/-- `datetime.fromisoformat` on the extended calendar format. -/
def extendedFormat : IsoReader where
  fromisoformat := readExtended
  inverts := readExtended_isoformat

end Python
end HermesSentinel
