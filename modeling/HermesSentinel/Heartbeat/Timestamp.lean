import HermesSentinel.Foundation.Utf8
import HermesSentinel.Heartbeat.Record
import HermesSentinel.Python.IsoFormat

namespace HermesSentinel
namespace Heartbeat

open Python
open Foundation
open FixedWidth

/-!
# Stored timestamps

A timestamp is stored as the ISO text of its UTC value.  The database compares
these texts byte by byte, and that is the order of the instants, although the
fraction is left out when it is zero: the sign of the offset sorts before the
point of a fraction.
-/

def serializeTimestamp (value : DateTime) : Fallible PyStr := do
  requireAware "timestamp" value
  let wall ← value.astimezoneUtc
  .ok (isoformat wall)

def parseTimestamp (reader : IsoReader) (value : PyStr) : Fallible DateTime :=
  match reader.fromisoformat value with
  | none => raise .valueError "Invalid isoformat string"
  | some parsed => do
      require (parsed.isAware = true) "stored timestamp must be timezone-aware"
      .ok parsed

theorem serializeTimestamp_eq_ok {value : DateTime} {stored : PyStr} :
    serializeTimestamp value = .ok stored ↔ value.isAware = true ∧
      exists wall, value.astimezoneUtc = .ok wall ∧ stored = isoformat wall := by
  unfold serializeTimestamp requireAware
  rw [check_bind_eq_ok, require_eq_ok, bind_eq_ok]
  apply and_congr Iff.rfl
  apply exists_congr
  intro wall
  apply and_congr Iff.rfl
  rw [Except.ok.injEq]
  exact eq_comm

theorem parseTimestamp_isoformat (reader : IsoReader) (wall : WallClock) :
    parseTimestamp reader (isoformat wall) = .ok (DateTime.utc wall) := by
  rw [parseTimestamp, reader.inverts]
  rfl

/-- The first of two fields decides, and where it is equal the rest does. -/
theorem field_lt {width first second : Nat} {rest rest' : PyStr} (bounded : second < 10 ^ width)
    (lt : first < second ∨ (first = second ∧ rest < rest')) :
    numeral digit width first ++ rest < numeral digit width second ++ rest' := by
  rcases lt with smaller | ⟨rfl, later⟩
  · exact numeral_append_lt (fun _ _ => digit_lt_digit) rest rest' smaller bounded
  · exact append_lt_append_left _ later

theorem separated_lt {width first second : Nat} {separator : CodePoint} {rest rest' : PyStr}
    (bounded : second < 10 ^ width) (lt : first < second ∨ (first = second ∧ rest < rest')) :
    numeral digit width first ++ separator :: rest <
      numeral digit width second ++ separator :: rest' := by
  apply field_lt bounded
  apply lt.imp_right
  rintro ⟨same, later⟩
  exact ⟨same, append_lt_append_left [separator] later⟩

/-- The texts after the seconds are ordered like the fractions. -/
theorem fraction_text_lt {first second : WallClock} (lt : fraction first < fraction second) :
    isoformatFraction first ++ text "+00:00" < isoformatFraction second ++ text "+00:00" := by
  have present : fraction second ≠ 0 := by omega
  unfold isoformatFraction
  rw [if_neg present]
  split
  · -- Without a fraction the offset follows, and its sign is before the point.
    apply List.cons_lt_cons_iff.mpr
    left
    decide
  · apply append_lt_append_left [codePoint '.']
    have bounded : fraction second < 10 ^ 6 := fraction_lt second
    exact numeral_append_lt (fun _ _ => digit_lt_digit) _ _ lt bounded

/-- Hours, minutes and seconds are ordered like the second of the day. -/
theorem clock_before {first second : Nat} (lt : first < second) :
    first / 3600 < second / 3600 ∨ (first / 3600 = second / 3600 ∧
      (first / 60 % 60 < second / 60 % 60 ∨ (first / 60 % 60 = second / 60 % 60 ∧
        first % 60 < second % 60))) := by
  omega

/-- Earlier readings differ first in a field that is smaller. -/
theorem fields_before {first second : WallClock} (lt : first.micros < second.micros) :
    (date first).Before (date second) ∨ (date first = date second ∧
      (secondsOfDay first < secondsOfDay second ∨ (secondsOfDay first = secondsOfDay second ∧
        fraction first < fraction second))) := by
  have days := @Nat.div_le_div_right first.micros second.micros microsPerDay (Nat.le_of_lt lt)
  rcases Nat.lt_or_eq_of_le days with earlier | sameDay
  · exact .inl (Calendar.dateOf_before earlier)
  · right
    have sameDate : date first = date second := by
      rw [date, date, sameDay]
    have firstMicros := micros_eq first
    have secondMicros := micros_eq second
    have firstFraction := fraction_lt first
    have secondFraction := fraction_lt second
    rw [sameDate] at firstMicros
    simp only [microsPerSecond] at firstMicros secondMicros
    refine ⟨sameDate, ?_⟩
    omega

/-- Earlier readings have smaller texts. -/
theorem isoformat_lt {first second : WallClock} (lt : first.micros < second.micros) :
    isoformat first < isoformat second := by
  have inDay := secondsOfDay_lt second
  have small := Calendar.dateOf_small (second.micros / microsPerDay)
  have year : (date second).year < 10 ^ 4 := date_year_lt second
  have month : (date second).month < 10 ^ 2 := Nat.lt_of_le_of_lt small.1 (by decide)
  have day : (date second).day < 10 ^ 2 := Nat.lt_of_le_of_lt small.2 (by decide)
  have hour : secondsOfDay second / 3600 < 10 ^ 2 := by omega
  have minute : secondsOfDay second / 60 % 60 < 10 ^ 2 := by omega
  have inMinute : secondsOfDay second % 60 < 10 ^ 2 := by omega
  simp only [isoformat, isoformatSeconds, List.append_assoc, List.cons_append]
  apply separated_lt year
  rcases fields_before lt with earlierDate | ⟨sameDate, laterClock⟩
  · apply earlierDate.imp_right
    rintro ⟨sameYear, earlierMonth⟩
    refine ⟨sameYear, separated_lt month ?_⟩
    apply earlierMonth.imp_right
    rintro ⟨sameMonth, earlierDay⟩
    exact ⟨sameMonth, separated_lt day (.inl earlierDay)⟩
  · rw [sameDate]
    refine .inr ⟨rfl, separated_lt month (.inr ⟨rfl, separated_lt day (.inr ⟨rfl, ?_⟩)⟩)⟩
    apply separated_lt hour
    rcases laterClock with earlier | ⟨sameSecond, earlierFraction⟩
    · apply (clock_before earlier).imp_right
      rintro ⟨sameHour, earlierMinute⟩
      refine ⟨sameHour, separated_lt minute ?_⟩
      apply earlierMinute.imp_right
      rintro ⟨sameMinute, earlierSecond⟩
      exact ⟨sameMinute, field_lt inMinute (.inl earlierSecond)⟩
    · rw [sameSecond]
      refine .inr ⟨rfl, separated_lt minute (.inr ⟨rfl, field_lt inMinute (.inr ⟨rfl, ?_⟩)⟩)⟩
      exact fraction_text_lt earlierFraction

/-- The stored bytes of a timestamp. -/
def timestampBytes (wall : WallClock) : List Utf8.Byte :=
  (isoformat wall).flatMap Utf8.encodeChar

theorem ascii_isoformat (wall : WallClock) : forall c, c ∈ isoformat wall -> c.val < 0x80 := by
  intro c member
  have simple := of_decide_eq_true (simple_isoformat wall c member)
  omega

theorem encode_isoformat (wall : WallClock) :
    Utf8.encode .strict (isoformat wall) = some (timestampBytes wall) := by
  rcases Utf8.encode_ascii (ascii_isoformat wall) with ⟨bytes, encoded⟩
  unfold Utf8.encode at encoded ⊢
  split
  · rfl
  · rename_i refused
    rw [if_neg refused] at encoded
    cases encoded

theorem timestampBytes_lt {first second : WallClock} (lt : first.micros < second.micros) :
    timestampBytes first < timestampBytes second :=
  Utf8.flatMap_encodeChar_lt (ascii_isoformat first) (ascii_isoformat second) (isoformat_lt lt)

/-- The byte order of stored timestamps is the order of the instants. -/
theorem timestampBytes_le_iff (first second : WallClock) :
    timestampBytes first ≤ timestampBytes second ↔ first.micros ≤ second.micros := by
  constructor
  · intro le
    by_contra later
    exact absurd (timestampBytes_lt (Nat.lt_of_not_le later)) (not_lt_of_ge le)
  · intro le
    rcases Nat.lt_or_eq_of_le le with earlier | same
    · exact le_of_lt (timestampBytes_lt earlier)
    · have equal : first = second := by
        cases first
        cases second
        cases same
        rfl
      rw [equal]

end Heartbeat
end HermesSentinel
