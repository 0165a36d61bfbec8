import HermesSentinel.Reporter.Collector
import Mathlib.Tactic.Linarith

namespace HermesSentinel
namespace Reporter

open Foundation
open Foundation.Awk
open Foundation.Decimal

/-!
# What the parsers print

Whatever a parser reads, what it prints are the numerals of measurements within
the bounds of the domain: the gates at the end of each program see to that.
The shell reads these numerals back as the words they are.
-/

theorem finiteLimit_pos : 0 < finiteLimit := by
  unfold finiteLimit
  positivity

/-- A number from zero to a bound. -/
structure Bounded (bound : Nat) where
  value : ℚ
  nonneg : 0 ≤ value
  within : value ≤ bound

abbrev Gauge := Bounded finiteLimit

abbrev Percent := Bounded 100

/-- The usage of a resource; one that is absent is not used. -/
structure Usage where
  used : Nat
  total : Nat
  percent : Percent
  within : used ≤ total
  finite : total < finiteLimit
  absent : total = 0 -> percent.value = 0

def Usage.line (usage : Usage) : Text :=
  usageLine usage.used usage.total usage.percent.value

theorem uptimeRule_nonneg {number : Nat} {record : List Text} {state next : Option ℚ}
    (accepted : uptimeRule number record state = some next) : forall q, next = some q -> 0 ≤ q := by
  intro q found
  unfold uptimeRule at accepted
  split at accepted
  · cases accepted
  · split at accepted
    · cases accepted
    · rename_i shape
      rw [not_or, Bool.not_eq_false] at shape
      cases accepted
      cases found
      exact value_nonneg shape.2

theorem parseUptime_prints {content out : Text} (parsed : parseUptime content = some out) :
    exists uptime : Gauge, out = line (fixed 2 uptime.value) := by
  unfold parseUptime at parsed
  simp only [Option.bind_eq_bind, Option.bind_eq_some_iff] at parsed
  rcases parsed with ⟨found, ran, q, isFound, printed⟩
  have nonneg : forall q, found = some q -> 0 ≤ q :=
    run_invariant (fun _ _ _ _ _ accepted => uptimeRule_nonneg accepted)
      (by intro q impossible; cases impossible) ran
  split at printed
  · rename_i small
    cases printed
    exact ⟨⟨q, nonneg q isFound, small.le⟩, rfl⟩
  · cases printed

def Load.Nonneg (load : Load) : Prop :=
  0 ≤ load.one ∧ 0 ≤ load.five ∧ 0 ≤ load.fifteen

theorem loadRule_nonneg {number : Nat} {record : List Text} {state next : Option Load}
    (accepted : loadRule number record state = some next) :
    forall load, next = some load -> load.Nonneg := by
  intro load found
  unfold loadRule at accepted
  split at accepted
  · cases accepted
  · split at accepted
    · cases accepted
    · split at accepted
      · cases accepted
      · rename_i numerals
        rw [Bool.not_eq_false] at numerals
        have numeral := List.all_eq_true.mp numerals
        cases accepted
        cases found
        exact ⟨value_nonneg (numeral 1 (by decide)), value_nonneg (numeral 2 (by decide)),
          value_nonneg (numeral 3 (by decide))⟩

theorem parseLoadavg_prints {content out : Text} (parsed : parseLoadavg content = some out) :
    exists one five fifteen : Gauge,
      out = triple (fixed 2 one.value) (fixed 2 five.value) (fixed 2 fifteen.value) := by
  unfold parseLoadavg at parsed
  simp only [Option.bind_eq_bind, Option.bind_eq_some_iff] at parsed
  rcases parsed with ⟨found, ran, load, isFound, printed⟩
  have nonneg : forall load, found = some load -> load.Nonneg :=
    run_invariant (fun _ _ _ _ _ accepted => loadRule_nonneg accepted)
      (by intro load impossible; cases impossible) ran
  split at printed
  · rename_i small
    cases printed
    have signs := nonneg load isFound
    exact ⟨⟨load.one, signs.1, small.1.le⟩, ⟨load.five, signs.2.1, small.2.1.le⟩,
      ⟨load.fifteen, signs.2.2, small.2.2.le⟩, rfl⟩
  · cases printed

theorem computeCpuPercent_prints {cpuA cpuB out : Text} (computed : computeCpuPercent cpuA cpuB = some out) :
    exists percent : Percent, out = line (fixed 2 percent.value) := by
  unfold computeCpuPercent at computed
  simp only [Option.bind_eq_bind, Option.bind_eq_some_iff] at computed
  rcases computed with ⟨samples, _, a, _, b, _, printed⟩
  split at printed
  · rename_i gates
    cases printed
    exact ⟨⟨cpuPercent a b, gates.2.2.1, by exact_mod_cast gates.2.2.2⟩, rfl⟩
  · cases printed

/-- What is printed of a memory is a usage in bytes. -/
theorem usageLine_kibibytes {total rest : Nat} {percent : ℚ} (le : rest ≤ total) (present : total ≠ 0)
    (finite : (total : ℚ) * 1024 < finiteLimit) (nonneg : 0 ≤ percent) (within : percent ≤ 100) :
    exists usage : Usage, usageLine ((total - rest) * 1024) (total * 1024) percent = usage.line := by
  have usedBytes : ((total : ℚ) - rest) * 1024 = ((total - rest) * 1024 : Nat) := by
    rw [Nat.cast_mul, Nat.cast_sub le, Nat.cast_ofNat]
  have totalBytes : (total : ℚ) * 1024 = (total * 1024 : Nat) := by
    rw [Nat.cast_mul, Nat.cast_ofNat]
  have bounded : total * 1024 < finiteLimit := by
    rw [totalBytes] at finite
    exact Nat.cast_lt.mp finite
  refine ⟨{
    used := (total - rest) * 1024
    total := total * 1024
    percent := ⟨percent, nonneg, by exact_mod_cast within⟩
    within := Nat.mul_le_mul_right _ (Nat.sub_le _ _)
    finite := bounded
    absent := fun none => by omega }, ?_⟩
  rw [usedBytes, totalBytes]
  rfl

theorem parseRamUsage_prints {content out : Text} (parsed : parseRamUsage content = some out) :
    exists usage : Usage, out = usage.line := by
  unfold parseRamUsage at parsed
  simp only [Option.bind_eq_bind, Option.bind_eq_some_iff] at parsed
  rcases parsed with ⟨values, _, memTotal, _, memAvailable, _, printed⟩
  split at printed
  · rename_i positive
    split at printed
    · rename_i gates
      rcases gates with ⟨usedNonneg, _, totalFinite, _, percentNonneg, percentWithin⟩
      have available : memAvailable ≤ memTotal := by
        have difference : (0 : ℚ) ≤ memTotal - memAvailable := by linarith
        exact_mod_cast sub_nonneg.mp difference
      rcases usageLine_kibibytes available (Nat.ne_of_gt positive) totalFinite percentNonneg
        percentWithin with ⟨usage, same⟩
      cases printed
      exact ⟨usage, same⟩
    · cases printed
  · cases printed

theorem parseSwapUsage_prints {content out : Text} (parsed : parseSwapUsage content = some out) :
    exists usage : Usage, out = usage.line := by
  unfold parseSwapUsage at parsed
  simp only [Option.bind_eq_bind, Option.bind_eq_some_iff] at parsed
  rcases parsed with ⟨values, _, swapTotal, _, swapFree, _, printed⟩
  split at printed
  · cases printed
  · rename_i free
    split at printed
    · split at printed
      · cases printed
        refine ⟨{
          used := 0
          total := 0
          percent := ⟨0, le_refl 0, Nat.cast_nonneg 100⟩
          within := le_refl 0
          finite := finiteLimit_pos
          absent := fun _ => rfl }, ?_⟩
        rw [Usage.line, Nat.cast_zero]
      · cases printed
    · rename_i present
      split at printed
      · rename_i gates
        rcases gates with ⟨totalFinite, _, percentNonneg, percentWithin⟩
        rcases usageLine_kibibytes (Nat.not_lt.mp free) present totalFinite percentNonneg
          percentWithin with ⟨usage, same⟩
        cases printed
        exact ⟨usage, same⟩
      · cases printed

theorem rootRule_prints {mode : DfMode} {number : Nat} {record : List Text} {state next : Option Text}
    (holds : forall out, state = some out -> exists usage : Usage, out = usage.line)
    (accepted : rootRule mode number record state = some next) :
    forall out, next = some out -> exists usage : Usage, out = usage.line := by
  intro out found
  unfold rootRule at accepted
  split at accepted
  · split at accepted
    · cases accepted
      exact holds out found
    · cases accepted
  · dsimp only at accepted
    split at accepted
    · cases accepted
    · split at accepted
      · rename_i gates
        rcases gates with ⟨totalFinite, _, _, within, _, percentNonneg, percentWithin⟩
        cases accepted
        cases found
        refine ⟨{
          used := decimalValue (field record 3)
          total := decimalValue (field record 2)
          percent := ⟨_, percentNonneg, by exact_mod_cast percentWithin⟩
          within := within
          finite := totalFinite
          absent := ?_ }, rfl⟩
        intro none
        show dfPercent _ _ = 0
        rw [dfPercent, if_neg (by omega)]
      · cases accepted

theorem parseRootUsage_prints {mode : DfMode} {content out : Text}
    (parsed : parseRootUsage mode content = some out) : exists usage : Usage, out = usage.line := by
  unfold parseRootUsage at parsed
  simp only [Option.bind_eq_bind, Option.bind_eq_some_iff] at parsed
  rcases parsed with ⟨printed, ran, isPrinted⟩
  have usages : forall out, printed = some out -> exists usage : Usage, out = usage.line :=
    run_invariant (fun _ _ _ _ holds accepted => rootRule_prints holds accepted)
      (by intro out impossible; cases impossible) ran
  exact usages out isPrinted

/-- Nothing in the text is lost in a command substitution. -/
def Clean (s : Text) : Prop :=
  forall c, c ∈ s -> c.val ≠ 0 ∧ c ≠ newline

instance (s : Text) : Decidable (Clean s) :=
  decidable_of_iff (s.all (fun c => decide (c.val ≠ 0 ∧ c ≠ newline)) = true) (by
    simp only [List.all_eq_true, decide_eq_true_eq, Clean])

theorem clean_of_simple {s : Text} (simple : Json.SimpleString s) : Clean s := by
  intro c member
  have range := of_decide_eq_true (simple c member)
  constructor
  · omega
  · rintro rfl
    exact absurd range.1 (by decide)

theorem clean_append {s t : Text} (first : Clean s) (last : Clean t) : Clean (s ++ t) := by
  intro c member
  rcases List.mem_append.mp member with own | own
  · exact first c own
  · exact last c own

theorem commandSubstitution_line {s : Text} (clean : Clean s) : commandSubstitution (line s) = s := by
  have kept : (line s).filter (fun c => decide (c.val ≠ 0)) = line s := by
    apply List.filter_eq_self.mpr
    intro c member
    rcases List.mem_append.mp member with own | last
    · exact decide_eq_true (clean c own).1
    · rw [List.mem_singleton.mp last]
      decide
  rw [commandSubstitution, kept, line, List.rdropWhile_concat_pos _ _ _ (by decide)]
  apply List.rdropWhile_eq_self_iff.mpr
  intro nonempty isNewline
  exact (clean _ (List.getLast_mem nonempty)).2 (of_decide_eq_true isNewline)

theorem isBlank_space : isBlank (codePoint ' ') = true := by
  decide

theorem readThree_words {first second third : Text} (one : IsWord first) (two : IsWord second)
    (three : IsWord third) (someFirst : first ≠ []) (someSecond : second ≠ []) (someThird : third ≠ []) :
    readThree (first ++ codePoint ' ' :: (second ++ codePoint ' ' :: third)) = (first, second, third) := by
  have oneLine : (first ++ codePoint ' ' :: (second ++ codePoint ' ' :: third)).takeWhile
      (fun c => decide (c ≠ newline)) = first ++ codePoint ' ' :: (second ++ codePoint ' ' :: third) := by
    apply List.takeWhile_eq_self_iff.mpr
    intro c member
    apply decide_eq_true
    rcases List.mem_append.mp member with inFirst | later
    · exact (one c inFirst).2
    rcases List.mem_cons.mp later with rfl | later
    · decide
    rcases List.mem_append.mp later with inSecond | later
    · exact (two c inSecond).2
    rcases List.mem_cons.mp later with rfl | inThird
    · decide
    · exact (three c inThird).2
  have thirdAlone : third.dropWhile isBlank = third := by
    have dropped := dropBlanks_word three someThird []
    rwa [List.append_nil] at dropped
  have noTrail : third.rdropWhile isBlank = third := by
    apply List.rdropWhile_eq_self_iff.mpr
    intro nonempty blank
    rw [(three _ (List.getLast_mem nonempty)).1] at blank
    cases blank
  unfold readThree
  dsimp only
  rw [oneLine, dropBlanks_word one someFirst, takeWhile_word one, dropWhile_word one,
    List.dropWhile_cons_of_pos isBlank_space, dropBlanks_word two someSecond, takeWhile_word two,
    dropWhile_word two, List.dropWhile_cons_of_pos isBlank_space, thirdAlone, noTrail]

theorem simple_fixed (places : Nat) (q : ℚ) : Json.SimpleString (fixed places q) :=
  simple_of_numeric (isNumberChar_fixed places q)

theorem isWord_fixed (places : Nat) (q : ℚ) : IsWord (fixed places q) :=
  isWord_of_numeric (isNumberChar_fixed places q)

/-- A line of three numerals is read back as they are. -/
theorem readThree_triple (first second third : Nat × ℚ) :
    readThree (commandSubstitution (triple (fixed first.1 first.2) (fixed second.1 second.2)
      (fixed third.1 third.2))) =
      (fixed first.1 first.2, fixed second.1 second.2, fixed third.1 third.2) := by
  have space : Json.isSimple (codePoint ' ') = true := by decide
  have simple := Json.simple_append (simple_fixed first.1 first.2) (Json.simple_cons space
    (Json.simple_append (simple_fixed second.1 second.2)
      (Json.simple_cons space (simple_fixed third.1 third.2))))
  rw [triple, commandSubstitution_line (clean_of_simple simple)]
  exact readThree_words (isWord_fixed _ _) (isWord_fixed _ _) (isWord_fixed _ _) (fixed_ne_nil _ _)
    (fixed_ne_nil _ _) (fixed_ne_nil _ _)

end Reporter
end HermesSentinel
