import HermesSentinel.Host.Resolver

namespace HermesSentinel
namespace Host

open Python
open Domain
open Foundation

/-!
# The resolver as a property of the history

The resolver counts; an operator thinks in windows of observations.  DOWN is
shown by a stretch of qualifying observations that no stretch of reachable
probes has followed, and the counters are the lengths of the trailing runs.
The resource assessments occur in none of this.
-/

/-- A lost heartbeat together with a failed probe. -/
def Observation.Qualifies (o : Observation) : Prop :=
  (o.freshness = .missing ∨ o.freshness = .stale) ∧ o.reachability = .unreachable

instance (o : Observation) : Decidable o.Qualifies :=
  inferInstanceAs (Decidable (_ ∧ _))

/-- The probe of the observation succeeded. -/
def Observation.Reached (o : Observation) : Prop :=
  o.reachability = .reachable

instance (o : Observation) : Decidable o.Reached :=
  inferInstanceAs (Decidable (_ = _))

/-- Enough qualifying observations in a row, and since then never enough
reachable probes in a row. -/
def DownShown (settings : ExternalCheckSettings) (history : List Observation) : Prop :=
  exists earlier window recent, history = earlier ++ window ++ recent ∧
    (window.length : Int) = settings.downConfirmations ∧
    (forall o, o ∈ window -> o.Qualifies) ∧
    ¬ exists stretch, stretch <:+: recent ∧
      (stretch.length : Int) = settings.recoveryConfirmations ∧
      forall o, o ∈ stretch -> o.Reached

/-- The host is remembered as DOWN after these observations. -/
def DownAfter (settings : ExternalCheckSettings) (history : List Observation) : Prop :=
  exists r, resolveAll settings history = .ok (some r) ∧ r.state = .down

/-- What the resolution after a history, ending with `last`, has to say. -/
structure WindowResolution (settings : ExternalCheckSettings) (history : List Observation)
    (last : Observation) (r : HostStateResolution) : Prop where
  down : r.state = .down ↔ DownShown settings history
  healthy : r.state ≠ .down -> (r.state = .healthy ↔
    last.freshness = .fresh ∧ last.reachability = .reachable ∧ last.resources.breaches = [])
  degraded : r.state ≠ .down -> r.state ≠ .healthy -> r.state = .degraded
  noFailuresWhenDown : r.state = .down -> r.downFailures = 0
  failures : r.state ≠ .down ->
    r.downFailures = trailingRun (fun o => decide o.Qualifies) history
  failuresBelow : r.downFailures < settings.downConfirmations
  noSuccessesUnlessDown : r.state ≠ .down -> r.recoverySuccesses = 0
  entered : r.state = .down -> exists recent, HoldsSince (DownAfter settings) history recent
  successes : r.state = .down -> forall recent, HoldsSince (DownAfter settings) history recent ->
    r.recoverySuccesses = trailingRun (fun o => decide o.Reached) recent
  successesBelow : r.recoverySuccesses < settings.recoveryConfirmations
  resourcesIgnored : forall others otherResolution,
    others.map Observation.signals = history.map Observation.signals ->
      resolveAll settings others = .ok (some otherResolution) ->
        (otherResolution.state = .down ↔ r.state = .down)

section

variable (settings : ExternalCheckSettings)

/-- The latch on whole observations. -/
def observationLatch : Hysteresis Observation :=
  (latch settings).comap Observation.signals

theorem observationLatch_trips (o : Observation) :
    (observationLatch settings).trips o = decide o.Qualifies := rfl

theorem observationLatch_clears (o : Observation) :
    (observationLatch settings).clears o = decide o.Reached := rfl

/-- The windows of the latch are the windows of the specification. -/
theorem tripped_iff_downShown (history : List Observation) :
    (observationLatch settings).Tripped history ↔ DownShown settings history := by
  have positive := settings.confirmations
  have window (n : Nat) : n = (observationLatch settings).tripAfter ↔
      (n : Int) = settings.downConfirmations := by
    show n = settings.downConfirmations.toNat ↔ _
    omega
  have clearing (n : Nat) : n = (observationLatch settings).clearAfter ↔
      (n : Int) = settings.recoveryConfirmations := by
    show n = settings.recoveryConfirmations.toNat ↔ _
    omega
  simp only [Hysteresis.Tripped, HasRun, DownShown, window, clearing, observationLatch_trips,
    observationLatch_clears, decide_eq_true_eq]

/-- What the latch says about a resolution. -/
theorem latched_resolution {history : List Observation} {r : HostStateResolution}
    (counted : counters (some r) = (latch settings).run (history.map Observation.signals)) :
    (observationLatch settings).Latched history (counters (some r)) := by
  rw [counted, <- Hysteresis.run_comap]
  exact Hysteresis.latched_run (observationLatch settings) history

section

variable {settings} {history : List Observation} {r : HostStateResolution}
  (counted : counters (some r) = (latch settings).run (history.map Observation.signals))

include counted

theorem resolution_of_down (down : r.state = .down) :
    DownShown settings history ∧
      r.recoverySuccesses = trailingRun (fun o => decide o.Reached) history ∧
      r.recoverySuccesses < settings.recoveryConfirmations := by
  have latched := latched_resolution settings counted
  rw [counters_of_down down] at latched
  rcases latched with ⟨tripped, streak, below⟩
  have nonneg := r.counters_valid.2.1
  refine ⟨(tripped_iff_downShown settings history).mp tripped, ?_, ?_⟩
  · rw [<- Int.toNat_of_nonneg nonneg, streak]
    rfl
  · exact (Int.toNat_lt_toNat settings.confirmations.2).mp below

theorem resolution_of_notDown (notDown : r.state ≠ .down) :
    ¬ DownShown settings history ∧
      r.downFailures = trailingRun (fun o => decide o.Qualifies) history ∧
      r.downFailures < settings.downConfirmations := by
  have latched := latched_resolution settings counted
  rw [counters_of_notDown notDown] at latched
  rcases latched with ⟨untripped, streak, below⟩
  have nonneg := r.counters_valid.1
  refine ⟨fun shown => untripped ((tripped_iff_downShown settings history).mpr shown), ?_, ?_⟩
  · rw [<- Int.toNat_of_nonneg nonneg, streak]
    rfl
  · exact (Int.toNat_lt_toNat settings.confirmations.1).mp below

theorem resolution_down_iff : r.state = .down ↔ DownShown settings history := by
  constructor
  · intro down
    exact (resolution_of_down counted down).1
  · intro shown
    by_contra notDown
    exact (resolution_of_notDown counted notDown).1 shown

end

/-- A host is DOWN after exactly the histories that show it. -/
theorem downAfter_iff (history : List Observation) :
    DownAfter settings history ↔ DownShown settings history := by
  induction history using List.reverseRecOn with
  | nil =>
      rw [<- tripped_iff_downShown]
      constructor
      · rintro ⟨r, resolved, _⟩
        cases resolved
      · intro tripped
        have latched := Hysteresis.latched_run (observationLatch settings) []
        exact absurd tripped latched.1
  | append_singleton earlier newest _ =>
      rcases resolveAll_newest settings earlier newest with ⟨r, resolved, counted, _⟩
      have shown := resolution_down_iff counted
      constructor
      · rintro ⟨other, found, down⟩
        rw [resolved] at found
        cases found
        exact shown.mp down
      · intro history
        exact ⟨r, resolved, shown.mpr history⟩

/-- The recovery streak counts from the observation that entered DOWN. -/
theorem trailingRun_reached_since {history recent : List Observation}
    (since : HoldsSince (DownAfter settings) history recent) :
    trailingRun (fun o => decide o.Reached) history =
      trailingRun (fun o => decide o.Reached) recent := by
  have same : DownAfter settings = (observationLatch settings).Tripped := by
    funext history
    apply propext
    rw [downAfter_iff, tripped_iff_downShown]
  rw [same] at since
  exact Hysteresis.trailingRun_clears_since since

theorem baseState_eq_healthy (o : Observation) :
    baseState o.freshness o.resources o.reachability = .healthy ↔
      o.freshness = .fresh ∧ o.reachability = .reachable ∧ o.resources.breaches = [] := by
  have clear : o.resources.isBreached = false ↔ o.resources.breaches = [] := by
    simp [ResourceAssessment.isBreached]
  rw [<- clear]
  unfold baseState
  constructor
  · intro shown
    split at shown
    · assumption
    · cases shown
  · intro well
    exact if_pos well

/-- After every history the resolver has arrived at what its windows show. -/
theorem resolver_windows (earlier : List Observation) (last : Observation) :
    exists r, resolveAll settings (earlier ++ [last]) = .ok (some r) ∧
      WindowResolution settings (earlier ++ [last]) last r := by
  rcases resolveAll_newest settings earlier last with ⟨r, resolved, counted, base⟩
  have valid := r.counters_valid
  have positive := settings.confirmations
  have shown := resolution_down_iff counted
  refine ⟨r, resolved, ?_⟩
  constructor
  case down => exact shown
  case healthy =>
    intro notDown
    rw [base notDown]
    exact baseState_eq_healthy last
  case degraded =>
    intro notDown notHealthy
    cases state : r.state with
    | healthy => exact absurd state notHealthy
    | degraded => rfl
    | down => exact absurd state notDown
  case noFailuresWhenDown => exact valid.2.2.1
  case failures =>
    intro notDown
    exact (resolution_of_notDown counted notDown).2.1
  case failuresBelow =>
    by_cases down : r.state = .down
    · rw [valid.2.2.1 down]
      omega
    · exact (resolution_of_notDown counted down).2.2
  case noSuccessesUnlessDown => exact valid.2.2.2
  case entered =>
    intro down
    apply exists_holdsSince
    · rintro ⟨r, found, _⟩
      cases found
    · exact ⟨r, resolved, down⟩
  case successes =>
    intro down recent since
    rw [<- trailingRun_reached_since settings since]
    exact (resolution_of_down counted down).2.1
  case successesBelow =>
    by_cases down : r.state = .down
    · exact (resolution_of_down counted down).2.2
    · rw [valid.2.2.2 down]
      omega
  case resourcesIgnored =>
    intro others otherResolution sameSignals found
    rcases resolveAll_counters settings others with ⟨memory, otherResolved, otherCounted⟩
    rw [found] at otherResolved
    cases otherResolved
    -- Both runs move the latch through the same signals.
    have sameCounters : counters (some otherResolution) = counters (some r) := by
      rw [otherCounted, counted, sameSignals]
    constructor
    · intro otherDown
      by_contra notDown
      rw [counters_of_down otherDown, counters_of_notDown notDown] at sameCounters
      cases sameCounters
    · intro down
      by_contra otherNotDown
      rw [counters_of_down down, counters_of_notDown otherNotDown] at sameCounters
      cases sameCounters

end

end Host
end HermesSentinel
