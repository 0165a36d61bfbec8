import HermesSentinel.Foundation.Hysteresis
import HermesSentinel.Host.Evidence

namespace HermesSentinel
namespace Host

open Python
open Domain
open Foundation

/-!
# The host state resolver

`resolveHostState` folds one observation into the remembered resolution.  The
resolution carries two counters; `counters` reads them as a latch, and
`resolve_step` says that resolving an observation is one step of the latch and
that the state shown outside DOWN is the base state of that observation.
-/

structure HostStateResolutionFields where
  state : HostState
  downFailures : Int := 0
  recoverySuccesses : Int := 0
  deriving DecidableEq

def HostStateResolutionFields.postInit (f : HostStateResolutionFields) : Fallible Unit := do
  require (0 ≤ f.downFailures) "down_failures must be >= 0"
  require (0 ≤ f.recoverySuccesses) "recovery_successes must be >= 0"
  if f.state = .down then
    require (f.downFailures = 0) "down_failures must be 0 when state is DOWN"
  else
    require (f.recoverySuccesses = 0) "recovery_successes must be 0 when state is not DOWN"

structure HostStateResolution extends HostStateResolutionFields where
  accepted : toHostStateResolutionFields.postInit = .ok ()
  deriving DecidableEq

namespace HostStateResolution

def make (fields : HostStateResolutionFields) : Fallible HostStateResolution :=
  construct HostStateResolutionFields.postInit HostStateResolution.mk fields

/-- What the constructor has checked. -/
theorem counters_valid (r : HostStateResolution) :
    0 ≤ r.downFailures ∧ 0 ≤ r.recoverySuccesses ∧
      (r.state = .down -> r.downFailures = 0) ∧ (r.state ≠ .down -> r.recoverySuccesses = 0) := by
  have accepted := r.accepted
  simp only [HostStateResolutionFields.postInit, check_bind_eq_ok, require_eq_ok] at accepted
  refine ⟨accepted.1, accepted.2.1, ?_, ?_⟩
  · intro down
    rw [if_pos down] at accepted
    exact (require_eq_ok _ _).mp accepted.2.2
  · intro notDown
    rw [if_neg notDown] at accepted
    exact (require_eq_ok _ _).mp accepted.2.2

theorem make_down {successes : Int} (nonneg : 0 ≤ successes) :
    exists r, make { state := .down, downFailures := 0, recoverySuccesses := successes } = .ok r ∧
      r.toHostStateResolutionFields =
        { state := .down, downFailures := 0, recoverySuccesses := successes } := by
  refine ⟨_, construct_ok HostStateResolution.mk ?_, rfl⟩
  simp [HostStateResolutionFields.postInit, nonneg]

theorem make_notDown {state : HostState} (notDown : state ≠ .down) {failures : Int}
    (nonneg : 0 ≤ failures) :
    exists r, make { state := state, downFailures := failures, recoverySuccesses := 0 } = .ok r ∧
      r.toHostStateResolutionFields =
        { state := state, downFailures := failures, recoverySuccesses := 0 } := by
  refine ⟨_, construct_ok HostStateResolution.mk ?_, rfl⟩
  simp [HostStateResolutionFields.postInit, nonneg, notDown]

end HostStateResolution

def baseState (freshness : HeartbeatFreshness) (resources : ResourceAssessment)
    (reachability : TcpReachability) : HostState :=
  if freshness = .fresh ∧ reachability = .reachable ∧ resources.isBreached = false then .healthy
  else .degraded

def isDownObservation (freshness : HeartbeatFreshness) (reachability : TcpReachability) : Bool :=
  decide ((freshness = .missing ∨ freshness = .stale) ∧ reachability = .unreachable)

/-- Confirmed DOWN: only the recovery streak leaves it. -/
def holdDown (recoverySuccesses : Int) (freshness : HeartbeatFreshness)
    (resources : ResourceAssessment) (reachability : TcpReachability)
    (settings : ExternalCheckSettings) : Fallible HostStateResolution :=
  if reachability = .unreachable then
    HostStateResolution.make { state := .down, downFailures := 0, recoverySuccesses := 0 }
  else
    let successes := recoverySuccesses + 1
    if settings.recoveryConfirmations ≤ successes then
      HostStateResolution.make {
        state := baseState freshness resources reachability
        downFailures := 0
        recoverySuccesses := 0 }
    else
      HostStateResolution.make {
        state := .down
        downFailures := 0
        recoverySuccesses := successes }

/-- Not in confirmed DOWN: the debounce of the qualifying observations. -/
def debounceDown (downFailures : Int) (freshness : HeartbeatFreshness)
    (resources : ResourceAssessment) (reachability : TcpReachability)
    (settings : ExternalCheckSettings) : Fallible HostStateResolution :=
  if isDownObservation freshness reachability = true then
    let failures := downFailures + 1
    if settings.downConfirmations ≤ failures then
      HostStateResolution.make { state := .down, downFailures := 0, recoverySuccesses := 0 }
    else
      HostStateResolution.make {
        state := .degraded
        downFailures := failures
        recoverySuccesses := 0 }
  else
    HostStateResolution.make {
      state := baseState freshness resources reachability
      downFailures := 0
      recoverySuccesses := 0 }

def resolveHostState (previous : Option HostStateResolution) (freshness : HeartbeatFreshness)
    (resources : ResourceAssessment) (reachability : TcpReachability)
    (settings : ExternalCheckSettings) : Fallible HostStateResolution :=
  match previous with
  | none => debounceDown 0 freshness resources reachability settings
  | some previous =>
      if previous.state = .down then
        holdDown previous.recoverySuccesses freshness resources reachability settings
      else
        debounceDown previous.downFailures freshness resources reachability settings

/-- The evidence of one evaluation, as the resolver consumes it. -/
structure Observation where
  freshness : HeartbeatFreshness
  resources : ResourceAssessment
  reachability : TcpReachability
  deriving DecidableEq

def resolveObservation (settings : ExternalCheckSettings) (previous : Option HostStateResolution)
    (o : Observation) : Fallible HostStateResolution :=
  resolveHostState previous o.freshness o.resources o.reachability settings

/-- Resolve one observation after the other, starting without memory. -/
def resolveAll (settings : ExternalCheckSettings) (observations : List Observation) :
    Fallible (Option HostStateResolution) :=
  observations.foldlM (fun previous o => do
    let resolution ← resolveObservation settings previous o
    .ok (some resolution)) none

theorem resolveAll_concat (settings : ExternalCheckSettings) (observations : List Observation)
    (newest : Observation) :
    resolveAll settings (observations ++ [newest]) = (do
      let previous ← resolveAll settings observations
      let resolution ← resolveObservation settings previous newest
      .ok (some resolution)) := by
  unfold resolveAll
  rw [List.foldlM_append]
  apply bind_congr
  intro previous
  rw [List.foldlM_cons]
  cases resolveObservation settings previous newest <;> rfl

/-! ## The resolver as a latch -/

/-- The part of an observation that decides about DOWN. -/
def Observation.signals (o : Observation) : HeartbeatFreshness × TcpReachability :=
  (o.freshness, o.reachability)

def latch (settings : ExternalCheckSettings) :
    Hysteresis (HeartbeatFreshness × TcpReachability) where
  trips := fun signals => isDownObservation signals.1 signals.2
  clears := fun signals => decide (signals.2 = .reachable)
  tripAfter := settings.downConfirmations.toNat
  clearAfter := settings.recoveryConfirmations.toNat
  tripAfterPositive := by
    have := settings.confirmations
    omega
  clearAfterPositive := by
    have := settings.confirmations
    omega
  exclusive := by
    intro signals trips
    have unreachable := (of_decide_eq_true trips).2
    rw [unreachable]
    rfl

/-- The counters of a resolution. -/
def counters : Option HostStateResolution -> Latch
  | none => .released 0
  | some r => if r.state = .down then .held r.recoverySuccesses.toNat else .released r.downFailures.toNat

theorem counters_of_down {r : HostStateResolution} (down : r.state = .down) :
    counters (some r) = .held r.recoverySuccesses.toNat :=
  if_pos down

theorem counters_of_notDown {r : HostStateResolution} (notDown : r.state ≠ .down) :
    counters (some r) = .released r.downFailures.toNat :=
  if_neg notDown

theorem baseState_ne_down (freshness : HeartbeatFreshness) (resources : ResourceAssessment)
    (reachability : TcpReachability) : baseState freshness resources reachability ≠ .down := by
  unfold baseState
  split
  · exact HostState.noConfusion
  · exact HostState.noConfusion

theorem baseState_of_isDownObservation {freshness : HeartbeatFreshness}
    {reachability : TcpReachability} (qualifies : isDownObservation freshness reachability = true)
    (resources : ResourceAssessment) : baseState freshness resources reachability = .degraded := by
  have unreachable := (of_decide_eq_true qualifies).2
  unfold baseState
  rw [if_neg]
  rintro ⟨_, reachable, _⟩
  rw [unreachable] at reachable
  cases reachable

section

variable (settings : ExternalCheckSettings)

/-- A resolution is one step of the latch from `before`, and outside DOWN it
shows the base state of the observation. -/
def ResolvedFrom (before : Latch) (o : Observation) (r : HostStateResolution) : Prop :=
  counters (some r) = (latch settings).step before o.signals ∧
    (r.state ≠ .down -> r.state = baseState o.freshness o.resources o.reachability)

theorem holdDown_step (o : Observation) {successes : Int} (nonneg : 0 ≤ successes) :
    exists r, holdDown successes o.freshness o.resources o.reachability settings = .ok r ∧
      ResolvedFrom settings (.held successes.toNat) o r := by
  have positive := settings.confirmations.2
  unfold holdDown
  split
  · rename_i unreachable
    rcases HostStateResolution.make_down (Int.le_refl 0) with ⟨r, made, fields⟩
    refine ⟨r, made, ?_, ?_⟩
    · simp [counters, fields, latch, Hysteresis.step, Observation.signals, unreachable]
    · simp [fields]
  · rename_i notUnreachable
    have reachable : o.reachability = .reachable := by
      cases found : o.reachability with
      | reachable => rfl
      | unreachable => exact absurd found notUnreachable
    have threshold : (latch settings).clearAfter ≤ successes.toNat + 1 ↔
        settings.recoveryConfirmations ≤ successes + 1 := by
      show settings.recoveryConfirmations.toNat ≤ successes.toNat + 1 ↔ _
      omega
    have stepped : (latch settings).step (.held successes.toNat) o.signals =
        if settings.recoveryConfirmations ≤ successes + 1 then .released 0
        else .held (successes.toNat + 1) := by
      simp only [Hysteresis.step, threshold]
      simp [latch, Observation.signals, reachable]
    simp only [ResolvedFrom, stepped]
    split
    · rcases HostStateResolution.make_notDown (baseState_ne_down o.freshness o.resources
        o.reachability) (Int.le_refl 0) with ⟨r, made, fields⟩
      refine ⟨r, made, ?_, ?_⟩
      · simp [counters, fields, baseState_ne_down]
      · intro _
        rw [fields]
    · rcases HostStateResolution.make_down (Int.add_nonneg nonneg Int.one_nonneg) with
        ⟨r, made, fields⟩
      refine ⟨r, made, ?_, ?_⟩
      · simp only [counters, fields, if_true, Latch.held.injEq]
        omega
      · simp [fields]

theorem debounceDown_step (o : Observation) {failures : Int} (nonneg : 0 ≤ failures) :
    exists r, debounceDown failures o.freshness o.resources o.reachability settings = .ok r ∧
      ResolvedFrom settings (.released failures.toNat) o r := by
  have positive := settings.confirmations.1
  unfold debounceDown
  split
  · rename_i qualifies
    have threshold : (latch settings).tripAfter ≤ failures.toNat + 1 ↔
        settings.downConfirmations ≤ failures + 1 := by
      show settings.downConfirmations.toNat ≤ failures.toNat + 1 ↔ _
      omega
    have stepped : (latch settings).step (.released failures.toNat) o.signals =
        if settings.downConfirmations ≤ failures + 1 then .held 0
        else .released (failures.toNat + 1) := by
      simp only [Hysteresis.step, threshold]
      simp [latch, Observation.signals, qualifies]
    simp only [ResolvedFrom, stepped]
    split
    · rcases HostStateResolution.make_down (Int.le_refl 0) with ⟨r, made, fields⟩
      refine ⟨r, made, ?_, ?_⟩
      · simp [counters, fields]
      · simp [fields]
    · rcases HostStateResolution.make_notDown (HostState.noConfusion : HostState.degraded ≠ .down)
        (Int.add_nonneg nonneg Int.one_nonneg) with ⟨r, made, fields⟩
      refine ⟨r, made, ?_, ?_⟩
      · have counted : (failures + 1).toNat = failures.toNat + 1 := by omega
        simp [counters, fields, counted]
      · intro _
        rw [fields, baseState_of_isDownObservation qualifies]
  · rename_i unqualified
    rcases HostStateResolution.make_notDown (baseState_ne_down o.freshness o.resources
      o.reachability) (Int.le_refl 0) with ⟨r, made, fields⟩
    refine ⟨r, made, ?_, ?_⟩
    · simp [counters, fields, baseState_ne_down, latch, Hysteresis.step, Observation.signals,
        unqualified]
    · intro _
      rw [fields]

/-- Resolving never fails and is a step of the latch. -/
theorem resolve_step (previous : Option HostStateResolution) (o : Observation) :
    exists r, resolveObservation settings previous o = .ok r ∧
      ResolvedFrom settings (counters previous) o r := by
  unfold resolveObservation resolveHostState
  cases previous with
  | none => exact debounceDown_step settings o (Int.le_refl 0)
  | some previous =>
      have valid := previous.counters_valid
      dsimp only [counters]
      split
      · exact holdDown_step settings o valid.2.1
      · exact debounceDown_step settings o valid.1

/-- A first observation enters DOWN only where one confirmation is enough. -/
theorem resolve_first_down {o : Observation} {r : HostStateResolution}
    (resolved : resolveObservation settings none o = .ok r) (down : r.state = .down) :
    settings.downConfirmations = 1 := by
  have positive := settings.confirmations.1
  rcases resolve_step settings none o with ⟨other, same, stepped, _⟩
  rw [resolved] at same
  cases same
  rw [counters_of_down down, counters, Hysteresis.step] at stepped
  split at stepped
  · split at stepped
    · rename_i reached
      have reached : settings.downConfirmations.toNat ≤ 0 + 1 := reached
      omega
    · cases stepped
  · cases stepped

/-- The counters of a whole run are those of the latch. -/
theorem resolveAll_counters (observations : List Observation) :
    exists memory, resolveAll settings observations = .ok memory ∧
      counters memory = (latch settings).run (observations.map Observation.signals) := by
  induction observations using List.reverseRecOn with
  | nil => exact ⟨none, rfl, rfl⟩
  | append_singleton earlier newest inductionHypothesis =>
      rcases inductionHypothesis with ⟨previous, resolved, counted⟩
      rcases resolve_step settings previous newest with ⟨r, ok, stepped, _⟩
      refine ⟨some r, ?_, ?_⟩
      · rw [resolveAll_concat, resolved, ok_bind, ok, ok_bind]
      · rw [stepped, counted, List.map_append, List.map_singleton, Hysteresis.run_concat]

/-- What is remembered after at least one observation. -/
theorem resolveAll_newest (earlier : List Observation) (newest : Observation) :
    exists r, resolveAll settings (earlier ++ [newest]) = .ok (some r) ∧
      counters (some r) = (latch settings).run ((earlier ++ [newest]).map Observation.signals) ∧
      (r.state ≠ .down -> r.state = baseState newest.freshness newest.resources
        newest.reachability) := by
  rcases resolveAll_counters settings earlier with ⟨previous, resolved, counted⟩
  rcases resolve_step settings previous newest with ⟨r, ok, stepped, shown⟩
  refine ⟨r, ?_, ?_, shown⟩
  · rw [resolveAll_concat, resolved, ok_bind, ok, ok_bind]
  · rw [stepped, counted, List.map_append, List.map_singleton, Hysteresis.run_concat]

theorem resolveAll_eq_none {observations : List Observation}
    (forgotten : resolveAll settings observations = .ok none) : observations = [] := by
  induction observations using List.reverseRecOn with
  | nil => rfl
  | append_singleton earlier newest _ =>
      rcases resolveAll_newest settings earlier newest with ⟨r, resolved, _⟩
      rw [resolved] at forgotten
      cases forgotten

end

end Host
end HermesSentinel
