import HermesSentinel.Foundation.Changes
import HermesSentinel.Host.Monitoring

namespace HermesSentinel
namespace Host

open Python
open Domain
open Foundation

/-!
# The alert stream

Per host the alerts are the changes of one signal: whether the host was
resolved DOWN by its committed evaluations, in order.  The invariant says so of
the world after any visit; that alerts alternate and what the first of them can
be are properties of changes in general.
-/

/-- The committed evaluations of a host, in order. -/
def evaluationsOf (w : MonitoringWorld) (host : PyStr) : List HostHealthEvaluation :=
  w.committed.filter (fun evaluation => decide (evaluation.host = host))

/-- Whether the host was DOWN, evaluation by evaluation. -/
def downSignal (w : MonitoringWorld) (host : PyStr) : List Bool :=
  (evaluationsOf w host).map (fun evaluation => decide (evaluation.resolution.state = .down))

/-- The kinds of the incidents of a host, in the order they were handed over. -/
def kindsOf (w : MonitoringWorld) (host : PyStr) : List IncidentKind :=
  (w.sent.filter (fun incident => decide (incident.host = host))).map (fun incident => incident.kind)

def kindOf : Bool -> IncidentKind
  | true => .down
  | false => .recovered

theorem kindOf_injective : Function.Injective kindOf := by
  intro first second same
  cases first <;> cases second <;> first | rfl | cases same

/-- An incident reports that DOWN was entered or left. -/
def ReportsCrossing (incident : Incident) : Prop :=
  (incident.kind = .down ∧ incident.fromState ≠ .down ∧ incident.toState = .down) ∨
    (incident.kind = .recovered ∧ incident.fromState = .down ∧ incident.toState ≠ .down)

/-- The invariant of the world between two visits. -/
structure WellFormed (engineConfig : SentinelConfig) (w : MonitoringWorld) : Prop where
  sent : w.sent.map (fun incident => incident.transition) =
    w.committed.filterMap (fun evaluation => evaluation.transition)
  remembered : forall host, w.resolutions host =
    (evaluationsOf w host).getLast?.map (fun evaluation => evaluation.resolution)
  alerts : forall host, kindsOf w host = (changes (downSignal w host)).map kindOf
  first : forall host evaluation, (evaluationsOf w host).head? = some evaluation ->
    exists hostConfig, engineConfig.host host = some hostConfig ∧
      (evaluation.resolution.state = .down -> hostConfig.external.downConfirmations = 1)
  crossing : forall incident, incident ∈ w.sent -> ReportsCrossing incident

theorem wellFormed_initial (engineConfig : SentinelConfig) :
    WellFormed engineConfig MonitoringWorld.initial where
  sent := rfl
  remembered := fun _ => rfl
  alerts := fun _ => rfl
  first := by
    intro host evaluation impossible
    cases impossible
  crossing := by
    intro incident impossible
    cases impossible

section

variable {engineConfig : SentinelConfig} {w : MonitoringWorld} {evaluation : HostHealthEvaluation}

theorem evaluationsOf_commit (host : PyStr) :
    evaluationsOf (w.commit evaluation) host =
      if evaluation.host = host then evaluationsOf w host ++ [evaluation]
      else evaluationsOf w host := by
  unfold evaluationsOf MonitoringWorld.commit
  dsimp only
  rw [List.filter_append]
  split
  · rename_i own
    rw [List.filter_cons_of_pos (by exact decide_eq_true own)]
    rfl
  · rename_i other
    rw [List.filter_cons_of_neg (by simpa using other)]
    exact List.append_nil _

theorem transitions_commit :
    (w.commit evaluation).committed.filterMap (fun e => e.transition) =
      w.committed.filterMap (fun e => e.transition) ++ evaluation.transition.toList := by
  rw [MonitoringWorld.commit, List.filterMap_append, List.append_cancel_left_eq]
  cases crossed : evaluation.transition with
  | none => simp [crossed]
  | some transition => simp [crossed]

theorem remembered_commit (wellFormed : WellFormed engineConfig w) (host : PyStr) :
    (w.commit evaluation).resolutions host =
      (evaluationsOf (w.commit evaluation) host).getLast?.map
        (fun evaluation => evaluation.resolution) := by
  rw [evaluationsOf_commit]
  by_cases own : evaluation.host = host
  · rw [if_pos own, List.getLast?_concat, <- own]
    exact Function.update_self _ _ _
  · rw [if_neg own, <- wellFormed.remembered host]
    exact Function.update_of_ne (Ne.symm own) _ _

/-- The first evaluation of a host was resolved without memory. -/
theorem first_commit (wellFormed : WellFormed engineConfig w)
    (committable : Committable engineConfig w evaluation) (host : PyStr)
    (first : HostHealthEvaluation)
    (head : (evaluationsOf (w.commit evaluation) host).head? = some first) :
    exists hostConfig, engineConfig.host host = some hostConfig ∧
      (first.resolution.state = .down -> hostConfig.external.downConfirmations = 1) := by
  rw [evaluationsOf_commit] at head
  by_cases own : evaluation.host = host
  · rw [if_pos own] at head
    cases earlier : evaluationsOf w host with
    | nil =>
        rw [earlier] at head
        cases head
        rcases committable with ⟨evidence, configured, evaluated⟩
        have forgotten := wellFormed.remembered host
        rw [earlier] at forgotten
        have resolved := evaluated.resolved
        rw [own, forgotten] at resolved
        rw [own] at configured
        exact ⟨evidence.hostConfig, configured, resolve_first_down _ resolved⟩
    | cons oldest others =>
        rw [earlier] at head
        apply wellFormed.first host first
        rw [earlier]
        exact head
  · rw [if_neg own] at head
    exact wellFormed.first host first head

/-- The signal of the evaluated host gets one value more. -/
theorem changes_commit (wellFormed : WellFormed engineConfig w) :
    changes (downSignal (w.commit evaluation) evaluation.host) =
      changes (downSignal w evaluation.host) ++
        match w.resolutions evaluation.host with
        | none => []
        | some before =>
            if decide (before.state = .down) ≠ decide (evaluation.resolution.state = .down) then
              [decide (evaluation.resolution.state = .down)]
            else [] := by
  have last : (downSignal w evaluation.host).getLast? =
      (w.resolutions evaluation.host).map (fun r => decide (r.state = .down)) := by
    rw [wellFormed.remembered, downSignal, List.getLast?_map, Option.map_map]
    rfl
  have signal : downSignal (w.commit evaluation) evaluation.host =
      downSignal w evaluation.host ++ [decide (evaluation.resolution.state = .down)] := by
    rw [downSignal, evaluationsOf_commit, if_pos rfl, List.map_append]
    rfl
  rw [signal, changes_concat, last]
  cases w.resolutions evaluation.host <;> rfl

/-- The other hosts keep their signal. -/
theorem downSignal_commit_other {host : PyStr} (other : evaluation.host ≠ host) :
    downSignal (w.commit evaluation) host = downSignal w host := by
  rw [downSignal, evaluationsOf_commit, if_neg other]
  rfl

/-- An evaluation without a transition does not change the signal. -/
theorem changes_quiet (wellFormed : WellFormed engineConfig w)
    (committable : Committable engineConfig w evaluation) (steady : evaluation.transition = none) :
    changes (downSignal (w.commit evaluation) evaluation.host) =
      changes (downSignal w evaluation.host) := by
  rcases committable with ⟨evidence, _, evaluated⟩
  rw [changes_commit wellFormed]
  cases established : w.resolutions evaluation.host with
  | none => exact List.append_nil _
  | some before =>
      have same : before.state = .down ↔ evaluation.resolution.state = .down := by
        by_contra differ
        have present := evaluated.transition.presence.mpr ⟨before, established, differ⟩
        rw [steady] at present
        cases present
      dsimp only
      rw [if_neg (not_not.mpr (decide_eq_decide.mpr same))]
      exact List.append_nil _

/-- An evaluation with a transition adds the state it arrived in. -/
theorem changes_alerted (wellFormed : WellFormed engineConfig w)
    (committable : Committable engineConfig w evaluation) {transition : HostTransition}
    (crossed : evaluation.transition = some transition) :
    changes (downSignal (w.commit evaluation) evaluation.host) =
        changes (downSignal w evaluation.host) ++ [decide (transition.toState = .down)] ∧
      transition.host = evaluation.host := by
  have crosses := committable.crosses crossed
  rcases committable with ⟨evidence, _, evaluated⟩
  rcases evaluated.transition.content transition crossed with ⟨before, established, fields⟩
  rw [fields] at crosses ⊢
  refine ⟨?_, rfl⟩
  rw [changes_commit wellFormed, established]
  dsimp only
  rw [if_pos (fun same => crosses (decide_eq_decide.mp same))]

theorem kindsOf_send (incident : Incident) (host : PyStr) :
    kindsOf { w.commit evaluation with sent := w.sent ++ [incident] } host =
      kindsOf w host ++ if incident.host = host then [incident.kind] else [] := by
  unfold kindsOf
  dsimp only
  rw [List.filter_append, List.map_append]
  congr 1
  split
  · rename_i own
    rw [List.filter_cons_of_pos (by exact decide_eq_true own)]
    rfl
  · rename_i other
    rw [List.filter_cons_of_neg (by simpa using other)]
    rfl

theorem kind_eq_kindOf {transition : HostTransition} {incident : Incident}
    (mapped : IncidentOf transition incident) :
    incident.kind = kindOf (decide (transition.toState = .down)) := by
  rw [mapped.kind]
  split
  · rename_i down
    rw [decide_eq_true down]
    rfl
  · rename_i notDown
    rw [decide_eq_false notDown]
    rfl

theorem reportsCrossing {transition : HostTransition} {incident : Incident}
    (crosses : ¬ (transition.fromState = .down ↔ transition.toState = .down))
    (mapped : IncidentOf transition incident) : ReportsCrossing incident := by
  have kind := mapped.kind
  unfold ReportsCrossing Incident.fromState Incident.toState
  rw [mapped.carried]
  split at kind
  · rename_i down
    exact .inl ⟨kind, fun also => crosses ⟨fun _ => down, fun _ => also⟩, down⟩
  · rename_i notDown
    refine .inr ⟨kind, ?_, notDown⟩
    by_contra notLeft
    exact crosses ⟨fun impossible => absurd impossible notLeft, fun impossible =>
      absurd impossible notDown⟩

/-! ## The invariant -/

theorem wellFormed_quiet (wellFormed : WellFormed engineConfig w)
    (committable : Committable engineConfig w evaluation) (steady : evaluation.transition = none) :
    WellFormed engineConfig (w.commit evaluation) where
  sent := by
    rw [transitions_commit, steady]
    exact wellFormed.sent.trans (List.append_nil _).symm
  remembered := remembered_commit wellFormed
  alerts := by
    intro host
    by_cases own : evaluation.host = host
    · rw [<- own, changes_quiet wellFormed committable steady]
      exact wellFormed.alerts evaluation.host
    · rw [downSignal_commit_other own]
      exact wellFormed.alerts host
  first := first_commit wellFormed committable
  crossing := wellFormed.crossing

theorem wellFormed_alerted (wellFormed : WellFormed engineConfig w)
    (committable : Committable engineConfig w evaluation) {transition : HostTransition}
    (crossed : evaluation.transition = some transition) {incident : Incident}
    (mapped : IncidentOf transition incident) :
    WellFormed engineConfig { w.commit evaluation with sent := w.sent ++ [incident] } where
  sent := by
    show (w.sent ++ [incident]).map _ = (w.commit evaluation).committed.filterMap _
    rw [transitions_commit, crossed, List.map_append, wellFormed.sent, List.map_singleton,
      mapped.carried]
    rfl
  remembered := remembered_commit wellFormed
  alerts := by
    intro host
    rcases changes_alerted wellFormed committable crossed with ⟨signal, sameHost⟩
    have incidentHost : incident.host = evaluation.host := by
      rw [Incident.host, mapped.carried, sameHost]
    rw [kindsOf_send, incidentHost]
    by_cases own : evaluation.host = host
    · rw [if_pos own, <- own, wellFormed.alerts evaluation.host, kind_eq_kindOf mapped]
      show _ = (changes (downSignal (w.commit evaluation) evaluation.host)).map kindOf
      rw [signal, List.map_append]
      rfl
    · rw [if_neg own, List.append_nil, wellFormed.alerts host]
      show _ = (changes (downSignal (w.commit evaluation) host)).map kindOf
      rw [downSignal_commit_other own]
  first := first_commit wellFormed committable
  crossing := by
    intro other member
    rcases List.mem_append.mp member with earlier | newest
    · exact wellFormed.crossing other earlier
    · rw [List.mem_singleton.mp newest]
      exact reportsCrossing (committable.crosses crossed) mapped

theorem wellFormed_visited {w' : MonitoringWorld} (wellFormed : WellFormed engineConfig w)
    (visited : Visited engineConfig w w') : WellFormed engineConfig w' := by
  cases visited with
  | failed => exact wellFormed
  | quiet evaluation committable steady => exact wellFormed_quiet wellFormed committable steady
  | alerted evaluation committable transition crossed incident mapped =>
      exact wellFormed_alerted wellFormed committable crossed mapped

end

/-- What the incidents handed to the sender look like. -/
structure AlertStream (engineConfig : SentinelConfig) (w : MonitoringWorld) : Prop where
  /-- Every committed transition was handed over exactly once, in order, and nothing else. -/
  exactlyOnce : w.sent.map (fun incident => incident.transition) =
    w.committed.filterMap (fun evaluation => evaluation.transition)
  alternating : forall host, (kindsOf w host).IsChain (· ≠ ·)
  startsRecovered : forall host, (kindsOf w host).head? = some .recovered ->
    exists first hostConfig, (evaluationsOf w host).head? = some first ∧
      first.resolution.state = .down ∧ engineConfig.host host = some hostConfig ∧
      hostConfig.external.downConfirmations = 1
  crossing : forall incident, incident ∈ w.sent -> ReportsCrossing incident

/-- The alert stream is well formed after every sequence of cycles, however
each of them ended. -/
theorem alert_stream (engineConfig config : SentinelConfig) (cycles : List CycleCollaborators) :
    AlertStream engineConfig (runMonitoring engineConfig config cycles) := by
  have wellFormed : WellFormed engineConfig (runMonitoring engineConfig config cycles) :=
    runMonitoring_keeps (wellFormed_initial engineConfig)
      (fun w w' before visited => wellFormed_visited before visited) config cycles
  constructor
  case exactlyOnce => exact wellFormed.sent
  case alternating =>
    intro host
    rw [wellFormed.alerts]
    apply (List.isChain_map kindOf).mpr
    apply (isChain_changes _).imp
    intro first second differ same
    exact differ (kindOf_injective same)
  case startsRecovered =>
    intro host head
    rw [wellFormed.alerts, List.head?_map] at head
    rcases Option.map_eq_some_iff.mp head with ⟨value, changed, kind⟩
    have recovered : value = false := by
      cases value with
      | false => rfl
      | true => cases kind
    rcases head_changes changed with ⟨start, signal, differs⟩
    have started : start = true := by
      cases start with
      | false => exact absurd recovered.symm differs
      | true => rfl
    rw [downSignal, List.head?_map] at signal
    rcases Option.map_eq_some_iff.mp signal with ⟨first, oldest, shown⟩
    rw [started] at shown
    have down := of_decide_eq_true shown
    rcases wellFormed.first host first oldest with ⟨hostConfig, configured, confirmed⟩
    exact ⟨first, hostConfig, oldest, down, configured, confirmed down⟩
  case crossing => exact wellFormed.crossing

end Host
end HermesSentinel
