import HermesSentinel.Foundation.HysteresisFlips
import HermesSentinel.Host.AlertStream
import HermesSentinel.Host.ResolverWindows

namespace HermesSentinel
namespace Host

open Python
open Domain
open Foundation

/-!
# What stands behind an alert

An alert is handed over in the visit in which the resolver changes sides, so the
evaluations that made it do so are the newest of that host.  The invariant says
so of every alert there has been, next to the counters of every host.
-/

/-- How many evaluations in a row an alert takes. -/
def confirmations (settings : ExternalCheckSettings) : IncidentKind -> Int
  | .down => settings.downConfirmations
  | .recovered => settings.recoveryConfirmations

theorem confirmations_positive (settings : ExternalCheckSettings) (kind : IncidentKind) :
    0 < confirmations settings kind := by
  have positive := settings.confirmations
  cases kind with
  | down => exact positive.1
  | recovered => exact positive.2

/-- What each of them shows. -/
def Observation.Confirms (o : Observation) : IncidentKind -> Prop
  | .down => o.Qualifies
  | .recovered => o.Reached

/-- The alert was handed over at the newest of enough confirming evaluations of
its host in a row. -/
def Backed (engineConfig : SentinelConfig) (w : MonitoringWorld) (incident : Incident) : Prop :=
  exists hostConfig earlier window newest later,
    engineConfig.host incident.host = some hostConfig ∧
    evaluationsOf w incident.host = earlier ++ window ++ later ∧
    window.getLast? = some newest ∧ newest.transition = some incident.transition ∧
    (window.length : Int) = confirmations hostConfig.external incident.kind ∧
    forall evaluation, evaluation ∈ window -> evaluation.observation.Confirms incident.kind

/-- The latch on whole evaluations. -/
def evaluationLatch (settings : ExternalCheckSettings) : Hysteresis HostHealthEvaluation :=
  (latch settings).comap fun evaluation => evaluation.observation.signals

/-- The counters of every host are those of its evaluations, and every alert is backed. -/
structure Windowed (engineConfig : SentinelConfig) (w : MonitoringWorld) : Prop where
  counted : forall host hostConfig, engineConfig.host host = some hostConfig ->
    counters (w.resolutions host) =
      (evaluationLatch hostConfig.external).run (evaluationsOf w host)
  backed : forall incident, incident ∈ w.sent -> Backed engineConfig w incident

theorem windowed_initial (engineConfig : SentinelConfig) :
    Windowed engineConfig MonitoringWorld.initial where
  counted := fun _ _ _ => rfl
  backed := by
    intro incident impossible
    cases impossible

section

variable {engineConfig : SentinelConfig} {w : MonitoringWorld} {evaluation : HostHealthEvaluation}

theorem counted_commit (windowed : Windowed engineConfig w)
    (committable : Committable engineConfig w evaluation) (host : PyStr) (hostConfig : HostConfig)
    (configured : engineConfig.host host = some hostConfig) :
    counters ((w.commit evaluation).resolutions host) =
      (evaluationLatch hostConfig.external).run (evaluationsOf (w.commit evaluation) host) := by
  have before := windowed.counted host hostConfig configured
  rw [evaluationsOf_commit]
  by_cases own : evaluation.host = host
  · rw [if_pos own]
    rcases committable with ⟨evidence, found, evaluated⟩
    rw [own, configured] at found
    cases found
    have resolved := evaluated.resolved
    rw [own] at resolved
    rcases resolve_step evidence.hostConfig.external (w.resolutions host) evaluation.observation with
      ⟨r, same, stepped, _⟩
    rw [resolved] at same
    cases same
    have remembered : (w.commit evaluation).resolutions host = some evaluation.resolution := by
      rw [<- own]
      exact Function.update_self _ _ _
    rw [remembered, stepped, before, Hysteresis.run_concat]
    rfl
  · rw [if_neg own]
    have remembered : (w.commit evaluation).resolutions host = w.resolutions host :=
      Function.update_of_ne (Ne.symm own) _ _
    rw [remembered, before]

/-- An alert stays backed when more evaluations follow. -/
theorem Backed.commit {incident : Incident} (backed : Backed engineConfig w incident) :
    Backed engineConfig (w.commit evaluation) incident := by
  rcases backed with ⟨hostConfig, earlier, window, newest, later, configured, shape, last, rest⟩
  by_cases own : evaluation.host = incident.host
  · refine ⟨hostConfig, earlier, window, newest, later ++ [evaluation], configured, ?_, last, rest⟩
    rw [evaluationsOf_commit, if_pos own, shape, List.append_assoc]
  · refine ⟨hostConfig, earlier, window, newest, later, configured, ?_, last, rest⟩
    rw [evaluationsOf_commit, if_neg own, shape]

/-- An alert whose evaluation closes a window of confirming evaluations. -/
theorem backed_of_suffix {hostConfig : HostConfig} {incident : Incident}
    (configured : engineConfig.host incident.host = some hostConfig)
    (host : incident.host = evaluation.host)
    (crossed : evaluation.transition = some incident.transition)
    {window : List HostHealthEvaluation}
    (suffix : window <:+ evaluationsOf w evaluation.host ++ [evaluation])
    (length : (window.length : Int) = confirmations hostConfig.external incident.kind)
    (confirms : forall o, o ∈ window -> o.observation.Confirms incident.kind) :
    Backed engineConfig (w.commit evaluation) incident := by
  rcases suffix with ⟨older, shape⟩
  have nonempty : window ≠ [] := by
    intro empty
    have positive := confirmations_positive hostConfig.external incident.kind
    rw [<- length, empty] at positive
    exact absurd positive (lt_irrefl _)
  have last : window.getLast? = some evaluation := by
    have whole : (older ++ window).getLast? = some evaluation := by
      rw [shape, List.getLast?_concat]
    rwa [List.getLast?_append_of_ne_nil _ nonempty] at whole
  refine ⟨hostConfig, older, window, evaluation, [], configured, ?_, last, crossed, length, confirms⟩
  rw [host, evaluationsOf_commit, if_pos rfl, <- shape, List.append_nil]

/-- The alert of an evaluation that changes sides is backed by the window it closes. -/
theorem backed_alerted (windowed : Windowed engineConfig w)
    (committable : Committable engineConfig w evaluation) {transition : HostTransition}
    (crossed : evaluation.transition = some transition) {incident : Incident}
    (mapped : IncidentOf transition incident) :
    Backed engineConfig (w.commit evaluation) incident := by
  have counted := counted_commit windowed committable
  have crosses := committable.crosses crossed
  have kind := mapped.kind
  rcases committable with ⟨evidence, configured, evaluated⟩
  rcases evaluated.transition.content transition crossed with ⟨before, established, fields⟩
  have host : incident.host = evaluation.host := by
    rw [Incident.host, mapped.carried, fields]
  have carried : evaluation.transition = some incident.transition := by
    rw [mapped.carried]
    exact crossed
  have earlier := windowed.counted evaluation.host evidence.hostConfig configured
  have now := counted evaluation.host evidence.hostConfig configured
  have remembered : (w.commit evaluation).resolutions evaluation.host = some evaluation.resolution :=
    Function.update_self _ _ _
  rw [established] at earlier
  rw [remembered, evaluationsOf_commit, if_pos rfl] at now
  rw [<- host] at configured
  have positive := evidence.hostConfig.external.confirmations
  rw [fields] at crosses kind
  by_cases down : evaluation.resolution.state = .down
  · have left : before.state ≠ .down := fun was => crosses ⟨fun _ => down, fun _ => was⟩
    rw [if_pos down] at kind
    rw [counters_of_notDown left] at earlier
    rw [counters_of_down down] at now
    rcases (evaluationLatch evidence.hostConfig.external).window_of_held earlier.symm now.symm with
      ⟨window, suffix, length, trips⟩
    apply backed_of_suffix configured host carried suffix
    · rw [kind, length]
      exact Int.toNat_of_nonneg (by omega)
    · intro o member
      rw [kind]
      have qualifies : o.observation.Qualifies := of_decide_eq_true (trips o member)
      exact qualifies
  · have left : before.state = .down := by
      by_contra notLeft
      exact crosses ⟨fun was => absurd was notLeft, fun is => absurd is down⟩
    rw [if_neg down] at kind
    rw [counters_of_down left] at earlier
    rw [counters_of_notDown down] at now
    rcases (evaluationLatch evidence.hostConfig.external).window_of_released earlier.symm now.symm
      with ⟨window, suffix, length, clears⟩
    apply backed_of_suffix configured host carried suffix
    · rw [kind, length]
      exact Int.toNat_of_nonneg (by omega)
    · intro o member
      rw [kind]
      have reached : o.observation.Reached := of_decide_eq_true (clears o member)
      exact reached

theorem windowed_visited {w' : MonitoringWorld} (windowed : Windowed engineConfig w)
    (visited : Visited engineConfig w w') : Windowed engineConfig w' := by
  cases visited with
  | failed => exact windowed
  | quiet evaluation committable steady =>
      exact ⟨counted_commit windowed committable, fun incident member =>
        (windowed.backed incident member).commit⟩
  | alerted evaluation committable transition crossed incident mapped =>
      refine ⟨counted_commit windowed committable, ?_⟩
      intro other member
      rcases List.mem_append.mp member with earlier | newest
      · exact (windowed.backed other earlier).commit
      · rw [List.mem_singleton.mp newest]
        exact backed_alerted windowed committable crossed mapped

end

/-- The last alert of a host says whether its evaluations show it DOWN. -/
theorem last_alert {engineConfig : SentinelConfig} {w : MonitoringWorld}
    (wellFormed : WellFormed engineConfig w) (windowed : Windowed engineConfig w) {host : PyStr}
    {kind : IncidentKind} (last : (kindsOf w host).getLast? = some kind) :
    exists hostConfig, engineConfig.host host = some hostConfig ∧
      (kind = .down ↔ DownShown hostConfig.external
        ((evaluationsOf w host).map HostHealthEvaluation.observation)) := by
  rw [wellFormed.alerts, List.getLast?_map] at last
  rcases Option.map_eq_some_iff.mp last with ⟨shown, changed, rfl⟩
  have newest := getLast?_changes changed
  rw [downSignal, List.getLast?_map] at newest
  rcases Option.map_eq_some_iff.mp newest with ⟨evaluation, final, rfl⟩
  rcases List.getLast?_eq_some_iff.mp final with ⟨earlier, shape⟩
  have first : exists oldest, (evaluationsOf w host).head? = some oldest := by
    rw [shape]
    cases earlier with
    | nil => exact ⟨evaluation, rfl⟩
    | cons oldest _ => exact ⟨oldest, rfl⟩
  rcases first with ⟨oldest, head⟩
  rcases wellFormed.first host oldest head with ⟨hostConfig, configured, _⟩
  refine ⟨hostConfig, configured, ?_⟩
  have counted := windowed.counted host hostConfig configured
  rw [wellFormed.remembered, final, Option.map_some, evaluationLatch, Hysteresis.run_comap] at counted
  have signals : (evaluationsOf w host).map (fun e => e.observation.signals) =
      ((evaluationsOf w host).map HostHealthEvaluation.observation).map Observation.signals := by
    rw [List.map_map]
    rfl
  rw [signals] at counted
  rw [<- resolution_down_iff counted]
  by_cases down : evaluation.resolution.state = .down
  · rw [decide_eq_true down]
    exact ⟨fun _ => down, fun _ => rfl⟩
  · rw [decide_eq_false down]
    constructor
    · intro impossible
      cases impossible
    · exact fun is => absurd is down

end Host
end HermesSentinel
