import HermesSentinel.DeadMan.Probe
import HermesSentinel.Settings.DeadMan
import HermesSentinel.Telegram.Delivery

namespace HermesSentinel
namespace Oneshot

open Python
open Foundation
open DeadMan
open Settings
open Telegram (TransportError)

/-!
# One probe

The prober opens one request and observes what it acquires: the response, or the
`HTTPError` that is one.  What the transport does is given in advance, and the
log keeps the request and the close.
-/

/-- `_BODY_SAMPLE_BYTES`. -/
def bodySampleBytes : Nat := 1

/-- A response-like object, with what observing and closing it will do. -/
structure ProbeResponse where
  status : Int
  /-- `headers.get_all("Allow")`, empty where there is none. -/
  allowValues : List PyStr
  read : Except TransportError (List Utf8.Byte)
  close : Option TransportError

/-- How the opener ends. -/
inductive ProbeExchange
  | response (response : ProbeResponse)
  | httpError (response : ProbeResponse)
  | timeoutError
  | osError
  | httpException
  /-- Any other exception, which nothing here catches. -/
  | defect (e : Raised)

inductive ProbeEvent
  | opened (url : PyStr) (timeout : Number)
  | closed
  deriving DecidableEq

abbrev ProbeProgram (α : Type) := Program Raised (List ProbeEvent) α

/-- `_observe`. -/
def observe (response : ProbeResponse) : Fallible DeadManProbeOutcome :=
  match response.read with
  | .error _ => .ok .failed
  | .ok body =>
      match DeadManProbeResponse.make response.status response.allowValues
        (body.take bodySampleBytes) with
      | .ok observation => .ok (classifyDeadmanProbe observation)
      | .error e => if e.kind.isValueError = true then .ok .failed else .error e

/-- `_close_quietly`: what closing raises is an `OSError` or an `HTTPException`. -/
def closeQuietly (_ : ProbeResponse) : ProbeProgram Unit :=
  Program.update fun log => log ++ [.closed]

/-- `_observe_and_close`. -/
def observeAndClose (response : ProbeResponse) : ProbeProgram DeadManProbeOutcome := do
  let outcome ← Program.lift (observe response)
  closeQuietly response
  pure outcome

def openProbe (settings : DeadManProbeFields) : ProbeProgram Unit :=
  Program.update fun log => log ++ [.opened settings.url settings.timeoutSeconds]

/-- `DeadManProber.probe`. -/
def probe (settings : DeadManProbeFields) (exchange : ProbeExchange) :
    ProbeProgram DeadManProbeOutcome := do
  openProbe settings
  match exchange with
  | .response response => observeAndClose response
  | .httpError response => observeAndClose response
  | .timeoutError => pure .failed
  | .osError => pure .failed
  | .httpException => pure .failed
  | .defect e => Program.interrupt e

/-- The response-like object of an exchange. -/
def ProbeExchange.acquired : ProbeExchange -> Option ProbeResponse
  | .response returned => some returned
  | .httpError raised => some raised
  | _ => none

def ProbeExchange.isDefect : ProbeExchange -> Bool
  | .defect _ => true
  | _ => false

/-- The signature of a central listener that answers. -/
def Alive (response : ProbeResponse) : Prop :=
  response.status = healthyStatus ∧ postIsAllowed response.allowValues = true ∧
    response.read = .ok []

/-- Observing never raises, and only the signature is healthy. -/
theorem observe_eq (response : ProbeResponse) :
    exists outcome, observe response = .ok outcome ∧ (outcome = .healthy ↔ Alive response) := by
  unfold observe Alive
  cases read : response.read with
  | error e =>
      refine ⟨.failed, rfl, iff_of_false nofun ?_⟩
      rintro ⟨_, _, impossible⟩
      cases impossible
  | ok body =>
      have sample : body.take bodySampleBytes = [] ↔ body = [] := by
        cases body with
        | nil => simp
        | cons byte rest => simp [bodySampleBytes]
      cases made : DeadManProbeResponse.make response.status response.allowValues
        (body.take bodySampleBytes) with
      | ok observation =>
          refine ⟨classifyDeadmanProbe observation, by simp only [made], ?_⟩
          rcases DeadManProbeResponse.make_eq_ok made with ⟨status, allowed, body⟩
          rw [classify_healthy_iff, status, allowed, body, sample, Except.ok.injEq]
      | error e =>
          have refused : e.kind = .valueError ∧
              ¬ (100 ≤ response.status ∧ response.status ≤ 599) := by
            unfold DeadManProbeResponse.make at made
            split at made
            · cases made
            · rename_i outside
              cases made
              exact ⟨rfl, outside⟩
          refine ⟨.failed, ?_, iff_of_false nofun ?_⟩
          · simp only [made, refused.1]
            rfl
          · rintro ⟨status, _, _⟩
            rw [status] at refused
            exact refused.2 (by decide)

/-- One attempt, whatever the transport does. -/
structure ProbeContract (settings : DeadManProbeFields) (exchange : ProbeExchange) : Prop where
  /-- One request to the configured URL, and one close of what it acquired. -/
  log : (probe settings exchange []).2 =
    .opened settings.url settings.timeoutSeconds :: exchange.acquired.toList.map fun _ => .closed
  /-- An outcome for every exchange that the prober knows. -/
  returns : exchange.isDefect = false -> exists outcome, (probe settings exchange []).1 = .ok outcome
  /-- Only the signature is healthy, on a response as on an `HTTPError`. -/
  healthy : (probe settings exchange []).1 = .ok .healthy ↔
    exists response, exchange.acquired = some response ∧ Alive response
  /-- Anything else the opener raises passes. -/
  defect : forall e, (probe settings exchange []).1 = .error e ↔ exchange = .defect e

theorem probe_observes (settings : DeadManProbeFields) {exchange : ProbeExchange}
    {response : ProbeResponse} (acquired : exchange.acquired = some response)
    (log : List ProbeEvent) :
    exists outcome, probe settings exchange log = (.ok outcome,
        log ++ [.opened settings.url settings.timeoutSeconds, .closed]) ∧
      (outcome = .healthy ↔ Alive response) := by
  rcases observe_eq response with ⟨outcome, observed, healthy⟩
  refine ⟨outcome, ?_, healthy⟩
  have ended : observeAndClose response (log ++ [.opened settings.url settings.timeoutSeconds]) =
      (.ok outcome, log ++ [.opened settings.url settings.timeoutSeconds, .closed]) := by
    have appended : forall first second : ProbeEvent,
        log ++ [first, second] = log ++ [first] ++ [second] :=
      fun first second => (List.append_assoc log [first] [second]).symm
    rw [observeAndClose, observed, appended]
    rfl
  cases exchange with
  | response _ =>
      cases acquired
      exact ended
  | httpError _ =>
      cases acquired
      exact ended
  | _ => cases acquired

/-- One request, and one close of what it acquired. -/
theorem probe_log (settings : DeadManProbeFields) (exchange : ProbeExchange)
    (log : List ProbeEvent) :
    (probe settings exchange log).2 = log ++ .opened settings.url settings.timeoutSeconds ::
      exchange.acquired.toList.map fun _ => .closed := by
  cases acquired : exchange.acquired with
  | some response =>
      rcases probe_observes settings acquired log with ⟨outcome, ended, _⟩
      rw [ended]
      rfl
  | none =>
      cases exchange with
      | response _ => cases acquired
      | httpError _ => cases acquired
      | _ => rfl

/-- On a response as on an `HTTPError`, only the signature is healthy. -/
theorem probe_healthy (settings : DeadManProbeFields) (exchange : ProbeExchange) :
    (probe settings exchange []).1 = .ok .healthy ↔
      exists response, exchange.acquired = some response ∧ Alive response := by
  cases acquired : exchange.acquired with
  | some response =>
      rcases probe_observes settings acquired [] with ⟨outcome, ended, healthy⟩
      rw [ended, Except.ok.injEq, healthy]
      simp
  | none =>
      refine iff_of_false ?_ nofun
      cases exchange with
      | response _ => cases acquired
      | httpError _ => cases acquired
      | _ => exact nofun

/-- Every probe makes one attempt, closes what it acquired, and takes nothing but
the signature for a sign of life. -/
theorem probe_contract (settings : DeadManProbeFields) (exchange : ProbeExchange) :
    ProbeContract settings exchange := by
  have log := probe_log settings exchange []
  have healthy := probe_healthy settings exchange
  cases acquired : exchange.acquired with
  | some response =>
      rcases probe_observes settings acquired [] with ⟨outcome, ended, _⟩
      constructor
      case log => exact log
      case returns =>
        intro _
        exact ⟨outcome, congrArg Prod.fst ended⟩
      case healthy => exact healthy
      case defect =>
        intro e
        rw [ended]
        refine iff_of_false nofun ?_
        rintro rfl
        cases acquired
  | none =>
      cases exchange with
      | response _ => cases acquired
      | httpError _ => cases acquired
      | defect e =>
          refine ⟨log, nofun, healthy, fun e' => ?_⟩
          show Except.error e = Except.error e' ↔ _
          rw [Except.error.injEq, ProbeExchange.defect.injEq]
      | _ => exact ⟨log, fun _ => ⟨.failed, rfl⟩, healthy, fun _ => iff_of_false nofun nofun⟩

end Oneshot
end HermesSentinel
