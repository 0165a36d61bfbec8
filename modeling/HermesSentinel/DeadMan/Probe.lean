import HermesSentinel.DeadMan.Vocabulary
import HermesSentinel.Foundation.Utf8

namespace HermesSentinel
namespace DeadMan

open Python
open Foundation

/-!
# Classifying a probe

What a probe observed of a response is its status, the values of its `Allow`
headers in order, and its body.
-/

/-- `_HEALTHY_STATUS`. -/
def healthyStatus : Int := 405

/-- `_REQUIRED_ALLOWED_METHOD`. -/
def requiredAllowedMethod : PyStr := text "POST"

structure DeadManProbeResponse where
  status : Int
  allowHeaders : List PyStr
  body : List Utf8.Byte
  inRange : 100 ≤ status ∧ status ≤ 599

namespace DeadManProbeResponse

def make (status : Int) (allowHeaders : List PyStr) (body : List Utf8.Byte) :
    Fallible DeadManProbeResponse :=
  if inRange : 100 ≤ status ∧ status ≤ 599 then
    .ok { status, allowHeaders, body, inRange }
  else raise .valueError "status must be within [100, 599]"

theorem make_eq_ok {status : Int} {allowHeaders : List PyStr} {body : List Utf8.Byte}
    {response : DeadManProbeResponse} (made : make status allowHeaders body = .ok response) :
    response.status = status ∧ response.allowHeaders = allowHeaders ∧ response.body = body := by
  unfold make at made
  split at made
  · cases made
    exact ⟨rfl, rfl, rfl⟩
  · cases made

end DeadManProbeResponse

/-- `token.strip(" \t")`. -/
def stripBlanks (token : PyStr) : PyStr :=
  stripBy (fun c => decide (c = codePoint ' ' ∨ c = codePoint '\t')) token

/-- The methods that the `Allow` values list. -/
def allowedMethods (allowHeaders : List PyStr) : List PyStr :=
  (allowHeaders.flatMap fun value => (split (codePoint ',') value).map stripBlanks).filter
    fun method => !method.isEmpty

def postIsAllowed (allowHeaders : List PyStr) : Bool :=
  (allowedMethods allowHeaders).contains requiredAllowedMethod

def classifyDeadmanProbe (response : DeadManProbeResponse) : DeadManProbeOutcome :=
  if response.status = healthyStatus ∧ postIsAllowed response.allowHeaders = true ∧
      response.body = [] then .healthy
  else .failed

theorem classify_healthy_iff (response : DeadManProbeResponse) :
    classifyDeadmanProbe response = .healthy ↔ response.status = healthyStatus ∧
      postIsAllowed response.allowHeaders = true ∧ response.body = [] := by
  unfold classifyDeadmanProbe
  split
  · rename_i signature
    exact ⟨fun _ => signature, fun _ => rfl⟩
  · rename_i other
    constructor
    · intro impossible
      cases impossible
    · intro signature
      exact absurd signature other

end DeadMan
end HermesSentinel
