import HermesSentinel.Telegram.Delivery

namespace HermesSentinel
namespace Telegram

open Python
open Foundation
open Host
open DeadMan
open Settings

/-!
# Bounded delivery

What one attempt promises: at most one request, one close for what was
acquired, a quiet return exactly on the success contract, otherwise the error
of the module, and a failure found before the close outlives it.  The promise
is broken by a body that `json.loads` gives up on for its nesting, and by a
text without a UTF-8 encoding.
-/

/-- The response-like objects the opener hands over. -/
def Exchange.acquired : Exchange -> List Resource
  | .response _ _ _ => [.response]
  | .httpError _ _ => [.httpError]
  | .timeoutError => []
  | .osError => []
  | .httpException => []

/-- The same exchange, but for a close that succeeds. -/
def Exchange.closingQuietly : Exchange -> Exchange
  | .response status read _ => .response status read none
  | .httpError code _ => .httpError code none
  | .timeoutError => .timeoutError
  | .osError => .osError
  | .httpException => .httpException

def DeliveryEvent.request : DeliveryEvent -> Option Request
  | .opened request _ => some request
  | .closed _ => none

def DeliveryEvent.closedResource : DeliveryEvent -> Option Resource
  | .opened _ _ => none
  | .closed resource => some resource

def requests (log : List DeliveryEvent) : List Request :=
  log.filterMap DeliveryEvent.request

def closes (log : List DeliveryEvent) : List Resource :=
  log.filterMap DeliveryEvent.closedResource

section Promise

variable (scan : PyStr -> Json.Scanned Json)

/-- The body is within the limit and read as this. -/
structure BodyRead (body : List Utf8.Byte) (result : Json.Scanned Json) : Prop where
  bounded : body.length ≤ responseBodyLimitBytes
  read : exists payload, Utf8.decode .strict body = some payload ∧ scan payload = result

/-- The success contract: status 200, a bounded body that is an object whose
`ok` is true, and a close that succeeds. -/
def Delivered (exchange : Exchange) : Prop :=
  exists body members, exchange = .response 200 (.ok body) none ∧
    BodyRead scan body (.value (.object members)) ∧
    getMember members (text "ok") = some (.bool true)

/-- A bounded body of status 200 on which `json.loads` exceeds its recursion limit. -/
def TooDeep (exchange : Exchange) : Prop :=
  exists body close, exchange = .response 200 (.ok body) close ∧ BodyRead scan body .tooDeep

structure BoundedDelivery (m : DeliveryModule) (send : Exchange -> DeliveryProgram Unit)
    (exchange : Exchange) : Prop where
  once : (requests (send exchange []).2).length ≤ 1
  untouched : requests (send exchange []).2 = [] -> closes (send exchange []).2 = []
  closed : requests (send exchange []).2 ≠ [] -> closes (send exchange []).2 = exchange.acquired
  returns : (send exchange []).1 = .ok () ↔ Delivered scan exchange
  raises : forall e, (send exchange []).1 = .error e -> e.kind = m.kind
  precedence : forall e, (send exchange.closingQuietly []).1 = .error e ->
    (send exchange []).1 = .error e

end Promise

section Classification

variable {m : DeliveryModule} {scan : PyStr -> Json.Scanned Json}

theorem BodyRead.unique {raw : List Utf8.Byte} {first second : Json.Scanned Json}
    (one : BodyRead scan raw first) (two : BodyRead scan raw second) : first = second := by
  rcases one.read with ⟨payload, decoded, rfl⟩
  rcases two.read with ⟨payload', decoded', rfl⟩
  rw [decoded] at decoded'
  cases decoded'
  rfl

/-- How a response of status 200 is classified by its body. -/
inductive Classified (m : DeliveryModule) (scan : PyStr -> Json.Scanned Json)
    (raw : List Utf8.Byte) : Fallible (Option Raised) -> Prop
  | delivered (members : List (PyStr × Json)) (read : BodyRead scan raw (.value (.object members)))
      (ok : getMember members (text "ok") = some (.bool true)) : Classified m scan raw (.ok none)
  | refused (reason : String)
      (notOk : forall members, BodyRead scan raw (.value (.object members)) ->
        getMember members (text "ok") ≠ some (.bool true))
      (shallow : ¬ BodyRead scan raw .tooDeep) :
      Classified m scan raw (.ok (some (m.failure reason)))
  | abandoned (message : String) (deep : BodyRead scan raw .tooDeep) :
      Classified m scan raw (raise .recursionError message)

/-- Whatever was read that is not an object is refused. -/
theorem Classified.of_read {raw : List Utf8.Byte} {result : Json.Scanned Json} (reason : String)
    (read : BodyRead scan raw result) (other : forall members, result ≠ .value (.object members))
    (shallow : result ≠ .tooDeep) : Classified m scan raw (.ok (some (m.failure reason))) := by
  refine .refused reason ?_ ?_
  · intro members object
    exact absurd (read.unique object) (other members)
  · intro deep
    exact shallow (read.unique deep)

theorem classified {raw : List Utf8.Byte} (bounded : raw.length ≤ responseBodyLimitBytes) :
    Classified m scan raw (classifyBoundedResponse m scan 200 raw) := by
  unfold classifyBoundedResponse
  rw [if_neg (by decide), if_neg (Nat.not_lt.mpr bounded)]
  cases decoded : Utf8.decode .strict raw with
  | none =>
      have loaded : loadBody scan raw = raise .unicodeDecodeError "" := by
        unfold loadBody
        rw [decoded]
      rw [loaded]
      have unread : forall result, ¬ BodyRead scan raw result := by
        intro result read
        rcases read.read with ⟨payload, impossible, _⟩
        rw [decoded] at impossible
        cases impossible
      exact .refused _ (fun _ read => absurd read (unread _)) (unread _)
  | some payload =>
      have read : BodyRead scan raw (scan payload) := ⟨bounded, payload, decoded, rfl⟩
      unfold loadBody
      rw [decoded]
      dsimp only
      cases scanned : scan payload with
      | malformed =>
          rw [scanned] at read
          exact .of_read _ read nofun nofun
      | tooDeep =>
          rw [scanned] at read
          exact .abandoned _ read
      | value document =>
          rw [scanned] at read
          cases document with
          | object members =>
              dsimp only
              split
              · rename_i ok
                exact .delivered members read ok
              · rename_i notOk
                refine .refused _ ?_ ?_
                · intro members' read'
                  cases read.unique read'
                  exact notOk
                · intro deep
                  cases read.unique deep
          | null => exact .of_read _ read nofun nofun
          | bool value => exact .of_read _ read nofun nofun
          | int value => exact .of_read _ read nofun nofun
          | real literal => exact .of_read _ read nofun nofun
          | constant token => exact .of_read _ read nofun nofun
          | str value => exact .of_read _ read nofun nofun
          | array items => exact .of_read _ read nofun nofun

/-- What is known about an acquired response before it is closed. -/
inductive Determined (m : DeliveryModule) (scan : PyStr -> Json.Scanned Json) (status : Int)
    (read : Except TransportError (List Utf8.Byte)) : Fallible (Option Raised) -> Prop
  | success (delivered : Delivered scan (.response status read none)) :
      Determined m scan status read (.ok none)
  | failure (reason : String)
      (refused : forall close, ¬ Delivered scan (.response status read close))
      (shallow : forall close, ¬ TooDeep scan (.response status read close)) :
      Determined m scan status read (.ok (some (m.failure reason)))
  | abandoned (message : String) (deep : forall close, TooDeep scan (.response status read close)) :
      Determined m scan status read (raise .recursionError message)

/-- Only a bounded body of status 200 is looked at. -/
theorem Determined.of_other {status : Int} {read : Except TransportError (List Utf8.Byte)}
    (reason : String)
    (other : forall body, read = .ok body -> status = 200 ->
      responseBodyLimitBytes < body.length) :
    Determined m scan status read (.ok (some (m.failure reason))) := by
  refine .failure reason ?_ ?_
  · rintro close ⟨body, members, same, bodyRead, _⟩
    cases same
    exact Nat.not_lt.mpr bodyRead.bounded (other body rfl rfl)
  · rintro close ⟨body, close', same, bodyRead⟩
    cases same
    exact Nat.not_lt.mpr bodyRead.bounded (other body rfl rfl)

theorem determined (status : Int) (read : Except TransportError (List Utf8.Byte)) :
    Determined m scan status read (readBoundedResponse m scan status read) := by
  cases read with
  | error e => cases e <;> exact .of_other _ nofun
  | ok body =>
      show Determined m scan status (.ok body) (classifyBoundedResponse m scan status
        (body.take (responseBodyLimitBytes + 1)))
      by_cases good : status = 200
      · subst good
        by_cases bounded : body.length ≤ responseBodyLimitBytes
        · rw [List.take_of_length_le (Nat.le_succ_of_le bounded)]
          have found : Classified m scan body (classifyBoundedResponse m scan 200 body) :=
            classified bounded
          revert found
          generalize classifyBoundedResponse m scan 200 body = result
          intro found
          cases found with
          | delivered members read ok => exact .success ⟨body, members, rfl, read, ok⟩
          | refused reason notOk shallow =>
              refine .failure reason ?_ ?_
              · rintro close ⟨body', members, same, bodyRead, ok⟩
                cases same
                exact notOk members bodyRead ok
              · rintro close ⟨body', close', same, bodyRead⟩
                cases same
                exact shallow bodyRead
          | abandoned message deep => exact .abandoned message fun close => ⟨body, close, rfl, deep⟩
        · have long : responseBodyLimitBytes < (body.take (responseBodyLimitBytes + 1)).length := by
            rw [List.length_take]
            omega
          unfold classifyBoundedResponse
          rw [if_neg (by decide), if_pos long]
          refine .of_other _ fun body' same _ => ?_
          cases same
          exact Nat.lt_of_not_le bounded
      · unfold classifyBoundedResponse
        rw [if_pos good]
        exact .of_other _ fun _ _ same => absurd same good

end Classification

/-! ## The attempt -/

section Attempt

variable {m : DeliveryModule} {scan : PyStr -> Json.Scanned Json}

/-- What the close makes of a failure found before it. -/
def afterClose (m : DeliveryModule) (close : Option TransportError) : Option Raised -> Except Raised Unit
  | some failure => .error failure
  | none =>
      match close with
      | none => .ok ()
      | some _ => .error (m.failure "response cleanup error")

theorem closeBoundedResponse_eq (resource : Resource) (close : Option TransportError)
    (failure : Option Raised) (log : List DeliveryEvent) :
    (closeBoundedResponse m resource close failure >>= raiseFailure) log =
      (afterClose m close failure, log ++ [.closed resource]) := by
  cases close with
  | none =>
      cases failure with
      | none => rfl
      | some failure => rfl
  | some e =>
      cases failure with
      | none => rfl
      | some failure => rfl

/-- A failure found before the close outlives it. -/
theorem afterClose_failure {close : Option TransportError} {failure : Option Raised} {e : Raised}
    (failed : afterClose m none failure = .error e) : afterClose m close failure = .error e := by
  cases failure with
  | none => cases failed
  | some failure => exact failed

theorem attempt_response (timeout : Number) (request : Request) (status : Int)
    (read : Except TransportError (List Utf8.Byte)) (close : Option TransportError)
    (log : List DeliveryEvent) :
    attempt m scan timeout (.response status read close) request log =
      match readBoundedResponse m scan status read with
      | .ok failure =>
          (afterClose m close failure, log ++ [.opened request timeout] ++ [.closed .response])
      | .error e => (.error e, log ++ [.opened request timeout]) := by
  have opened : attempt m scan timeout (.response status read close) request log =
      (Program.lift (readBoundedResponse m scan status read) >>= fun failure =>
        closeBoundedResponse m .response close failure >>= raiseFailure)
        (log ++ [.opened request timeout]) := rfl
  rw [opened]
  cases readBoundedResponse m scan status read with
  | error e => rfl
  | ok failure =>
      rw [Program.bind_returned (show Program.lift (Except.ok failure) _ = (.ok failure, _) from rfl)]
      exact closeBoundedResponse_eq .response close failure _

theorem attempt_httpError (timeout : Number) (request : Request) (code : Int)
    (close : Option TransportError) (log : List DeliveryEvent) :
    attempt m scan timeout (.httpError code close) request log =
      (.error (m.failure (httpFailureReason code)),
        log ++ [.opened request timeout] ++ [.closed .httpError]) := by
  have opened : attempt m scan timeout (.httpError code close) request log =
      (closeBoundedResponse m .httpError close (some (m.failure (httpFailureReason code))) >>=
        raiseFailure) (log ++ [.opened request timeout]) := rfl
  rw [opened]
  exact closeBoundedResponse_eq .httpError close _ _

theorem requests_exchange (request : Request) (timeout : Number) (acquired : List Resource) :
    requests (.opened request timeout :: acquired.map .closed) = [request] := by
  have none : (acquired.map DeliveryEvent.closed).filterMap DeliveryEvent.request = [] := by
    rw [List.filterMap_map]
    exact List.filterMap_eq_nil_iff.mpr fun _ _ => rfl
  exact congrArg (request :: ·) none

theorem closes_exchange (request : Request) (timeout : Number) (acquired : List Resource) :
    closes (.opened request timeout :: acquired.map .closed) = acquired := by
  show (acquired.map DeliveryEvent.closed).filterMap DeliveryEvent.closedResource = acquired
  rw [List.filterMap_map]
  exact List.filterMap_some

/-- One request and then a close of all that was acquired. -/
theorem BoundedDelivery.of_exchange {send : Exchange -> DeliveryProgram Unit} {exchange : Exchange}
    {request : Request} {timeout : Number} {result : Except Raised Unit}
    (ended : send exchange [] =
      (result, .opened request timeout :: exchange.acquired.map .closed))
    (returns : result = .ok () ↔ Delivered scan exchange)
    (raises : forall e, result = .error e -> e.kind = m.kind)
    (precedence : forall e, (send exchange.closingQuietly []).1 = .error e -> result = .error e) :
    BoundedDelivery scan m send exchange := by
  have requested := requests_exchange request timeout exchange.acquired
  constructor
  · rw [ended, requested]
    exact Nat.le_refl 1
  · rw [ended, requested]
    exact fun impossible => absurd impossible (List.cons_ne_nil _ _)
  · rw [ended]
    exact fun _ => closes_exchange request timeout exchange.acquired
  · rw [ended]
    exact returns
  · rw [ended]
    exact raises
  · rw [ended]
    exact precedence

/-- A failure of the module that is there before the close. -/
theorem BoundedDelivery.of_failure {send : Exchange -> DeliveryProgram Unit} {exchange : Exchange}
    {request : Request} {timeout : Number} {reason : String}
    (ended : send exchange [] =
      (.error (m.failure reason), .opened request timeout :: exchange.acquired.map .closed))
    (quiet : (send exchange.closingQuietly []).1 = .error (m.failure reason))
    (refused : ¬ Delivered scan exchange) : BoundedDelivery scan m send exchange := by
  refine .of_exchange ended (iff_of_false nofun refused) ?_ ?_
  · intro e same
    cases same
    rfl
  · intro e same
    rw [quiet] at same
    exact same

/-- An attempt keeps the promise unless the nesting is too deep. -/
theorem attempt_bounded (timeout : Number) (request : Request) (other : m.kind ≠ .recursionError)
    (exchange : Exchange) :
    BoundedDelivery scan m (fun exchange => attempt m scan timeout exchange request) exchange ↔
      ¬ TooDeep scan exchange := by
  have elsewhere : (forall status read close, exchange ≠ .response status read close) ->
      ¬ Delivered scan exchange ∧ ¬ TooDeep scan exchange := by
    intro noResponse
    constructor
    · rintro ⟨body, members, same, _⟩
      exact noResponse _ _ _ same
    · rintro ⟨body, close, same, _⟩
      exact noResponse _ _ _ same
  cases exchange with
  | timeoutError =>
      have absent := elsewhere nofun
      exact iff_of_true (.of_failure rfl rfl absent.1) absent.2
  | osError =>
      have absent := elsewhere nofun
      exact iff_of_true (.of_failure rfl rfl absent.1) absent.2
  | httpException =>
      have absent := elsewhere nofun
      exact iff_of_true (.of_failure rfl rfl absent.1) absent.2
  | httpError code close =>
      have absent := elsewhere nofun
      refine iff_of_true (.of_failure (attempt_httpError timeout request code close []) ?_ absent.1)
        absent.2
      exact congrArg Prod.fst (attempt_httpError timeout request code none [])
  | response status read close =>
      have ended : forall close, attempt m scan timeout (.response status read close) request [] = _ :=
        fun close => attempt_response timeout request status read close []
      have found : Determined m scan status read (readBoundedResponse m scan status read) :=
        determined status read
      generalize readBoundedResponse m scan status read = result at ended found
      cases found with
      | success delivered =>
          have shallow : ¬ TooDeep scan (.response status read close) := by
            rintro ⟨body, close', same, deep⟩
            rcases delivered with ⟨body', members, same', bodyRead, _⟩
            cases same
            cases same'
            exact nomatch bodyRead.unique deep
          refine iff_of_true (.of_exchange (ended close) ?_ ?_ ?_) shallow
          · cases close with
            | none => exact iff_of_true rfl delivered
            | some e =>
                refine iff_of_false nofun ?_
                rintro ⟨body, members, same, _⟩
                cases same
          · intro e failed
            cases close with
            | none => cases failed
            | some _ =>
                cases failed
                rfl
          · intro e failed
            exact afterClose_failure ((congrArg Prod.fst (ended none)).symm.trans failed)
      | failure reason refused shallow =>
          refine iff_of_true (.of_failure (ended close) ?_ (refused close)) (shallow close)
          exact congrArg Prod.fst (ended none)
      | abandoned message deep =>
          refine iff_of_false ?_ (not_not.mpr (deep close))
          intro kept
          refine other (kept.raises _ (congrArg Prod.fst (ended close))).symm

/-- So does a whole call, if its text has a UTF-8 encoding. -/
theorem sendMessage_bounded (settings : TelegramFields) (message : PyStr)
    (notRecursion : m.kind ≠ .recursionError) (notEncoding : m.kind ≠ .unicodeEncodeError)
    (exchange : Exchange) :
    BoundedDelivery scan m (fun exchange => sendMessage m scan settings exchange message) exchange ↔
      Encodable message ∧ ¬ TooDeep scan exchange := by
  rcases buildRequest_outcome settings message with ⟨encodable, request, built⟩ | ⟨refused, failed⟩
  · have same : (fun exchange => sendMessage m scan settings exchange message) =
        fun exchange => attempt m scan settings.timeoutSeconds exchange request := by
      funext exchange log
      rw [sendMessage, built]
      rfl
    rw [same, attempt_bounded settings.timeoutSeconds request notRecursion exchange]
    exact (and_iff_right encodable).symm
  · refine iff_of_false ?_ fun both => refused both.1
    intro kept
    have raised : (sendMessage m scan settings exchange message []).1 =
        raise .unicodeEncodeError "surrogates not allowed" := by
      rw [sendMessage, failed]
      rfl
    exact notEncoding (kept.raises _ raised).symm

end Attempt

/-! ## The two senders -/

/-- Delivery is bounded and cleans up exactly when the response can be scanned
and the text encoded; the text of the dead-man switch always can. -/
theorem delivery_bounded_iff (scan : PyStr -> Json.Scanned Json) :
    (forall (settings : TelegramSettings) (incident : Incident) (exchange : Exchange),
      BoundedDelivery scan TelegramSender.delivery (TelegramSender.send scan settings incident)
          exchange ↔
        Encodable incident.host ∧ ¬ TooDeep scan exchange) ∧
      forall (settings : DeadManTelegramSettings) (notification : DeadManNotification)
        (exchange : Exchange),
        BoundedDelivery scan DeadManTelegramSender.delivery
            (DeadManTelegramSender.send scan settings notification) exchange ↔
          ¬ TooDeep scan exchange := by
  constructor
  · intro settings incident exchange
    rw [<- encodable_incident incident]
    exact sendMessage_bounded settings.toTelegramFields (renderIncidentMessage incident) (by decide)
      (by decide) exchange
  · intro settings notification exchange
    refine Iff.trans ?_ (and_iff_right (encodable_deadman notification))
    exact sendMessage_bounded settings.toTelegramFields (renderDeadmanMessage notification) (by decide)
      (by decide) exchange

/-- A body with too many levels ends the call with the error of the interpreter,
and the response stays open. -/
theorem send_tooDeep {m : DeliveryModule} {scan : PyStr -> Json.Scanned Json}
    (settings : TelegramFields) {message : PyStr} (encodable : Encodable message)
    {exchange : Exchange} (deep : TooDeep scan exchange) :
    (exists e, (sendMessage m scan settings exchange message []).1 = .error e ∧
        e.kind = .recursionError) ∧
      closes (sendMessage m scan settings exchange message []).2 = [] := by
  rcases buildRequest_outcome settings message with ⟨_, request, built⟩ | ⟨refused, _⟩
  · rcases deep with ⟨body, close, rfl, bodyRead⟩
    have same : sendMessage m scan settings (.response 200 (.ok body) close) message [] =
        attempt m scan settings.timeoutSeconds (.response 200 (.ok body) close) request [] := by
      rw [sendMessage, built]
      rfl
    have found : Determined m scan 200 (.ok body) (readBoundedResponse m scan 200 (.ok body)) :=
      determined 200 (.ok body)
    rw [same, attempt_response]
    generalize readBoundedResponse m scan 200 (.ok body) = result at found
    cases found with
    | success delivered =>
        rcases delivered with ⟨body', members, same', bodyRead', _⟩
        cases same'
        cases bodyRead.unique bodyRead'
    | failure reason _ shallow => exact absurd ⟨body, close, rfl, bodyRead⟩ (shallow close)
    | abandoned message _ => exact ⟨⟨_, rfl, rfl⟩, rfl⟩
  · exact absurd encodable refused

/-- A thousand arrays, one in the other. -/
def nestedBody : List Utf8.Byte :=
  List.replicate 1000 (Utf8.byte 91) ++ List.replicate 1000 (Utf8.byte 93)

def gaveUp : Json.Scanned Json -> Bool
  | .tooDeep => true
  | _ => false

theorem eq_tooDeep {result : Json.Scanned Json} (deep : gaveUp result = true) : result = .tooDeep := by
  cases result with
  | tooDeep => rfl
  | value document => cases deep
  | malformed => cases deep

theorem nestedBody_tooDeep (close : Option TransportError) :
    TooDeep JsonScanner.standard.scan (.response 200 (.ok nestedBody) close) := by
  have spelled : Utf8.decode .strict nestedBody =
      some (List.replicate 1000 (codePoint '[') ++ List.replicate 1000 (codePoint ']')) := by
    decide +kernel
  have deep : gaveUp (JsonScanner.standard.scan
      (List.replicate 1000 (codePoint '[') ++ List.replicate 1000 (codePoint ']'))) = true := by
    decide +kernel
  exact ⟨nestedBody, close, rfl, by decide +kernel, _, spelled, eq_tooDeep deep⟩

theorem firstMoment_inRange : 0 < maxMicros := by
  decide

def firstMoment : DateTime :=
  DateTime.utc ⟨0, firstMoment_inRange⟩

theorem outage_canonical : (DeadManState.unknown, DeadManState.down) ∈ canonicalTransitions := by
  decide

theorem firstAlert_positive : (1 : Int) ≤ 1 :=
  le_refl 1

theorem down_ne_recovered : DeadManNotificationKind.down ≠ .recovered := by
  decide

/-- The first alert of a dead-man switch. -/
def firstAlert : DeadManNotification where
  notificationId := 1
  kind := .down
  transition := {
    fromState := .unknown
    toState := .down
    confirmedAt := firstMoment
    canonical := outage_canonical
    aware := rfl }
  idPositive := firstAlert_positive
  downPaired := fun _ => rfl
  recoveredPaired := fun same => absurd same down_ne_recovered
  recoveredNotFirst := fun same => absurd same down_ne_recovered

def alertSettings : DeadManTelegramSettings where
  botToken := text "1:a"
  chatId := 1
  accepted := rfl

/-- The response to the first alert is not closed, and no delivery error is raised. -/
theorem nestedBody_not_bounded :
    ¬ BoundedDelivery JsonScanner.standard.scan DeadManTelegramSender.delivery
      (DeadManTelegramSender.send JsonScanner.standard.scan alertSettings firstAlert)
      (.response 200 (.ok nestedBody) none) := by
  intro kept
  rcases send_tooDeep alertSettings.toTelegramFields (encodable_deadman firstAlert)
    (nestedBody_tooDeep none) with ⟨⟨e, raised, recursion⟩, _⟩
  exact nomatch (kept.raises e raised).symm.trans recursion

end Telegram
end HermesSentinel
