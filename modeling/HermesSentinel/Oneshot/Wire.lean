import HermesSentinel.Oneshot.Refinement
import HermesSentinel.Telegram.ReadBack

namespace HermesSentinel
namespace Oneshot

open Python
open Foundation
open DeadMan
open Settings
open Telegram (Exchange DeliveryEvent Encodable Request requests)

/-!
# What goes over the wire

A process makes at most one request to the probed host and at most one to the
Bot API.  The requests to the Bot API are, one by one, the notifications that
the log of the cycle has as sent, and its replies are those of the outside.
-/

def notificationOf : Event -> Option DeadManNotification
  | .sent n _ _ => some n
  | .replaced _ _ => none

/-- The notifications handed to the sender, in order. -/
def sentNotifications (log : List Event) : List DeadManNotification :=
  log.filterMap notificationOf

/-- A request with the message of a notification, under acceptable settings. -/
def Carries (notification : DeadManNotification) (request : Request) : Prop :=
  exists settings : TelegramFields, settings.postInit = .ok () ∧
    Telegram.buildRequest settings (Telegram.renderDeadmanMessage notification) = .ok request

def ProbeEvent.opens : ProbeEvent -> Bool
  | .opened _ _ => true
  | .closed => false

/-- No more than this was asked of the outside since a start.  The requests to
the Bot API are those of the notifications sent. -/
structure Contacts (start : OneshotWorld) (probed sent : Nat) (w : OneshotWorld) : Prop where
  probes : exists events, w.probes = start.probes ++ events ∧
    events.countP ProbeEvent.opens ≤ probed
  wired : exists notifications made,
    sentNotifications w.world.log = sentNotifications start.world.log ++ notifications ∧
    requests w.deliveries = requests start.deliveries ++ made ∧
    List.Forall₂ Carries notifications made ∧ made.length ≤ sent

theorem Contacts.none (w : OneshotWorld) : Contacts w 0 0 w where
  probes := ⟨[], (List.append_nil _).symm, Nat.le_refl 0⟩
  wired := ⟨[], [], (List.append_nil _).symm, (List.append_nil _).symm, .nil, Nat.le_refl 0⟩

theorem Contacts.mono {start w : OneshotWorld} {probed probed' sent sent' : Nat}
    (contacts : Contacts start probed sent w) (more : probed ≤ probed') (more' : sent ≤ sent') :
    Contacts start probed' sent' w := by
  rcases contacts.probes with ⟨events, probes, once⟩
  rcases contacts.wired with ⟨notifications, made, logged, requested, carried, few⟩
  exact ⟨⟨events, probes, once.trans more⟩,
    ⟨notifications, made, logged, requested, carried, few.trans more'⟩⟩

/-- One part of a run after the other. -/
theorem Contacts.trans {first second third : OneshotWorld} {probed probed' sent sent' : Nat}
    (left : Contacts first probed sent second) (right : Contacts second probed' sent' third) :
    Contacts first (probed + probed') (sent + sent') third := by
  rcases left.probes with ⟨events, probes, once⟩
  rcases right.probes with ⟨events', probes', once'⟩
  rcases left.wired with ⟨notifications, made, logged, requested, carried, few⟩
  rcases right.wired with ⟨notifications', made', logged', requested', carried', few'⟩
  refine ⟨⟨events ++ events', ?_, ?_⟩, ⟨notifications ++ notifications', made ++ made', ?_, ?_, ?_, ?_⟩⟩
  · rw [probes', probes, List.append_assoc]
  · rw [List.countP_append]
    exact Nat.add_le_add once once'
  · rw [logged', logged, List.append_assoc]
  · rw [requested', requested, List.append_assoc]
  · exact List.rel_append carried carried'
  · rw [List.length_append]
    exact Nat.add_le_add few few'

/-- However the program ends, it has asked no more than this and printed nothing. -/
def Makes {α : Type} (probed sent : Nat) (program : OneshotProgram α) : Prop :=
  forall w, Contacts w probed sent (program w).2 ∧ (program w).2.output = w.output

theorem Makes.bind {α β : Type} {probed probed' sent sent' : Nat} {program : OneshotProgram α}
    {next : α -> OneshotProgram β} (left : Makes probed sent program)
    (right : forall value, Makes probed' sent' (next value)) :
    Makes (probed + probed') (sent + sent') (program >>= next) := by
  intro w
  have done := left w
  show Contacts w _ _ (Program.bind program next w).2 ∧ (Program.bind program next w).2.output = _
  unfold Program.bind
  rcases ended : program w with ⟨e | value, w'⟩
  · rw [ended] at done
    exact ⟨done.1.mono (Nat.le_add_right _ _) (Nat.le_add_right _ _), done.2⟩
  · rw [ended] at done
    exact ⟨done.1.trans (right value w').1, (right value w').2.trans done.2⟩

/-- Before a part that asks nothing. -/
theorem Makes.after {α β : Type} {probed sent : Nat} {program : OneshotProgram α}
    {next : α -> OneshotProgram β} (left : Makes 0 0 program)
    (right : forall value, Makes probed sent (next value)) :
    Makes probed sent (program >>= next) := by
  have both := left.bind right
  rw [Nat.zero_add, Nat.zero_add] at both
  exact both

theorem Makes.mono {α : Type} {probed probed' sent sent' : Nat} {program : OneshotProgram α}
    (makes : Makes probed sent program) (more : probed ≤ probed') (more' : sent ≤ sent') :
    Makes probed' sent' program :=
  fun w => ⟨(makes w).1.mono more more', (makes w).2⟩

section Cycles

variable {library : StandardLibrary} {surroundings : Surroundings}

theorem makes_pure {α : Type} (value : α) : Makes 0 0 (Pure.pure value) :=
  fun w => ⟨.none w, rfl⟩

/-- A part of the cycle that sends nothing. -/
theorem makes_inCycle {α : Type} {program : CycleProgram α}
    (unsent : forall v, sentNotifications (program v).2.log = sentNotifications v.log) :
    Makes 0 0 (inCycle program) := by
  refine fun w => ⟨⟨⟨[], (List.append_nil _).symm, Nat.le_refl 0⟩, [], [], ?_, ?_⟩, rfl⟩
  · exact (unsent w.world).trans (List.append_nil _).symm
  · exact ⟨(List.append_nil _).symm, .nil, Nat.le_refl 0⟩

theorem makes_pythonCall {α : Type} (call : Fallible α) : Makes 0 0 (inCycle (pythonCall call)) := by
  refine makes_inCycle fun v => ?_
  cases call <;> rfl

theorem makes_await {α : Type} (reply : Reply α) : Makes 0 0 (inCycle (await reply)) := by
  refine makes_inCycle fun v => ?_
  cases reply <;> rfl

theorem makes_load (access : ReadAccess) :
    Makes 0 0 (inCycle (load library.scanner library.reader access)) := by
  refine makes_inCycle fun v => ?_
  cases access with
  | completes =>
      show sentNotifications
        (pythonCall (loadFile library.scanner library.reader v.file) v).2.log = _
      cases loadFile library.scanner library.reader v.file <;> rfl
  | fails => rfl
  | crashes => rfl

theorem makes_save (access : WriteAccess) (status : DeadManStatus) :
    Makes 0 0 (inCycle (save access status)) := by
  refine makes_inCycle fun v => ?_
  have replaced : forall data, sentNotifications (v.log ++ [.replaced v.file (some data)]) =
      sentNotifications v.log :=
    fun data => List.filterMap_append.trans (List.append_nil _)
  unfold save
  cases serialise status with
  | error e => rfl
  | ok data =>
      cases access with
      | crashesReplaced => exact replaced data
      | completes => exact replaced data
      | _ => rfl

/-- The prober makes one request. -/
theorem makes_callProber (settings : DeadManProbeFields) :
    Makes 1 0 (callProber surroundings settings) := by
  have logged : forall events : List ProbeEvent, events.countP ProbeEvent.opens ≤ 1 ->
      forall w : OneshotWorld, Contacts w 1 0 { w with probes := w.probes ++ events } :=
    fun events once w => ⟨⟨events, rfl, once⟩, (Contacts.none w).wired⟩
  intro w
  unfold callProber
  cases surroundings.probing with
  | crashes =>
      exact ⟨logged [.opened settings.url settings.timeoutSeconds] (Nat.le_refl 1) w, rfl⟩
  | ends exchange =>
      refine ⟨?_, rfl⟩
      show Contacts w 1 0 { w with probes := (probe settings exchange w.probes).2 }
      rw [probe_log]
      refine logged _ (Nat.le_of_eq ?_) w
      cases exchange.acquired <;> rfl

/-- One request goes out for a message that can be encoded. -/
theorem callSender_requests (settings : TelegramFields) {message : PyStr}
    (encodable : Encodable message) (w : OneshotWorld) :
    exists request deliveries, Telegram.buildRequest settings message = .ok request ∧
      (callSender library surroundings settings message w).2 = { w with deliveries } ∧
      requests deliveries = requests w.deliveries ++ [request] := by
  rcases Telegram.buildRequest_outcome settings message with ⟨_, request, built⟩ | ⟨refused, _⟩
  · unfold callSender Telegram.sendMessage
    rw [built]
    cases surroundings.sending with
    | crashes => exact ⟨request, _, rfl, rfl, List.filterMap_append⟩
    | ends exchange =>
        exact ⟨request, _, rfl, rfl, Telegram.attempt_requests settings.timeoutSeconds exchange request _⟩
  · exact absurd encodable refused

/-- A delivery makes one request, for the notification it logs. -/
theorem makes_deliver {settings : TelegramFields} (accepted : settings.postInit = .ok ())
    (notification : DeadManNotification) :
    Makes 0 1 (deliver library surroundings settings notification) := by
  intro w
  rcases @callSender_requests library surroundings settings _
    (Telegram.encodable_deadman notification) w with ⟨request, deliveries, built, called, more⟩
  have appended : forall reply v, sentNotifications (DeadMan.send reply notification v).2.log =
      sentNotifications v.log ++ [notification] := by
    intro reply v
    have newest : sentNotifications (v.log ++ [.sent notification reply.delivered v.file]) =
        sentNotifications v.log ++ [notification] := List.filterMap_append
    cases reply <;> exact newest
  have carried : List.Forall₂ Carries [notification] [request] :=
    .cons ⟨settings, accepted, built⟩ .nil
  show Contacts w 0 1 (inCycle (DeadMan.send (replyOf _) notification) (callSender library
      surroundings settings (Telegram.renderDeadmanMessage notification) w).2).2 ∧
    (inCycle _ (callSender library surroundings settings _ w).2).2.output = w.output
  rw [called]
  exact ⟨⟨(Contacts.none w).probes, [notification], [request], appended _ w.world, more, carried,
    Nat.le_refl 1⟩, rfl⟩

/-- A cycle makes one request of each kind at most. -/
theorem makes_runCycle (probeSettings : DeadManProbeFields) {telegram : TelegramFields}
    (accepted : telegram.postInit = .ok ()) :
    Makes 1 1 (runCycle library surroundings probeSettings telegram) := by
  refine (makes_load _).after fun status => ?_
  refine @Makes.bind _ _ 1 0 0 1 _ _ (makes_callProber probeSettings) fun outcome => ?_
  refine (makes_await _).after fun reading => (makes_pythonCall _).after fun now => ?_
  refine (makes_pythonCall _).after fun advanced => (makes_save _ _).after fun _ => ?_
  cases advanced.pendingNotifications with
  | nil => exact (makes_pure _).mono (Nat.le_refl 0) (Nat.zero_le 1)
  | cons oldest rest =>
      refine @Makes.bind _ _ 0 0 1 0 _ _ (makes_deliver accepted oldest) fun _ => ?_
      refine (makes_pythonCall _).after fun acknowledged => ?_
      exact (makes_save _ _).after fun _ => makes_pure _

end Cycles

section Replies

/-- A call that ends is replied to with its value. -/
theorem reply_returns_iff {α β : Type} (call : α -> Fallible β) (contact : Contact α) (value : β) :
    contact.reply call = .returns value ↔
      exists exchange, contact = .ends exchange ∧ call exchange = .ok value := by
  cases contact with
  | crashes => exact iff_of_false nofun nofun
  | ends exchange =>
      have same : replyOf ((call exchange).mapError .raised) = .returns value ↔ call exchange = .ok value := by
        cases call exchange with
        | error e => exact iff_of_false nofun nofun
        | ok other =>
            show Reply.returns other = .returns value ↔ _
            rw [Reply.returns.injEq, Except.ok.injEq]
      rw [Contact.reply, same]
      constructor
      · intro returned
        exact ⟨exchange, rfl, returned⟩
      · rintro ⟨exchange', ended, returned⟩
        cases ended
        exact returned

variable (library : StandardLibrary) (surroundings : Surroundings)

/-- The cycle sees a sign of life exactly if there is one. -/
theorem probe_healthy_iff :
    (cycleEnvironment library surroundings).probe = .returns .healthy ↔
      exists exchange response, surroundings.probing = .ends exchange ∧
        exchange.acquired = some response ∧ Alive response := by
  refine (reply_returns_iff _ surroundings.probing DeadManProbeOutcome.healthy).trans ?_
  constructor
  · rintro ⟨exchange, ended, returned⟩
    rcases (probe_healthy _ exchange).mp returned with ⟨response, acquired, alive⟩
    exact ⟨exchange, response, ended, acquired, alive⟩
  · rintro ⟨exchange, response, ended, acquired, alive⟩
    exact ⟨exchange, ended, (probe_healthy _ exchange).mpr ⟨response, acquired, alive⟩⟩

/-- An attempt returns exactly on the success contract. -/
theorem attempt_delivered {m : Telegram.DeliveryModule} {scan : PyStr -> Json.Scanned Json}
    (timeout : Number) (exchange : Exchange) (request : Request) :
    (Telegram.attempt m scan timeout exchange request []).1 = .ok () ↔
      Telegram.Delivered scan exchange := by
  have elsewhere : (forall status read close, exchange ≠ .response status read close) ->
      ¬ Telegram.Delivered scan exchange := by
    rintro noResponse ⟨body, members, same, _⟩
    exact noResponse _ _ _ same
  cases exchange with
  | response status read close =>
      have found : Telegram.Determined m scan status read
        (Telegram.readBoundedResponse m scan status read) := Telegram.determined status read
      rw [Telegram.attempt_response]
      generalize Telegram.readBoundedResponse m scan status read = result at found
      cases found with
      | success delivered =>
          cases close with
          | none => exact iff_of_true rfl delivered
          | some _ =>
              refine iff_of_false nofun ?_
              rintro ⟨body, members, same, _⟩
              cases same
      | failure reason refused _ => exact iff_of_false nofun (refused close)
      | abandoned message deep =>
          refine iff_of_false nofun ?_
          rintro ⟨body, members, same, bodyRead, _⟩
          rcases deep close with ⟨body', close', same', tooDeep⟩
          cases same
          cases same'
          exact nomatch bodyRead.unique tooDeep
  | httpError code close =>
      rw [Telegram.attempt_httpError]
      exact iff_of_false nofun (elsewhere nofun)
  | timeoutError => exact iff_of_false nofun (elsewhere nofun)
  | osError => exact iff_of_false nofun (elsewhere nofun)
  | httpException => exact iff_of_false nofun (elsewhere nofun)

/-- For the cycle a send returns exactly if the Bot API has accepted it. -/
theorem send_returns_iff :
    (cycleEnvironment library surroundings).send = .returns () ↔
      exists exchange, surroundings.sending = .ends exchange ∧
        Telegram.Delivered library.scan exchange := by
  refine (reply_returns_iff _ surroundings.sending ()).trans ?_
  exact exists_congr fun exchange => and_congr_right fun _ =>
    attempt_delivered (.int 1) exchange someRequest

end Replies

end Oneshot
end HermesSentinel
