import HermesSentinel.Oneshot.Process

namespace HermesSentinel
namespace Oneshot

open Python
open Foundation
open DeadMan
open Settings
open Telegram (Exchange DeliveryEvent DeliveryModule Encodable Request)

/-!
# A process is one cycle

To the state file and to the log of the sender a process does what one cycle
does, in the environment that its surroundings amount to.  How an adapter ends
does not depend on the settings, on the message or on what it did before, so
that this environment can be read off the surroundings alone.
-/

def Contact.reply {α β : Type} (call : α -> Fallible β) : Contact α -> Reply β
  | .ends exchange => replyOf ((call exchange).mapError .raised)
  | .crashes => .crashes

/-- Some request; how an attempt ends is the same for every one. -/
def someRequest : Request where
  url := []
  data := []
  method := []
  headers := []

/-- What a cycle finds where a process finds this. -/
def cycleEnvironment (library : StandardLibrary) (surroundings : Surroundings) :
    CycleEnvironment where
  load := surroundings.load
  probe := surroundings.probing.reply fun exchange => (probe { url := [] } exchange []).1
  clock := surroundings.clock
  firstSave := surroundings.firstSave
  send := surroundings.sending.reply fun exchange =>
    (Telegram.attempt Telegram.DeadManTelegramSender.delivery library.scan (.int 1) exchange
      someRequest []).1
  secondSave := surroundings.secondSave

def reachesCycle (library : StandardLibrary) (surroundings : Surroundings)
    (env : EnvironmentMapping) : Bool :=
  (loadDeadmanSettings library.interpreter library.urlsplit env).toBool && surroundings.setup.isNone

/-- The cycle of a process.  One that does not come to it does as much as one
killed at its start. -/
def cycleOf (library : StandardLibrary) (surroundings : Surroundings) (env : EnvironmentMapping) :
    CycleEnvironment :=
  if reachesCycle library surroundings env = true then cycleEnvironment library surroundings
  else { cycleEnvironment library surroundings with load := .crashes }

/-- The world of a process shows this world of a cycle. -/
def Shows (w : OneshotWorld) (v : World) : Prop :=
  w.world = v

theorem await_replyOf {α : Type} (result : Except Interruption α) (v : World) :
    await (replyOf result) v = (result, v) := by
  rcases result with (e | _) | value
  · rfl
  · rfl
  · rfl

theorem replyOf_await {α : Type} (reply : Reply α) (v : World) : replyOf (await reply v).1 = reply := by
  cases reply with
  | returns value => rfl
  | raises e => rfl
  | crashes => rfl

theorem probe_result (settings settings' : DeadManProbeFields) (exchange : ProbeExchange)
    (log log' : List ProbeEvent) :
    (probe settings exchange log).1 = (probe settings' exchange log').1 := by
  have observed : forall response, Program.Twin (fun _ _ => True) (observeAndClose response)
      (observeAndClose response) Eq := fun response =>
    .bindSame (.lift (.refl _)) fun _ => .bind (.update fun _ _ _ => trivial) fun _ _ _ => .pure rfl
  refine Program.Twin.result_eq ?_ log log'
  refine .bind (.update fun _ _ _ => trivial) fun _ _ _ => ?_
  cases exchange with
  | response response => exact observed response
  | httpError response => exact observed response
  | timeoutError => exact .pure rfl
  | osError => exact .pure rfl
  | httpException => exact .pure rfl
  | defect e => exact .interrupt e

section Attempts

variable {m : DeliveryModule} {scan : PyStr -> Json.Scanned Json}
variable {related : List DeliveryEvent -> List DeliveryEvent -> Prop}

/-- Two attempts over one exchange end alike; their logs differ in the request. -/
theorem attempt_twin {request request' : Request} {timeout timeout' : Number}
    (opened : forall log log', related log log' ->
      related (log ++ [.opened request timeout]) (log' ++ [.opened request' timeout']))
    (closed : forall log log' resource, related log log' ->
      related (log ++ [.closed resource]) (log' ++ [.closed resource])) (exchange : Exchange) :
    Program.Twin related (Telegram.attempt m scan timeout exchange request)
      (Telegram.attempt m scan timeout' exchange request') Eq := by
  have ended : forall resource close failure, Program.Twin related
      (Telegram.closeBoundedResponse m resource close failure >>= Telegram.raiseFailure)
      (Telegram.closeBoundedResponse m resource close failure >>= Telegram.raiseFailure) Eq := by
    intro resource close failure
    refine .bindSame (.bind (.update fun log log' holds => closed log log' resource holds)
      fun _ _ _ => ?_) fun bounded => ?_
    · split
      · exact .pure rfl
      · exact .pure rfl
    · cases bounded with
      | none => exact .pure rfl
      | some failure => exact .interrupt failure
  refine .bind (.update opened) fun _ _ _ => ?_
  cases exchange with
  | response status read close =>
      exact .bindSame (.lift (.refl _)) fun failure => ended .response close failure
  | httpError code close => exact ended .httpError close _
  | timeoutError => exact .interrupt _
  | osError => exact .interrupt _
  | httpException => exact .interrupt _

end Attempts

section Cycles

variable {library : StandardLibrary} {surroundings : Surroundings}

theorem inCycle_twin {α : Type} (program : CycleProgram α) :
    Program.Twin Shows (inCycle program) program Eq := by
  intro w v shows
  cases shows
  exact ⟨.refl _, rfl⟩

/-- The prober replies as the cycle is told it does. -/
theorem callProber_twin (settings : DeadManProbeFields) :
    Program.Twin Shows (callProber surroundings settings)
      (await (cycleEnvironment library surroundings).probe) Eq := by
  intro w v shows
  show Alike Eq _ (await (surroundings.probing.reply _) v).1 ∧
    Shows _ (await (surroundings.probing.reply _) v).2
  unfold callProber
  cases surroundings.probing with
  | crashes => exact ⟨Eq.refl _, shows⟩
  | ends exchange =>
      rw [Contact.reply, await_replyOf, <- probe_result settings _ exchange w.probes]
      exact ⟨.refl _, shows⟩

/-- So does the sender, whatever the message is that it can encode. -/
theorem callSender_twin (settings : TelegramFields) {message : PyStr} (encodable : Encodable message) :
    Program.Twin Shows (callSender library surroundings settings message)
      (await (cycleEnvironment library surroundings).send) Eq := by
  intro w v shows
  show Alike Eq _ (await (surroundings.sending.reply _) v).1 ∧
    Shows _ (await (surroundings.sending.reply _) v).2
  rcases Telegram.buildRequest_outcome settings message with ⟨_, request, built⟩ | ⟨refused, _⟩
  · unfold callSender Telegram.sendMessage
    cases surroundings.sending with
    | crashes =>
        rw [built]
        exact ⟨Eq.refl _, shows⟩
    | ends exchange =>
        have same := (@attempt_twin Telegram.DeadManTelegramSender.delivery library.scan
          (fun _ _ => True) request someRequest settings.timeoutSeconds (.int 1)
          (fun _ _ _ => trivial) (fun _ _ _ _ => trivial) exchange).result_eq w.deliveries []
        rw [Contact.reply, await_replyOf, <- same, built]
        exact ⟨.refl _, shows⟩
  · exact absurd encodable refused

theorem deliver_twin (settings : TelegramFields) (notification : DeadManNotification) :
    Program.Twin Shows (deliver library surroundings settings notification)
      (DeadMan.send (cycleEnvironment library surroundings).send notification) Eq := by
  intro w v shows
  have called := @callSender_twin library surroundings settings _
    (Telegram.encodable_deadman notification) w v shows
  have reply : replyOf (callSender library surroundings settings
      (Telegram.renderDeadmanMessage notification) w).1 =
      (cycleEnvironment library surroundings).send := by
    rw [called.1.eq, replyOf_await]
  have left : (await (cycleEnvironment library surroundings).send v).2 = v := by
    cases (cycleEnvironment library surroundings).send <;> rfl
  rw [left] at called
  show Alike Eq (inCycle (DeadMan.send (replyOf _) notification) _).1 _ ∧
    Shows (inCycle (DeadMan.send (replyOf _) notification) _).2 _
  rw [reply]
  exact inCycle_twin _ _ _ called.2

theorem runCycle_twin (probeSettings : DeadManProbeFields) (telegram : TelegramFields) :
    Program.Twin Shows (runCycle library surroundings probeSettings telegram)
      (runDeadmanCycle library.scanner library.reader (cycleEnvironment library surroundings)) Eq := by
  refine .bindSame (inCycle_twin _) fun status => ?_
  refine .bindSame (callProber_twin probeSettings) fun outcome => ?_
  refine .bindSame (inCycle_twin _) fun reading => .bindSame (inCycle_twin _) fun now => ?_
  refine .bindSame (inCycle_twin _) fun advanced => .bindSame (inCycle_twin _) fun _ => ?_
  cases advanced.pendingNotifications with
  | nil => exact .pure rfl
  | cons oldest rest =>
      refine .bindSame (deliver_twin telegram oldest) fun _ => ?_
      refine .bindSame (inCycle_twin _) fun acknowledged => ?_
      exact .bindSame (inCycle_twin _) fun _ => .pure rfl

end Cycles

end Oneshot
end HermesSentinel
