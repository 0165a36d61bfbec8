import HermesSentinel.DeadMan.Drain
import HermesSentinel.Oneshot.Contract
import HermesSentinel.Settings.Secrecy

namespace HermesSentinel
namespace Oneshot

open Python
open Foundation
open DeadMan
open Settings
open Telegram (Exchange DeliveryEvent Request requests)

/-!
# The token goes nowhere but to the Bot API

Two runs of a timer are compared whose environments have one public view: the
tokens may be others.  The endings, the lines, the state file, the probes and
the bodies sent to the Bot API are the same in both; only the URLs of the
requests to the Bot API may differ.
-/

/-- Requests that differ in nothing but their URLs. -/
def SameButUrl (request request' : Request) : Prop :=
  request' = { request with url := request'.url }

def Indistinct : DeliveryEvent -> DeliveryEvent -> Prop
  | .opened request timeout, .opened request' timeout' =>
      SameButUrl request request' ∧ timeout = timeout'
  | .closed resource, .closed resource' => resource = resource'
  | _, _ => False

/-- Two worlds that differ in nothing but the URLs of requests to the Bot API. -/
structure Undistinguished (w w' : OneshotWorld) : Prop where
  world : w.world = w'.world
  probes : w.probes = w'.probes
  output : w.output = w'.output
  deliveries : List.Forall₂ Indistinct w.deliveries w'.deliveries

/-- Settings that differ in nothing but their tokens. -/
def SameButToken (settings settings' : TelegramFields) : Prop :=
  settings' = { settings with botToken := settings'.botToken }

/-- One process started twice, with tokens of the same form. -/
structure Rotated (process process' : Started) : Prop where
  surroundings : process.surroundings = process'.surroundings
  view : deadManView process.env = deadManView process'.env

/-- How the processes of a run end, in order. -/
def endings (library : StandardLibrary) :
    OneshotWorld -> List Started -> List (Except Interruption Nat)
  | _, [] => []
  | w, process :: rest =>
      (runDeadmanProcess library process.surroundings process.env w).1 ::
        endings library (runDeadmanProcess library process.surroundings process.env w).2 rest

/-- Settings with tokens that are accepted alike are made alike. -/
theorem make_sameButToken {token token' : PyStr} (alphabet : SameAlphabet token token')
    (chatId : Int) (threadId : Option Int) (timeout : Option PyFloat) :
    Alike (fun t t' : DeadManTelegramSettings => SameButToken t.toTelegramFields t'.toTelegramFields)
      (DeadManTelegramSettings.make (telegramFields token chatId threadId timeout))
      (DeadManTelegramSettings.make (telegramFields token' chatId threadId timeout)) := by
  have same := postInit_alphabet alphabet chatId threadId timeout
  unfold DeadManTelegramSettings.make
  cases checked : (telegramFields token chatId threadId timeout).postInit with
  | ok accepted =>
      rw [construct_ok _ checked, construct_ok _ (same.symm.trans checked)]
      exact Eq.refl (telegramFields token' chatId threadId timeout)
  | error e =>
      rw [construct_eq_error.mpr checked, construct_eq_error.mpr (same.symm.trans checked)]
      exact Eq.refl e

section Settings

variable {library : StandardLibrary} {env env' : EnvironmentMapping}

/-- Environments with one view give settings that differ in the token. -/
theorem loadDeadmanSettings_sameButToken (same : deadManView env = deadManView env') :
    Alike (fun settings settings' => settings.probe = settings'.probe ∧
        SameButToken settings.telegram.toTelegramFields settings'.telegram.toTelegramFields)
      (loadDeadmanSettings library.interpreter library.urlsplit env)
      (loadDeadmanSettings library.interpreter library.urlsplit env') := by
  apply Alike.bind (takeSnapshot_alike same)
  intro snapshot snapshot' _ _ view
  have visible : publicVariables deadManSecrets snapshot = publicVariables deadManSecrets snapshot' :=
    congrArg DeadManView.visible view
  have probe : loadProbeSettings library.urlsplit snapshot =
      loadProbeSettings library.urlsplit snapshot' := by
    unfold loadProbeSettings
    rw [requiredNonEmptyString_congr (get_of_public visible (by decide)),
      optionalParsed_congr (get_of_public visible (by decide))]
  have store : loadStore snapshot = loadStore snapshot' := by
    unfold loadStore
    rw [requiredNonEmptyString_congr (get_of_public visible (by decide))]
  apply Alike.bind_same probe
  intro probeSettings _
  apply Alike.bind_same store
  intro stored _
  have telegram : Alike
      (fun t t' : DeadManTelegramSettings => SameButToken t.toTelegramFields t'.toTelegramFields)
      (loadTelegramSettings library.interpreter snapshot)
      (loadTelegramSettings library.interpreter snapshot') := by
    apply Alike.bind (botToken_alike (congrArg DeadManView.botToken view))
    intro token token' _ _ alphabet
    apply Alike.bind_same (requiredNonEmptyString_congr (get_of_public visible (by decide)))
    intro chatRaw _
    apply Alike.bind_same rfl
    intro chatId _
    apply Alike.bind_same (optionalParsed_congr (get_of_public visible (by decide)))
    intro threadId _
    apply Alike.bind_same (optionalParsed_congr (get_of_public visible (by decide)))
    intro timeout _
    exact accepted_alike _ (make_sameButToken alphabet chatId threadId timeout)
  apply Alike.bind telegram
  intro settings settings' _ _ tokens
  exact ⟨rfl, tokens⟩

end Settings

/-! ## The parts of a process -/

section Parts

variable {library : StandardLibrary} {surroundings : Surroundings}

/-- Of the settings a request has the token in its URL only. -/
theorem buildRequest_sameButUrl {settings settings' : TelegramFields}
    (same : SameButToken settings settings') (message : PyStr) :
    Alike SameButUrl (Telegram.buildRequest settings message)
      (Telegram.buildRequest settings' message) := by
  have body : Telegram.renderJsonBody message settings =
      Telegram.renderJsonBody message settings' := by
    rw [same]
    rfl
  exact Alike.bind_same body fun _ _ => Eq.refl _

theorem inCycle_undistinguished {α : Type} (program : CycleProgram α) :
    Program.Twin Undistinguished (inCycle program) (inCycle program) Eq := by
  intro w w' alike
  unfold inCycle Program.zoom
  rw [alike.world]
  exact ⟨.refl _, rfl, alike.probes, alike.output, alike.deliveries⟩

theorem callProber_undistinguished (settings : DeadManProbeFields) :
    Program.Twin Undistinguished (callProber surroundings settings)
      (callProber surroundings settings) Eq := by
  have kept : forall {α : Type} (program : ProbeProgram α),
      Program.Twin Undistinguished (inProbe program) (inProbe program) Eq := by
    intro α program w w' alike
    unfold inProbe Program.zoom
    rw [alike.probes]
    exact ⟨.refl _, alike.world, rfl, alike.output, alike.deliveries⟩
  unfold callProber
  cases surroundings.probing with
  | ends exchange => exact kept _
  | crashes => exact .bindSame (kept _) fun _ => .interrupt _

theorem inDelivery_undistinguished {α β : Type} {program : Telegram.DeliveryProgram α}
    {program' : Telegram.DeliveryProgram β} {values : α -> β -> Prop}
    (twin : Program.Twin (List.Forall₂ Indistinct) program program' values) :
    Program.Twin Undistinguished (inDelivery program) (inDelivery program') values :=
  .zoom twin.widen (fun _ _ alike => alike.deliveries) fun _ _ alike _ _ deliveries =>
    ⟨alike.world, alike.probes, alike.output, deliveries⟩

theorem callSender_undistinguished {settings settings' : TelegramFields}
    (same : SameButToken settings settings') (message : PyStr) :
    Program.Twin Undistinguished (callSender library surroundings settings message)
      (callSender library surroundings settings' message) Eq := by
  have timeout : settings.timeoutSeconds = settings'.timeoutSeconds :=
    (congrArg TelegramFields.timeoutSeconds same).symm
  have opened : forall request request', SameButUrl request request' -> forall log log',
      List.Forall₂ Indistinct log log' -> List.Forall₂ Indistinct
        (log ++ [.opened request settings.timeoutSeconds])
        (log' ++ [.opened request' settings'.timeoutSeconds]) :=
    fun _ _ sameRequest _ _ alike => List.rel_append alike (.cons ⟨sameRequest, timeout⟩ .nil)
  have closed : forall log log' resource, List.Forall₂ Indistinct log log' ->
      List.Forall₂ Indistinct (log ++ [.closed resource]) (log' ++ [.closed resource]) :=
    fun _ _ _ alike => List.rel_append alike (.cons (Eq.refl _) .nil)
  have built := buildRequest_sameButUrl same message
  unfold callSender
  cases surroundings.sending with
  | ends exchange =>
      exact inDelivery_undistinguished (.bind (.lift built) fun request request' sameRequest =>
        attempt_twin (opened request request' sameRequest) closed exchange)
  | crashes =>
      refine .bind (inDelivery_undistinguished (.lift built)) fun request request' sameRequest => ?_
      exact .bind (inDelivery_undistinguished (.update (opened request request' sameRequest)))
        fun _ _ _ => .interrupt _

theorem deliver_undistinguished {settings settings' : TelegramFields}
    (same : SameButToken settings settings') (notification : DeadManNotification) :
    Program.Twin Undistinguished (deliver library surroundings settings notification)
      (deliver library surroundings settings' notification) Eq := by
  refine .bind (callSender_undistinguished same _).caught fun ended ended' alike => ?_
  rw [alike.eq]
  exact inCycle_undistinguished _

theorem runCycle_undistinguished (probeSettings : DeadManProbeFields)
    {settings settings' : TelegramFields} (same : SameButToken settings settings') :
    Program.Twin Undistinguished (runCycle library surroundings probeSettings settings)
      (runCycle library surroundings probeSettings settings') Eq := by
  refine .bindSame (inCycle_undistinguished _) fun status => ?_
  refine .bindSame (callProber_undistinguished probeSettings) fun outcome => ?_
  refine .bindSame (inCycle_undistinguished _) fun reading => ?_
  refine .bindSame (inCycle_undistinguished _) fun now => ?_
  refine .bindSame (inCycle_undistinguished _) fun advanced => ?_
  refine .bindSame (inCycle_undistinguished _) fun _ => ?_
  cases advanced.pendingNotifications with
  | nil => exact .pure rfl
  | cons oldest rest =>
      refine .bindSame (deliver_undistinguished same oldest) fun _ => ?_
      refine .bindSame (inCycle_undistinguished _) fun acknowledged => ?_
      exact .bindSame (inCycle_undistinguished _) fun _ => .pure rfl

/-- A report does not look at the deliveries. -/
theorem print_undistinguished (line : Line) (code : Nat) :
    Program.Twin Undistinguished (print line >>= fun _ => pure code)
      (print line >>= fun _ => pure code) Eq := by
  refine .bind (.update fun w w' alike => ?_) fun _ _ _ => .pure rfl
  exact ⟨alike.world, alike.probes, congrArg (· ++ [line]) alike.output, alike.deliveries⟩

theorem reportCycle_undistinguished (ended : Except Interruption DeadManCycleResult) :
    Program.Twin Undistinguished (reportCycle ended) (reportCycle ended) Eq := by
  rcases ended with (e | _) | result
  · show Program.Twin _ (reportFailure e) (reportFailure e) _
    unfold reportFailure
    split
    · exact print_undistinguished _ 1
    · split
      · exact print_undistinguished _ 1
      · split
        · exact print_undistinguished _ 1
        · split
          · exact print_undistinguished _ 1
          · exact .interrupt _
  · exact .interrupt _
  · exact print_undistinguished _ 0

/-- One process, started with one token or the other. -/
theorem process_undistinguished {env env' : EnvironmentMapping}
    (same : deadManView env = deadManView env') :
    Program.Twin Undistinguished (runDeadmanProcess library surroundings env)
      (runDeadmanProcess library surroundings env') Eq := by
  have loaded := @loadDeadmanSettings_sameButToken library _ _ same
  unfold runDeadmanProcess
  rcases loaded.ends with ⟨settings, settings', first, second, probe, tokens⟩ | ⟨e, first, second⟩
  · rw [first, second]
    show Program.Twin _ (setUp surroundings _) (setUp surroundings _) _
    unfold setUp
    cases surroundings.setup with
    | none =>
        rw [<- probe]
        refine .bind (runCycle_undistinguished _ tokens).caught fun ended ended' alike => ?_
        rw [alike.eq]
        exact reportCycle_undistinguished _
    | some e =>
        dsimp only
        split
        · exact print_undistinguished _ 1
        · exact .interrupt _
  · rw [first, second]
    dsimp only
    split
    · exact print_undistinguished _ 1
    · exact .interrupt _

end Parts

section Runs

variable (library : StandardLibrary)

theorem run_undistinguished {processes processes' : List Started}
    (rotated : List.Forall₂ Rotated processes processes') {w w' : OneshotWorld}
    (alike : Undistinguished w w') :
    endings library w processes = endings library w' processes' ∧
      Undistinguished
        (processes.foldl (fun w process =>
          (runDeadmanProcess library process.surroundings process.env w).2) w)
        (processes'.foldl (fun w process =>
          (runDeadmanProcess library process.surroundings process.env w).2) w') := by
  induction rotated generalizing w w' with
  | nil => exact ⟨rfl, alike⟩
  | cons first rest inductionHypothesis =>
      rename_i process process' others others'
      have ended := @process_undistinguished library process.surroundings _ _ first.view w w' alike
      have same := ended.1.eq
      rw [List.foldl_cons, List.foldl_cons, endings, endings, <- first.surroundings, same]
      have later := inductionHypothesis ended.2
      exact ⟨congrArg _ later.1, later.2⟩

end Runs

/-- Rotating the bot token changes nothing that a timer's runs leave behind, but
for the URLs of the requests to the Bot API. -/
theorem tokens_stay_secret (library : StandardLibrary) {processes processes' : List Started}
    (rotated : List.Forall₂ Rotated processes processes') :
    endings library .initial processes = endings library .initial processes' ∧
      Undistinguished (runProcesses library processes) (runProcesses library processes') :=
  run_undistinguished library rotated ⟨rfl, rfl, rfl, .nil⟩

/-- A library whose URLs are all the same good one. -/
def plainLibrary : StandardLibrary where
  interpreter := standardInterpreter
  urlsplit := splitProbeUrl
  scanner := JsonScanner.standard
  reader := extendedFormat
  scan := JsonScanner.standard.scan

def visibleConfiguration : Snapshot :=
  [(text deadManProbeUrlVar, .str (text "https://sentinel/heartbeat")),
    (text deadManStatePathVar, .str (text "state.json")),
    (text deadManChatIdVar, .str (text "7"))]

def configuration (token : String) : Snapshot :=
  (text deadManBotTokenVar, .str (text token)) :: visibleConfiguration

/-- A probe that times out, and a Bot API that accepts what it is sent. -/
def outageMinute (token : String) (minute : Fin 1440) : Started where
  env := .ofSnapshot (configuration token)
  surroundings := {
    setup := none
    load := .completes
    probing := .ends .timeoutError
    clock := (minuteCycle minute .failed (.returns ())).clock
    firstSave := .completes
    sending := .ends (.response 200 (.ok ((text "\x7b\"ok\":true\x7d").map fun c => Utf8.byte c.val)) none)
    secondSave := .completes }

def outage (token : String) : List Started :=
  [outageMinute token 0, outageMinute token 1, outageMinute token 2]

theorem rotated_configuration (minute : Fin 1440) :
    Rotated (outageMinute "1:a" minute) (outageMinute "2:b" minute) := by
  refine ⟨rfl, ?_⟩
  have visible : publicVariables deadManSecrets (configuration "1:a") =
      publicVariables deadManSecrets (configuration "2:b") := by
    funext name
    unfold publicVariables
    split
    · rfl
    · rename_i notSecret
      have other : ¬ text deadManBotTokenVar = name := by
        rintro rfl
        exact notSecret (by decide)
      have rest : forall token, (configuration token).get name = visibleConfiguration.get name :=
        fun token => (Dictionary.get_cons _ _ _).trans (if_neg other)
      rw [rest, rest]
  show some (DeadManView.mk (publicVariables deadManSecrets (configuration "1:a")) _) =
    some (DeadManView.mk (publicVariables deadManSecrets (configuration "2:b")) _)
  rw [visible]
  rfl

set_option maxRecDepth 100000 in
/-- The alert goes out under either token, and nothing else tells them apart. -/
theorem tokens_stay_secret_outage :
    (requests (runProcesses plainLibrary (outage "1:a")).deliveries).map Request.url =
        [text "https://api.telegram.org/bot1:a/sendMessage"] ∧
      (requests (runProcesses plainLibrary (outage "2:b")).deliveries).map Request.url =
        [text "https://api.telegram.org/bot2:b/sendMessage"] ∧
      endings plainLibrary .initial (outage "1:a") = endings plainLibrary .initial (outage "2:b") ∧
      Undistinguished (runProcesses plainLibrary (outage "1:a"))
        (runProcesses plainLibrary (outage "2:b")) := by
  refine ⟨by decide +kernel, by decide +kernel, ?_⟩
  exact tokens_stay_secret plainLibrary (.cons (rotated_configuration 0)
    (.cons (rotated_configuration 1) (.cons (rotated_configuration 2) .nil)))

end Oneshot
end HermesSentinel
