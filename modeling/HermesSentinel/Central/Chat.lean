import HermesSentinel.Central.Service
import HermesSentinel.Host.AlarmWindows
import HermesSentinel.Telegram.ReadBack

namespace HermesSentinel
namespace Central

open Python
open Domain
open Foundation
open Heartbeat
open Host
open Settings
open Telegram (Alert DeliveryEvent Exchange Post Request requests)

/-!
# What the requests to the Bot API say

The service with its sender: every incident that is handed over becomes one
request to the Bot API, if its message can be encoded at all.  Whatever the
exchanges come to, the alerts that are read from the requests are the incidents
of the service, and the last one about a host says how things are.  A request
whose exchange fails is not made again, so the chat may lack what it says.
-/

structure ChatWorld where
  service : ServiceWorld
  deliveries : List DeliveryEvent

abbrev ChatProgram (α : Type) := Program Raised ChatWorld α

/-- What storage and network do during a monitoring cycle, and the exchanges of the sender. -/
structure ChatSurroundings where
  storage : PyStr -> Fallible Unit
  createConnection : PyStr -> CreateConnection
  exchange : Incident -> Exchange

inductive ChatOccurrence
  | connection (connection : Connection)
  | cycle (surroundings : ChatSurroundings)

section

variable (deployment : Deployment) (scan : PyStr -> Json.Scanned Json) (settings : TelegramSettings)

def ChatSurroundings.send (surroundings : ChatSurroundings) (incident : Incident) :
    Telegram.DeliveryProgram Unit :=
  Telegram.TelegramSender.send scan settings incident (surroundings.exchange incident)

/-- The part of a cycle for one host.  What it hands over is sent in the log as it is. -/
def chatVisit (surroundings : ChatSurroundings) (host : HostConfig) :
    ChatProgram HostMonitoringResult := fun w =>
  let done := monitorHost deployment {
    storage := surroundings.storage
    createConnection := surroundings.createConnection
    send := fun incident => (surroundings.send scan settings incident w.deliveries).1 } host w.service
  let handed := done.2.monitoring.sent.drop w.service.monitoring.sent.length
  (done.1, {
    service := done.2
    deliveries := handed.foldl (fun log incident => (surroundings.send scan settings incident log).2)
      w.deliveries })

def chatOccur : ChatOccurrence -> ChatProgram Unit
  | .connection connection =>
      Program.zoom ChatWorld.service (fun service w => { w with service })
        (handleRequest deployment connection)
  | .cycle surroundings => do
      let _ ← Program.inOrder
        (deployment.config.hosts.map (chatVisit deployment scan settings surroundings))
      pure ()

end

/-- The process up to a point, or to the exception that ended it before. -/
def runChat {deployment : Deployment} (start : ServiceStart deployment)
    (scan : PyStr -> Json.Scanned Json) (settings : TelegramSettings)
    (occurrences : List ChatOccurrence) : ChatWorld :=
  (Program.inOrder (occurrences.map (chatOccur deployment scan settings))
    { service := start.world, deliveries := [] }).2

/-- The alerts that are read from the requests made to the Bot API, whether or not
their exchanges succeed. -/
def alertsRead (log : List DeliveryEvent) : List Alert :=
  (requests log).filterMap fun request =>
    (Telegram.readPost request.data).bind fun post => Telegram.readAlert post.text

/-- The incidents of a process whose messages can be encoded. -/
def announced (w : MonitoringWorld) : List Incident :=
  w.sent.filter fun incident => incident.host.all (Utf8.Mode.allows .strict)

structure ChatContract (config : SentinelConfig) (settings : TelegramFields) (w : ChatWorld) :
    Prop where
  /-- The requests are posts in the configured chat and thread, one for each incident. -/
  posts : (requests w.deliveries).map (fun request => Telegram.readPost request.data) =
    (announced w.service.monitoring).map fun incident =>
      some ⟨settings.chatId, settings.messageThreadId, Telegram.renderIncidentMessage incident⟩
  /-- They say what the service had to say. -/
  alerts : alertsRead w.deliveries = (announced w.service.monitoring).map Alert.of
  /-- The last alert requested about a host is what its evaluations show by now. -/
  current : forall host, Telegram.Encodable host -> forall alert,
    ((alertsRead w.deliveries).filter fun alert => decide (alert.host = host)).getLast? = some alert ->
      exists hostConfig, config.host host = some hostConfig ∧
        (alert.kind = .down ↔ DownShown hostConfig.external
          ((evaluationsOf w.service.monitoring host).map HostHealthEvaluation.observation))

/-- The request of an incident, if it can be built. -/
def requestOf (settings : TelegramFields) (incident : Incident) : Option Request :=
  (Telegram.buildRequest settings (Telegram.renderIncidentMessage incident)).toOption

theorem send_requests (scan : PyStr -> Json.Scanned Json) (settings : TelegramSettings)
    (surroundings : ChatSurroundings) (incident : Incident) (log : List DeliveryEvent) :
    requests (surroundings.send scan settings incident log).2 =
      requests log ++ (requestOf settings.toTelegramFields incident).toList := by
  unfold ChatSurroundings.send Telegram.TelegramSender.send Telegram.sendMessage requestOf
  cases built : Telegram.buildRequest settings.toTelegramFields
      (Telegram.renderIncidentMessage incident) with
  | error e => exact (List.append_nil _).symm
  | ok request => exact Telegram.attempt_requests _ _ request log

section

variable {deployment : Deployment} {scan : PyStr -> Json.Scanned Json} {settings : TelegramSettings}

/-- Each incident that is handed over makes its request, in order. -/
theorem handed_requests (surroundings : ChatSurroundings) (handed : List Incident)
    (log : List DeliveryEvent) :
    requests (handed.foldl (fun log incident => (surroundings.send scan settings incident log).2) log) =
      requests log ++ handed.filterMap (requestOf settings.toTelegramFields) := by
  induction handed generalizing log with
  | nil => exact (List.append_nil _).symm
  | cons incident rest inductionHypothesis =>
      rw [List.foldl_cons, inductionHypothesis, send_requests, List.append_assoc]
      congr 1
      cases made : requestOf settings.toTelegramFields incident with
      | none => rw [List.filterMap_cons_none made, Option.toList_none, List.nil_append]
      | some request => rw [List.filterMap_cons_some made, Option.toList_some, List.singleton_append]

/-- A visit adds to what has been handed over. -/
theorem handed_of_visited {config : SentinelConfig} {before after : MonitoringWorld}
    (visited : Visited config before after) : exists handed, after.sent = before.sent ++ handed := by
  cases visited with
  | failed => exact ⟨[], (List.append_nil _).symm⟩
  | quiet => exact ⟨[], (List.append_nil _).symm⟩
  | alerted _ _ _ _ incident _ => exact ⟨[incident], rfl⟩

/-- The requests made are those of the incidents handed over. -/
def Told (settings : TelegramFields) (w : ChatWorld) : Prop :=
  requests w.deliveries = w.service.monitoring.sent.filterMap (requestOf settings)

/-- What holds of the service and its sender between two occurrences. -/
structure Chatting (config : SentinelConfig) (settings : TelegramFields) (w : ChatWorld) : Prop where
  wellFormed : WellFormed config w.service.monitoring
  windowed : Windowed config w.service.monitoring
  told : Told settings w

theorem chatting_visit (surroundings : ChatSurroundings) (host : HostConfig) {w : ChatWorld}
    (chatting : Chatting deployment.config settings.toTelegramFields w) :
    Chatting deployment.config settings.toTelegramFields
      (chatVisit deployment scan settings surroundings host w).2 := by
  have visited := visitHost_visited deployment.config {
    engine := fun name => deployment.service.collaborators w.service.ingestion
      (surroundings.storage name) (surroundings.createConnection name)
    send := fun incident => (surroundings.send scan settings incident w.deliveries).1 } host
      w.service.monitoring
  refine ⟨wellFormed_visited chatting.wellFormed visited, windowed_visited chatting.windowed visited, ?_⟩
  rcases handed_of_visited visited with ⟨handed, grown⟩
  have monitoring : (chatVisit deployment scan settings surroundings host w).2.service.monitoring.sent =
      w.service.monitoring.sent ++ handed := grown
  have deliveries : (chatVisit deployment scan settings surroundings host w).2.deliveries =
      ((w.service.monitoring.sent ++ handed).drop w.service.monitoring.sent.length).foldl
        (fun log incident => (surroundings.send scan settings incident log).2) w.deliveries := by
    rw [<- monitoring]
    rfl
  rw [Told, monitoring, deliveries, List.drop_left, handed_requests, chatting.told,
    List.filterMap_append]

theorem chatting_run (start : ServiceStart deployment) (occurrences : List ChatOccurrence) :
    Chatting deployment.config settings.toTelegramFields (runChat start scan settings occurrences) := by
  have step : forall program, program ∈ occurrences.map (chatOccur deployment scan settings) ->
      Program.Spec (Chatting deployment.config settings.toTelegramFields) program
        (fun _ => Chatting deployment.config settings.toTelegramFields)
        (fun _ => Chatting deployment.config settings.toTelegramFields) := by
    intro program member
    rcases List.mem_map.mp member with ⟨occurrence, _, rfl⟩
    cases occurrence with
    | connection connection =>
        refine Program.Spec.iff_final.mpr fun w chatting => ?_
        have left := handleRequest_left deployment connection w.service
        show Chatting _ _ { w with service := (handleRequest deployment connection w.service).2 }
        rw [left]
        exact ⟨chatting.wellFormed, chatting.windowed, chatting.told⟩
    | cycle surroundings =>
        refine Program.Spec.bind (Program.Spec.inOrder_keeps ?_) fun _ => .pure fun _ kept => kept
        intro visit listed
        rcases List.mem_map.mp listed with ⟨host, _, rfl⟩
        exact Program.Spec.iff_final.mpr fun w => chatting_visit surroundings host
  exact Program.Spec.iff_final.mp (Program.Spec.inOrder_keeps step) _
    ⟨wellFormed_initial _, windowed_initial _, rfl⟩

end

/-- The request of an incident is its post, and it is missing exactly for a name
that cannot be encoded. -/
theorem post_of_request (settings : TelegramFields) (incident : Incident) :
    (requestOf settings incident).map (fun request => Telegram.readPost request.data) =
      if incident.host.all (Utf8.Mode.allows .strict) = true then
        some (some ⟨settings.chatId, settings.messageThreadId,
          Telegram.renderIncidentMessage incident⟩)
      else none := by
  unfold requestOf
  rcases Telegram.buildRequest_outcome settings (Telegram.renderIncidentMessage incident) with
    ⟨encodable, request, built⟩ | ⟨refused, failed⟩
  · rw [if_pos ((Telegram.encodable_incident incident).mp encodable), built]
    exact congrArg some (Telegram.readPost_buildRequest built)
  · rw [if_neg (mt (Telegram.encodable_incident incident).mpr refused), failed]
    rfl

theorem posts_of_told {settings : TelegramFields} {w : ChatWorld} (told : Told settings w) :
    (requests w.deliveries).map (fun request => Telegram.readPost request.data) =
      (announced w.service.monitoring).map fun incident =>
        some ⟨settings.chatId, settings.messageThreadId, Telegram.renderIncidentMessage incident⟩ := by
  rw [told, List.map_filterMap, announced, <- List.filterMap_eq_map, List.filterMap_filter]
  congr 1
  funext incident
  exact post_of_request settings incident

theorem alerts_of_told {settings : TelegramFields} {w : ChatWorld} (told : Told settings w) :
    alertsRead w.deliveries = (announced w.service.monitoring).map Alert.of := by
  have posts := posts_of_told told
  have read : alertsRead w.deliveries =
      ((requests w.deliveries).map fun request => Telegram.readPost request.data).filterMap
        fun post => post.bind fun post => Telegram.readAlert post.text := by
    rw [List.filterMap_map]
    rfl
  rw [read, posts, List.filterMap_map, <- List.filterMap_eq_map]
  congr 1
  funext incident
  exact Telegram.readAlert_renderIncidentMessage incident

/-- The alerts read about a host are of the kinds that were handed over. -/
theorem kinds_of_told {settings : TelegramFields} {w : ChatWorld} (told : Told settings w)
    {host : PyStr} (encodable : Telegram.Encodable host) :
    ((alertsRead w.deliveries).filter fun alert => decide (alert.host = host)).map Alert.kind =
      kindsOf w.service.monitoring host := by
  rw [alerts_of_told told, List.filter_map, List.map_map, announced, List.filter_filter, kindsOf]
  congr 1
  apply List.filter_congr
  intro incident _
  show (decide (incident.host = host) && incident.host.all (Utf8.Mode.allows .strict)) = _
  by_cases same : incident.host = host
  · rw [same, show host.all (Utf8.Mode.allows .strict) = true from encodable, Bool.and_true]
  · rw [decide_eq_false same, Bool.false_and]

/-- For every process of the service with its sender, up to every point, however
its exchanges and the process itself ended: the requests made to the Bot API
read as the incidents of the service, in order, and the last alert that was
requested about a host says how things are. -/
theorem requests_tell_the_state {deployment : Deployment} (start : ServiceStart deployment)
    (scan : PyStr -> Json.Scanned Json) (settings : TelegramSettings)
    (occurrences : List ChatOccurrence) :
    ChatContract deployment.config settings.toTelegramFields
      (runChat start scan settings occurrences) := by
  have chatting := @chatting_run deployment scan settings start occurrences
  constructor
  case posts => exact posts_of_told chatting.told
  case alerts => exact alerts_of_told chatting.told
  case current =>
    intro host encodable alert last
    have kinds := kinds_of_told chatting.told encodable
    apply last_alert chatting.wellFormed chatting.windowed
    rw [<- kinds, List.getLast?_map, last]
    rfl

end Central
end HermesSentinel
