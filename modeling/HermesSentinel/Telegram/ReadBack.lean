import HermesSentinel.Python.IsoReadBack
import HermesSentinel.Telegram.BoundedDelivery
import Mathlib.Data.List.DropRight

namespace HermesSentinel
namespace Telegram

open Python
open Domain
open Foundation
open Foundation.Json (Closes Scanned scanValue scanMembers readString)
open Host
open DeadMan
open Settings

/-!
# What is read from a request

The body of a request is read back as a JSON object with the chat and the text,
whatever characters the text has.  The text is read from both of its ends, so
that a host whose name has line breaks is still told from every other.
-/

theorem hexValue_hexDigit : forall n, n < 32 ->
    Json.hexValue (Json.hexDigit (n / 4096)) = some 0 ∧
      Json.hexValue (Json.hexDigit (n / 256)) = some 0 ∧
      Json.hexValue (Json.hexDigit (n / 16)) = some (n / 16) ∧
      Json.hexValue (Json.hexDigit n) = some (n % 16) := by
  decide

/-- The escape of a control character is read as that character. -/
theorem readEscape_escapeUnit {c : CodePoint} (control : c.val < 0x20) (rest : PyStr) :
    Json.readEscape ((Json.escapeUnit c.val).tail ++ rest) = some (c, rest) := by
  rcases hexValue_hexDigit c.val control with ⟨first, second, third, fourth⟩
  have unit : Json.readUnit (Json.hexDigit (c.val / 4096) :: Json.hexDigit (c.val / 256) ::
      Json.hexDigit (c.val / 16) :: Json.hexDigit c.val :: rest) = some (c.val, rest) := by
    simp only [Json.readUnit, first, second, third, fourth, Option.bind_eq_bind, Option.bind_some]
    congr 2
    omega
  show Json.readEscape (codePoint 'u' :: _ :: _ :: _ :: _ :: rest) = _
  rw [Json.readEscape, if_pos rfl, unit]
  dsimp only
  split
  · rw [if_neg (by omega), Fin.ofNat_val_eq_self]
  · rw [Fin.ofNat_val_eq_self]

/-- A written character is read as itself, and what follows is left. -/
theorem readString_step (c : CodePoint) (more : PyStr) (fuel : Nat) :
    readString (fuel + 1) (escapeUnicode c ++ more) =
      (readString fuel more).map fun found => (c :: found.1, found.2) := by
  by_cases quote : c = codePoint '"'
  · subst quote
    rfl
  by_cases slash : c = codePoint '\\'
  · subst slash
    rfl
  by_cases short : c.val = 10 ∨ c.val = 13 ∨ c.val = 9 ∨ c.val = 8 ∨ c.val = 12
  · rcases short with same | same | same | same | same
    · rw [show c = 10 from Fin.ext same]
      rfl
    · rw [show c = 13 from Fin.ext same]
      rfl
    · rw [show c = 9 from Fin.ext same]
      rfl
    · rw [show c = 8 from Fin.ext same]
      rfl
    · rw [show c = 12 from Fin.ext same]
      rfl
  rw [escapeUnicode, if_neg quote, if_neg slash, if_neg (by omega), if_neg (by omega),
    if_neg (by omega), if_neg (by omega), if_neg (by omega)]
  by_cases control : c.val < 0x20
  · have escape := readEscape_escapeUnit control more
    rw [if_pos control]
    show readString (fuel + 1) (codePoint '\\' :: ((Json.escapeUnit c.val).tail ++ more)) = _
    rw [readString, if_neg (by decide), if_pos rfl, escape]
  · rw [if_neg control, List.singleton_append, readString, if_neg quote, if_neg slash,
      if_neg control]

theorem readString_written (s rest : PyStr) (fuel : Nat) (enough : s.length < fuel) :
    readString fuel (s.flatMap escapeUnicode ++ codePoint '"' :: rest) = some (s, rest) := by
  induction s generalizing fuel with
  | nil =>
      cases fuel with
      | zero => cases enough
      | succ fuel => rfl
  | cons c s inductionHypothesis =>
      cases fuel with
      | zero => cases enough
      | succ fuel =>
          rw [List.flatMap_cons, List.append_assoc, readString_step,
            inductionHypothesis fuel (Nat.lt_of_succ_lt_succ enough)]
          rfl

theorem length_le_written (s : PyStr) : s.length ≤ (s.flatMap escapeUnicode).length := by
  induction s with
  | nil => exact Nat.le_refl 0
  | cons c s inductionHypothesis =>
      have one : 1 ≤ (escapeUnicode c).length := by
        unfold escapeUnicode
        split_ifs
        all_goals exact Nat.succ_le_succ (Nat.zero_le _)
      rw [List.flatMap_cons, List.length_append, List.length_cons]
      omega

/-- The text is read as this value, wherever it stands. -/
structure Reads (written : PyStr) (value : Json) : Prop where
  visible : forall rest, Json.skipBlanks (written ++ rest) = written ++ rest
  scanned : forall fuel depth rest, Closes rest ->
    scanValue (fuel + 1) depth (written ++ rest) = .value (value, rest)

theorem reads_renderInt (i : Int) : Reads (Json.renderInt i) (.int i) where
  visible := Json.skipBlanks_render (show Json.Fits 0 (.int i) from trivial)
  scanned fuel depth _ closes :=
    Json.scanValue_number (Json.renderInt_all i) (Json.readNumber_renderInt i) closes fuel depth

theorem reads_dumpString (s : PyStr) : Reads (dumpString s) (.str s) := by
  have shape : forall rest, dumpString s ++ rest =
      codePoint '"' :: (s.flatMap escapeUnicode ++ codePoint '"' :: rest) := by
    intro rest
    rw [dumpString, List.cons_append, List.append_assoc, List.singleton_append]
  constructor
  · intro rest
    rw [shape rest, Json.skipBlanks_cons rfl]
  · intro fuel depth rest _
    have long := length_le_written s
    rw [shape, Json.scanValue_cons, if_pos rfl, readString_written]
    · rfl
    · rw [List.length_append, List.length_cons]
      omega

/-- A member with its written value and what that is read as. -/
structure WrittenMember where
  key : PyStr
  written : PyStr
  value : Json
  reads : Reads written value

namespace WrittenMember

def spelled (member : WrittenMember) : PyStr :=
  dumpString member.key ++ codePoint ':' :: member.written

def pair (member : WrittenMember) : PyStr × Json :=
  (member.key, member.value)

theorem spelled_eq (member : WrittenMember) (more : PyStr) :
    member.spelled ++ more = codePoint '"' :: (member.key.flatMap escapeUnicode ++
      codePoint '"' :: (codePoint ':' :: (member.written ++ more))) := by
  simp only [spelled, dumpString, List.cons_append, List.append_assoc, List.nil_append]

/-- The members between the braces. -/
def texts (members : List WrittenMember) : PyStr :=
  [codePoint ','].intercalate (members.map spelled)

theorem texts_cons_cons (member second : WrittenMember) (members : List WrittenMember) :
    texts (member :: second :: members) =
      member.spelled ++ codePoint ',' :: texts (second :: members) := by
  rw [texts, List.map_cons, List.map_cons, List.intercalate_cons_cons, List.append_assoc]
  rfl

theorem texts_head (member : WrittenMember) (members : List WrittenMember) (rest : PyStr) :
    exists more, texts (member :: members) ++ rest = codePoint '"' :: more := by
  cases members with
  | nil => exact ⟨_, rfl⟩
  | cons second members =>
      rw [texts_cons_cons]
      exact ⟨_, rfl⟩

theorem length_le_texts (members : List WrittenMember) : members.length ≤ (texts members).length := by
  induction members with
  | nil => exact Nat.le_refl 0
  | cons member members inductionHypothesis =>
      cases members with
      | nil => exact Nat.succ_le_succ (Nat.zero_le _)
      | cons second members =>
          rw [texts_cons_cons, List.length_append, List.length_cons, List.length_cons (a := codePoint ',')]
          omega

theorem readString_key (member : WrittenMember) (more : PyStr) :
    readString ((member.key.flatMap escapeUnicode ++ codePoint '"' :: more).length + 1)
      (member.key.flatMap escapeUnicode ++ codePoint '"' :: more) = some (member.key, more) := by
  have long := length_le_written member.key
  apply readString_written
  rw [List.length_append, List.length_cons]
  omega

/-- The members are read one by one, up to the closing brace. -/
theorem scanMembers_texts (member : WrittenMember) (members : List WrittenMember) (spare depth : Nat)
    (rest : PyStr) :
    scanMembers (members.length + 2 + spare) depth (texts (member :: members) ++ codePoint '}' :: rest) =
      .value ((member :: members).map pair, rest) := by
  induction members generalizing member with
  | nil =>
      rw [show ([] : List WrittenMember).length + 2 + spare = spare + 1 + 1 by simp; omega]
      rw [texts, List.map_singleton, List.intercalate_singleton, spelled_eq, scanMembers, if_pos rfl, readString_key]
      simp only [Json.ofOption, Scanned.bind, Json.skipBlanks_cons (c := codePoint ':') rfl, if_true,
        member.reads.visible]
      rw [member.reads.scanned _ _ _ (Json.closes_cons _ rfl)]
      rfl
  | cons second members inductionHypothesis =>
      have found := inductionHypothesis second
      rcases texts_head second members (codePoint '}' :: rest) with ⟨more, shape⟩
      rw [show (second :: members).length + 2 + spare = members.length + 2 + spare + 1 by
        rw [List.length_cons]; omega]
      rw [texts_cons_cons, List.append_assoc, List.cons_append, spelled_eq, scanMembers, if_pos rfl,
        readString_key]
      simp only [Json.ofOption, Scanned.bind, Json.skipBlanks_cons (c := codePoint ':') rfl, if_true,
        member.reads.visible]
      rw [show members.length + 2 + spare = members.length + 1 + spare + 1 by omega] at found ⊢
      rw [member.reads.scanned _ _ _ (Json.closes_cons _ rfl)]
      rw [shape] at found ⊢
      simp only [Json.skipBlanks_cons (c := codePoint ',') rfl,
        Json.skipBlanks_cons (c := codePoint '"') rfl, found]
      rfl

end WrittenMember

/-- A document of written members is read as the object of their values. -/
theorem scan_dumpObject (members : List WrittenMember) (depth : Nat) :
    Json.scan (depth + 1) (dumpObject (members.map fun member => (member.key, member.written))) =
      .value (.object (members.map WrittenMember.pair)) := by
  have shape : dumpObject (members.map fun member => (member.key, member.written)) =
      codePoint '{' :: (WrittenMember.texts members ++ [codePoint '}']) := by
    rw [dumpObject, List.map_map]
    rfl
  rw [shape, Json.scan, Json.skipBlanks_cons rfl, Json.scanValue_cons, if_neg (by decide),
    if_neg (by decide), if_pos rfl]
  cases members with
  | nil => rfl
  | cons member members =>
      have long := WrittenMember.length_le_texts (member :: members)
      have fuel : exists spare, (codePoint '{' ::
          (WrittenMember.texts (member :: members) ++ [codePoint '}'])).length =
            members.length + 2 + spare := by
        apply Nat.exists_eq_add_of_le
        simp only [List.length_cons, List.length_append, List.length_nil] at long ⊢
        omega
      rcases fuel with ⟨spare, fuel⟩
      have read := WrittenMember.scanMembers_texts member members spare depth []
      rcases WrittenMember.texts_head member members [codePoint '}'] with ⟨more, head⟩
      rw [fuel]
      rw [head] at read ⊢
      simp only [Json.skipBlanks_cons (c := codePoint '"') rfl, read]
      rfl

/-! ## Requests -/

/-- What a `sendMessage` request asks for. -/
structure Post where
  chatId : Int
  messageThreadId : Option Int
  text : PyStr
  deriving DecidableEq

/-- The members of the body. -/
def bodyMembers (message : PyStr) (settings : TelegramFields) : List WrittenMember :=
  [⟨text "chat_id", _, _, reads_renderInt settings.chatId⟩, ⟨text "text", _, _, reads_dumpString message⟩] ++
    (settings.messageThreadId.map fun threadId =>
      (⟨text "message_thread_id", _, _, reads_renderInt threadId⟩ : WrittenMember)).toList

theorem loadBody_renderJsonBody {message : PyStr} {settings : TelegramFields}
    {body : List Utf8.Byte} (rendered : renderJsonBody message settings = .ok body) :
    loadBody JsonScanner.standard.scan body =
      .ok (.object ((bodyMembers message settings).map WrittenMember.pair)) := by
  have document : (bodyMembers message settings).map (fun member => (member.key, member.written)) =
      [(text "chat_id", Json.renderInt settings.chatId), (text "text", dumpString message)] ++
        (settings.messageThreadId.map fun threadId =>
          (text "message_thread_id", Json.renderInt threadId)).toList := by
    cases threaded : settings.messageThreadId with
    | none =>
        rw [bodyMembers, threaded]
        rfl
    | some threadId =>
        rw [bodyMembers, threaded]
        rfl
  rw [renderJsonBody, <- document] at rendered
  split at rendered
  · cases rendered
  · rename_i encoded
    cases rendered
    rw [loadBody, Utf8.decode_encode encoded]
    dsimp only
    rw [show JsonScanner.standard.scan = Json.scan (nestingBudget - 1 + 1) from rfl, scan_dumpObject]

/-- The thread is named or absent; anything else is no post. -/
def readThread : Option Json -> Option (Option Int)
  | none => some none
  | some (.int threadId) => some (some threadId)
  | _ => none

def readPost (body : List Utf8.Byte) : Option Post :=
  match loadBody JsonScanner.standard.scan body with
  | .ok (.object members) =>
      match getMember members (text "chat_id"), getMember members (text "text"),
          readThread (getMember members (text "message_thread_id")) with
      | some (.int chatId), some (.str message), some messageThreadId =>
          some { chatId, messageThreadId, text := message }
      | _, _, _ => none
  | _ => none

/-- A body is read back as the chat, the thread and the text it was made of. -/
theorem readPost_renderJsonBody {message : PyStr} {settings : TelegramFields}
    {body : List Utf8.Byte} (rendered : renderJsonBody message settings = .ok body) :
    readPost body = some ⟨settings.chatId, settings.messageThreadId, message⟩ := by
  rw [readPost, loadBody_renderJsonBody rendered]
  cases threaded : settings.messageThreadId with
  | none =>
      rw [bodyMembers, threaded]
      rfl
  | some threadId =>
      rw [bodyMembers, threaded]
      rfl

/-- What a message says. -/
structure Alert where
  kind : IncidentKind
  host : PyStr
  fromState : HostState
  toState : HostState
  stamp : Stamp
  deriving DecidableEq

def Alert.of (incident : Incident) : Alert where
  kind := incident.kind
  host := incident.host
  fromState := incident.fromState
  toState := incident.toState
  stamp := incident.transition.confirmedAt.stamp

/-- What stands before the name of the host. -/
def messageHead (kind : IncidentKind) : PyStr :=
  text "Hermes Sentinel" ++ lineFeed :: (incidentKindLine kind ++ lineFeed :: text "Host: ")

def readHead (message : PyStr) : Option (IncidentKind × PyStr) :=
  if (messageHead .down).isPrefixOf message then some (.down, message.drop (messageHead .down).length)
  else if (messageHead .recovered).isPrefixOf message then
    some (.recovered, message.drop (messageHead .recovered).length)
  else none

def stateLine (fromState toState : HostState) : PyStr :=
  text "State: " ++ text fromState.value ++ text " -> " ++ text toState.value

def hostStates : List HostState :=
  [.healthy, .degraded, .down]

def readStates (line : PyStr) : Option (HostState × HostState) :=
  (hostStates.product hostStates).find? fun states => decide (stateLine states.1 states.2 = line)

def readMoment (line : PyStr) : Option Stamp :=
  if (text "At: ").isPrefixOf line then readStamp (line.drop (text "At: ").length) else none

/-- The two last lines are cut off first: what remains of the third is the name. -/
def readAlert (message : PyStr) : Option Alert := do
  let (kind, rest) ← readHead message
  let (rest, moment) ← Lines.splitLast lineFeed rest
  let (host, states) ← Lines.splitLast lineFeed rest
  let stamp ← readMoment moment
  let (fromState, toState) ← readStates states
  some { kind, host, fromState, toState, stamp }

theorem readHead_messageHead (kind : IncidentKind) (rest : PyStr) :
    readHead (messageHead kind ++ rest) = some (kind, rest) := by
  cases kind with
  | down => rfl
  | recovered => rfl

theorem readStates_stateLine (fromState toState : HostState) :
    readStates (stateLine fromState toState) = some (fromState, toState) := by
  cases fromState <;> cases toState <;> decide

theorem readMoment_isoformat (d : DateTime) :
    readMoment (text "At: " ++ d.isoformat) = some d.stamp := by
  have head : (text "At: ").isPrefixOf (text "At: " ++ d.isoformat) = true :=
    List.isPrefixOf_iff_prefix.mpr (List.prefix_append _ _)
  rw [readMoment, if_pos head, List.drop_left, readStamp_isoformat]

/-- A plain line has no line feed. -/
theorem free_of_simple {line : PyStr} (simple : Json.SimpleString line) : lineFeed ∉ line := by
  intro member
  have impossible := simple lineFeed member
  cases impossible

theorem renderIncidentMessage_eq (incident : Incident) :
    renderIncidentMessage incident = messageHead incident.kind ++
      ((incident.host ++ lineFeed :: stateLine incident.fromState incident.toState) ++
        lineFeed :: (text "At: " ++ incident.transition.confirmedAt.isoformat)) := by
  simp only [renderIncidentMessage, joinLines, incidentLines, List.intercalate_cons_cons,
    List.intercalate_singleton, messageHead, stateLine, List.append_assoc, List.cons_append,
    List.nil_append]

/-- A message is read back as what it was made of, whatever the name of the host is. -/
theorem readAlert_renderIncidentMessage (incident : Incident) :
    readAlert (renderIncidentMessage incident) = some (.of incident) := by
  rw [renderIncidentMessage_eq, readAlert, readHead_messageHead]
  have moment := Lines.splitLast_join
    (incident.host ++ lineFeed :: stateLine incident.fromState incident.toState)
    (free_of_simple (simple_at incident.transition.confirmedAt))
  have plain : Json.SimpleString (stateLine incident.fromState incident.toState) := simple_state _ _
  have states := Lines.splitLast_join incident.host (free_of_simple plain)
  simp only [Option.bind_eq_bind, Option.bind_some, moment, states, readMoment_isoformat,
    readStates_stateLine]
  rfl

/-- What a post of either process says. -/
inductive Said
  | incident (alert : Alert)
  | deadman (kind : DeadManNotificationKind) (stamp : Stamp)
  deriving DecidableEq

def deadmanHead (kind : DeadManNotificationKind) : PyStr :=
  text "Hermes Sentinel Dead-Man" ++ lineFeed :: (deadmanKindLine kind ++ [lineFeed])

def readDeadman (message : PyStr) : Option Said :=
  if (deadmanHead .down).isPrefixOf message then
    (readMoment (message.drop (deadmanHead .down).length)).map (.deadman .down)
  else if (deadmanHead .recovered).isPrefixOf message then
    (readMoment (message.drop (deadmanHead .recovered).length)).map (.deadman .recovered)
  else none

def readMessage (message : PyStr) : Option Said :=
  ((readAlert message).map .incident).orElse fun _ => readDeadman message

theorem renderDeadmanMessage_eq (notification : DeadManNotification) :
    renderDeadmanMessage notification = deadmanHead notification.kind ++
      (text "At: " ++ notification.confirmedAt.isoformat) := by
  simp only [renderDeadmanMessage, joinLines, deadmanLines, List.intercalate_cons_cons,
    List.intercalate_singleton, deadmanHead, List.append_assoc, List.cons_append, List.nil_append]

theorem readDeadman_deadmanHead (kind : DeadManNotificationKind) (moment : PyStr) :
    readDeadman (deadmanHead kind ++ moment) = (readMoment moment).map (.deadman kind) := by
  cases kind with
  | down => rfl
  | recovered => rfl

theorem readAlert_deadmanHead (kind : DeadManNotificationKind) (moment : PyStr) :
    readAlert (deadmanHead kind ++ moment) = none := by
  have other : readHead (deadmanHead kind ++ moment) = none := by
    cases kind with
    | down => rfl
    | recovered => rfl
  rw [readAlert, other]
  rfl

/-- What either process announces. -/
inductive Announcement
  | incident (raised : Incident)
  | deadman (raised : DeadManNotification)

namespace Announcement

def message : Announcement -> PyStr
  | .incident raised => renderIncidentMessage raised
  | .deadman raised => renderDeadmanMessage raised

def said : Announcement -> Said
  | .incident raised => .incident (.of raised)
  | .deadman raised => .deadman raised.kind raised.confirmedAt.stamp

theorem read (announcement : Announcement) :
    readMessage announcement.message = some announcement.said := by
  cases announcement with
  | incident raised =>
      rw [message, readMessage, readAlert_renderIncidentMessage]
      rfl
  | deadman raised =>
      rw [message, readMessage, renderDeadmanMessage_eq, readAlert_deadmanHead,
        readDeadman_deadmanHead, readMoment_isoformat]
      rfl

end Announcement

/-- An attempt makes the one request it is given, however the exchange ends. -/
theorem attempt_requests {m : DeliveryModule} {scan : PyStr -> Json.Scanned Json}
    (timeout : Number) (exchange : Exchange) (request : Request) (log : List DeliveryEvent) :
    requests (attempt m scan timeout exchange request log).2 = requests log ++ [request] := by
  have opened : requests (log ++ [.opened request timeout]) = requests log ++ [request] :=
    List.filterMap_append
  have closed : forall log resource, requests (log ++ [.closed resource]) = requests log :=
    fun log _ => List.filterMap_append.trans (List.append_nil _)
  cases exchange with
  | response status read close =>
      rw [attempt_response]
      cases readBoundedResponse m scan status read with
      | ok failure => exact (closed _ _).trans opened
      | error e => exact opened
  | httpError code close =>
      rw [attempt_httpError]
      exact (closed _ _).trans opened
  | timeoutError => exact opened
  | osError => exact opened
  | httpException => exact opened

/-- A built request is read back as the chat, the thread and the message. -/
theorem readPost_buildRequest {message : PyStr} {settings : TelegramFields} {request : Request}
    (built : buildRequest settings message = .ok request) :
    readPost request.data = some ⟨settings.chatId, settings.messageThreadId, message⟩ := by
  rw [buildRequest, bind_eq_ok] at built
  rcases built with ⟨body, rendered, same⟩
  rw [<- Except.ok.inj same]
  exact readPost_renderJsonBody rendered

/-- Whatever either process posts, the bytes of the request tell the chat and the
thread, the process, and all that is announced. -/
theorem posts_are_read_back {announcement : Announcement} {settings : TelegramFields}
    {request : Request} (built : buildRequest settings announcement.message = .ok request) :
    exists post, readPost request.data = some post ∧ post.chatId = settings.chatId ∧
      post.messageThreadId = settings.messageThreadId ∧
      readMessage post.text = some announcement.said :=
  ⟨_, readPost_buildRequest built, rfl, rfl, announcement.read⟩

def imitation : PyStr :=
  text "a\nState: down -> healthy\nAt: b"

def imitationIncident : Incident where
  kind := .down
  transition := {
    host := imitation
    fromState := .healthy
    toState := .down
    confirmedAt := firstMoment
    accepted := rfl }
  accepted := rfl

def imitationSettings : TelegramFields where
  botToken := text "1:a"
  chatId := 7
  messageThreadId := some 2

/-- The alert is still about the host of that name. -/
theorem posts_are_read_back_imitation : exists request,
    buildRequest imitationSettings (Announcement.incident imitationIncident).message = .ok request ∧
      exists post, readPost request.data = some post ∧ post.chatId = 7 ∧
        post.messageThreadId = some 2 ∧
        readMessage post.text = some (.incident (.of imitationIncident)) := by
  have encodable : Encodable (renderIncidentMessage imitationIncident) :=
    (encodable_incident imitationIncident).mpr (by decide +kernel)
  rcases (renderJsonBody_encodable _ imitationSettings).mpr encodable with ⟨body, rendered⟩
  have built : buildRequest imitationSettings (Announcement.incident imitationIncident).message =
      .ok _ := bind_eq_ok.mpr ⟨body, rendered, rfl⟩
  exact ⟨_, built, posts_are_read_back built⟩

end Telegram
end HermesSentinel
