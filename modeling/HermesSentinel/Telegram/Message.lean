import HermesSentinel.DeadMan.Vocabulary
import HermesSentinel.Foundation.Lines
import HermesSentinel.Foundation.Utf8
import HermesSentinel.Host.Monitoring
import HermesSentinel.Python.IsoFormat
import HermesSentinel.Settings.Telegram

namespace HermesSentinel
namespace Telegram

open Python
open Domain
open Foundation
open Host
open DeadMan
open Settings

/-!
# Messages and requests

The central service renders an incident as five lines, the dead-man switch a
notification as three.  Either text becomes one member of the JSON body of a
`sendMessage` request.  The body is written with `ensure_ascii=False`, so it
has a UTF-8 encoding exactly if the text has one.
-/

def lineFeed : CodePoint :=
  codePoint '\n'

/-- `"\n".join(lines)`. -/
def joinLines (lines : List PyStr) : PyStr :=
  [lineFeed].intercalate lines

def incidentKindLine : IncidentKind -> PyStr
  | .down => text "DOWN"
  | .recovered => text "RECOVERED"

/-- The lines of `render_incident_message`. -/
def incidentLines (incident : Incident) : List PyStr :=
  [text "Hermes Sentinel",
    incidentKindLine incident.kind,
    text "Host: " ++ incident.host,
    text "State: " ++ text incident.fromState.value ++ text " -> " ++ text incident.toState.value,
    text "At: " ++ incident.transition.confirmedAt.isoformat]

def renderIncidentMessage (incident : Incident) : PyStr :=
  joinLines (incidentLines incident)

def deadmanKindLine : DeadManNotificationKind -> PyStr
  | .down => text "DOWN"
  | .recovered => text "RECOVERED"

/-- The lines of `render_deadman_message`. -/
def deadmanLines (notification : DeadManNotification) : List PyStr :=
  [text "Hermes Sentinel Dead-Man",
    deadmanKindLine notification.kind,
    text "At: " ++ notification.confirmedAt.isoformat]

def renderDeadmanMessage (notification : DeadManNotification) : PyStr :=
  joinLines (deadmanLines notification)

/-- One character of a string under `ensure_ascii=False`. -/
def escapeUnicode (c : CodePoint) : PyStr :=
  if c = codePoint '"' then text "\\\""
  else if c = codePoint '\\' then text "\\\\"
  else if c.val = 10 then text "\\n"
  else if c.val = 13 then text "\\r"
  else if c.val = 9 then text "\\t"
  else if c.val = 8 then text "\\b"
  else if c.val = 12 then text "\\f"
  else if c.val < 0x20 then Json.escapeUnit c.val
  else [c]

def dumpString (s : PyStr) : PyStr :=
  codePoint '"' :: (s.flatMap escapeUnicode ++ [codePoint '"'])

/-- `json.dumps(document, ensure_ascii=False, separators=(",", ":"))` of a
document with written values. -/
def dumpObject (members : List (PyStr × PyStr)) : PyStr :=
  codePoint '{' ::
    ([codePoint ','].intercalate
      (members.map fun member => dumpString member.1 ++ codePoint ':' :: member.2) ++
      [codePoint '}'])

/-- `_render_json_body`. -/
def renderJsonBody (message : PyStr) (settings : TelegramFields) : Fallible (List Utf8.Byte) :=
  let document :=
    [(text "chat_id", Json.renderInt settings.chatId), (text "text", dumpString message)] ++
      (settings.messageThreadId.map fun threadId =>
        (text "message_thread_id", Json.renderInt threadId)).toList
  match Utf8.encode .strict (dumpObject document) with
  | none => raise .unicodeEncodeError "surrogates not allowed"
  | some body => .ok body

structure Request where
  url : PyStr
  data : List Utf8.Byte
  method : PyStr
  headers : List (PyStr × PyStr)

/-- `_build_request`. -/
def buildRequest (settings : TelegramFields) (message : PyStr) : Fallible Request := do
  let data ← renderJsonBody message settings
  .ok {
    url := text "https://api.telegram.org/bot" ++ settings.botToken ++ text "/sendMessage"
    data := data
    method := text "POST"
    headers := [(text "Content-Type", text "application/json")] }

/-- No surrogate occurs, so the text has a UTF-8 encoding. -/
abbrev Encodable (s : PyStr) : Prop :=
  s.all (Utf8.Mode.allows .strict) = true

theorem encodable_append {s t : PyStr} : Encodable (s ++ t) ↔ Encodable s ∧ Encodable t := by
  rw [Encodable, List.all_append, Bool.and_eq_true]

theorem encodable_cons {c : CodePoint} {s : PyStr} :
    Encodable (c :: s) ↔ Utf8.Mode.allows .strict c = true ∧ Encodable s := by
  rw [Encodable, List.all_cons, Bool.and_eq_true]

/-- ASCII has no surrogates. -/
theorem encodable_ascii {s : PyStr} (ascii : Json.Ascii s) : Encodable s := by
  apply List.all_eq_true.mpr
  intro c member
  have below := ascii c member
  have ordinary : isSurrogate c = false := by
    apply decide_eq_false
    omega
  rw [Utf8.Mode.allows, ordinary]
  rfl

/-- Joining with an ordinary separator adds nothing that cannot be encoded. -/
theorem encodable_join {separator : CodePoint} (ordinary : Utf8.Mode.allows .strict separator = true)
    (parts : List PyStr) :
    Encodable ([separator].intercalate parts) ↔ forall part, part ∈ parts -> Encodable part := by
  induction parts with
  | nil => exact ⟨fun _ _ impossible => absurd impossible List.not_mem_nil, fun _ => rfl⟩
  | cons first rest inductionHypothesis =>
      cases rest with
      | nil => simp
      | cons second rest =>
          have divided : (forall part, part ∈ first :: second :: rest -> Encodable part) ↔
              Encodable first ∧ forall part, part ∈ second :: rest -> Encodable part :=
            List.forall_mem_cons
          rw [List.intercalate_cons_cons, encodable_append, encodable_append, inductionHypothesis,
            encodable_cons, divided]
          exact ⟨fun all => ⟨all.1.1, all.2⟩, fun all => ⟨⟨all.1, ordinary, rfl⟩, all.2⟩⟩

theorem encodable_below {c : CodePoint} (below : c.val < 0x80) :
    Utf8.Mode.allows .strict c = true := by
  have alone : Encodable [c] := encodable_ascii fun d member => by
    rw [List.mem_singleton.mp member]
    exact below
  exact (encodable_cons.mp alone).1

theorem ascii_escapeUnicode : forall n, n < 0x80 -> Json.Ascii (escapeUnicode (Fin.ofNat _ n)) := by
  decide +kernel

/-- An escape stands for an ASCII character and is written in ASCII. -/
theorem encodable_escapeUnicode (c : CodePoint) :
    Encodable (escapeUnicode c) ↔ Utf8.Mode.allows .strict c = true := by
  by_cases below : c.val < 0x80
  · have ascii := ascii_escapeUnicode c.val below
    rw [Fin.ofNat_val_eq_self] at ascii
    exact iff_of_true (encodable_ascii ascii) (encodable_below below)
  · have apart : forall d : CodePoint, d.val < 0x80 -> c ≠ d := by
      intro d small same
      rw [same] at below
      exact below small
    rw [escapeUnicode, if_neg (apart _ (by decide)), if_neg (apart _ (by decide)),
      if_neg (by omega), if_neg (by omega), if_neg (by omega), if_neg (by omega), if_neg (by omega),
      if_neg (by omega), encodable_cons]
    exact and_iff_left rfl

theorem encodable_flatMap (s : PyStr) : Encodable (s.flatMap escapeUnicode) ↔ Encodable s := by
  induction s with
  | nil => exact Iff.rfl
  | cons c rest inductionHypothesis =>
      rw [List.flatMap_cons, encodable_append, encodable_cons, encodable_escapeUnicode,
        inductionHypothesis]

theorem encodable_dumpString (s : PyStr) : Encodable (dumpString s) ↔ Encodable s := by
  rw [dumpString, encodable_cons, encodable_append, encodable_flatMap]
  exact ⟨fun all => all.2.1, fun encodable => ⟨rfl, encodable, rfl⟩⟩

theorem encodable_renderInt (i : Int) : Encodable (Json.renderInt i) :=
  encodable_ascii (Json.ascii_of_isNumberChar (Json.renderInt_all i))

theorem encodable_dumpObject (members : List (PyStr × PyStr)) :
    Encodable (dumpObject members) ↔
      forall member, member ∈ members -> Encodable member.1 ∧ Encodable member.2 := by
  have written : forall member : PyStr × PyStr,
      Encodable (dumpString member.1 ++ codePoint ':' :: member.2) ↔
        Encodable member.1 ∧ Encodable member.2 := by
    intro member
    rw [encodable_append, encodable_dumpString, encodable_cons]
    exact and_congr_right fun _ => and_iff_right rfl
  rw [dumpObject, encodable_cons, encodable_append, encodable_join rfl, List.forall_mem_map]
  constructor
  · intro all member listed
    exact (written member).mp (all.2.1 member listed)
  · intro all
    exact ⟨rfl, fun member listed => (written member).mpr (all member listed), rfl⟩

/-- A body is refused exactly for its text. -/
theorem renderJsonBody_encodable (message : PyStr) (settings : TelegramFields) :
    (exists body, renderJsonBody message settings = .ok body) ↔ Encodable message := by
  have document : Encodable (dumpObject
      ([(text "chat_id", Json.renderInt settings.chatId), (text "text", dumpString message)] ++
        (settings.messageThreadId.map fun threadId =>
          (text "message_thread_id", Json.renderInt threadId)).toList)) ↔ Encodable message := by
    rw [encodable_dumpObject, List.forall_mem_append, List.forall_mem_cons, List.forall_mem_singleton,
      encodable_dumpString]
    constructor
    · intro all
      exact all.1.2.2
    · intro encodable
      have chat : Encodable (text "chat_id") := by decide +kernel
      have words : Encodable (text "text") := by decide +kernel
      have thread : Encodable (text "message_thread_id") := by decide +kernel
      refine ⟨⟨⟨chat, encodable_renderInt _⟩, words, encodable⟩, ?_⟩
      intro member listed
      rcases Option.map_eq_some_iff.mp (Option.mem_toList.mp listed) with ⟨threadId, _, rfl⟩
      exact ⟨thread, encodable_renderInt _⟩
  rw [<- document, renderJsonBody, Utf8.encode]
  split
  · rename_i encoded
    split at encoded
    · cases encoded
    · rename_i refused
      refine iff_of_false ?_ refused
      rintro ⟨body, impossible⟩
      cases impossible
  · rename_i body encoded
    split at encoded
    · rename_i encodable
      exact iff_of_true ⟨body, rfl⟩ encodable
    · cases encoded

/-- A request that cannot be built has a text without a UTF-8 encoding. -/
theorem buildRequest_outcome (settings : TelegramFields) (message : PyStr) :
    (Encodable message ∧ exists request, buildRequest settings message = .ok request) ∨
      (¬ Encodable message ∧
        buildRequest settings message = raise .unicodeEncodeError "surrogates not allowed") := by
  by_cases encodable : Encodable message
  · rcases (renderJsonBody_encodable message settings).mpr encodable with ⟨body, rendered⟩
    refine .inl ⟨encodable, ?_⟩
    rw [buildRequest, rendered]
    exact ⟨_, rfl⟩
  · refine .inr ⟨encodable, ?_⟩
    have refused := mt (renderJsonBody_encodable message settings).mp encodable
    unfold buildRequest renderJsonBody at *
    dsimp only at *
    split
    · rfl
    · rename_i body encoded
      rw [encoded] at refused
      exact absurd ⟨body, rfl⟩ refused

theorem ascii_of_simple {s : PyStr} (simple : Json.SimpleString s) : Json.Ascii s := by
  intro c member
  have range := of_decide_eq_true (simple c member)
  omega

theorem simple_at (d : DateTime) : Json.SimpleString (text "At: " ++ d.isoformat) :=
  Json.simple_append (by decide) (simple_dateTime d)

theorem simple_incidentKindLine (kind : IncidentKind) : Json.SimpleString (incidentKindLine kind) := by
  cases kind <;> decide

theorem simple_deadmanKindLine (kind : DeadManNotificationKind) :
    Json.SimpleString (deadmanKindLine kind) := by
  cases kind <;> decide

theorem simple_state (before after : HostState) :
    Json.SimpleString (text "State: " ++ text before.value ++ text " -> " ++ text after.value) := by
  cases before <;> cases after <;> decide

theorem hostLine_mem (incident : Incident) :
    text "Host: " ++ incident.host ∈ incidentLines incident := by
  simp [incidentLines]

/-- All lines of an incident but the one of its host are plain. -/
theorem incidentLines_simple {incident : Incident} {line : PyStr}
    (member : line ∈ incidentLines incident) :
    line = text "Host: " ++ incident.host ∨ Json.SimpleString line := by
  simp only [incidentLines, List.mem_cons, List.not_mem_nil, or_false] at member
  rcases member with rfl | rfl | rfl | rfl | rfl
  · exact .inr (by decide)
  · exact .inr (simple_incidentKindLine _)
  · exact .inl rfl
  · exact .inr (simple_state _ _)
  · exact .inr (simple_at _)

/-- The text of an incident is as encodable as the name of its host. -/
theorem encodable_incident (incident : Incident) :
    Encodable (renderIncidentMessage incident) ↔ Encodable incident.host := by
  have hostLine : Encodable (text "Host: " ++ incident.host) ↔ Encodable incident.host := by
    rw [encodable_append]
    exact and_iff_right (by decide +kernel)
  rw [renderIncidentMessage, joinLines, encodable_join rfl, <- hostLine]
  constructor
  · intro all
    exact all _ (hostLine_mem incident)
  · intro encodable line member
    rcases incidentLines_simple member with rfl | simple
    · exact encodable
    · exact encodable_ascii (ascii_of_simple simple)

theorem encodable_deadman (notification : DeadManNotification) :
    Encodable (renderDeadmanMessage notification) := by
  rw [renderDeadmanMessage, joinLines, encodable_join rfl, deadmanLines]
  intro line member
  apply encodable_ascii
  apply ascii_of_simple
  simp only [List.mem_cons, List.not_mem_nil, or_false] at member
  rcases member with rfl | rfl | rfl
  · decide
  · exact simple_deadmanKindLine _
  · exact simple_at _

end Telegram
end HermesSentinel
