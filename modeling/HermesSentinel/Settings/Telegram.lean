import HermesSentinel.Domain.Config

namespace HermesSentinel
namespace Settings

open Python
open Domain
open Foundation

/-!
# Telegram settings

The central service and the dead-man switch have settings classes of their own
with the same checks.  No message shows the bot token.
-/

/-- `_TOKEN_ALPHABET`. -/
def isTokenCharacter (c : CodePoint) : Bool :=
  isDigit c || decide (65 ≤ c.val ∧ c.val ≤ 90) || decide (97 ≤ c.val ∧ c.val ≤ 122) ||
    decide (c = codePoint ':') || decide (c = codePoint '-') || decide (c = codePoint '_')

def requireBotToken (token : PyStr) : Fallible Unit := do
  require (token ≠ []) "bot_token must be a non-empty string"
  require (token.all isTokenCharacter = true)
    "bot_token contains characters outside the conservative Telegram token alphabet"

def requireChatId (chatId : Int) : Fallible Unit :=
  require (chatId ≠ 0)
    "chat_id must be non-zero (negative chat ids address Telegram groups and supergroups)"

def requireMessageThreadId : Option Int -> Fallible Unit
  | none => .ok ()
  | some threadId => require (1 ≤ threadId) "message_thread_id must be a positive integer"

structure TelegramFields where
  botToken : PyStr
  chatId : Int
  messageThreadId : Option Int := none
  timeoutSeconds : Number := .float (.finite 10)
  deriving DecidableEq

/-- `__post_init__` of either class. -/
def TelegramFields.postInit (f : TelegramFields) : Fallible Unit := do
  requireBotToken f.botToken
  requireChatId f.chatId
  requireMessageThreadId f.messageThreadId
  requirePositive "timeout_seconds" f.timeoutSeconds

/-- The settings of the central service. -/
structure TelegramSettings extends TelegramFields where
  accepted : toTelegramFields.postInit = .ok ()

def TelegramSettings.make (fields : TelegramFields) : Fallible TelegramSettings :=
  construct TelegramFields.postInit (fun f accepted => { f with accepted := accepted }) fields

/-- The settings of the dead-man switch. -/
structure DeadManTelegramSettings extends TelegramFields where
  accepted : toTelegramFields.postInit = .ok ()

def DeadManTelegramSettings.make (fields : TelegramFields) : Fallible DeadManTelegramSettings :=
  construct TelegramFields.postInit (fun f accepted => { f with accepted := accepted }) fields

theorem requireMessageThreadId_raises (threadId : Option Int) :
    RaisesOnly RefusesArguments (requireMessageThreadId threadId) := by
  cases threadId with
  | none => exact .ok ()
  | some threadId => exact .require refusesArguments_value _

theorem TelegramFields.postInit_raises (fields : TelegramFields) :
    RaisesOnly RefusesArguments fields.postInit := by
  apply RaisesOnly.bind
  · exact .bind (.require refusesArguments_value _) fun _ _ => .require refusesArguments_value _
  · intro _ _
    exact .bind (.require refusesArguments_value _) fun _ _ =>
      .bind (requireMessageThreadId_raises _) fun _ _ => requirePositive_raises _ _

theorem TelegramFields.timeout_positive {fields : TelegramFields}
    (accepted : fields.postInit = .ok ()) : Positive fields.timeoutSeconds := by
  simp only [TelegramFields.postInit, check_bind_eq_ok, requirePositive_eq_ok] at accepted
  exact accepted.2.2.2

end Settings
end HermesSentinel
