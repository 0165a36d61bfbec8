import HermesSentinel.Heartbeat.Ingestion
import HermesSentinel.Heartbeat.Payload

namespace HermesSentinel
namespace Heartbeat

open Python
open Domain
open Foundation

/-!
# The wire adapter

The credentials give every node a token of its own.  A call presents a payload
and a token; the token must be that of the node the payload claims before the
payload is decoded and ingested.
-/

def requireCredentialNode : Key -> Fallible PyStr
  | .str node => do
      require (isBlank node = false) "credential node name must be a non-empty string after strip()"
      .ok node
  | _ =>
      raise .valueError "credential node name must be a non-empty string after strip()"

/-- The refusal of a token, which names the node and not the token. -/
def invalidToken {α : Type} (node : PyStr) : Fallible α :=
  .error {
    kind := .valueError
    message := "credential token for node must be a non-empty, non-whitespace-only string"
    names := [node] }

def requireCredentialToken (node : PyStr) : Value -> Fallible PyStr
  | .str token => if isBlank token = false then .ok token else invalidToken node
  | _ => invalidToken node

def requireNewToken (owner : Option PyStr) (node : PyStr) : Fallible Unit :=
  match owner with
  | none => .ok ()
  | some other =>
      .error {
        kind := .duplicateNodeTokenError
        message := "duplicate secret token assigned to nodes: each configured node must have its own token"
        names := [other, node] }

/-- The loop over the items, with the dictionaries filled so far. -/
def validateTokens (validated owner : Dictionary PyStr PyStr) :
    List (Key × Value) -> Fallible (Dictionary PyStr PyStr)
  | [] => .ok validated
  | (key, value) :: rest => do
      let node ← requireCredentialNode key
      let token ← requireCredentialToken node value
      requireNewToken (Dictionary.get owner token) node
      validateTokens (Dictionary.assign node token validated) (Dictionary.assign token node owner) rest

structure NodeCredentials where
  tokens : Dictionary PyStr PyStr
  accepted : exists items, validateTokens [] [] items = .ok tokens

namespace NodeCredentials

def make (items : List (Key × Value)) : Fallible NodeCredentials :=
  match accepted : validateTokens [] [] items with
  | .ok tokens => .ok { tokens := tokens, accepted := ⟨items, accepted⟩ }
  | .error e => .error e

def tokenFor (credentials : NodeCredentials) (node : PyStr) : Option PyStr :=
  Dictionary.get credentials.tokens node

end NodeCredentials

theorem requireCredentialToken_eq_ok {node token : PyStr} {value : Value} :
    requireCredentialToken node value = .ok token ↔ value = .str token ∧ isBlank token = false := by
  cases value with
  | str own =>
      rw [requireCredentialToken]
      by_cases notBlank : isBlank own = false
      · rw [if_pos notBlank]
        constructor
        · intro same
          cases same
          exact ⟨rfl, notBlank⟩
        · intro both
          cases both.1
          rfl
      · rw [if_neg notBlank]
        constructor
        · intro impossible
          cases impossible
        · intro both
          cases both.1
          exact absurd both.2 notBlank
  | _ =>
      constructor
      · intro impossible
        cases impossible
      · intro both
        cases both.1

theorem requireNewToken_eq_ok {owner : Option PyStr} {node : PyStr} :
    requireNewToken owner node = .ok () ↔ owner = none := by
  cases owner with
  | none => exact ⟨fun _ => rfl, fun _ => rfl⟩
  | some other =>
      constructor
      · intro impossible
        cases impossible
      · intro impossible
        cases impossible

/-- Every token has one owner, and it is the node the token was validated for. -/
structure Registered (validated owner : Dictionary PyStr PyStr) : Prop where
  owned : forall node token, Dictionary.get validated node = some token ->
    Dictionary.get owner token = some node
  notBlank : forall node token, Dictionary.get validated node = some token ->
    isBlank node = false ∧ isBlank token = false

theorem Registered.empty : Registered [] [] := by
  constructor
  · intro node token impossible
    cases impossible
  · intro node token impossible
    cases impossible

theorem registered_assign {validated owner : Dictionary PyStr PyStr}
    (registered : Registered validated owner) {node token : PyStr} (nodeNotBlank : isBlank node = false)
    (tokenNotBlank : isBlank token = false) (new : Dictionary.get owner token = none) :
    Registered (Dictionary.assign node token validated) (Dictionary.assign token node owner) := by
  constructor
  · intro other held present
    rw [Dictionary.get_assign] at present ⊢
    by_cases same : node = other
    · rw [if_pos same] at present
      cases present
      rw [if_pos rfl, same]
    · rw [if_neg same] at present
      have earlier := registered.owned other held present
      have different : token ≠ held := by
        intro equal
        rw [equal, earlier] at new
        cases new
      rw [if_neg different]
      exact earlier
  · intro other held present
    rw [Dictionary.get_assign] at present
    by_cases same : node = other
    · rw [if_pos same] at present
      cases present
      rw [<- same]
      exact ⟨nodeNotBlank, tokenNotBlank⟩
    · rw [if_neg same] at present
      exact registered.notBlank other held present

theorem validateTokens_registered : forall (items : List (Key × Value))
    (validated owner tokens : Dictionary PyStr PyStr), Registered validated owner ->
    validateTokens validated owner items = .ok tokens -> exists owner, Registered tokens owner := by
  intro items
  induction items with
  | nil =>
      intro validated owner tokens registered loaded
      cases loaded
      exact ⟨owner, registered⟩
  | cons item rest inductionHypothesis =>
      intro validated owner tokens registered loaded
      rcases item with ⟨key, value⟩
      simp only [validateTokens, bind_eq_ok, requireCredentialToken_eq_ok] at loaded
      rcases loaded with ⟨node, named, token, ⟨_, tokenNotBlank⟩, _, unowned, loaded⟩
      have new := requireNewToken_eq_ok.mp unowned
      have nodeNotBlank : isBlank node = false := by
        cases key with
        | str own =>
            simp only [requireCredentialNode, check_bind_eq_ok, require_eq_ok] at named
            cases named.2
            exact named.1
        | _ => cases named
      exact inductionHypothesis _ _ _ (registered_assign registered nodeNotBlank tokenNotBlank new) loaded

/-- A refused mapping ends with a `ValueError`. -/
theorem validateTokens_raises (validated owner : Dictionary PyStr PyStr)
    (items : List (Key × Value)) :
    RaisesOnly RefusesArguments (validateTokens validated owner items) := by
  induction items generalizing validated owner with
  | nil => exact .ok _
  | cons item rest inductionHypothesis =>
      rcases item with ⟨key, value⟩
      apply RaisesOnly.bind
      · cases key with
        | str node => exact .bind (.require refusesArguments_value _) fun _ _ => .ok _
        | _ => exact .raise _ refusesArguments_value
      intro node _
      apply RaisesOnly.bind
      · intro e failed
        unfold requireCredentialToken invalidToken at failed
        split at failed
        · split at failed
          · cases failed
          · cases failed
            exact refusesArguments_value
        · cases failed
          exact refusesArguments_value
      intro token _
      apply RaisesOnly.bind
      · intro e failed
        unfold requireNewToken at failed
        split at failed
        · cases failed
        · cases failed
          exact Or.inr (Or.inl rfl)
      intro _ _
      exact inductionHypothesis _ _

/-- The nodes with a token are those of the items. -/
theorem validateTokens_nodes {validated owner tokens : Dictionary PyStr PyStr}
    {items : List (Key × Value)} (loaded : validateTokens validated owner items = .ok tokens)
    (node : PyStr) :
    node ∈ tokens.keys ↔ node ∈ validated.keys ∨ Key.str node ∈ items.map Prod.fst := by
  induction items generalizing validated owner with
  | nil =>
      cases loaded
      exact ⟨Or.inl, fun either => either.elim id fun member => absurd member List.not_mem_nil⟩
  | cons item rest inductionHypothesis =>
      rcases item with ⟨key, value⟩
      simp only [validateTokens, bind_eq_ok] at loaded
      rcases loaded with ⟨own, named, token, _, _, _, loaded⟩
      have key_eq : key = .str own := by
        cases key with
        | str name =>
            simp only [requireCredentialNode, check_bind_eq_ok] at named
            cases named.2
            rfl
        | _ => cases named
      subst key_eq
      rw [inductionHypothesis loaded, Dictionary.mem_keys_assign, List.map_cons, List.mem_cons,
        Key.str.injEq, eq_comm, or_assoc, or_left_comm]

namespace NodeCredentials

theorem make_eq_ok {items : List (Key × Value)} {credentials : NodeCredentials}
    (made : make items = .ok credentials) : validateTokens [] [] items = .ok credentials.tokens := by
  unfold make at made
  split at made
  · rename_i tokens accepted
    cases made
    exact accepted
  · cases made

theorem make_eq_error {items : List (Key × Value)} {e : Raised} :
    make items = .error e ↔ validateTokens [] [] items = .error e := by
  unfold make
  constructor
  · intro failed
    split at failed
    · cases failed
    · rename_i raised refused
      cases failed
      exact refused
  · intro refused
    split
    · rename_i tokens accepted
      rw [accepted] at refused
      cases refused
    · rename_i raised failed
      rw [failed] at refused
      cases refused
      rfl

theorem make_raises (items : List (Key × Value)) : RaisesOnly RefusesArguments (make items) := by
  intro e failed
  exact validateTokens_raises _ _ items e (make_eq_error.mp failed)

theorem registered (credentials : NodeCredentials) :
    exists owner, Registered credentials.tokens owner := by
  rcases credentials.accepted with ⟨items, loaded⟩
  exact validateTokens_registered items _ _ _ Registered.empty loaded

/-- Two nodes never share a token. -/
theorem tokenFor_injective (credentials : NodeCredentials) {first second token : PyStr}
    (ofFirst : credentials.tokenFor first = some token)
    (ofSecond : credentials.tokenFor second = some token) : first = second := by
  rcases credentials.registered with ⟨owner, registered⟩
  have firstOwns := registered.owned first token ofFirst
  have secondOwns := registered.owned second token ofSecond
  rw [firstOwns] at secondOwns
  exact Option.some.inj secondOwns

theorem tokenFor_notBlank (credentials : NodeCredentials) {node token : PyStr}
    (found : credentials.tokenFor node = some token) :
    isBlank node = false ∧ isBlank token = false := by
  rcases credentials.registered with ⟨owner, registered⟩
  exact registered.notBlank node token found

end NodeCredentials

/-! ## The adapter -/

/-- What is presented as a token: a string or some other object. -/
inductive PresentedToken
  | str (value : PyStr)
  | other
  deriving DecidableEq

/-- Beside what the adapter is constructed from: the interpreter's
`fromisoformat`, and how deep mappings may be nested inside a payload before its
stack is exhausted. -/
structure AuthenticatedHeartbeatAdapter where
  config : SentinelConfig
  credentials : NodeCredentials
  ingestor : HeartbeatIngestor
  reader : IsoReader
  nesting : Nat

/-- `_AUTHENTICATION_FAILED`, raised for every cause alike. -/
def authenticationFailed {α : Type} : Fallible α :=
  raise .heartbeatAuthenticationError "heartbeat authentication failed"

/-- `token.encode("utf-8", errors="surrogatepass")`. -/
def encodeToken (token : PyStr) : Fallible (List Utf8.Byte) :=
  match Utf8.encode .surrogatePass token with
  | some bytes => .ok bytes
  | none => raise .unicodeEncodeError "surrogates not allowed"

/-- `hmac.compare_digest`. -/
def compareDigest (first second : List Utf8.Byte) : Bool :=
  decide (first = second)

def verifyToken (expected : PyStr) : PresentedToken -> Fallible Unit
  | .other => authenticationFailed
  | .str token =>
      if token = [] ∨ isBlank token = true then authenticationFailed
      else do
        let presented ← encodeToken token
        let expected ← encodeToken expected
        if compareDigest presented expected = true then .ok () else authenticationFailed

/-- Steps 2 to 4 of the adapter. -/
def authenticate (config : SentinelConfig) (credentials : NodeCredentials) (node : PyStr)
    (token : PresentedToken) : Fallible Unit :=
  match config.host node with
  | none => authenticationFailed
  | some _ =>
      match credentials.tokenFor node with
      | none => authenticationFailed
      | some expected => verifyToken expected token

namespace AuthenticatedHeartbeatAdapter

/-- Everything before the ingestion. -/
def accept (adapter : AuthenticatedHeartbeatAdapter) (payload : Payload) (token : PresentedToken) :
    Fallible HostTelemetry := do
  let snapshot ← snapshotPayload (adapter.nesting + 1) payload
  let node ← claimedNode snapshot
  authenticate adapter.config adapter.credentials node token
  let telemetry ← decodeHeartbeatPayload adapter.reader snapshot
  ensure .malformedHeartbeatPayloadError (telemetry.host = node)
    "authenticated node identity does not match the decoded payload"
  .ok telemetry

def handle (adapter : AuthenticatedHeartbeatAdapter) (storage : Fallible Unit) (payload : Payload)
    (token : PresentedToken) : Program Raised IngestWorld HeartbeatReceipt := do
  let telemetry ← Program.lift (adapter.accept payload token)
  ingest adapter.ingestor storage telemetry

end AuthenticatedHeartbeatAdapter

theorem encodeToken_eq (token : PyStr) : encodeToken token = .ok (token.flatMap Utf8.encodeChar) := by
  rw [encodeToken, Utf8.encode_surrogatePass]

/-- Comparing the bytes compares the tokens. -/
theorem compareDigest_iff (first second : PyStr) :
    compareDigest (first.flatMap Utf8.encodeChar) (second.flatMap Utf8.encodeChar) = true ↔
      first = second := by
  rw [compareDigest, decide_eq_true_eq]
  constructor
  · intro same
    apply Utf8.encode_injective (Utf8.encode_surrogatePass first)
    rw [same]
    exact Utf8.encode_surrogatePass second
  · intro same
    rw [same]

theorem verifyToken_eq_ok {expected : PyStr} {token : PresentedToken}
    (notBlank : isBlank expected = false) :
    verifyToken expected token = .ok () ↔ token = .str expected := by
  cases token with
  | other =>
      constructor
      · intro impossible
        cases impossible
      · intro impossible
        cases impossible
  | str presented =>
      rw [verifyToken, encodeToken_eq, encodeToken_eq, ok_bind, ok_bind]
      constructor
      · intro verified
        split at verified
        · cases verified
        · split at verified
          · rename_i same
            rw [(compareDigest_iff _ _).mp same]
          · cases verified
      · intro same
        cases same
        have shape : ¬ (expected = [] ∨ isBlank expected = true) := by
          intro bad
          rcases bad with empty | blank
          · rw [empty] at notBlank
            cases notBlank
          · rw [blank] at notBlank
            cases notBlank
        rw [if_neg shape, if_pos ((compareDigest_iff _ _).mpr rfl)]

/-- The claimed node is configured and the presented token is its own. -/
def Authorised (config : SentinelConfig) (credentials : NodeCredentials) (node : PyStr)
    (token : PresentedToken) : Prop :=
  (config.host node).isSome = true ∧
    exists expected, credentials.tokenFor node = some expected ∧ token = .str expected

theorem authenticate_eq_ok {config : SentinelConfig} {credentials : NodeCredentials} {node : PyStr}
    {token : PresentedToken} :
    authenticate config credentials node token = .ok () ↔
      Authorised config credentials node token := by
  unfold authenticate Authorised
  cases known : config.host node with
  | none =>
      constructor
      · intro impossible
        cases impossible
      · intro impossible
        cases impossible.1
  | some host =>
      dsimp only
      cases found : credentials.tokenFor node with
      | none =>
          constructor
          · intro impossible
            cases impossible
          · intro authorised
            rcases authorised.2 with ⟨expected, impossible, _⟩
            cases impossible
      | some expected =>
          dsimp only
          rw [verifyToken_eq_ok (credentials.tokenFor_notBlank found).2]
          constructor
          · intro same
            exact ⟨rfl, expected, rfl, same⟩
          · intro authorised
            rcases authorised.2 with ⟨other, same, presented⟩
            cases same
            exact presented

/-- Whatever the cause, authentication fails in one way. -/
theorem authenticate_cases (config : SentinelConfig) (credentials : NodeCredentials) (node : PyStr)
    (token : PresentedToken) :
    authenticate config credentials node token = .ok () ∨
      authenticate config credentials node token = authenticationFailed := by
  unfold authenticate
  split
  · exact .inr rfl
  · split
    · exact .inr rfl
    · rename_i expected found
      unfold verifyToken
      split
      · exact .inr rfl
      · rw [encodeToken_eq, encodeToken_eq, ok_bind, ok_bind]
        split
        · exact .inr rfl
        · split
          · exact .inl rfl
          · exact .inr rfl

end Heartbeat
end HermesSentinel
