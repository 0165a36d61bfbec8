import HermesSentinel.Foundation.Alike
import HermesSentinel.Python.Strip
import HermesSentinel.Settings.CentralContract
import HermesSentinel.Settings.DeadMan

namespace HermesSentinel
namespace Settings

open Python
open Domain
open Foundation
open Heartbeat (NodeCredentials Key Value)

/-!
# Failures do not depend on secrets

The public view of an environment keeps everything but the tokens: of those it
keeps whether they are there and of an acceptable form, and which of them are
equal.  Two environments with the same view are loaded alike: either both
loaders return, or they fail with the same text.
-/

/-- What the bot token is, apart from its text. -/
inductive BotTokenView
  | missing
  | notString
  | blank
  | outsideAlphabet
  | usable
  deriving DecidableEq

def botTokenView : Option EnvironmentValue -> BotTokenView
  | none => .missing
  | some (.other _) => .notString
  | some (.str token) =>
      if isBlank token = true then .blank
      else if token.all isTokenCharacter = true then .usable
      else .outsideAlphabet

/-- The category of a refused document. -/
def refusalCategory (e : Raised) : String :=
  if e.kind = .jsonRejected then e.message
  else if e.kind.isValueError = true then "malformed JSON"
  else "nesting too deep"

def stringOf : Json -> Option PyStr
  | .str value => some value
  | _ => none

/-- What the tokens of a document are, apart from their texts. -/
structure TokensView where
  keys : List PyStr
  /-- For each value that is a string, whether it is blank. -/
  blanks : List (Option Bool)
  /-- Which values are equal to which. -/
  equal : List (List Bool)
  deriving DecidableEq

/-- Which elements of a list are equal to which. -/
def equalities {α : Type} [DecidableEq α] (xs : List α) : List (List Bool) :=
  xs.map fun x => xs.map fun y => decide (x = y)

def tokensView (mapping : Dictionary PyStr Json) : TokensView where
  keys := mapping.keys
  blanks := mapping.map fun entry => (stringOf entry.2).map isBlank
  equal := equalities (mapping.map fun entry => stringOf entry.2)

inductive NodeTokensView
  | missing
  | notString
  | blank
  | malformed (category : String)
  | noObject
  | object (tokens : TokensView)
  deriving DecidableEq

def documentView : Fallible Json -> NodeTokensView
  | .error e => .malformed (refusalCategory e)
  | .ok (.object mapping) => .object (tokensView mapping)
  | .ok _ => .noObject

def nodeTokensView (interpreter : Interpreter) : Option EnvironmentValue -> NodeTokensView
  | none => .missing
  | some (.other _) => .notString
  | some (.str raw) =>
      if isBlank raw = true then .blank else documentView (jsonLoads interpreter raw)

/-- The variables that are not among the secret ones, verbatim. -/
def publicVariables (secrets : List String) (env : Snapshot) : PyStr -> Option EnvironmentValue :=
  fun name => if (secrets.map text).contains name = true then none else env.get name

/-- A view of what is read, `none` for a mapping that cannot be read. -/
def viewed {α : Type} (view : Snapshot -> α) (env : EnvironmentMapping) : Option α :=
  match env.read with
  | .error _ => none
  | .ok snapshot => some (view snapshot)

structure CentralView where
  visible : PyStr -> Option EnvironmentValue
  nodeTokens : NodeTokensView
  botToken : BotTokenView

def centralSecrets : List String :=
  [nodeTokensJsonVar, botTokenVar]

def centralView (interpreter : Interpreter) : EnvironmentMapping -> Option CentralView :=
  viewed fun snapshot => {
    visible := publicVariables centralSecrets snapshot
    nodeTokens := nodeTokensView interpreter (snapshot.get (text nodeTokensJsonVar))
    botToken := botTokenView (snapshot.get (text botTokenVar)) }

structure DeadManView where
  visible : PyStr -> Option EnvironmentValue
  botToken : BotTokenView

def deadManSecrets : List String :=
  [deadManBotTokenVar]

def deadManView : EnvironmentMapping -> Option DeadManView :=
  viewed fun snapshot => {
    visible := publicVariables deadManSecrets snapshot
    botToken := botTokenView (snapshot.get (text deadManBotTokenVar)) }

section Public

variable {kind : ExceptionClass} {secrets : List String} {env env' : Snapshot}

theorem get_of_public (same : publicVariables secrets env = publicVariables secrets env')
    {name : String} (notSecret : text name ∉ secrets.map text) :
    env.get (text name) = env'.get (text name) := by
  have values := congrFun same (text name)
  have visible : ¬ (secrets.map text).contains (text name) = true := by
    rw [List.contains_iff_mem]
    exact notSecret
  unfold publicVariables at values
  rw [if_neg visible, if_neg visible] at values
  exact values

theorem requiredNonEmptyString_congr {name : String}
    (same : env.get (text name) = env'.get (text name)) :
    requiredNonEmptyString kind env name = requiredNonEmptyString kind env' name := by
  unfold requiredNonEmptyString
  rw [same]

theorem optionalParsed_congr {α : Type} {parse : PyStr -> Fallible α} {name : String}
    (same : env.get (text name) = env'.get (text name)) :
    optionalParsed kind env name parse = optionalParsed kind env' name parse := by
  unfold optionalParsed optionalString
  rw [same]

end Public

/-! ## The bot token -/

section BotToken

variable {kind : ExceptionClass} {env env' : Snapshot}

/-- Tokens the settings classes accept or refuse alike. -/
def SameAlphabet (token token' : PyStr) : Prop :=
  token ≠ [] ∧ token' ≠ [] ∧ token.all isTokenCharacter = token'.all isTokenCharacter

/-- What a variable with a given view holds. -/
theorem of_botTokenView (value : Option EnvironmentValue) :
    match botTokenView value with
    | .missing => value = none
    | .notString => exists identity, value = some (.other identity)
    | .blank => exists token, value = some (.str token) ∧ isBlank token = true
    | .outsideAlphabet => exists token, value = some (.str token) ∧ isBlank token = false ∧
        token.all isTokenCharacter = false
    | .usable => exists token, value = some (.str token) ∧ isBlank token = false ∧
        token.all isTokenCharacter = true := by
  cases value with
  | none => exact rfl
  | some value =>
      cases value with
      | other identity => exact ⟨identity, rfl⟩
      | str token =>
          cases blank : isBlank token with
          | true =>
              have view : botTokenView (some (.str token)) = .blank := if_pos blank
              rw [view]
              exact ⟨token, rfl, blank⟩
          | false =>
              have notBlank : ¬ isBlank token = true := Bool.eq_false_iff.mp blank
              cases inside : token.all isTokenCharacter with
              | true =>
                  have view : botTokenView (some (.str token)) = .usable :=
                    (if_neg notBlank).trans (if_pos inside)
                  rw [view]
                  exact ⟨token, rfl, blank, inside⟩
              | false =>
                  have view : botTokenView (some (.str token)) = .outsideAlphabet :=
                    (if_neg notBlank).trans (if_neg (Bool.eq_false_iff.mp inside))
                  rw [view]
                  exact ⟨token, rfl, blank, inside⟩

/-- A bot token is read alike. -/
theorem botToken_alike {name : String}
    (same : botTokenView (env.get (text name)) = botTokenView (env'.get (text name))) :
    Alike SameAlphabet (requiredNonEmptyString kind env name)
      (requiredNonEmptyString kind env' name) := by
  have held := of_botTokenView (env.get (text name))
  have held' := of_botTokenView (env'.get (text name))
  rw [<- same] at held'
  unfold requiredNonEmptyString
  cases view : botTokenView (env.get (text name)) with
  | missing =>
      rw [view] at held held'
      rw [held, held']
      rfl
  | notString =>
      rw [view] at held held'
      rcases held with ⟨identity, first⟩
      rcases held' with ⟨identity', second⟩
      rw [first, second]
      rfl
  | blank =>
      rw [view] at held held'
      rcases held with ⟨token, first, blank⟩
      rcases held' with ⟨token', second, blank'⟩
      rw [first, second]
      simp only [blank, blank']
      rfl
  | outsideAlphabet =>
      rw [view] at held held'
      rcases held with ⟨token, first, notBlank, outside⟩
      rcases held' with ⟨token', second, notBlank', outside'⟩
      rw [first, second]
      simp only [notBlank, notBlank', if_true]
      exact ⟨ne_nil_of_notBlank notBlank, ne_nil_of_notBlank notBlank', outside.trans outside'.symm⟩
  | usable =>
      rw [view] at held held'
      rcases held with ⟨token, first, notBlank, inside⟩
      rcases held' with ⟨token', second, notBlank', inside'⟩
      rw [first, second]
      simp only [notBlank, notBlank', if_true]
      exact ⟨ne_nil_of_notBlank notBlank, ne_nil_of_notBlank notBlank', inside.trans inside'.symm⟩

/-- The checks of the Telegram settings end alike. -/
theorem postInit_alphabet {token token' : PyStr} (same : SameAlphabet token token') (chatId : Int)
    (threadId : Option Int) (timeout : Option PyFloat) :
    (telegramFields token chatId threadId timeout).postInit =
      (telegramFields token' chatId threadId timeout).postInit := by
  have checked : requireBotToken token = requireBotToken token' := by
    unfold requireBotToken require
    rw [if_pos same.1, if_pos same.2.1, same.2.2]
  unfold TelegramFields.postInit
  show (requireBotToken token >>= _) = (requireBotToken token' >>= _)
  rw [checked]
  rfl

/-- What two runs of a constructor have in common if its checks end alike. -/
theorem construct_alike {φ α : Type} {postInit : φ -> Fallible Unit}
    {build : (fields : φ) -> postInit fields = .ok () -> α} {fields fields' : φ}
    (same : postInit fields = postInit fields') :
    Alike (fun _ _ => True) (construct postInit build fields) (construct postInit build fields') := by
  cases checked : postInit fields with
  | ok accepted =>
      rw [construct_ok build checked, construct_ok build (same.symm.trans checked)]
      trivial
  | error e =>
      have failed : construct postInit build fields = .error e := construct_eq_error.mpr checked
      have failed' : construct postInit build fields' = .error e :=
        construct_eq_error.mpr (same.symm.trans checked)
      rw [failed, failed']
      rfl

theorem accepted_alike {α : Type} {related : α -> α -> Prop} {built built' : Fallible α}
    (label : String) (alike : Alike related built built') :
    Alike related (accepted kind built label) (accepted kind built' label) := by
  rcases alike.ends with ⟨value, value', first, second, values⟩ | ⟨e, first, second⟩
  · rw [first, second]
    exact values
  · rw [first, second]
    unfold accepted
    dsimp only
    split
    · rfl
    · rfl

end BotToken

/-! ## The node tokens -/

section NodeTokens

/-- A pair of entries, one of each document. -/
abbrev EntryPair := (PyStr × Json) × (PyStr × Json)

/-- Two documents with the same view, entry by entry. -/
structure SameTokens (pairs : List EntryPair) : Prop where
  key : forall pair, pair ∈ pairs -> pair.1.1 = pair.2.1
  blank : forall pair, pair ∈ pairs ->
    (stringOf pair.1.2).map isBlank = (stringOf pair.2.2).map isBlank
  equal : forall pair other, pair ∈ pairs -> other ∈ pairs ->
    (stringOf pair.1.2 = stringOf other.1.2 ↔ stringOf pair.2.2 = stringOf other.2.2)

theorem zip_of_map_eq {α β γ : Type} {f : α -> γ} {g : β -> γ} {xs : List α} {ys : List β}
    (same : xs.map f = ys.map g) {pair : α × β} (member : pair ∈ xs.zip ys) :
    f pair.1 = g pair.2 := by
  induction xs generalizing ys with
  | nil => cases member
  | cons x rest inductionHypothesis =>
      cases ys with
      | nil => cases member
      | cons y others =>
          rw [List.map_cons, List.map_cons, List.cons.injEq] at same
          rcases List.mem_cons.mp member with equal | later
          · rw [equal]
            exact same.1
          · exact inductionHypothesis same.2 later

theorem sameTokens_of_view {mapping mapping' : Dictionary PyStr Json}
    (same : tokensView mapping = tokensView mapping') : SameTokens (mapping.zip mapping') := by
  have keys : mapping.map Prod.fst = mapping'.map Prod.fst := congrArg TokensView.keys same
  have blanks := congrArg TokensView.blanks same
  have rows := congrArg TokensView.equal same
  unfold tokensView equalities at rows
  dsimp only at rows
  rw [List.map_map, List.map_map] at rows
  refine ⟨fun pair member => zip_of_map_eq keys member, fun pair member =>
    zip_of_map_eq blanks member, ?_⟩
  intro pair other member otherMember
  have row := zip_of_map_eq rows member
  simp only [Function.comp_apply, List.map_map] at row
  have cell := zip_of_map_eq row otherMember
  exact decide_eq_decide.mp cell

theorem zip_of_view {mapping mapping' : Dictionary PyStr Json}
    (same : tokensView mapping = tokensView mapping') :
    mapping = (mapping.zip mapping').map Prod.fst ∧
      mapping' = (mapping.zip mapping').map Prod.snd := by
  have keys : mapping.map Prod.fst = mapping'.map Prod.fst := congrArg TokensView.keys same
  have lengths : mapping.length = mapping'.length := by
    have counted := congrArg List.length keys
    rw [List.length_map, List.length_map] at counted
    exact counted
  constructor
  · exact (List.map_fst_zip lengths.le).symm
  · exact (List.map_snd_zip lengths.ge).symm

theorem SameTokens.tail {pair : EntryPair} {rest : List EntryPair}
    (same : SameTokens (pair :: rest)) : SameTokens rest where
  key := fun pair member => same.key pair (List.mem_cons_of_mem _ member)
  blank := fun pair member => same.blank pair (List.mem_cons_of_mem _ member)
  equal := fun pair other member otherMember =>
    same.equal pair other (List.mem_cons_of_mem _ member) (List.mem_cons_of_mem _ otherMember)

/-- Whether all tokens are strings is seen alike. -/
theorem requireStringTokens_alike {pairs : List EntryPair} (same : SameTokens pairs) :
    requireStringTokens (pairs.map Prod.fst) = requireStringTokens (pairs.map Prod.snd) := by
  induction pairs with
  | nil => rfl
  | cons pair rest inductionHypothesis =>
      rcases pair with ⟨⟨key, value⟩, ⟨key', value'⟩⟩
      have shape := same.blank _ List.mem_cons_self
      have later := inductionHypothesis same.tail
      cases value with
      | str token =>
          cases value' with
          | str token' => exact later
          | _ => cases shape
      | _ =>
          cases value' with
          | str token' => cases shape
          | _ => rfl

/-- The owners recorded so far, as the tokens still to come find them. -/
def SameOwners (pairs : List EntryPair) (owner owner' : Dictionary PyStr PyStr) : Prop :=
  forall pair, pair ∈ pairs -> forall token token', pair.1.2 = .str token ->
    pair.2.2 = .str token' -> owner.get token = owner'.get token'

/-- The loop over the credentials ends alike: it stops at the same node for the
same reason, and a repeated token has the same earlier owner. -/
theorem validateTokens_alike {pairs : List EntryPair} (same : SameTokens pairs)
    (strings : forall pair, pair ∈ pairs -> exists token, pair.1.2 = .str token)
    {validated validated' owner owner' : Dictionary PyStr PyStr}
    (owners : SameOwners pairs owner owner') :
    Alike (fun _ _ => True)
      (Heartbeat.validateTokens validated owner (credentialItems (pairs.map Prod.fst)))
      (Heartbeat.validateTokens validated' owner' (credentialItems (pairs.map Prod.snd))) := by
  induction pairs generalizing validated validated' owner owner' with
  | nil => trivial
  | cons pair rest inductionHypothesis =>
      rcases pair with ⟨⟨key, value⟩, ⟨key', value'⟩⟩
      rcases strings _ List.mem_cons_self with ⟨token, isString⟩
      have shape := same.blank _ List.mem_cons_self
      have keys := same.key _ List.mem_cons_self
      dsimp only at isString shape keys
      subst isString keys
      cases value' with
      | str token' =>
          have blanks : isBlank token = isBlank token' := Option.some.inj shape
          apply Alike.bind_same rfl
          intro node named
          apply @Alike.bind _ _ _ _ _ (fun own own' => own = token ∧ own' = token')
          · unfold Heartbeat.requireCredentialToken
            show Alike _ (if isBlank token = false then _ else _) (if isBlank token' = false then _ else _)
            rw [<- blanks]
            by_cases notBlank : isBlank token = false
            · rw [if_pos notBlank, if_pos notBlank]
              exact ⟨rfl, rfl⟩
            · rw [if_neg notBlank, if_neg notBlank]
              rfl
          · intro own own' _ _ both
            rcases both with ⟨first, second⟩
            subst first second
            apply Alike.bind_same
            · rw [owners _ List.mem_cons_self own own' rfl rfl]
            · intro _ _
              apply inductionHypothesis same.tail
              · exact fun pair member => strings pair (List.mem_cons_of_mem _ member)
              · intro pair member other other' isOther isOther'
                have repeated := same.equal _ pair List.mem_cons_self (List.mem_cons_of_mem _ member)
                rw [isOther, isOther'] at repeated
                rw [Dictionary.get_assign, Dictionary.get_assign]
                by_cases equal : own = other
                · have equal' : own' = other' :=
                    Option.some.inj (repeated.mp (congrArg some equal))
                  rw [if_pos equal, if_pos equal']
                · have different : own' ≠ other' := fun equal' =>
                    equal (Option.some.inj (repeated.mpr (congrArg some equal')))
                  rw [if_neg equal, if_neg different]
                  exact owners pair (List.mem_cons_of_mem _ member) other other' isOther isOther'
      | _ => cases shape

theorem requireStringTokens_strings {mapping : Dictionary PyStr Json}
    (checked : requireStringTokens mapping = .ok ()) {entry : PyStr × Json}
    (member : entry ∈ mapping) : exists token, entry.2 = .str token := by
  induction mapping with
  | nil => cases member
  | cons first rest inductionHypothesis =>
      rcases first with ⟨key, value⟩
      cases value with
      | str token =>
          rcases List.mem_cons.mp member with equal | later
          · rw [equal]
            exact ⟨token, rfl⟩
          · exact inductionHypothesis checked later
      | _ => cases checked

variable {interpreter : Interpreter} {env env' : Snapshot}

/-- What a variable with a given view holds. -/
theorem of_nodeTokensView (value : Option EnvironmentValue) :
    match nodeTokensView interpreter value with
    | .missing => value = none
    | .notString => exists identity, value = some (.other identity)
    | .blank => exists raw, value = some (.str raw) ∧ isBlank raw = true
    | view => exists raw, value = some (.str raw) ∧ isBlank raw = false ∧
        documentView (jsonLoads interpreter raw) = view := by
  cases value with
  | none => exact rfl
  | some value =>
      cases value with
      | other identity => exact ⟨identity, rfl⟩
      | str raw =>
          cases blank : isBlank raw with
          | true =>
              have view : nodeTokensView interpreter (some (.str raw)) = .blank := if_pos blank
              rw [view]
              exact ⟨raw, rfl, blank⟩
          | false =>
              have view : nodeTokensView interpreter (some (.str raw)) =
                  documentView (jsonLoads interpreter raw) :=
                if_neg (Bool.eq_false_iff.mp blank)
              rw [view]
              unfold documentView
              cases loaded : jsonLoads interpreter raw with
              | error e => exact ⟨raw, rfl, blank, by rw [loaded]⟩
              | ok document =>
                  cases document with
                  | object mapping => exact ⟨raw, rfl, blank, by rw [loaded]⟩
                  | _ => exact ⟨raw, rfl, blank, by rw [loaded]⟩

/-- The variable of the tokens is read alike. -/
theorem nodeTokens_alike
    (same : nodeTokensView interpreter (env.get (text nodeTokensJsonVar)) =
      nodeTokensView interpreter (env'.get (text nodeTokensJsonVar))) :
    Alike (fun raw raw' => documentView (jsonLoads interpreter raw) =
        documentView (jsonLoads interpreter raw'))
      (requiredNonEmptyString .centralSettingsError env nodeTokensJsonVar)
      (requiredNonEmptyString .centralSettingsError env' nodeTokensJsonVar) := by
  have held := @of_nodeTokensView interpreter (env.get (text nodeTokensJsonVar))
  have held' := @of_nodeTokensView interpreter (env'.get (text nodeTokensJsonVar))
  rw [<- same] at held'
  unfold requiredNonEmptyString
  cases view : nodeTokensView interpreter (env.get (text nodeTokensJsonVar)) with
  | missing =>
      rw [view] at held held'
      rw [held, held']
      rfl
  | notString =>
      rw [view] at held held'
      rcases held with ⟨identity, first⟩
      rcases held' with ⟨identity', second⟩
      rw [first, second]
      rfl
  | blank =>
      rw [view] at held held'
      rcases held with ⟨raw, first, blank⟩
      rcases held' with ⟨raw', second, blank'⟩
      rw [first, second]
      simp only [blank, blank']
      rfl
  | _ =>
      rw [view] at held held'
      rcases held with ⟨raw, first, notBlank, document⟩
      rcases held' with ⟨raw', second, notBlank', document'⟩
      rw [first, second]
      simp only [notBlank, notBlank', if_true]
      exact document.trans document'.symm

/-- The text of a refusal shows the category and nothing else of the document. -/
theorem loadJsonDocument_refused {name : String} {raw : PyStr} {e : Raised}
    (refused : jsonLoads interpreter raw = .error e) :
    loadJsonDocument interpreter name raw =
      refuse (name ++ " is not acceptable strict JSON: " ++ refusalCategory e) := by
  have kinds := jsonLoads_raises interpreter raw e refused
  unfold loadJsonDocument refusalCategory
  rw [refused]
  dsimp only
  rcases kinds with rejected | malformed | deep
  · rw [if_pos rejected, if_pos rejected]
    rfl
  · rw [malformed]
    show refuse _ = refuse (name ++ " is not acceptable strict JSON: " ++ "malformed JSON")
    rw [String.append_assoc]
    rfl
  · rw [deep]
    show refuse _ = refuse (name ++ " is not acceptable strict JSON: " ++ "nesting too deep")
    rw [String.append_assoc]
    rfl

theorem loadJsonDocument_alike {name : String} {raw raw' : PyStr}
    (same : documentView (jsonLoads interpreter raw) = documentView (jsonLoads interpreter raw')) :
    Alike (fun document document' => documentView (.ok document) = documentView (.ok document'))
      (loadJsonDocument interpreter name raw) (loadJsonDocument interpreter name raw') := by
  have loadedView (document : Json) (category : String) :
      documentView (.ok document) ≠ .malformed category := by
    intro impossible
    cases document with
    | _ => cases impossible
  cases first : jsonLoads interpreter raw with
  | ok document =>
      cases second : jsonLoads interpreter raw' with
      | ok document' =>
          rw [first, second] at same
          rw [loadJsonDocument_eq_ok.mpr first, loadJsonDocument_eq_ok.mpr second]
          exact same
      | error e =>
          rw [first, second] at same
          exact absurd same (loadedView _ _)
  | error e =>
      cases second : jsonLoads interpreter raw' with
      | ok document' =>
          rw [first, second] at same
          exact absurd same.symm (loadedView _ _)
      | error e' =>
          rw [first, second] at same
          have category : refusalCategory e = refusalCategory e' := NodeTokensView.malformed.inj same
          rw [loadJsonDocument_refused first, loadJsonDocument_refused second, category]
          rfl

theorem jsonObject_alike {path : String} {document document' : Json}
    (same : documentView (.ok document) = documentView (.ok document')) :
    Alike (fun mapping mapping' => tokensView mapping = tokensView mapping')
      (jsonObject path document) (jsonObject path document') := by
  cases document with
  | object mapping =>
      cases document' with
      | object mapping' => exact NodeTokensView.object.inj same
      | _ => cases same
  | _ =>
      cases document' with
      | object mapping' => cases same
      | _ => rfl

/-- Credentials of documents with the same view are built alike. -/
theorem make_alike {mapping mapping' : Dictionary PyStr Json}
    (same : tokensView mapping = tokensView mapping')
    (strings : requireStringTokens mapping = .ok ()) :
    Alike (fun _ _ => True) (NodeCredentials.make (credentialItems mapping))
      (NodeCredentials.make (credentialItems mapping')) := by
  rcases zip_of_view same with ⟨first, second⟩
  have pairStrings : forall pair, pair ∈ mapping.zip mapping' ->
      exists token, pair.1.2 = .str token := by
    intro pair member
    exact requireStringTokens_strings strings (List.of_mem_zip member).1
  have alike := @validateTokens_alike _ (sameTokens_of_view same) pairStrings [] [] [] []
    fun _ _ _ _ _ _ => rfl
  rw [<- first, <- second] at alike
  rcases alike.ends with ⟨tokens, tokens', validated, validated', _⟩ | ⟨e, failed, failed'⟩
  · unfold NodeCredentials.make
    split
    · split
      · trivial
      · rename_i refused
        rw [validated'] at refused
        cases refused
    · rename_i refused
      rw [validated] at refused
      cases refused
  · rw [Heartbeat.NodeCredentials.make_eq_error.mpr failed,
      Heartbeat.NodeCredentials.make_eq_error.mpr failed']
    rfl

theorem loadCredentials_alike (config : SentinelConfig)
    (same : nodeTokensView interpreter (env.get (text nodeTokensJsonVar)) =
      nodeTokensView interpreter (env'.get (text nodeTokensJsonVar))) :
    Alike (fun _ _ => True) (loadCredentials interpreter env config)
      (loadCredentials interpreter env' config) := by
  apply Alike.bind (nodeTokens_alike same)
  intro raw raw' _ _ documents
  apply Alike.bind (loadJsonDocument_alike documents)
  intro document document' _ _ views
  apply Alike.bind (jsonObject_alike views)
  intro mapping mapping' _ _ tokens
  rcases zip_of_view tokens with ⟨first, second⟩
  have strings := requireStringTokens_alike (sameTokens_of_view tokens)
  rw [<- first, <- second] at strings
  have keys : mapping.keys = mapping'.keys := congrArg TokensView.keys tokens
  apply Alike.bind_same strings
  intro _ checked
  apply Alike.bind_same (by rw [keys])
  intro _ _
  exact accepted_alike _ (make_alike tokens checked)

end NodeTokens

/-! ## The loaders -/

section Loaders

variable {interpreter : Interpreter} {urlsplit : UrlParser}

theorem takeSnapshot_alike {α : Type} {kind : ExceptionClass} {view : Snapshot -> α}
    {env env' : EnvironmentMapping} (same : viewed view env = viewed view env') :
    Alike (fun snapshot snapshot' => view snapshot = view snapshot') (takeSnapshot kind env)
      (takeSnapshot kind env') := by
  unfold viewed at same
  unfold takeSnapshot
  cases first : env.read with
  | ok snapshot =>
      cases second : env'.read with
      | ok snapshot' =>
          rw [first, second] at same
          exact Option.some.inj same
      | error e' =>
          rw [first, second] at same
          cases same
  | error e =>
      cases second : env'.read with
      | ok snapshot' =>
          rw [first, second] at same
          cases same
      | error e' =>
          dsimp only
          rw [if_pos (env.raises e first), if_pos (env'.raises e' second)]
          rfl

variable {env env' : Snapshot}

/-- Both services read their Telegram settings in the same way, from variables
of their own; only the first one is a secret. -/
theorem telegramLoader_alike {α : Type} {kind : ExceptionClass} {digitLimit : Nat}
    {tokenVar chatVar threadVar timeoutVar : String}
    (build : (fields : TelegramFields) -> fields.postInit = .ok () -> α) (label : String)
    (token : botTokenView (env.get (text tokenVar)) = botTokenView (env'.get (text tokenVar)))
    (chat : env.get (text chatVar) = env'.get (text chatVar))
    (thread : env.get (text threadVar) = env'.get (text threadVar))
    (timeout : env.get (text timeoutVar) = env'.get (text timeoutVar)) :
    let load := fun env : Snapshot => do
      let botToken ← requiredNonEmptyString kind env tokenVar
      let chatRaw ← requiredNonEmptyString kind env chatVar
      let chatId ← parseDecimalInt kind digitLimit chatVar chatRaw
      let threadId ← optionalParsed kind env threadVar (parseDecimalInt kind digitLimit threadVar)
      let timeout ← optionalParsed kind env timeoutVar (parsePositiveFloat kind timeoutVar)
      accepted kind (construct TelegramFields.postInit build (telegramFields botToken chatId threadId timeout))
        label
    Alike (fun _ _ => True) (load env) (load env') := by
  intro load
  apply Alike.bind (botToken_alike token)
  intro botToken botToken' _ _ alphabet
  apply Alike.bind_same (requiredNonEmptyString_congr chat)
  intro chatRaw _
  apply Alike.bind_same rfl
  intro chatId _
  apply Alike.bind_same (optionalParsed_congr thread)
  intro threadId _
  apply Alike.bind_same (optionalParsed_congr timeout)
  intro timeout _
  exact accepted_alike _ (construct_alike (postInit_alphabet alphabet chatId threadId timeout))

theorem loadTelegram_alike
    (visible : publicVariables centralSecrets env = publicVariables centralSecrets env')
    (token : botTokenView (env.get (text botTokenVar)) = botTokenView (env'.get (text botTokenVar))) :
    Alike (fun _ _ => True) (loadTelegram interpreter env) (loadTelegram interpreter env') :=
  telegramLoader_alike _ "TelegramSettings" token (get_of_public visible (by decide))
    (get_of_public visible (by decide)) (get_of_public visible (by decide))

theorem loadTelegramSettings_alike
    (visible : publicVariables deadManSecrets env = publicVariables deadManSecrets env')
    (token : botTokenView (env.get (text deadManBotTokenVar)) =
      botTokenView (env'.get (text deadManBotTokenVar))) :
    Alike (fun _ _ => True) (loadTelegramSettings interpreter env)
      (loadTelegramSettings interpreter env') :=
  telegramLoader_alike _ "DeadManTelegramSettings" token (get_of_public visible (by decide))
    (get_of_public visible (by decide)) (get_of_public visible (by decide))

theorem loadCentralSettings_alike {env env' : EnvironmentMapping}
    (same : centralView interpreter env = centralView interpreter env') :
    Alike (fun _ _ => True) (loadCentralSettings interpreter env)
      (loadCentralSettings interpreter env') := by
  apply Alike.bind (takeSnapshot_alike same)
  intro snapshot snapshot' _ _ view
  have visible : publicVariables centralSecrets snapshot = publicVariables centralSecrets snapshot' :=
    congrArg CentralView.visible view
  have required {name : String} (notSecret : text name ∉ centralSecrets.map text) :
      requiredNonEmptyString .centralSettingsError snapshot name =
        requiredNonEmptyString .centralSettingsError snapshot' name :=
    requiredNonEmptyString_congr (get_of_public visible notSecret)
  have port : loadListenPort interpreter snapshot = loadListenPort interpreter snapshot' := by
    unfold loadListenPort
    rw [required (by decide)]
  have monitor : loadPositiveInterval snapshot monitorIntervalVar =
      loadPositiveInterval snapshot' monitorIntervalVar := by
    unfold loadPositiveInterval
    rw [required (by decide)]
  have poll : loadPositiveInterval snapshot pollIntervalVar =
      loadPositiveInterval snapshot' pollIntervalVar := by
    unfold loadPositiveInterval
    rw [required (by decide)]
  have config : loadConfig interpreter snapshot = loadConfig interpreter snapshot' := by
    unfold loadConfig
    rw [required (by decide)]
  apply Alike.bind_same (required (by decide))
  intro databasePath _
  apply Alike.bind_same (required (by decide))
  intro listenHost _
  apply Alike.bind_same port
  intro listenPort _
  apply Alike.bind_same monitor
  intro monitorInterval _
  apply Alike.bind_same poll
  intro pollInterval _
  apply Alike.bind_same config
  intro loadedConfig _
  apply Alike.bind (loadTelegram_alike visible (congrArg CentralView.botToken view))
  intro telegram telegram' _ _ _
  apply Alike.bind (loadCredentials_alike loadedConfig (congrArg CentralView.nodeTokens view))
  intro credentials credentials' _ _ _
  trivial

theorem loadDeadmanSettings_alike {env env' : EnvironmentMapping}
    (same : deadManView env = deadManView env') :
    Alike (fun _ _ => True) (loadDeadmanSettings interpreter urlsplit env)
      (loadDeadmanSettings interpreter urlsplit env') := by
  apply Alike.bind (takeSnapshot_alike same)
  intro snapshot snapshot' _ _ view
  have visible : publicVariables deadManSecrets snapshot = publicVariables deadManSecrets snapshot' :=
    congrArg DeadManView.visible view
  have probe : loadProbeSettings urlsplit snapshot = loadProbeSettings urlsplit snapshot' := by
    unfold loadProbeSettings
    rw [requiredNonEmptyString_congr (get_of_public visible (by decide)),
      optionalParsed_congr (get_of_public visible (by decide))]
  have store : loadStore snapshot = loadStore snapshot' := by
    unfold loadStore
    rw [requiredNonEmptyString_congr (get_of_public visible (by decide))]
  apply Alike.bind_same probe
  intro probeSettings _
  apply Alike.bind_same store
  intro stored _
  apply Alike.bind (loadTelegramSettings_alike visible (congrArg DeadManView.botToken view))
  intro telegram telegram' _ _ _
  trivial

end Loaders

/-- Both calls return, or both raise the same error of this class. -/
def EndsAlike {α : Type} (kind : ExceptionClass) (first second : Fallible α) : Prop :=
  (exists value other, first = .ok value ∧ second = .ok other) ∨
    exists e, first = .error e ∧ second = .error e ∧ e.kind = kind

/-- Whether and with what text a loader fails is a function of the public view. -/
theorem failures_are_public (interpreter : Interpreter) (urlsplit : UrlParser)
    (env env' : EnvironmentMapping) :
    (centralView interpreter env = centralView interpreter env' ->
      EndsAlike .centralSettingsError (loadCentralSettings interpreter env)
        (loadCentralSettings interpreter env')) ∧
    (deadManView env = deadManView env' ->
      EndsAlike .deadManSettingsError (loadDeadmanSettings interpreter urlsplit env)
        (loadDeadmanSettings interpreter urlsplit env')) := by
  constructor
  · intro same
    rcases (loadCentralSettings_alike same).ends with
      ⟨value, other, first, second, _⟩ | ⟨e, first, second⟩
    · exact Or.inl ⟨value, other, first, second⟩
    · exact Or.inr ⟨e, first, second, loadCentralSettings_fails interpreter env e first⟩
  · intro same
    rcases (loadDeadmanSettings_alike same).ends with
      ⟨value, other, first, second, _⟩ | ⟨e, first, second⟩
    · exact Or.inl ⟨value, other, first, second⟩
    · exact Or.inr ⟨e, first, second, loadDeadmanSettings_fails interpreter urlsplit env e first⟩

/-- An interpreter with the scanner of the standard library. -/
def standardInterpreter : Interpreter where
  scanJson raw :=
    match JsonScanner.standard.scan raw with
    | .value document => .value document
    | .malformed => .malformed []
    | .tooDeep => .tooDeep []
  digitLimit := 4300

def hostsDocument (name : PyStr) : Json :=
  .array [.object [
    (text "name", .str name),
    (text "heartbeat", .object [
      (text "expected_interval_seconds", .int 60), (text "stale_after_seconds", .int 180)]),
    (text "external", .object [
      (text "tcp_host", .str (text "10.0.0.1")), (text "tcp_port", .int 22)])]]

/-- The variables of a service with one host and these tokens. -/
def serviceVariables (name nodeToken botToken : PyStr) : Snapshot :=
  [(text databasePathVar, .str (text "sentinel.db")),
    (text listenHostVar, .str (text "127.0.0.1")),
    (text listenPortVar, .str (text "8080")),
    (text monitorIntervalVar, .str (text "60")),
    (text pollIntervalVar, .str (text "1")),
    (text hostsJsonVar, .str (Json.render (hostsDocument name))),
    (text nodeTokensJsonVar, .str (Json.render (.object [(name, .str nodeToken)]))),
    (text botTokenVar, .str botToken),
    (text chatIdVar, .str (text "1"))]

/-- The variables of a dead-man switch. -/
def switchVariables (botToken chatId : PyStr) : Snapshot :=
  [(text deadManProbeUrlVar, .str (text "https://sentinel/healthz")),
    (text deadManStatePathVar, .str (text "state.json")),
    (text deadManBotTokenVar, .str botToken),
    (text deadManChatIdVar, .str chatId)]

/-- What `urlsplit` makes of the URL of these variables. -/
def splitProbeUrl : UrlParser := fun _ => .ok {
  scheme := text "https"
  netloc := text "sentinel"
  hostname := some (text "sentinel")
  fragment := []
  port := .ok none }

theorem publicVariables_congr {secrets : List String} {env env' : Snapshot}
    (distinct : env.keys.Nodup) (distinct' : env'.keys.Nodup)
    (same : (env.filter fun entry => !(secrets.map text).contains entry.1) =
      env'.filter fun entry => !(secrets.map text).contains entry.1) :
    publicVariables secrets env = publicVariables secrets env' := by
  funext name
  unfold publicVariables
  split
  · rfl
  · rename_i visible
    have gets (env : Snapshot) (distinct : env.keys.Nodup) :
        Dictionary.get (env.filter fun entry => !(secrets.map text).contains entry.1) name =
          env.get name := by
      rw [Dictionary.get_filter distinct]
      cases env.get name with
      | none => rfl
      | some value => exact if_pos (Bool.not_eq_true' _ ▸ Bool.eq_false_iff.mpr visible)
    rw [<- gets env distinct, <- gets env' distinct', same]

/-- A service starts with either pair of tokens, and a dead-man switch without a
chat fails with either token. -/
theorem rotatedTokens_endAlike :
    (loadCentralSettings standardInterpreter (.ofSnapshot
        (serviceVariables (text "prod") (text "secret") (text "1:a")))).toOption.isSome = true ∧
      EndsAlike .centralSettingsError
        (loadCentralSettings standardInterpreter (.ofSnapshot
          (serviceVariables (text "prod") (text "secret") (text "1:a"))))
        (loadCentralSettings standardInterpreter (.ofSnapshot
          (serviceVariables (text "prod") (text "rotated") (text "22:b")))) ∧
      (loadDeadmanSettings standardInterpreter splitProbeUrl (.ofSnapshot
        (switchVariables (text "1:a") (text "0")))).toOption.isSome = false ∧
      EndsAlike .deadManSettingsError
        (loadDeadmanSettings standardInterpreter splitProbeUrl (.ofSnapshot
          (switchVariables (text "1:a") (text "0"))))
        (loadDeadmanSettings standardInterpreter splitProbeUrl (.ofSnapshot
          (switchVariables (text "22:b") (text "0")))) := by
  have central : centralView standardInterpreter (.ofSnapshot
        (serviceVariables (text "prod") (text "secret") (text "1:a"))) =
      centralView standardInterpreter (.ofSnapshot
        (serviceVariables (text "prod") (text "rotated") (text "22:b"))) := by
    have visible : publicVariables centralSecrets
          (serviceVariables (text "prod") (text "secret") (text "1:a")) =
        publicVariables centralSecrets
          (serviceVariables (text "prod") (text "rotated") (text "22:b")) :=
      publicVariables_congr (by decide +kernel) (by decide +kernel) (by decide +kernel)
    have nodeTokens : nodeTokensView standardInterpreter (some (.str
          (Json.render (.object [(text "prod", .str (text "secret"))])))) =
        nodeTokensView standardInterpreter (some (.str
          (Json.render (.object [(text "prod", .str (text "rotated"))])))) := by
      decide +kernel
    show some (CentralView.mk _ (nodeTokensView _ (some _)) .usable) = some (CentralView.mk _ _ .usable)
    rw [visible, nodeTokens]
    rfl
  have switched : deadManView (.ofSnapshot (switchVariables (text "1:a") (text "0"))) =
      deadManView (.ofSnapshot (switchVariables (text "22:b") (text "0"))) := by
    have visible : publicVariables deadManSecrets (switchVariables (text "1:a") (text "0")) =
        publicVariables deadManSecrets (switchVariables (text "22:b") (text "0")) :=
      publicVariables_congr (by decide +kernel) (by decide +kernel) (by decide +kernel)
    show some (DeadManView.mk _ .usable) = some (DeadManView.mk _ .usable)
    rw [visible]
  refine ⟨by decide +kernel, ?_, by decide +kernel, ?_⟩
  · exact (failures_are_public _ splitProbeUrl _ _).1 central
  · exact (failures_are_public _ _ _ _).2 switched

end Settings
end HermesSentinel
