import HermesSentinel.Foundation.Twin
import HermesSentinel.Reporter.Contract
import HermesSentinel.Reporter.Delivery

namespace HermesSentinel
namespace Reporter

open Foundation
open Foundation.Decimal
open Heartbeat

/-!
# The token goes nowhere but to the header of the request

Two runs of the reporter are compared whose environments differ in the token.
Their endings, their diagnostics, what xtrace shows of them and what their
children inherit are the same; only what `curl` reads from its standard input
differs.  The world behind `curl` may keep the token, but is not to answer by it,
and the local variable `token` must not be exported.
-/

variable {Remote : Type}

/-- Calls that differ in nothing but the header read from the standard input. -/
def SameButStdin (call call' : CurlCall) : Prop :=
  call' = { call with stdin := call'.stdin }

def Indistinct : ShellEvent -> ShellEvent -> Prop
  | .called call, .called call' => SameButStdin call call'
  | event, event' => event = event'

/-- Both texts are accepted as tokens, or neither. -/
def AcceptedAlike (token token' : Text) : Prop :=
  validateReporterToken token = validateReporterToken token'

structure SameButToken (environment environment' : Variables) : Prop where
  rest : withoutToken environment = withoutToken environment'
  accepted : AcceptedAlike (environment "SENTINEL_TOKEN") ( environment' "SENTINEL_TOKEN")

/-- A `curl` that answers alike whatever the token is, from worlds that are alike. -/
def Unnoticing (station : Station Remote) (remotes : Remote -> Remote -> Prop) : Prop :=
  forall call call' remote remote', SameButStdin call call' -> remotes remote remote' ->
    (station.curl call remote).1 = (station.curl call' remote').1 ∧
      remotes (station.curl call remote).2 (station.curl call' remote').2

/-- What an observer of two runs sees. -/
structure Undistinguished (remotes : Remote -> Remote -> Prop) (w w' : Shell Remote) : Prop where
  xtrace : w.xtrace = w'.xtrace
  events : List.Forall₂ Indistinct w.events w'.events
  remote : remotes w.remote w'.remote

/-- Two runs at one point, with these exported names, this xtrace and
environments related like this. -/
structure Veiled (exported : String -> Bool) (environments : Variables -> Variables -> Prop)
    (remotes : Remote -> Remote -> Prop) (xtrace : Bool) (w w' : Shell Remote) : Prop where
  exported : w.exported = exported ∧ w'.exported = exported
  xtrace : w.xtrace = xtrace ∧ w'.xtrace = xtrace
  environment : environments w.environment w'.environment
  events : List.Forall₂ Indistinct w.events w'.events
  remote : remotes w.remote w'.remote

section Parts

variable {station : Station Remote} {exported : String -> Bool}
variable {environments : Variables -> Variables -> Prop}
variable {remotes : Remote -> Remote -> Prop} {xtrace : Bool} {w w' : Shell Remote}

theorem Indistinct.refl (event : ShellEvent) : Indistinct event event := by
  cases event <;> rfl

theorem SameButToken.get {environment environment' : Variables}
    (same : SameButToken environment environment') {name : String} (other : name ≠ "SENTINEL_TOKEN") :
    environment name = environment' name := by
  have pointwise := congrFun same.rest name
  unfold withoutToken at pointwise
  rwa [if_neg other, if_neg other] at pointwise

theorem Veiled.undistinguished (veiled : Veiled exported environments remotes xtrace w w') :
    Undistinguished remotes w w' :=
  ⟨veiled.xtrace.1.trans veiled.xtrace.2.symm, veiled.events, veiled.remote⟩

theorem note_veiled {event event' : ShellEvent} (same : Indistinct event event') :
    Program.Twin (Veiled exported environments remotes xtrace) (note event) (note event')
      (fun _ _ => True) :=
  .update fun _ _ veiled =>
    ⟨veiled.exported, veiled.xtrace, veiled.environment,
      List.rel_append veiled.events (.cons same .nil), veiled.remote⟩

theorem traced_veiled (command : String) (expansions : List Text) :
    Program.Twin (Veiled exported environments remotes xtrace) (traced command expansions)
      (traced command expansions) (fun _ _ => True) := by
  refine .bind .read fun v v' veiled => ?_
  rw [veiled.xtrace.1, veiled.xtrace.2]
  exact .onlyIf xtrace (note_veiled (.refl _))

/-- Without xtrace it does not matter what a command is expanded to. -/
theorem traced_hidden (command : String) (expansions expansions' : List Text) :
    Program.Twin (Veiled exported environments remotes false) (traced command expansions)
      (traced command expansions') (fun _ _ => True) := by
  refine .bind .read fun v v' veiled => ?_
  rw [veiled.xtrace.1, veiled.xtrace.2]
  exact .pure trivial

theorem fail_veiled {α : Type} (message : String) :
    Program.Twin (Veiled exported environments remotes xtrace) (fail message : Script Remote α) (fail message)
      Eq :=
  .bind (traced_veiled _ _) fun _ _ _ => .bind (note_veiled (.refl _)) fun _ _ _ => .interrupt 1

theorem orElseFail_hidden (command : String) (expansions expansions' : List Text) (accepted : Bool)
    (message : String) :
    Program.Twin (Veiled exported environments remotes false) (orElseFail command expansions accepted message)
      (orElseFail command expansions' accepted message) Eq := by
  refine .bind (traced_hidden _ _ _) fun _ _ _ => ?_
  cases accepted with
  | false => exact fail_veiled message
  | true => exact .pure rfl

/-- Environments that are related stay so under the same assignments. -/
def Assignable (exported : String -> Bool) (environments : Variables -> Variables -> Prop) : Prop :=
  forall name value environment environment', name ≠ "SENTINEL_TOKEN" ->
    environments environment environment' ->
    environments (assigned exported name value environment) (assigned exported name value environment')

theorem assignable_eq : Assignable exported Eq :=
  fun name value _ _ _ same => congrArg (assigned exported name value) same

theorem withoutToken_assigned {environment environment' : Variables}
    (rest : withoutToken environment = withoutToken environment') (name : String) (value : Text) :
    withoutToken (assigned exported name value environment) =
      withoutToken (assigned exported name value environment') := by
  funext other
  have pointwise := congrFun rest other
  unfold withoutToken at pointwise ⊢
  by_cases own : other = "SENTINEL_TOKEN"
  · rw [if_pos own, if_pos own]
  · rw [if_neg own, if_neg own] at pointwise ⊢
    unfold assigned
    split
    · by_cases here : other = name
      · exact (if_pos here).trans (if_pos here).symm
      · rw [set_other here, set_other here, pointwise]
    · exact pointwise

theorem assignable_sameButToken : Assignable exported SameButToken := by
  intro name value environment environment' different same
  refine ⟨withoutToken_assigned same.rest name value, ?_⟩
  rw [assigned_other (Ne.symm different), assigned_other (Ne.symm different)]
  exact same.accepted

theorem assign_veiled (assignable : Assignable exported environments) {name : String}
    (different : name ≠ "SENTINEL_TOKEN") (value : Text) :
    Program.Twin (Veiled exported environments remotes xtrace) (assign name value)
      (assign name value) (fun _ _ => True) := by
  refine .bind (traced_veiled _ _) fun _ _ _ => .update fun w w' veiled => ?_
  refine ⟨veiled.exported, veiled.xtrace, ?_, veiled.events, veiled.remote⟩
  rw [veiled.exported.1, veiled.exported.2]
  exact assignable name value _ _ different veiled.environment

/-- An assignment that does not reach the environment, while nothing is shown. -/
theorem assign_hidden {name : String} (unexported : exported name = false) (value value' : Text) :
    Program.Twin (Veiled exported environments remotes false) (assign name value)
      (assign name value') (fun _ _ => True) := by
  refine .bind (traced_hidden _ _ _) fun _ _ _ => .update fun w w' veiled => ?_
  refine ⟨veiled.exported, veiled.xtrace, ?_, veiled.events, veiled.remote⟩
  rw [veiled.exported.1, veiled.exported.2, assigned_unexported unexported,
    assigned_unexported unexported]
  exact veiled.environment

theorem readEndpoint_hidden :
    Program.Twin (Veiled exported SameButToken remotes false)
      (readVariable "endpoint" "SENTINEL_ENDPOINT" : Script Remote Text)
      (readVariable "endpoint" "SENTINEL_ENDPOINT") Eq := by
  refine .bind .read fun v v' veiled => ?_
  rw [veiled.environment.get (by decide)]
  exact .bind (assign_veiled assignable_sameButToken (by decide) _) fun _ _ _ => .pure rfl

theorem readToken_hidden (unexported : exported "token" = false) :
    Program.Twin (Veiled exported SameButToken remotes false)
      (readVariable "token" "SENTINEL_TOKEN" : Script Remote Text)
      (readVariable "token" "SENTINEL_TOKEN") AcceptedAlike :=
  .bind .read fun _ _ veiled => .bind (assign_hidden unexported _ _) fun _ _ _ =>
    .pure veiled.environment.accepted

/-- Without the token the collector finds one host. -/
theorem collect_hidden :
    Program.Twin (Veiled exported Eq remotes false) (collect station) (collect station) Eq := by
  refine .bind .read fun v v' veiled => ?_
  rw [veiled.environment]
  refine .bind (note_veiled (.refl _)) fun _ _ _ => ?_
  cases ({ station.host with environment := v'.environment } : MonitoredHost).collectPayload with
  | error message => exact fail_veiled _
  | ok output =>
      exact .bind (assign_veiled assignable_eq (by decide) _) fun _ _ _ => .pure rfl

/-- The token is on the standard input of the call, and nowhere else. -/
theorem sendHeartbeat_hidden (unnoticing : Unnoticing station remotes)
    (unexported : exported "token" = false) (endpoint payload token token' : Text) :
    Program.Twin (Veiled exported Eq remotes false) (sendHeartbeat station endpoint payload token)
      (sendHeartbeat station endpoint payload token') Eq := by
  refine .bind (traced_hidden _ _ _) fun _ _ _ =>
    .bind (assign_veiled assignable_eq (by decide) _) fun _ _ _ =>
    .bind (assign_veiled assignable_eq (by decide) _) fun _ _ _ =>
    .bind (assign_hidden unexported _ _) fun _ _ _ => .bind .read fun v v' veiled => ?_
  rw [veiled.environment]
  rcases unnoticing ⟨curlArguments endpoint payload, tokenLine token, v'.environment⟩
    ⟨curlArguments endpoint payload, tokenLine token', v'.environment⟩ v.remote v'.remote rfl
    veiled.remote with ⟨replies, remote⟩
  dsimp only
  rw [replies]
  refine .bind (.update fun w w' alike => ?_) fun _ _ _ => .bind (traced_veiled _ _) fun _ _ _ => .pure rfl
  exact ⟨alike.exported, alike.xtrace, alike.environment,
    List.rel_append alike.events (.cons rfl .nil), remote⟩

/-! ## A run -/

theorem restore_coupled (on : Bool) {aborted : Shell Remote -> Shell Remote -> Prop} :
    Program.Coupled (Veiled exported environments remotes false) (Program.onlyIf on (setXtrace true))
      (Program.onlyIf on (setXtrace true)) (fun _ _ => Veiled exported environments remotes on)
      aborted := by
  cases on with
  | false => exact .pure fun _ _ veiled => veiled
  | true =>
      exact .update fun _ _ veiled =>
        ⟨veiled.exported, ⟨rfl, rfl⟩, veiled.environment, veiled.events, veiled.remote⟩

theorem silence_coupled (assignable : Assignable exported environments) :
    Program.Coupled (Veiled exported environments remotes xtrace)
      (Program.onlyIf xtrace do
        assign "restore_xtrace" (text "1")
        traced "set +x" []
        setXtrace false)
      (Program.onlyIf xtrace do
        assign "restore_xtrace" (text "1")
        traced "set +x" []
        setXtrace false)
      (fun _ _ => Veiled exported environments remotes false) (Undistinguished remotes) := by
  cases xtrace with
  | false => exact .pure fun _ _ veiled => veiled
  | true =>
      refine .bind (.ofTwin (assign_veiled assignable (by decide) _) fun _ _ => Veiled.undistinguished)
        fun _ _ => .given fun _ =>
        .bind (.ofTwin (traced_veiled _ _) fun _ _ => Veiled.undistinguished) fun _ _ =>
        .given fun _ => .update fun _ _ veiled => ?_
      exact ⟨veiled.exported, ⟨rfl, rfl⟩, veiled.environment, veiled.events, veiled.remote⟩

/-- From the first secret on. -/
theorem report_hidden (unnoticing : Unnoticing station remotes)
    (unexported : exported "token" = false) (restoreXtrace : Bool) :
    Program.Coupled (Veiled exported SameButToken remotes false) (report station restoreXtrace)
      (report station restoreXtrace)
      (fun value value' w w' => value = value' ∧ Undistinguished remotes w w')
      (Undistinguished remotes) := by
  have seen : forall environments : Variables -> Variables -> Prop, forall xtrace w w',
      Veiled exported environments remotes xtrace w w' -> Undistinguished remotes w w' :=
    fun _ _ _ _ => Veiled.undistinguished
  refine .bind (.ofTwin readEndpoint_hidden (seen _ _)) fun endpoint endpoint' =>
    .given fun sameEndpoint => ?_
  subst sameEndpoint
  refine .bind (.ofTwin (orElseFail_hidden _ _ _ _ _) (seen _ _)) fun _ _ => .given fun _ => ?_
  refine .bind (.ofTwin (readToken_hidden unexported) (seen _ _)) fun token token' =>
    .given fun accepted => ?_
  rw [show validateReporterToken token = validateReporterToken token' from accepted]
  refine .bind (.ofTwin (orElseFail_hidden _ _ _ _ _) (seen _ _)) fun _ _ => .given fun _ => ?_
  refine .bind (.ofTwin (orElseFail_hidden _ _ _ _ _) (seen _ _)) fun _ _ => .given fun _ => ?_
  -- From here on the environments are the same.
  have unset : Program.Coupled (Veiled exported SameButToken remotes false)
      (unsetToken : Script Remote Unit)
      unsetToken (fun _ _ => Veiled exported Eq remotes false) (Undistinguished remotes) :=
    .bind (.ofTwin (traced_veiled _ _) (seen _ _)) fun _ _ => .given fun _ =>
      .update fun w w' veiled =>
        ⟨veiled.exported, veiled.xtrace, veiled.environment.rest, veiled.events, veiled.remote⟩
  refine .bind unset fun _ _ => ?_
  refine .bind (.ofTwin collect_hidden (seen _ _)) fun payload payload' => .given fun samePayload => ?_
  subst samePayload
  refine .bind (.ofTwin (orElseFail_hidden _ _ _ _ _) (seen _ _)) fun _ _ => .given fun _ => ?_
  refine .bind (.ofTwin (sendHeartbeat_hidden unnoticing unexported _ _ _ _) (seen _ _))
    fun delivered delivered' => .given fun sameDelivery => ?_
  subst sameDelivery
  refine .bind (.ofTwin (orElseFail_hidden _ _ _ _ _) (seen _ _)) fun _ _ => .given fun _ => ?_
  refine .bind (restore_coupled _) fun _ _ => ?_
  refine (Program.Coupled.ofTwin (traced_veiled _ _) (seen _ _)).mono ?_
  exact fun _ _ w w' ended => ⟨rfl, ended.2.undistinguished⟩

theorem main_veiled (unnoticing : Unnoticing station remotes)
    (unexported : exported "token" = false) :
    Program.Coupled (Veiled exported SameButToken remotes xtrace) (main station) (main station)
      (fun value value' w w' => value = value' ∧ Undistinguished remotes w w')
      (Undistinguished remotes) := by
  refine .bind (.ofTwin (assign_veiled assignable_sameButToken (by decide) _)
    fun _ _ => Veiled.undistinguished) fun _ _ => .given fun _ => ?_
  refine .bind (.ofTwin .read fun _ _ => Veiled.undistinguished) fun v v' => .given fun veiled => ?_
  rw [veiled.xtrace.1, veiled.xtrace.2]
  exact .bind (silence_coupled assignable_sameButToken) fun _ _ =>
    report_hidden unnoticing unexported xtrace

theorem prologue_veiled :
    Program.Twin (Veiled exported SameButToken remotes xtrace) (prologue : Script Remote Unit)
      prologue (fun _ _ => True) := by
  have located (w w' : Shell Remote) (veiled : Veiled exported SameButToken remotes xtrace w w') :
      SameButToken (w.environment.set "LC_ALL" (text "C")) ( w'.environment.set "LC_ALL" (text "C")) :=
    @assignable_sameButToken (fun _ => true) "LC_ALL" (text "C") _ _ (by decide) veiled.environment
  have constant {name : String} (different : name ≠ "SENTINEL_TOKEN") (value : Text) :=
    @assign_veiled Remote exported SameButToken remotes xtrace assignable_sameButToken name different
      value
  refine .bind (traced_veiled _ _) fun _ _ _ => .bind (traced_veiled _ _) fun _ _ _ =>
    .bind (.update fun w w' veiled => ?_) fun _ _ _ => .bind (constant (by decide) _) fun _ _ _ =>
    .bind (constant (by decide) _) fun _ _ _ => .bind (constant (by decide) _) fun _ _ _ =>
    constant (by decide) _
  exact ⟨veiled.exported, veiled.xtrace, located w w' veiled, veiled.events, veiled.remote⟩

theorem script_veiled (unnoticing : Unnoticing station remotes)
    (unexported : exported "token" = false) :
    Program.Coupled (Veiled exported SameButToken remotes xtrace) (script station) (script station)
      (fun value value' w w' => value = value' ∧ Undistinguished remotes w w')
      (Undistinguished remotes) :=
  .bind (.ofTwin prologue_veiled fun _ _ => Veiled.undistinguished) fun _ _ => .given fun _ =>
    main_veiled unnoticing unexported

end Parts

/-- Whatever a run shows, hands to its children or leaves behind, it is the same
for every token that is accepted alike, unless the local `token` is exported. -/
theorem reporter_token_stays_secret (station : Station Remote) {remotes : Remote -> Remote -> Prop}
    (unnoticing : Unnoticing station remotes) {start start' : Shell Remote}
    (alike : Undistinguished remotes start start')
    (exported : start.exported = start'.exported) (unexported : start.exported "token" = false)
    (rotated : SameButToken start.environment start'.environment) :
    (script station start).1 = (script station start').1 ∧
      Undistinguished remotes (script station start).2 (script station start').2 :=
  (script_veiled unnoticing unexported).ends
    ⟨⟨rfl, exported.symm⟩, ⟨rfl, alike.xtrace.symm⟩, rotated, alike.events, alike.remote⟩

/-- An endpoint that accepts everything and keeps the header it is sent. -/
def keepingStation : Station (List Text) where
  host := outpostHost
  curlAvailable := true
  curl := fun call kept => (⟨false, text "204"⟩, kept ++ [call.stdin])

def outpostEnvironment (token : String) : Variables := fun name =>
  if name = "SENTINEL_TOKEN" then text token
  else if name = "SENTINEL_ENDPOINT" then text "https://sentinel" else outpostHost.environment name

/-- The script is given three variables. -/
def outpostNames (name : String) : Bool :=
  decide (name ∈ ["SENTINEL_TOKEN", "SENTINEL_ENDPOINT", "SENTINEL_NODE"])

def tracedShell (token : String) : Shell (List Text) where
  environment := outpostEnvironment token
  exported := outpostNames
  xtrace := true
  events := []
  remote := []

set_option maxRecDepth 100000 in
/-- Both are delivered, and nothing but the headers tells them apart. -/
theorem reporter_token_stays_secret_traced :
    (script keepingStation (tracedShell "t")).2.remote = [text "X-Sentinel-Token: t
"] ∧
      (script keepingStation (tracedShell "u")).2.remote = [text "X-Sentinel-Token: u
"] ∧
      (script keepingStation (tracedShell "t")).1 = (script keepingStation (tracedShell "u")).1 ∧
      Undistinguished (fun _ _ => True) (script keepingStation (tracedShell "t")).2
        (script keepingStation (tracedShell "u")).2 := by
  have unnoticing : Unnoticing keepingStation (fun _ _ => True) := fun _ _ _ _ _ _ => ⟨rfl, trivial⟩
  have rest : withoutToken (tracedShell "t").environment =
      withoutToken (tracedShell "u").environment := by
    funext name
    unfold withoutToken
    by_cases own : name = "SENTINEL_TOKEN"
    · rw [if_pos own, if_pos own]
    · rw [if_neg own, if_neg own]
      exact (if_neg own).trans (if_neg own).symm
  refine ⟨by decide +kernel, by decide +kernel, ?_⟩
  exact reporter_token_stays_secret keepingStation unnoticing ⟨rfl, .nil, trivial⟩ rfl rfl
    ⟨rest, rfl⟩

end Reporter
end HermesSentinel
