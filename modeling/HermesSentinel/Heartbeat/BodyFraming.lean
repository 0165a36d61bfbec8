import HermesSentinel.Foundation.Digits
import HermesSentinel.Heartbeat.ProbeAgreement

namespace HermesSentinel
namespace Heartbeat

open Python
open Domain
open Foundation

/-!
# The framing of the body

The listener decides from the headers whether it reads a body, how much of it,
and whether the adapter is called at all.  `Framed` says what becomes of a
request and its stream, `BodyFramed` when; whatever becomes of it, the handler
emits one response.  A peer that speaks HTTP/0.9 is sent neither its status
line nor its headers.
-/

/-- What a peer of a version is sent of the head of a response. -/
def shown (version : PyStr) (head : List Sent) : List Sent :=
  if version = silentVersion then [] else head

theorem shown_append (version : PyStr) (first second : List Sent) :
    shown version (first ++ second) = shown version first ++ shown version second := by
  unfold shown
  split
  · rfl
  · rfl

/-- The program sends this head and this body, and does nothing else. -/
def Emits (program : Handler Unit) (head body : List Sent) : Prop :=
  forall handler, program handler = (.ok (), { handler with
    sent := handler.sent ++ (shown handler.requestVersion head ++ body) })

namespace Emits

theorem send (part : Sent) : Emits (send part) [part] [] := by
  intro handler
  rw [Heartbeat.send, Program.update, shown, List.append_nil]
  by_cases silent : handler.requestVersion = silentVersion
  · rw [if_pos silent, if_pos silent, List.append_nil]
  · rw [if_neg silent, if_neg silent]

theorem nothing : Emits (pure ()) [] [] := by
  intro handler
  rw [shown, ite_self, List.append_nil, List.append_nil]
  rfl

theorem writeBody (bytes : List Utf8.Byte) : Emits (writeBody bytes) [] [.body bytes] := by
  intro handler
  rw [shown, ite_self, List.nil_append]
  rfl

theorem andThen {first second : Handler Unit} {head rest body : List Sent}
    (left : Emits first head []) (right : Emits second rest body) :
    Emits (first >>= fun _ => second) (head ++ rest) body := by
  intro handler
  rw [Program.bind_returned (left handler), right, shown_append, List.append_nil,
    List.append_assoc, List.append_assoc]

theorem sendHeaders (headers : List (PyStr × PyStr)) :
    Emits (sendHeaders headers) (headers.map fun header => .header header.1 header.2) [] := by
  induction headers with
  | nil => exact nothing
  | cons header rest inductionHypothesis =>
      exact (send (.header header.1 header.2)).andThen inductionHypothesis

end Emits

/-- The head of one of the handler's own responses. -/
def ownHead (status : Nat) : List Sent :=
  [.statusLine status, .header (text "Content-Length") (text "0"),
    .header (text "Connection") (text "close"), .endOfHeaders]

/-- The length header that is added to the adapter's own headers. -/
def lengthHeader (response : HttpResponse) : List Sent :=
  if response.body ≠ [] then
    [.header (text "Content-Length") (decimal response.body.length)]
  else if (response.headers.any fun header => decide (lower header.1 = text "content-length")) = true
  then []
  else [.header (text "Content-Length") (text "0")]

/-- The head of a relayed response. -/
def relayedHead (response : HttpResponse) : List Sent :=
  .statusLine response.status ::
    ((response.headers.map fun header => .header header.1 header.2) ++
      (.header (text "Connection") (text "close") :: (lengthHeader response ++ [.endOfHeaders])))

def relayedBody (response : HttpResponse) : List Sent :=
  if response.body ≠ [] then [.body response.body] else []

/-- The handler after the one response of a request. -/
def HandlerState.answered (handler : HandlerState) (head body : List Sent) : HandlerState :=
  { handler with
    closeConnection := true
    sent := handler.sent ++ (shown handler.requestVersion head ++ body) }

theorem closeAfter_emits {program : Handler Unit} {head body : List Sent}
    (emits : Emits program head body) (handler : HandlerState) :
    (closeAfter >>= fun _ => program) handler = (.ok (), handler.answered head body) := by
  have closed : closeAfter handler = (.ok (), { handler with closeConnection := true }) := rfl
  rw [Program.bind_returned closed, emits, HandlerState.answered]

theorem emitOwnResponse_eq (status : Nat) (handler : HandlerState) :
    emitOwnResponse status handler = (.ok (), handler.answered (ownHead status) []) :=
  closeAfter_emits ((Emits.send _).andThen ((Emits.send _).andThen
    ((Emits.send _).andThen (Emits.send _)))) handler

theorem emitResponse_eq (response : HttpResponse) (handler : HandlerState) :
    emitResponse response handler =
      (.ok (), handler.answered (relayedHead response) (relayedBody response)) := by
  refine closeAfter_emits ((Emits.send _).andThen ((Emits.sendHeaders _).andThen
    ((Emits.send _).andThen ?_))) handler
  unfold lengthHeader relayedBody
  by_cases bodyless : response.body ≠ []
  · rw [if_pos bodyless, if_pos bodyless, if_pos bodyless]
    exact (Emits.send _).andThen ((Emits.send _).andThen (Emits.writeBody _))
  · rw [if_neg bodyless, if_neg bodyless, if_neg bodyless]
    refine Emits.andThen ?_ (Emits.send _)
    cases response.headers.any fun header => decide (lower header.1 = text "content-length") with
    | true => exact Emits.nothing
    | false => exact Emits.send _

/-- What a `Content-Length` header says between its blanks. -/
def lengthText (value : PyStr) : PyStr :=
  stripBy (fun c => decide (c = codePoint ' ' ∨ c = codePoint '\t')) value

/-- A text of one or more decimal digits. -/
def LengthGrammar (raw : PyStr) : Prop :=
  raw ≠ [] ∧ AllDigits raw

/-- The test of the source finds what is outside the grammar. -/
theorem foreign_iff {raw : PyStr} :
    (raw = [] ∨ raw.any (fun c => !isDigit c) = true) ↔ ¬ LengthGrammar raw := by
  constructor
  · rintro (empty | other) ⟨nonempty, digits⟩
    · exact nonempty empty
    · rcases List.any_eq_true.mp other with ⟨c, member, notDigit⟩
      rw [digits c member] at notDigit
      cases notDigit
  · intro other
    by_contra neither
    apply other
    refine ⟨fun empty => neither (.inl empty), ?_⟩
    intro c member
    by_contra notDigit
    apply neither
    right
    apply List.any_eq_true.mpr
    exact ⟨c, member, by rw [Bool.eq_false_of_not_eq_true notDigit]; rfl⟩

theorem lengthGrammar_of_passed {raw : PyStr}
    (passed : ¬ (raw = [] ∨ raw.any (fun c => !isDigit c) = true)) : LengthGrammar raw := by
  by_contra other
  exact passed (foreign_iff.mpr other)

/-- The lengths a request can declare, and the statuses that refuse the others. -/
inductive DeclaredLength (headers : List (PyStr × PyStr)) : Except Nat (Option Nat) -> Prop
  | absent (missing : getAll headers "Content-Length" = []) : DeclaredLength headers (.ok none)
  | duplicated (first second : PyStr) (rest : List PyStr)
      (several : getAll headers "Content-Length" = first :: second :: rest) :
      DeclaredLength headers (.error 400)
  | malformed (value : PyStr) (single : getAll headers "Content-Length" = [value])
      (foreign : ¬ LengthGrammar (lengthText value)) : DeclaredLength headers (.error 400)
  | tooLarge (value : PyStr) (single : getAll headers "Content-Length" = [value])
      (spelled : LengthGrammar (lengthText value))
      (large : maxHeartbeatBodyBytes < decimalValue (lengthText value)) :
      DeclaredLength headers (.error 413)
  | declared (value : PyStr) (single : getAll headers "Content-Length" = [value])
      (spelled : LengthGrammar (lengthText value))
      (fits : decimalValue (lengthText value) ≤ maxHeartbeatBodyBytes) :
      DeclaredLength headers (.ok (some (decimalValue (lengthText value))))

theorem maxText_eq : decimal maxHeartbeatBodyBytes = text "16384" := by
  decide +kernel

/-- The comparison of texts compares the numbers. -/
theorem declaredLengthStatus_eq {raw : PyStr} (digits : AllDigits raw) :
    declaredLengthStatus raw = if maxHeartbeatBodyBytes < decimalValue raw then some 413 else none := by
  have limitValue : decimalValue (text "16384") = maxHeartbeatBodyBytes := by decide
  have limitDigits : AllDigits (text "16384") := by
    intro c member
    exact List.all_eq_true.mp (show (text "16384").all isDigit = true by decide) c member
  have value := decimalValue_dropZeros raw
  unfold declaredLengthStatus
  rw [maxText_eq]
  dsimp only
  cases shape : raw.dropWhile fun c => decide (c = codePoint '0') with
  | nil =>
      rw [shape] at value
      rw [<- value, if_pos rfl, if_neg (by decide)]
  | cons c rest =>
      have significant : AllDigits (c :: rest) := shape ▸ digits.dropWhile _
      have notZero : c ≠ digit 0 := by
        have head := List.head?_dropWhile_not (fun c => decide (c = codePoint '0')) raw
        rw [shape] at head
        have different : ¬ c = codePoint '0' := by simpa using head
        exact different
      have least : 10 ^ rest.length ≤ decimalValue (c :: rest) :=
        le_decimalValue (significant c List.mem_cons_self) notZero
      have most := decimalValue_lt significant
      rw [if_neg (List.cons_ne_nil c rest), <- value, shape]
      congr 1
      apply propext
      have five : (text "16384").length = 5 := rfl
      rw [five]
      constructor
      · rintro (longer | ⟨same, greater⟩)
        · rw [List.length_cons] at longer
          calc maxHeartbeatBodyBytes < 10 ^ 5 := by decide
            _ ≤ 10 ^ rest.length := Nat.pow_le_pow_right (by decide) (by omega)
            _ ≤ decimalValue (c :: rest) := least
        · rw [<- limitValue]
          exact (lt_iff_decimalValue_lt limitDigits significant (five.trans same.symm)).mp greater
      · intro large
        rcases Nat.lt_trichotomy 5 (c :: rest).length with longer | same | shorter
        · exact .inl longer
        · refine .inr ⟨same.symm, ?_⟩
          rw [<- limitValue] at large
          exact (lt_iff_decimalValue_lt limitDigits significant same).mpr large
        · have bound : 10 ^ (c :: rest).length ≤ 10 ^ 4 :=
            Nat.pow_le_pow_right (by decide) (by omega)
          have small : decimalValue (c :: rest) < 10 ^ 4 := Nat.lt_of_lt_of_le most bound
          unfold maxHeartbeatBodyBytes at large
          omega

theorem contentLengthOrNone_declared (headers : List (PyStr × PyStr)) :
    DeclaredLength headers (contentLengthOrNone headers) := by
  unfold contentLengthOrNone
  split
  · rename_i none
    exact .absent none
  · rename_i value single
    dsimp only
    have same : stripBy (fun c => decide (c = codePoint ' ' ∨ c = codePoint '\t')) value =
        lengthText value := rfl
    rw [same]
    by_cases foreign : lengthText value = [] ∨ (lengthText value).any (fun c => !isDigit c) = true
    · rw [if_pos foreign]
      exact .malformed value single (foreign_iff.mp foreign)
    · rw [if_neg foreign]
      have spelled := lengthGrammar_of_passed foreign
      rw [declaredLengthStatus_eq spelled.2]
      by_cases large : maxHeartbeatBodyBytes < decimalValue (lengthText value)
      · rw [if_pos large]
        exact .tooLarge value single spelled large
      · rw [if_neg large, decimalValue_dropZeros]
        exact .declared value single spelled (Nat.le_of_not_lt large)
  · rename_i several single
    cases values : getAll headers "Content-Length" with
    | nil => exact absurd values several
    | cons first rest =>
        cases rest with
        | nil => exact absurd values (single first)
        | cons second rest => exact .duplicated first second rest values

/-! ## What becomes of the stream -/

/-- What becomes of a request and of the bytes that can be read: the adapter is
called with a body, or the request is refused. -/
inductive Framed
  | called (body rest : List Utf8.Byte)
  | refused (status : Nat) (rest : List Utf8.Byte)

/-- When a request is framed in which way. -/
inductive BodyFramed (request : ParsedRequest) (stream : List Utf8.Byte) : Framed -> Prop
  | elsewhere (other : ¬ (request.command = heartbeatMethod ∧ request.path = heartbeatPath)) :
      BodyFramed request stream (.called [] stream)
  | expectation (post : request.command = heartbeatMethod ∧ request.path = heartbeatPath)
      (expects : getAll request.headers "Expect" ≠ []) :
      BodyFramed request stream (.refused 417 stream)
  | transferEncoding (post : request.command = heartbeatMethod ∧ request.path = heartbeatPath)
      (expectsNothing : getAll request.headers "Expect" = [])
      (encoded : getAll request.headers "Transfer-Encoding" ≠ []) :
      BodyFramed request stream (.refused 400 stream)
  | lengthMissing (post : request.command = heartbeatMethod ∧ request.path = heartbeatPath)
      (expectsNothing : getAll request.headers "Expect" = [])
      (identity : getAll request.headers "Transfer-Encoding" = [])
      (missing : contentLengthOrNone request.headers = .ok none) :
      BodyFramed request stream (.refused 411 stream)
  | lengthRefused (post : request.command = heartbeatMethod ∧ request.path = heartbeatPath)
      (expectsNothing : getAll request.headers "Expect" = [])
      (identity : getAll request.headers "Transfer-Encoding" = []) (status : Nat)
      (invalid : contentLengthOrNone request.headers = .error status) :
      BodyFramed request stream (.refused status stream)
  | short (post : request.command = heartbeatMethod ∧ request.path = heartbeatPath)
      (expectsNothing : getAll request.headers "Expect" = [])
      (identity : getAll request.headers "Transfer-Encoding" = []) (length : Nat)
      (declared : contentLengthOrNone request.headers = .ok (some length))
      (few : stream.length < length) : BodyFramed request stream (.refused 400 [])
  | whole (post : request.command = heartbeatMethod ∧ request.path = heartbeatPath)
      (expectsNothing : getAll request.headers "Expect" = [])
      (identity : getAll request.headers "Transfer-Encoding" = []) (length : Nat)
      (declared : contentLengthOrNone request.headers = .ok (some length))
      (enough : length ≤ stream.length) :
      BodyFramed request stream (.called (stream.take length) (stream.drop length))

/-- How the handler ends: one call of the adapter at most, and one response. -/
def Framed.conclude (adapter : HeartbeatHttpAdapter) (storage : Fallible Unit)
    (request : ParsedRequest) (handler : HandlerState) : Framed -> Except Raised Unit × HandlerState
  | .refused status rest =>
      (.ok (), { handler with received := rest }.answered (ownHead status) [])
  | .called body rest =>
      match adapter.handle storage (request.toHttpRequest body) handler.ingestion with
      | (.ok response, after) =>
          (.ok (), { handler with received := rest, ingestion := after }.answered
            (relayedHead response) (relayedBody response))
      | (.error e, after) =>
          if e.kind.isException = true then
            (.ok (), { handler with received := rest, ingestion := after }.answered (ownHead 500) [])
          else (.error e, { handler with received := rest, ingestion := after })

theorem isHeartbeatPost_iff (request : ParsedRequest) :
    isHeartbeatPost request = true ↔
      request.command = heartbeatMethod ∧ request.path = heartbeatPath :=
  decide_eq_true_iff

theorem bodyFramed_total (request : ParsedRequest) (stream : List Utf8.Byte) :
    exists framed, BodyFramed request stream framed := by
  by_cases post : request.command = heartbeatMethod ∧ request.path = heartbeatPath
  · by_cases expects : getAll request.headers "Expect" = []
    · by_cases encoded : getAll request.headers "Transfer-Encoding" = []
      · cases declared : contentLengthOrNone request.headers with
        | error status => exact ⟨_, .lengthRefused post expects encoded status declared⟩
        | ok found =>
            cases found with
            | none => exact ⟨_, .lengthMissing post expects encoded declared⟩
            | some length =>
                rcases Nat.lt_or_ge stream.length length with few | enough
                · exact ⟨_, .short post expects encoded length declared few⟩
                · exact ⟨_, .whole post expects encoded length declared enough⟩
      · exact ⟨_, .transferEncoding post expects encoded⟩
    · exact ⟨_, .expectation post expects⟩
  · exact ⟨_, .elsewhere post⟩

/-- What the body is resolved to. -/
def Framed.body : Framed -> Except Nat (List Utf8.Byte) × List Utf8.Byte
  | .called body rest => (.ok body, rest)
  | .refused status rest => (.error status, rest)

/-- The reading of a declared body. -/
def readWhole (length : Nat) : Handler (Except Nat (List Utf8.Byte)) := do
  let body ← readBody none length
  if body.length ≠ length then pure (.error 400) else pure (.ok body)

theorem readWhole_short {length : Nat} {handler : HandlerState}
    (few : handler.received.length < length) :
    readWhole length handler = (.ok (.error 400), { handler with received := [] }) := by
  have readFirst : readBody none length handler =
      (.ok handler.received, { handler with received := [] }) := by
    rw [<- List.take_of_length_le (Nat.le_of_lt few), <- List.drop_of_length_le (Nat.le_of_lt few)]
    rfl
  rw [readWhole, Program.bind_returned readFirst, if_pos (Nat.ne_of_lt few)]
  rfl

theorem readWhole_enough {length : Nat} {handler : HandlerState}
    (enough : length ≤ handler.received.length) :
    readWhole length handler = (.ok (.ok (handler.received.take length)),
      { handler with received := handler.received.drop length }) := by
  have readFirst : readBody none length handler = (.ok (handler.received.take length),
      { handler with received := handler.received.drop length }) := rfl
  have measured : (handler.received.take length).length = length := by
    rw [List.length_take, Nat.min_eq_left enough]
  rw [readWhole, Program.bind_returned readFirst, if_neg (not_not.mpr measured)]
  rfl

theorem resolveBody_eq {request : ParsedRequest} {handler : HandlerState} {framed : Framed}
    (is : BodyFramed request handler.received framed) :
    resolveBody none request handler =
      (.ok framed.body.1, { handler with received := framed.body.2 }) := by
  cases is with
  | elsewhere other =>
      have notPost : isHeartbeatPost request = false :=
        Bool.eq_false_of_not_eq_true fun post => other ((isHeartbeatPost_iff request).mp post)
      rw [resolveBody, notPost]
      rfl
  | expectation post expects =>
      rw [resolveBody, (isHeartbeatPost_iff request).mpr post, framing, if_pos expects]
      rfl
  | transferEncoding post expectsNothing encoded =>
      rw [resolveBody, (isHeartbeatPost_iff request).mpr post, framing,
        if_neg (not_not.mpr expectsNothing), if_pos encoded]
      rfl
  | lengthMissing post expectsNothing identity missing =>
      rw [resolveBody, (isHeartbeatPost_iff request).mpr post, framing,
        if_neg (not_not.mpr expectsNothing), if_neg (not_not.mpr identity), missing]
      rfl
  | lengthRefused post expectsNothing identity status invalid =>
      rw [resolveBody, (isHeartbeatPost_iff request).mpr post, framing,
        if_neg (not_not.mpr expectsNothing), if_neg (not_not.mpr identity), invalid]
      rfl
  | short post expectsNothing identity length declared few =>
      rw [resolveBody, (isHeartbeatPost_iff request).mpr post, framing,
        if_neg (not_not.mpr expectsNothing), if_neg (not_not.mpr identity), declared]
      cases length with
      | zero => exact absurd few (Nat.not_lt_zero _)
      | succ length => exact readWhole_short few
  | whole post expectsNothing identity length declared enough =>
      rw [resolveBody, (isHeartbeatPost_iff request).mpr post, framing,
        if_neg (not_not.mpr expectsNothing), if_neg (not_not.mpr identity), declared]
      cases length with
      | zero => rfl
      | succ length => exact readWhole_enough enough

theorem callAdapter_eq (adapter : HeartbeatHttpAdapter) (storage : Fallible Unit)
    (request : HttpRequest) (handler : HandlerState) :
    callAdapter adapter storage request handler =
      match adapter.handle storage request handler.ingestion with
      | (.ok response, after) => (.ok (some response), { handler with ingestion := after })
      | (.error e, after) =>
          if e.kind.isException = true then (.ok none, { handler with ingestion := after })
          else (.error e, { handler with ingestion := after }) := by
  unfold callAdapter Program.handle Program.zoom
  simp only [bind, pure, Program.bind, Program.pure]
  rcases adapter.handle storage request handler.ingestion with ⟨e | response, after⟩
  · dsimp only
    by_cases isException : e.kind.isException = true
    · rw [if_pos isException, if_pos isException]
      rfl
    · rw [if_neg isException, if_neg isException]
  · rfl

/-- A dispatched request ends as it is framed. -/
theorem dispatch_eq (adapter : HeartbeatHttpAdapter) (storage : Fallible Unit)
    {request : ParsedRequest} {handler : HandlerState} {framed : Framed}
    (is : BodyFramed request handler.received framed) :
    Listener.dispatch ⟨adapter, storage, none⟩ request handler =
      framed.conclude adapter storage request handler := by
  have resolved := resolveBody_eq is
  unfold Listener.dispatch
  rw [Program.bind_returned resolved]
  cases framed with
  | refused status rest => exact emitOwnResponse_eq status _
  | called body rest =>
      dsimp only [Framed.body, Framed.conclude]
      show Program.bind (callAdapter adapter storage (request.toHttpRequest body)) _ _ = _
      rw [Program.bind, callAdapter_eq]
      rcases adapter.handle storage (request.toHttpRequest body) handler.ingestion with
        ⟨e | response, after⟩
      · dsimp only
        by_cases isException : e.kind.isException = true
        · rw [if_pos isException, if_pos isException]
          exact emitOwnResponse_eq 500 _
        · rw [if_neg isException, if_neg isException]
      · exact emitResponse_eq response _

/-- So does a request whose expectation the parser already refuses. -/
theorem handleOneRequest_eq (adapter : HeartbeatHttpAdapter) (storage : Fallible Unit)
    {request : ParsedRequest} {handler : HandlerState} {framed : Framed}
    (is : BodyFramed request handler.received framed) :
    Listener.handleOneRequest ⟨adapter, storage, none⟩ (.parsed request) handler =
      framed.conclude adapter storage request
        { handler with requestVersion := request.requestVersion } := by
  have versioned : Program.update (fun handler : HandlerState =>
      { handler with requestVersion := request.requestVersion }) handler =
      ((.ok () : Except Raised Unit),
        { handler with requestVersion := request.requestVersion }) := rfl
  have dispatched := @dispatch_eq adapter storage request
    { handler with requestVersion := request.requestVersion } framed is
  unfold Listener.handleOneRequest
  dsimp only
  rw [Program.bind_returned versioned, Listener.checkExpectation]
  by_cases expects : Listener.expectsContinue request = true
  · rw [if_pos expects, Listener.handleExpect100]
    have present : getAll request.headers "Expect" ≠ [] := by
      intro missing
      have expectation := (of_decide_eq_true expects).1
      rw [missing] at expectation
      revert expectation
      decide
    by_cases post : isHeartbeatPost request = true
    · rw [if_pos post]
      have refused : framed = .refused 417 handler.received := by
        cases is with
        | elsewhere other => exact absurd ((isHeartbeatPost_iff request).mp post) other
        | expectation _ _ => rfl
        | transferEncoding _ expectsNothing _ => exact absurd expectsNothing present
        | lengthMissing _ expectsNothing _ _ => exact absurd expectsNothing present
        | lengthRefused _ expectsNothing _ _ _ => exact absurd expectsNothing present
        | short _ expectsNothing _ _ _ _ => exact absurd expectsNothing present
        | whole _ expectsNothing _ _ _ _ => exact absurd expectsNothing present
      have emitted : (do
          emitOwnResponse 417
          pure false : Handler Bool) { handler with requestVersion := request.requestVersion } =
            (.ok false, ({ handler with requestVersion := request.requestVersion } :
              HandlerState).answered (ownHead 417) []) := by
        rw [Program.bind_returned (emitOwnResponse_eq 417 _)]
        rfl
      rw [Program.bind_returned emitted, refused]
      rfl
    · rw [if_neg post]
      exact dispatched
  · rw [if_neg expects]
    exact dispatched

/-! ## The contract -/

theorem Framed.body_injective {first second : Framed} (same : first.body = second.body) :
    first = second := by
  cases first with
  | called body rest =>
      cases second with
      | called body' rest' =>
          cases same
          rfl
      | refused status rest' => cases same
  | refused status rest =>
      cases second with
      | called body rest' => cases same
      | refused status' rest' =>
          cases same
          rfl

/-- A request and its stream are framed in one way. -/
theorem bodyFramed_unique {request : ParsedRequest} {handler : HandlerState} {framed other : Framed}
    (is : BodyFramed request handler.received framed)
    (alsoIs : BodyFramed request handler.received other) : other = framed := by
  have same := (resolveBody_eq alsoIs).symm.trans (resolveBody_eq is)
  rw [Prod.mk.injEq, Except.ok.injEq, HandlerState.mk.injEq] at same
  exact Framed.body_injective (Prod.ext same.1 same.2.2.1)

def isStatusLine : Sent -> Bool
  | .statusLine _ => true
  | _ => false

/-- One response: a status line and no second one, or the bare body that a
peer without status lines gets. -/
def OneResponse (version : PyStr) (parts : List Sent) : Prop :=
  if version = silentVersion then forall part, part ∈ parts -> exists bytes, part = .body bytes
  else exists status rest, parts = .statusLine status :: rest ∧
    forall part, part ∈ rest -> isStatusLine part = false

theorem oneResponse_own (version : PyStr) (status : Nat) :
    OneResponse version (shown version (ownHead status) ++ []) := by
  unfold OneResponse shown
  by_cases silent : version = silentVersion
  · rw [if_pos silent, if_pos silent]
    intro part impossible
    cases impossible
  · rw [if_neg silent, if_neg silent]
    refine ⟨status, _, rfl, ?_⟩
    intro part member
    have heads := List.all_eq_true.mp (show ([.header (text "Content-Length") (text "0"),
      .header (text "Connection") (text "close"), .endOfHeaders] : List Sent).all
        (fun part => !isStatusLine part) = true from rfl) part (by simpa using member)
    simpa using heads

theorem oneResponse_relayed (version : PyStr) (response : HttpResponse) :
    OneResponse version (shown version (relayedHead response) ++ relayedBody response) := by
  have body : forall part, part ∈ relayedBody response -> exists bytes, part = .body bytes := by
    intro part member
    unfold relayedBody at member
    split at member
    · exact ⟨_, List.mem_singleton.mp member⟩
    · cases member
  have measured : forall part, part ∈ lengthHeader response -> isStatusLine part = false := by
    intro part member
    unfold lengthHeader at member
    split at member
    · rw [List.mem_singleton.mp member]
      rfl
    · split at member
      · cases member
      · rw [List.mem_singleton.mp member]
        rfl
  unfold OneResponse shown
  by_cases silent : version = silentVersion
  · rw [if_pos silent, if_pos silent]
    exact body
  · rw [if_neg silent, if_neg silent]
    refine ⟨response.status, _, rfl, ?_⟩
    intro part member
    rcases List.mem_append.mp member with inHead | inBody
    · rcases List.mem_append.mp inHead with header | later
      · rcases List.mem_map.mp header with ⟨_, _, rfl⟩
        rfl
      · rcases List.mem_cons.mp later with connection | later
        · rw [connection]
          rfl
        · rcases List.mem_append.mp later with length | ending
          · exact measured part length
          · rw [List.mem_singleton.mp ending]
            rfl
    · rcases body part inBody with ⟨bytes, rfl⟩
      rfl

theorem Framed.oneResponse {adapter : HeartbeatHttpAdapter} {storage : Fallible Unit}
    {request : ParsedRequest} {handler : HandlerState} (framed : Framed)
    (returned : (framed.conclude adapter storage request handler).1 = .ok ()) :
    exists parts, (framed.conclude adapter storage request handler).2.sent = handler.sent ++ parts ∧
      OneResponse handler.requestVersion parts := by
  cases framed with
  | refused status rest => exact ⟨_, rfl, oneResponse_own _ status⟩
  | called body rest =>
      revert returned
      rw [Framed.conclude]
      rcases adapter.handle storage (request.toHttpRequest body) handler.ingestion with
        ⟨e | response, after⟩
      · intro returned
        dsimp only at returned ⊢
        by_cases isException : e.kind.isException = true
        · rw [if_pos isException]
          exact ⟨_, rfl, oneResponse_own _ 500⟩
        · rw [if_neg isException] at returned
          cases returned
      · intro _
        exact ⟨_, rfl, oneResponse_relayed _ response⟩

/-- Every parsed request is framed in one of the ways and ends accordingly, and
a handler that returns has emitted one response. -/
theorem body_framing (adapter : HeartbeatHttpAdapter) (storage : Fallible Unit)
    (request : ParsedRequest) (handler : HandlerState) :
    exists framed, BodyFramed request handler.received framed ∧
      (forall other, BodyFramed request handler.received other -> other = framed) ∧
      DeclaredLength request.headers (contentLengthOrNone request.headers) ∧
      Listener.handleOneRequest ⟨adapter, storage, none⟩ (.parsed request) handler =
        framed.conclude adapter storage request
          { handler with requestVersion := request.requestVersion } ∧
      ((Listener.handleOneRequest ⟨adapter, storage, none⟩ (.parsed request) handler).1 = .ok () ->
        exists parts, (Listener.handleOneRequest ⟨adapter, storage, none⟩ (.parsed request)
            handler).2.sent = handler.sent ++ parts ∧
          OneResponse request.requestVersion parts) := by
  rcases bodyFramed_total request handler.received with ⟨framed, is⟩
  refine ⟨framed, is, fun other alsoIs => bodyFramed_unique is alsoIs,
    contentLengthOrNone_declared request.headers, handleOneRequest_eq adapter storage is, ?_⟩
  rw [handleOneRequest_eq adapter storage is]
  exact framed.oneResponse

/-- `POST /v1/heartbeat` in HTTP/0.9, without a length. -/
def simplePost : ParsedRequest where
  command := text "POST"
  path := text "/v1/heartbeat"
  requestVersion := text "HTTP/0.9"
  headers := []

/-- It is refused with 411, but no status is sent. -/
theorem simplePost_silent :
    BodyFramed simplePost [] (.refused 411 []) ∧
      (serve quietListener (.parsed simplePost) [] ⟨Database.empty, 0⟩).2.sent = [] := by
  have is : BodyFramed simplePost [] (.refused 411 []) := .lengthMissing ⟨rfl, rfl⟩ rfl rfl rfl
  refine ⟨is, ?_⟩
  have ended := @handleOneRequest_eq quietListener.adapter quietListener.storage simplePost
    (HandlerState.fresh [] ⟨Database.empty, 0⟩) _ is
  exact congrArg (fun run => run.2.sent) ended

end Heartbeat
end HermesSentinel
