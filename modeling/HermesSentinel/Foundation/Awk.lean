import HermesSentinel.Foundation.FixedPoint

namespace Foundation
namespace Awk

/-!
# Programs over records

A program of patterns and actions goes through the records of its input, the
lines, each split into fields at its blanks.  A rule maps the state to the next
one, or gives up, which is how a program ends that finds its input malformed.
What every accepted record preserves holds at the end.
-/

def newline : CodePoint :=
  codePoint '\n'

def isBlank (c : CodePoint) : Bool :=
  decide (c = codePoint ' ' ∨ c = codePoint '\t')

/-- The lines of a text; the last one need not be terminated. -/
def records (content : Text) : List Text :=
  let lines := content.splitOn newline
  if lines.getLast? = some [] then lines.dropLast else lines

def fields (record : Text) : List Text :=
  (record.splitOnP isBlank).filter fun word => !word.isEmpty

/-- `$n`, counted from one; a field that is not there is empty. -/
def field (record : List Text) (n : Nat) : Text :=
  record.getD (n - 1) []

section

variable {σ : Type}

/-- The rule over the records from number `n` on. -/
def scan (rule : Nat -> List Text -> σ -> Option σ) : Nat -> List Text -> σ -> Option σ
  | _, [], state => some state
  | n, record :: rest, state => (rule n (fields record) state).bind fun next => scan rule (n + 1) rest next

def run (rule : Nat -> List Text -> σ -> Option σ) (start : σ) (content : Text) : Option σ :=
  scan rule 1 (records content) start

variable {rule : Nat -> List Text -> σ -> Option σ}

theorem scan_invariant {Holds : σ -> Prop}
    (step : forall n record state next, Holds state -> rule n record state = some next -> Holds next)
    (records : List Text) (n : Nat) (state last : σ) (holds : Holds state)
    (scanned : scan rule n records state = some last) : Holds last := by
  induction records generalizing n state with
  | nil =>
      rw [scan] at scanned
      rw [<- Option.some.inj scanned]
      exact holds
  | cons record rest inductionHypothesis =>
      rw [scan, Option.bind_eq_some_iff] at scanned
      rcases scanned with ⟨next, accepted, others⟩
      exact inductionHypothesis (n + 1) next (step n (fields record) state next holds accepted) others

/-- What holds at the start and is kept by the rule holds at the end of a run. -/
theorem run_invariant {Holds : σ -> Prop}
    (step : forall n record state next, Holds state -> rule n record state = some next -> Holds next)
    {start last : σ} (holds : Holds start) {content : Text} (ran : run rule start content = some last) :
    Holds last :=
  scan_invariant step (records content) 1 start last holds ran

end

/-- A text without blanks and line breaks. -/
def IsWord (word : Text) : Prop :=
  forall c, c ∈ word -> isBlank c = false ∧ c ≠ newline

theorem isWord_of_numeric {word : Text} (numeric : word.all Json.isNumberChar = true) : IsWord word := by
  intro c member
  have own := List.all_eq_true.mp numeric c member
  have other {d : CodePoint} (no : Json.isNumberChar d = false) : c ≠ d :=
    Json.ne_of_isNumberChar own no
  refine ⟨decide_eq_false ?_, other (by decide)⟩
  rintro (space | tab)
  · exact other (by decide) space
  · exact other (by decide) tab

theorem IsWord.visible {word : Text} (isWord : IsWord word) :
    forall c, c ∈ word -> (!isBlank c) = true := by
  intro c member
  rw [(isWord c member).1]
  rfl

theorem takeWhile_word {word : Text} (isWord : IsWord word) (rest : Text) :
    (word ++ codePoint ' ' :: rest).takeWhile (fun c => !isBlank c) = word := by
  rw [List.takeWhile_append_of_pos isWord.visible, List.takeWhile_cons_of_neg (by decide),
    List.append_nil]

theorem dropWhile_word {word : Text} (isWord : IsWord word) (rest : Text) :
    (word ++ codePoint ' ' :: rest).dropWhile (fun c => !isBlank c) = codePoint ' ' :: rest := by
  rw [List.dropWhile_append_of_pos isWord.visible, List.dropWhile_cons_of_neg (by decide)]

/-- A word has no leading blanks. -/
theorem dropBlanks_word {word : Text} (isWord : IsWord word) (nonempty : word ≠ []) (rest : Text) :
    (word ++ rest).dropWhile isBlank = word ++ rest := by
  cases word with
  | nil => exact absurd rfl nonempty
  | cons c others =>
      have visible := (isWord c List.mem_cons_self).1
      rw [List.cons_append, List.dropWhile_cons_of_neg (by rw [visible]; decide)]

end Awk
end Foundation
