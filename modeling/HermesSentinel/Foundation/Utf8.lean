import HermesSentinel.Foundation.CodePoints

namespace Foundation
namespace Utf8

/-!
# UTF-8

One encoding function serves both error modes: it writes lone surrogates like
any other code point, and the strict mode refuses texts that contain one.
Reading takes the mode as an argument.  In either mode a text that may be
written is read back, so writing is injective.
-/

abbrev Byte := Fin 256

/-- The byte of a value, modulo 256. -/
def byte (n : Nat) : Byte :=
  Fin.ofNat 256 n

/-- Whether surrogates are passed through or refused. -/
inductive Mode
  | strict
  | surrogatePass
  deriving DecidableEq

def Mode.allows (mode : Mode) (c : CodePoint) : Bool :=
  decide (mode = .surrogatePass) || !isSurrogate c

/-- A continuation byte carrying six bits. -/
def continuation (n : Nat) : Byte :=
  ⟨0x80 + n % 64, by omega⟩

def encodeChar (c : CodePoint) : List Byte :=
  if c.val < 0x80 then [Fin.ofNat 256 c.val]
  else if c.val < 0x800 then [Fin.ofNat 256 (0xC0 + c.val / 64), continuation c.val]
  else if c.val < 0x10000 then
    [Fin.ofNat 256 (0xE0 + c.val / 4096), continuation (c.val / 64), continuation c.val]
  else
    [Fin.ofNat 256 (0xF0 + c.val / 262144), continuation (c.val / 4096),
      continuation (c.val / 64), continuation c.val]

/-- `text.encode("utf-8", errors)`, with `none` for its `UnicodeEncodeError`. -/
def encode (mode : Mode) (s : Text) : Option (List Byte) :=
  if s.all mode.allows = true then some (s.flatMap encodeChar) else none

def isContinuation (b : Byte) : Bool :=
  decide (0x80 ≤ b.val ∧ b.val < 0xC0)

/-- A code point of the given value, if it is not overlong and allowed. -/
def accept (mode : Mode) (least value : Nat) (rest : List Byte) : Option (CodePoint × List Byte) :=
  if valid : least ≤ value ∧ value < 0x110000 then
    if mode.allows ⟨value, valid.2⟩ = true then some (⟨value, valid.2⟩, rest) else none
  else none

/-- The first code point of a byte sequence and what follows it. -/
def readChar (mode : Mode) : List Byte -> Option (CodePoint × List Byte)
  | [] => none
  | lead :: rest =>
      if lead.val < 0x80 then accept mode 0 lead.val rest
      else if 0xC2 ≤ lead.val ∧ lead.val < 0xE0 then
        match rest with
        | second :: rest =>
            if isContinuation second = true then
              accept mode 0x80 ((lead.val - 0xC0) * 64 + (second.val - 0x80)) rest
            else none
        | _ => none
      else if 0xE0 ≤ lead.val ∧ lead.val < 0xF0 then
        match rest with
        | second :: third :: rest =>
            if isContinuation second = true ∧ isContinuation third = true then
              accept mode 0x800 (((lead.val - 0xE0) * 64 + (second.val - 0x80)) * 64 +
                (third.val - 0x80)) rest
            else none
        | _ => none
      else if 0xF0 ≤ lead.val ∧ lead.val < 0xF5 then
        match rest with
        | second :: third :: fourth :: rest =>
            if isContinuation second = true ∧ isContinuation third = true ∧
                isContinuation fourth = true then
              accept mode 0x10000 ((((lead.val - 0xF0) * 64 + (second.val - 0x80)) * 64 +
                (third.val - 0x80)) * 64 + (fourth.val - 0x80)) rest
            else none
        | _ => none
      else none

/-- Read code points until the bytes are used up.  The first argument bounds
the number of code points. -/
def readChars (mode : Mode) : Nat -> List Byte -> Option Text
  | _, [] => some []
  | 0, _ :: _ => none
  | fuel + 1, lead :: rest =>
      match readChar mode (lead :: rest) with
      | none => none
      | some (c, rest) => (readChars mode fuel rest).map fun s => c :: s

/-- `bytes.decode("utf-8", errors)`, with `none` for its `UnicodeDecodeError`. -/
def decode (mode : Mode) (bytes : List Byte) : Option Text :=
  readChars mode bytes.length bytes

theorem isContinuation_continuation (n : Nat) : isContinuation (continuation n) = true := by
  apply decide_eq_true
  simp only [continuation]
  omega

theorem accept_eq {mode : Mode} {least value : Nat} {c : CodePoint} (rest : List Byte)
    (same : value = c.val) (notOverlong : least ≤ c.val) (allowed : mode.allows c = true) :
    accept mode least value rest = some (c, rest) := by
  subst same
  rw [accept, dif_pos ⟨notOverlong, c.isLt⟩, if_pos allowed]

theorem readChar_encodeChar {mode : Mode} {c : CodePoint} (allowed : mode.allows c = true)
    (rest : List Byte) : readChar mode (encodeChar c ++ rest) = some (c, rest) := by
  have bounded := c.isLt
  have digit : forall n, (continuation n).val - 0x80 = n % 64 := by
    intro n
    simp only [continuation]
    omega
  unfold encodeChar
  by_cases one : c.val < 0x80
  · rw [if_pos one]
    have lead : (Fin.ofNat 256 c.val).val = c.val := Nat.mod_eq_of_lt (by omega)
    simp only [List.cons_append, List.nil_append, readChar, lead, if_pos one]
    exact accept_eq rest rfl (Nat.zero_le _) allowed
  rw [if_neg one]
  by_cases two : c.val < 0x800
  · rw [if_pos two]
    have lead : (Fin.ofNat 256 (0xC0 + c.val / 64)).val = 0xC0 + c.val / 64 :=
      Nat.mod_eq_of_lt (by omega)
    simp only [List.cons_append, List.nil_append, readChar, lead, isContinuation_continuation,
      if_true, digit]
    rw [if_neg (by omega), if_pos (by omega)]
    exact accept_eq rest (by omega) (by omega) allowed
  rw [if_neg two]
  by_cases three : c.val < 0x10000
  · rw [if_pos three]
    have lead : (Fin.ofNat 256 (0xE0 + c.val / 4096)).val = 0xE0 + c.val / 4096 :=
      Nat.mod_eq_of_lt (by omega)
    simp only [List.cons_append, List.nil_append, readChar, lead, isContinuation_continuation,
      and_self, if_true, digit]
    rw [if_neg (by omega), if_neg (by omega), if_pos (by omega)]
    exact accept_eq rest (by omega) (by omega) allowed
  · rw [if_neg three]
    have lead : (Fin.ofNat 256 (0xF0 + c.val / 262144)).val = 0xF0 + c.val / 262144 :=
      Nat.mod_eq_of_lt (by omega)
    simp only [List.cons_append, List.nil_append, readChar, lead, isContinuation_continuation,
      and_self, if_true, digit]
    rw [if_neg (by omega), if_neg (by omega), if_neg (by omega), if_pos (by omega)]
    exact accept_eq rest (by omega) (by omega) allowed

theorem encodeChar_cons (c : CodePoint) : exists lead rest, encodeChar c = lead :: rest := by
  unfold encodeChar
  split
  · exact ⟨_, _, rfl⟩
  · split
    · exact ⟨_, _, rfl⟩
    · split <;> exact ⟨_, _, rfl⟩

theorem readChars_encode {mode : Mode} {s : Text} (allowed : s.all mode.allows = true) :
    forall fuel, s.length ≤ fuel -> readChars mode fuel (s.flatMap encodeChar) = some s := by
  induction s with
  | nil =>
      intro fuel _
      cases fuel <;> rfl
  | cons c s inductionHypothesis =>
      intro fuel enough
      rw [List.all_cons, Bool.and_eq_true] at allowed
      cases fuel with
      | zero => cases enough
      | succ fuel =>
          have read := readChar_encodeChar allowed.1 (s.flatMap encodeChar)
          rcases encodeChar_cons c with ⟨lead, rest, shape⟩
          rw [List.flatMap_cons]
          rw [shape, List.cons_append] at read ⊢
          rw [readChars, read]
          simp only [inductionHypothesis allowed.2 fuel (Nat.le_of_succ_le_succ enough),
            Option.map_some]

theorem length_le_encoded (s : Text) : s.length ≤ (s.flatMap encodeChar).length := by
  induction s with
  | nil => exact Nat.le_refl 0
  | cons c s inductionHypothesis =>
      rcases encodeChar_cons c with ⟨lead, rest, shape⟩
      rw [List.flatMap_cons, shape, List.length_append]
      simp only [List.length_cons]
      omega

/-- A text is read back from its bytes. -/
theorem decode_encode {mode : Mode} {s : Text} {bytes : List Byte}
    (encoded : encode mode s = some bytes) : decode mode bytes = some s := by
  unfold encode at encoded
  split at encoded
  · rename_i allowed
    cases encoded
    exact readChars_encode allowed _ (length_le_encoded s)
  · cases encoded

/-- Different texts have different bytes. -/
theorem encode_injective {mode : Mode} {s t : Text} {bytes : List Byte}
    (first : encode mode s = some bytes) (second : encode mode t = some bytes) : s = t := by
  have same := (decode_encode first).symm.trans (decode_encode second)
  exact Option.some.inj same

theorem encode_surrogatePass (s : Text) :
    encode .surrogatePass s = some (s.flatMap encodeChar) := by
  rw [encode, if_pos]
  exact List.all_eq_true.mpr fun _ _ => rfl

/-- ASCII texts can be encoded in every mode. -/
theorem encode_ascii {mode : Mode} {s : Text} (ascii : forall c, c ∈ s -> c.val < 0x80) :
    exists bytes, encode mode s = some bytes := by
  refine ⟨s.flatMap encodeChar, ?_⟩
  rw [encode, if_pos]
  apply List.all_eq_true.mpr
  intro c member
  have small := ascii c member
  have noSurrogate : isSurrogate c = false := by
    apply decide_eq_false
    omega
  rw [Mode.allows, noSurrogate]
  exact Bool.or_true _

/-- The bytes of ASCII texts are ordered like the texts. -/
theorem flatMap_encodeChar_lt {s t : Text} (asciiLeft : forall c, c ∈ s -> c.val < 0x80)
    (asciiRight : forall c, c ∈ t -> c.val < 0x80) (lt : s < t) :
    s.flatMap encodeChar < t.flatMap encodeChar := by
  induction s generalizing t with
  | nil =>
      cases t with
      | nil => exact absurd lt (List.not_lt_nil _)
      | cons c rest =>
          rcases encodeChar_cons c with ⟨lead, more, shape⟩
          rw [List.flatMap_nil, List.flatMap_cons, shape]
          exact List.nil_lt_cons _ _
  | cons c rest inductionHypothesis =>
      cases t with
      | nil => exact absurd lt (List.not_lt_nil _)
      | cons c' rest' =>
          have small := asciiLeft c List.mem_cons_self
          have small' := asciiRight c' List.mem_cons_self
          rw [List.flatMap_cons, List.flatMap_cons, encodeChar, encodeChar, if_pos small,
            if_pos small', List.singleton_append, List.singleton_append]
          apply List.cons_lt_cons_iff.mpr
          rcases List.cons_lt_cons_iff.mp lt with smaller | ⟨same, later⟩
          · left
            apply Fin.lt_def.mpr
            show c.val % 256 < c'.val % 256
            have smaller : c.val < c'.val := smaller
            omega
          · right
            refine ⟨by rw [same], inductionHypothesis ?_ ?_ later⟩
            · exact fun d member => asciiLeft d (List.mem_cons_of_mem _ member)
            · exact fun d member => asciiRight d (List.mem_cons_of_mem _ member)

end Utf8
end Foundation
